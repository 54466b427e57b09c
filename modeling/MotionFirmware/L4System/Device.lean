import MotionFirmware.Core.LTS
import MotionFirmware.L1Modules.MotionSpec
import MotionFirmware.L1Modules.ParserGrammar
import MotionFirmware.L1Modules.StatusLine
import MotionFirmware.L3Tasks.AppTasks

/-!
# The controller without its representation

`Device` is what the three task steps work on, once bytes, ring buffers, event
bits and the mutex are gone: two bounded lists of messages, the stage, the
latched fault, a stop flag, the uptime and the output. The steps are written
from the purpose of each command, not from the code; `Refinement` shows that
the code does the same on every backend.

`Device.Inv` is the invariant behind the safety results: the fault flag, the
fault reason and the `FAULT` state agree, a requested stop excludes `MOVING`,
and everything queued comes from the parser or the dispatcher. Under it a
`MOVE` that passes the fault gate and the bounds check always starts.
-/
namespace MotionFirmware.L4

open MotionFirmware.Core MotionFirmware.L1.Motion MotionFirmware.L1.Fault MotionFirmware.L1.Telemetry
open MotionFirmware.L1.Parser MotionFirmware.L2.Port MotionFirmware.L3.Messages MotionFirmware.L3.Tasks

structure Device where
  commands : List Command
  replies : List Text
  motion : MotionController
  fault : FaultManager
  stopRequested : Bool
  uptimeMs : UInt32
  telemetry : TelemetryState

namespace Device

/-- After initialisation. -/
def start (telemetry : TelemetryState) : Device where
  commands := []
  replies := []
  motion := motionControllerInit
  fault := faultManagerInit
  stopRequested := false
  uptimeMs := 0
  telemetry := telemetry

/-- A fault halts the stage where it is. -/
def latch (d : Device) (reason : FaultReason) : Device :=
  { d with fault := faultManagerSetFault d.fault reason, motion := motionControllerSetFault d.motion }

/-- The answer to a command; only a `MOVE` is answered by the state. -/
def response (d : Device) (c : Command) : Text :=
  match c.type with
  | .ping => APP_RESPONSE_PONG
  | .status => APP_RESPONSE_STATUS
  | .move =>
    if d.fault.faultActive then APP_ERROR_FAULT_ACTIVE
    else if InWorkspace c.xMilliMm c.yMilliMm then APP_RESPONSE_MOVE_QUEUED
    else APP_ERROR_LIMIT_EXCEEDED
  | .stop => APP_RESPONSE_STOPPED
  | .estop => APP_RESPONSE_ESTOP
  | .clearFault => APP_RESPONSE_FAULT_CLEARED
  | .none => APP_ERROR_UNKNOWN_COMMAND

/-- What a command does to the stage and the fault. -/
def obey (d : Device) (c : Command) : Device :=
  match c.type with
  | .move =>
    if d.fault.faultActive then d
    else if InWorkspace c.xMilliMm c.yMilliMm then { d with
      motion := (motionControllerStartMove d.motion c.xMilliMm c.yMilliMm c.feedrateMilliMmPerS).2
      stopRequested := false }
    else d.latch .limitExceeded
  | .stop => { d with motion := motionControllerStop d.motion, stopRequested := true }
  | .estop => d.latch .estop
  | .clearFault => { d with
      fault := faultManagerClear
      motion := motionControllerClearFault d.motion
      stopRequested := false }
  | .ping | .status | .none => d

/-- Time passes. -/
def tick (d : Device) (deltaMs : UInt32) : Device :=
  { d with motion := motionControllerUpdate d.motion deltaMs, uptimeMs := d.uptimeMs + deltaMs }

/-- A line for the output, unless too many wait. -/
def reply (d : Device) (line : Text) : Bool × Device :=
  if d.replies.length < APP_TELEMETRY_QUEUE_CAPACITY then
    (true, { d with replies := d.replies ++ [line] })
  else (false, d)

def snapshot (d : Device) : TelemetryStatus where
  uptimeMs := d.uptimeMs
  state := some (motionControllerStateToString d.motion.status.state)
  xMilliMm := d.motion.status.currentXMilliMm
  yMilliMm := d.motion.status.currentYMilliMm
  faultActive := d.fault.faultActive

/-- The event bits a state should show. -/
def events (d : Device) : UInt32 :=
  eventBits (decide (d.motion.status.state = .moving)) d.fault.faultActive d.stopRequested

/-- What the parser makes of a line. -/
def parse (w : LongWidth) (line : CString) : CommandParseResult × Command :=
  commandParserParse w (some line) ⟨.none, 0, 0, 0⟩

def commandStep (w : LongWidth) (d : Device) : Option CString → StepResult × Device
  | none => (⟨.errorNull, none, none⟩, d)
  | some line =>
    if (parse w line).1 ≠ .ok then
      let r := d.reply (commandParserResultToString (parse w line).1)
      (⟨if r.1 then .errorParse else .errorQueueFull, none, none⟩, r.2)
    else if d.commands.length < APP_COMMAND_QUEUE_CAPACITY then
      (⟨.ok, none, none⟩, { d with commands := d.commands ++ [(parse w line).2] })
    else (⟨.errorQueueFull, none, none⟩, d)

def motionStep (d : Device) (deltaMs : UInt32) : StepResult × Device :=
  match d.commands with
  | [] => (⟨.noMessage, none, none⟩, d.tick deltaMs)
  | c :: rest =>
    let r := ((obey { d with commands := rest } c).tick deltaMs).reply (d.response c)
    (⟨if r.1 then .ok else .errorQueueFull, some c, some (d.response c)⟩, r.2)

def telemetryStep (d : Device) : StepResult × Device :=
  (⟨.ok, none, none⟩, { d with
    replies := []
    telemetry := telemetrySendStatus (d.replies.foldl telemetrySendLine d.telemetry) d.snapshot })

def taskStep (w : LongWidth) (d : Device) : Act → Event × Device
  | .command line locals => (⟨.command line locals, (d.commandStep w line).1⟩, (d.commandStep w line).2)
  | .motion deltaMs locals => (⟨.motion deltaMs locals, (d.motionStep deltaMs).1⟩, (d.motionStep deltaMs).2)
  | .telemetry locals => (⟨.telemetry locals, d.telemetryStep.1⟩, d.telemetryStep.2)

end Device

/-- The three steps in any order, from a fresh start with an empty output. -/
def deviceSystem (w : LongWidth) (writer : Bool) : LTS Device Event :=
  LTS.ofStep (fun d => d = Device.start ⟨writer, []⟩) Event.act (Device.taskStep w)

/-! ## Response lines -/

/-- Everything a task answers with. -/
def responseTexts : List Text :=
  [APP_RESPONSE_PONG, APP_RESPONSE_STATUS, APP_RESPONSE_MOVE_QUEUED, APP_RESPONSE_STOPPED,
    APP_RESPONSE_ESTOP, APP_RESPONSE_FAULT_CLEARED, APP_ERROR_FAULT_ACTIVE, APP_ERROR_LIMIT_EXCEEDED,
    APP_ERROR_MOVE_REJECTED, APP_ERROR_UNKNOWN_COMMAND, COMMAND_PARSE_TEXT_ERR_NULL,
    COMMAND_PARSE_TEXT_ERR_EMPTY, COMMAND_PARSE_TEXT_ERR_UNKNOWN_COMMAND,
    COMMAND_PARSE_TEXT_ERR_MISSING_ARGUMENT, COMMAND_PARSE_TEXT_ERR_INVALID_ARGUMENT,
    COMMAND_PARSE_TEXT_OK]

/-- A status line, by its tag. -/
def IsStatusLine (line : Text) : Prop := line.take 2 = ascii "T "

instance (line : Text) : Decidable (IsStatusLine line) := inferInstanceAs (Decidable (_ = _))

/-- A response fits its message buffer and is no status line. -/
theorem responseTexts_spec : ∀ t ∈ responseTexts,
    t.length < APP_TELEMETRY_MESSAGE_LENGTH ∧ 0 ∉ t ∧ ¬ IsStatusLine t ∧ t ≠ ascii "\n" := by
  decide

theorem resultToString_mem (r : CommandParseResult) :
    commandParserResultToString r ∈ responseTexts := by cases r <;> decide

theorem Device.response_mem (d : Device) (c : Command) : d.response c ∈ responseTexts := by
  unfold Device.response
  cases c.type <;> simp only
  case move =>
    split
    · decide
    · split <;> decide
  all_goals decide

/-! ## The invariant -/

/-- The stage and the fault agree. -/
structure Device.Safe (d : Device) : Prop where
  motion : MotionInv d.motion
  latched : d.fault.faultActive = true ↔ d.motion.status.state = .fault
  reason : d.fault.Consistent ∧ d.fault.currentReason ≠ .invalidCommand
  stop : d.stopRequested = true → d.motion.status.state ≠ .moving

structure Device.Inv (d : Device) : Prop where
  safe : d.Safe
  commands_le : d.commands.length ≤ APP_COMMAND_QUEUE_CAPACITY
  replies_le : d.replies.length ≤ APP_TELEMETRY_QUEUE_CAPACITY
  parsed : ∀ c ∈ d.commands, Parsed c
  known : ∀ t ∈ d.replies, t ∈ responseTexts

namespace Device

variable {d : Device}

/-- The queues, the clock and the output do not matter. -/
theorem Safe.frame {d' : Device} (h : d.Safe) (hm : d'.motion = d.motion) (hf : d'.fault = d.fault)
    (hs : d'.stopRequested = d.stopRequested) : d'.Safe where
  motion := by rw [hm]; exact h.motion
  latched := by rw [hf, hm]; exact h.latched
  reason := by rw [hf]; exact h.reason
  stop := by rw [hs, hm]; exact h.stop

theorem Safe.pop (h : d.Safe) (rest : List Command) : Safe { d with commands := rest } :=
  h.frame rfl rfl rfl

theorem safe_latch (h : d.Safe) {reason : FaultReason} (hr : reason ≠ .none)
    (hi : reason ≠ .invalidCommand) : (d.latch reason).Safe where
  motion := motionInv_setFault h.motion
  latched := by simp [latch, faultManagerSetFault, hr, motionControllerSetFault, haltIn]
  reason := ⟨consistent_setFault h.reason.1 reason, by simpa [latch, faultManagerSetFault, hr] using hi⟩
  stop _ := by simp [latch, motionControllerSetFault, haltIn]

/-- Without a fault the stage is not in `FAULT`. -/
theorem Safe.unlatched (h : d.Safe) (hf : ¬ d.fault.faultActive = true) :
    d.motion.status.state ≠ .fault := fun e => hf (h.latched.mpr e)

/-- A `MOVE` past the fault gate and the bounds check starts. -/
theorem Safe.move_accepts (h : d.Safe) {c : Command} (hc : Parsed c) (htype : c.type = .move)
    (hf : ¬ d.fault.faultActive = true) (hin : InWorkspace c.xMilliMm c.yMilliMm) :
    ∃ m, motionControllerStartMove d.motion c.xMilliMm c.yMilliMm c.feedrateMilliMmPerS = (true, m) ∧
      MotionInv m ∧ m.status.state ≠ .fault ∧
      m.status.currentXMilliMm = d.motion.status.currentXMilliMm ∧
      m.status.currentYMilliMm = d.motion.status.currentYMilliMm := by
  obtain ⟨m, he, hinv, -, -, hx, hy, hstate⟩ :=
    startMove_accepts (h.unlatched hf) h.motion.current (hc.2 htype) hin
  refine ⟨m, he, hinv, ?_, hx, hy⟩
  rcases hstate with ⟨-, hdone⟩ | ⟨hs, -⟩
  · rw [hdone]; decide
  · rw [hs.moving]; decide

theorem safe_obey (h : d.Safe) {c : Command} (hc : Parsed c) : (d.obey c).Safe := by
  unfold obey
  cases htype : c.type with
  | move =>
    simp only
    split
    · exact h
    · rename_i hf
      split
      · rename_i hin
        obtain ⟨m, he, hinv, hstate, -⟩ := h.move_accepts hc htype hf hin
        rw [he]
        exact ⟨hinv, ⟨fun e => absurd e hf, fun e => absurd e hstate⟩, h.reason, fun e => by cases e⟩
      · exact safe_latch h (by decide) (by decide)
  | stop =>
    refine ⟨motionInv_stop h.motion, ?_, h.reason, fun _ => ?_⟩
    · simp only [h.latched, motionControllerStop]
      split
      · exact Iff.rfl
      · rename_i hf; simp [hf, haltIn]
    · simp only [motionControllerStop]
      split
      · rename_i hf; rw [hf]; decide
      · simp [haltIn]
  | estop => exact safe_latch h (by decide) (by decide)
  | clearFault =>
    refine ⟨motionInv_clearFault h.motion, ?_, ⟨consistent_clear, (fun e => by cases e)⟩,
      fun e => by cases e⟩
    simp only [faultManagerClear, motionControllerClearFault, Bool.false_eq_true, false_iff]
    split
    · simp
    · assumption
  | ping => exact h
  | status => exact h
  | none => exact h

theorem safe_tick (h : d.Safe) (deltaMs : UInt32) : (d.tick deltaMs).Safe := by
  have hstate := update_state d.motion deltaMs
  refine ⟨motionInv_update h.motion deltaMs, ?_, h.reason, fun hs => ?_⟩
  · show d.fault.faultActive = true ↔ (motionControllerUpdate d.motion deltaMs).status.state = .fault
    rw [h.latched]
    rcases hstate with he | ⟨hm, hd⟩
    · rw [he]
    · rw [hm, hd]; decide
  · show (motionControllerUpdate d.motion deltaMs).status.state ≠ .moving
    rcases hstate with he | ⟨-, hd⟩
    · rw [he]; exact h.stop hs
    · rw [hd]; decide

/-! What a step leaves alone. -/

@[simp] theorem obey_queues (d : Device) (c : Command) : (d.obey c).commands = d.commands ∧
    (d.obey c).replies = d.replies ∧ (d.obey c).uptimeMs = d.uptimeMs ∧
    (d.obey c).telemetry = d.telemetry := by
  unfold obey
  cases c.type <;> simp only [latch, and_self]
  split
  · simp
  · split <;> simp

/-- The line waits, or there is no room and nothing changes. -/
theorem reply_cases (d : Device) (line : Text) :
    d.reply line = (true, { d with replies := d.replies ++ [line] }) ∨ d.reply line = (false, d) := by
  unfold reply
  split
  · exact Or.inl rfl
  · exact Or.inr rfl

theorem reply_eq (d : Device) (line : Text) : (d.reply line).2 =
    { d with replies := if (d.reply line).1 then d.replies ++ [line] else d.replies } := by
  rcases d.reply_cases line with h | h <;> rw [h] <;> rfl

theorem reply_events (d : Device) (line : Text) : (d.reply line).2.events = d.events := by
  rw [reply_eq]; rfl

theorem commandStep_events (w : LongWidth) (d : Device) (line : Option CString) :
    (d.commandStep w line).2.events = d.events := by
  cases line with
  | none => rfl
  | some line =>
    simp only [commandStep]
    split
    · exact reply_events d _
    · split <;> rfl

theorem reply_replies_le (h : d.replies.length ≤ APP_TELEMETRY_QUEUE_CAPACITY) (line : Text) :
    (d.reply line).2.replies.length ≤ APP_TELEMETRY_QUEUE_CAPACITY := by
  unfold reply
  split
  · simp only [List.length_append, List.length_singleton]; omega
  · exact h

theorem inv_reply (h : d.Inv) {line : Text} (hl : line ∈ responseTexts) : (d.reply line).2.Inv := by
  have hle := reply_replies_le h.replies_le line
  rw [reply_eq] at hle ⊢
  refine ⟨h.safe.frame rfl rfl rfl, h.commands_le, hle, h.parsed, ?_⟩
  intro t ht
  simp only at ht
  split at ht
  · rcases List.mem_append.mp ht with ht | ht
    · exact h.known t ht
    · rw [List.mem_singleton.mp ht]; exact hl
  · exact h.known t ht

theorem inv_start (t : TelemetryState) : (start t).Inv where
  safe := ⟨motionInv_init, by simp [start, faultManagerInit, motionControllerInit],
    ⟨consistent_init, by simp [start, faultManagerInit]⟩, fun e => by cases e⟩
  commands_le := Nat.zero_le _
  replies_le := Nat.zero_le _
  parsed := by simp [start]
  known := by simp [start]

theorem inv_commandStep (w : LongWidth) (h : d.Inv) (line : Option CString) :
    (d.commandStep w line).2.Inv := by
  cases line with
  | none => exact h
  | some line =>
    simp only [commandStep]
    split
    · exact inv_reply h (resultToString_mem _)
    · rename_i hok
      have hp : Parsed (parse w line).2 := parsed_of_ok w line _ (by simpa [parse] using hok)
      split
      · refine ⟨h.safe.frame rfl rfl rfl, ?_, h.replies_le, ?_, h.known⟩
        · simp only [List.length_append, List.length_singleton]; omega
        · intro c hc
          rcases List.mem_append.mp hc with hc | hc
          · exact h.parsed c hc
          · rw [List.mem_singleton.mp hc]; exact hp
      · exact h

/-- Taking the front command off its queue and obeying it. -/
theorem inv_obey (h : d.Inv) {c : Command} {rest : List Command} (hq : d.commands = c :: rest) :
    (obey { d with commands := rest } c).Inv := by
  obtain ⟨hc, hr, -, -⟩ := obey_queues { d with commands := rest } c
  have hle := h.commands_le
  rw [hq, List.length_cons] at hle
  have hpar := h.parsed
  rw [hq] at hpar
  refine ⟨safe_obey (h.safe.pop rest) (hpar c (by simp)), ?_, ?_, ?_, ?_⟩
  · rw [hc]; show rest.length ≤ _; omega
  · rw [hr]; exact h.replies_le
  · rw [hc]; exact fun c' hc' => hpar c' (List.mem_cons_of_mem _ hc')
  · rw [hr]; exact h.known

theorem inv_tick (h : d.Inv) (deltaMs : UInt32) : (d.tick deltaMs).Inv :=
  ⟨safe_tick h.safe deltaMs, h.commands_le, h.replies_le, h.parsed, h.known⟩

theorem inv_motionStep (h : d.Inv) (deltaMs : UInt32) : (d.motionStep deltaMs).2.Inv := by
  unfold motionStep
  split
  · exact inv_tick h deltaMs
  · rename_i c rest hq
    exact inv_reply (inv_tick (inv_obey h hq) deltaMs) (response_mem d c)

theorem inv_telemetryStep (h : d.Inv) : d.telemetryStep.2.Inv :=
  ⟨h.safe.frame rfl rfl rfl, h.commands_le, Nat.zero_le _, h.parsed, by simp [telemetryStep]⟩

theorem inv_taskStep (w : LongWidth) (h : d.Inv) (a : Act) : (taskStep w d a).2.Inv := by
  cases a with
  | command line locals => exact inv_commandStep w h line
  | motion deltaMs locals => exact inv_motionStep h deltaMs
  | telemetry locals => exact inv_telemetryStep h

end Device

theorem device_inductive (w : LongWidth) (writer : Bool) : (deviceSystem w writer).Inductive Device.Inv := by
  refine LTS.inductive_ofStep ?_ fun d a h => Device.inv_taskStep w h a
  intro d hd
  rw [hd]
  exact Device.inv_start _

end MotionFirmware.L4
