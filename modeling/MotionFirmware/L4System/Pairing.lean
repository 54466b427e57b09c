import MotionFirmware.L4System.Conservation

/-!
# Pairing answers with lines

The protocol has no sequence numbers: a host can pair answers with the lines
it sent by their order only. Two designs get in its way. A parse error goes
to the telemetry queue at once, past the commands that still wait
(`answers_swapped`), and an answer that does not fit in the telemetry queue is
dropped after its command took effect.

`pairing` is what is left: the parse errors are in order among themselves, the
other answers are in order and answer the accepted lines except the dropped
ones, and in runs where neither happens the `i`-th answer is for the `i`-th
line.
-/
namespace MotionFirmware.L4

open MotionFirmware.Core MotionFirmware.L1.Motion MotionFirmware.L1.Fault MotionFirmware.L1.Telemetry
open MotionFirmware.L1.Parser MotionFirmware.L2.Port MotionFirmware.L2.HostPort
open MotionFirmware.L3.Messages MotionFirmware.L3.Tasks

/-! ## Lines and answers of a trace -/

/-- A line that `app_command_task_step` took: accepted, or answered with a
parse error. -/
inductive Submission where
  | accepted (c : Command)
  | rejected (text : Text)

def submission (w : LongWidth) (e : Event) : Option Submission :=
  match acceptedCommand w e, parseErrorReply w e with
  | some c, _ => some (.accepted c)
  | none, some text => some (.rejected text)
  | none, none => none

/-- A command that a motion step dequeued, the dispatcher's response, and
whether the step could send it. -/
structure Answer where
  command : Command
  response : Text
  sent : Bool

def answer (e : Event) : Option Answer :=
  match e.result.dequeued, e.result.response with
  | some c, some text => some ⟨c, text, decide (e.result.status = .ok)⟩
  | _, _ => none

/-- The response to each line in turn, given the responses of the dispatcher;
it ends at the first line that has no response yet. -/
def respond : List Submission → List Text → List Text
  | [], _ => []
  | .rejected text :: lines, responses => text :: respond lines responses
  | .accepted _ :: lines, text :: responses => text :: respond lines responses
  | .accepted _ :: _, [] => []

def acceptedCount : List Submission → Nat
  | [] => 0
  | .rejected _ :: lines => acceptedCount lines
  | .accepted _ :: lines => acceptedCount lines + 1

theorem respond_append (lines : List Submission) : ∀ (responses : List Text)
    (lines' : List Submission) (responses' : List Text), acceptedCount lines = responses.length →
    respond (lines ++ lines') (responses ++ responses') =
      respond lines responses ++ respond lines' responses' := by
  induction lines with
  | nil =>
    intro responses lines' responses' h
    rw [List.eq_nil_of_length_eq_zero h.symm]; rfl
  | cons line lines ih =>
    intro responses lines' responses' h
    cases line with
    | rejected text => exact congrArg (text :: ·) (ih responses lines' responses' h)
    | accepted c =>
      cases responses with
      | nil => cases h
      | cons text responses =>
        exact congrArg (text :: ·) (ih responses lines' responses' (Nat.succ.inj h))

theorem acceptedCount_append (lines lines' : List Submission) :
    acceptedCount (lines ++ lines') = acceptedCount lines + acceptedCount lines' := by
  induction lines with
  | nil => simp [acceptedCount]
  | cons line lines ih =>
    cases line with
    | rejected text => exact ih
    | accepted c => simp only [List.cons_append, acceptedCount, ih]; omega

/-- The texts of the parser. -/
def parserTexts : List Text :=
  [COMMAND_PARSE_TEXT_OK, COMMAND_PARSE_TEXT_ERR_NULL, COMMAND_PARSE_TEXT_ERR_EMPTY,
    COMMAND_PARSE_TEXT_ERR_UNKNOWN_COMMAND, COMMAND_PARSE_TEXT_ERR_MISSING_ARGUMENT,
    COMMAND_PARSE_TEXT_ERR_INVALID_ARGUMENT]

def IsParserText (t : Text) : Bool := decide (t ∈ parserTexts)

theorem resultToString_isParserText (r : CommandParseResult) :
    IsParserText (commandParserResultToString r) = true := by cases r <;> decide

theorem response_not_parserText (d : Device) (c : Command) : IsParserText (d.response c) = false := by
  unfold Device.response
  cases c.type <;> simp only
  case move =>
    split
    · decide
    · split <;> decide
  all_goals decide

/-! ## What an event can be -/

/-- The messages of an event, by what it did. -/
inductive Shape (w : LongWidth) (e : Event) : Prop
  | accepted (c : Command) : acceptedCommand w e = some c → takenCommand e = none →
      parseErrorReply w e = none → motionReply e = none → answer e = none → Shape w e
  | rejected (text : Text) : acceptedCommand w e = none → takenCommand e = none →
      parseErrorReply w e = some text → IsParserText text = true → motionReply e = none →
      answer e = none → (∃ line locals, e.act = .command line locals) →
      e.result.status = .errorParse → Shape w e
  | silent : acceptedCommand w e = none → takenCommand e = none → parseErrorReply w e = none →
      motionReply e = none → answer e = none → Shape w e
  | answered (a : Answer) : acceptedCommand w e = none → takenCommand e = some a.command →
      parseErrorReply w e = none → IsParserText a.response = false →
      motionReply e = (if a.sent then some a.response else none) → answer e = some a →
      (∃ deltaMs locals, e.act = .motion deltaMs locals) →
      (a.sent = false → e.result.status = .errorQueueFull) → Shape w e

theorem taskStep_shape (w : LongWidth) (d : Device) (a : Act) :
    Shape w (Device.taskStep w d a).1 := by
  cases a with
  | telemetry locals => exact .silent rfl rfl rfl rfl rfl
  | command line locals =>
    cases line with
    | none => exact .silent rfl rfl rfl rfl rfl
    | some line =>
      simp only [Device.taskStep, Device.commandStep]
      split
      · cases (d.reply (commandParserResultToString (Device.parse w line).1)).1
        · exact .silent rfl rfl rfl rfl rfl
        · exact .rejected _ rfl rfl rfl (resultToString_isParserText _) rfl rfl ⟨_, _, rfl⟩ rfl
      · split
        · exact .accepted _ rfl rfl rfl rfl rfl
        · exact .silent rfl rfl rfl rfl rfl
  | motion deltaMs locals =>
    simp only [Device.taskStep, Device.motionStep]
    split
    · exact .silent rfl rfl rfl rfl rfl
    · rename_i c rest hq
      cases (((Device.obey { d with commands := rest } c).tick deltaMs).reply (d.response c)).1
      · exact .answered ⟨c, d.response c, false⟩ rfl rfl rfl (response_not_parserText d c) rfl rfl
          ⟨_, _, rfl⟩ fun _ => rfl
      · exact .answered ⟨c, d.response c, true⟩ rfl rfl rfl (response_not_parserText d c) rfl rfl
          ⟨_, _, rfl⟩ fun h => by cases h

/-! ## A run -/

theorem run_shapes {w : LongWidth} {writer : Bool} {d₀ d : Device} {ls : List Event} (h0 : d₀.Inv)
    (hrun : (deviceSystem w writer).Run d₀ ls d) : ∀ e ∈ ls, Shape w e := by
  refine (device_inductive w writer).forall_steps h0 ?_ hrun
  intro e l e' _ hst
  obtain ⟨a, -, rfl, -⟩ := LTS.ofStep_step hst
  exact taskStep_shape w e a

/-- The parser's texts among the sent replies are the parse errors, the others
the answers that could be sent; the answers are to the commands taken. -/
theorem sent_split {w : LongWidth} : ∀ {ls : List Event}, (∀ e ∈ ls, Shape w e) →
    (ls.filterMap (sentReply w)).filter IsParserText = ls.filterMap (parseErrorReply w) ∧
    (ls.filterMap (sentReply w)).filter (fun t => !IsParserText t) =
      ((ls.filterMap answer).filter (·.sent)).map (·.response) ∧
    ls.filterMap takenCommand = (ls.filterMap answer).map (·.command)
  | [], _ => ⟨rfl, rfl, rfl⟩
  | e :: ls, h => by
    obtain ⟨h1, h2, h3⟩ := sent_split fun e' he' => h e' (List.mem_cons_of_mem _ he')
    rcases h e (by simp) with ⟨c, -, ht, hp, hm, ha⟩ | ⟨text, -, ht, hp, hpar, hm, ha, -, -⟩ |
      ⟨-, ht, hp, hm, ha⟩ | ⟨a, -, ht, hp, hpar, hm, ha, -, -⟩
    · simp [sentReply, hp, hm, ht, ha, h1, h2, h3]
    · simp [sentReply, hp, hpar, ht, ha, h1, h2, h3]
    · simp [sentReply, hp, hm, ht, ha, h1, h2, h3]
    · cases hs : a.sent <;>
        simp [sentReply, hp, hm, hs, hpar, ht, ha, h1, h2, h3]

/-- The steps after which an answer is not where its line was: a parse error
behind waiting commands, and an answer that is dropped. -/
def InOrder (waiting : Nat) (e : Event) : Prop :=
  ((∃ line locals, e.act = .command line locals) → e.result.status = .errorParse → waiting = 0) ∧
    ((∃ deltaMs locals, e.act = .motion deltaMs locals) → e.result.status ≠ .errorQueueFull)

/-- The lines taken so far are answered up to the commands that wait. -/
def Answered (w : LongWidth) (ls : List Event) (d : Device) : Prop :=
  ∃ lines, ls.filterMap (submission w) = lines ++ d.commands.map .accepted ∧
    acceptedCount lines = (ls.filterMap answer).length ∧
    respond lines ((ls.filterMap answer).map (·.response)) =
      responseLines d.telemetry.written ++ d.replies

theorem answered_step {w : LongWidth} {ls : List Event} {d d' : Device} {e : Event}
    (h : Answered w ls d) (hacc : Accounts w d e d') (hshape : Shape w e)
    (hord : InOrder d.commands.length e) : Answered w (ls ++ [e]) d' := by
  obtain ⟨lines, hlines, hcount, hresp⟩ := h
  have hcom := hacc.commands
  have hrep := hacc.replies
  rw [← hresp] at hrep
  simp only [Answered, LTS.filterMap_snoc]
  rcases hshape with ⟨c, hac, ht, hp, hm, ha⟩ | ⟨text, hac, ht, hp, -, hm, ha, hact, hst⟩ |
    ⟨hac, ht, hp, hm, ha⟩ | ⟨a, hac, ht, hp, -, hm, ha, hact, hdrop⟩
  · simp only [hac, ht, Option.toList_some, Option.toList_none, List.nil_append] at hcom
    simp only [sentReply, hp, hm, Option.toList_none, List.append_nil] at hrep
    refine ⟨lines, ?_, by simpa [ha] using hcount, by simpa [ha] using hrep.symm⟩
    simp [submission, hac, hlines, ← hcom]
  · -- no command waits, so the parse error is the next answer
    have hnone : d.commands = [] := List.length_eq_zero_iff.mp (hord.1 hact hst)
    simp only [hac, ht, hnone, Option.toList_none, List.nil_append] at hcom
    simp only [sentReply, hp, Option.toList_some] at hrep
    refine ⟨lines ++ [.rejected text], ?_, ?_, ?_⟩
    · simp [submission, hac, hp, hlines, hnone, ← hcom]
    · rw [acceptedCount_append, hcount]; simp [acceptedCount, ha]
    · have := respond_append lines ((ls.filterMap answer).map (·.response)) [.rejected text] []
        (by simpa using hcount)
      simp only [List.append_nil] at this
      simp only [ha, Option.toList_none, List.append_nil]
      rw [this, hrep]; rfl
  · simp only [hac, ht, Option.toList_none, List.nil_append, List.append_nil] at hcom
    simp only [sentReply, hp, hm, Option.toList_none, List.append_nil] at hrep
    refine ⟨lines, ?_, by simpa [ha] using hcount, by simpa [ha] using hrep.symm⟩
    simp [submission, hac, hp, hlines, ← hcom]
  · have hsent : a.sent = true := by
      cases hs : a.sent with
      | true => rfl
      | false => exact absurd (hdrop hs) (hord.2 hact)
    simp only [hac, ht, Option.toList_none, Option.toList_some, List.append_nil] at hcom
    simp only [sentReply, hp, hm, hsent, if_true, Option.toList_some] at hrep
    refine ⟨lines ++ [.accepted a.command], ?_, ?_, ?_⟩
    · simp [submission, hac, hp, hlines, hcom]
    · rw [acceptedCount_append, hcount]; simp [acceptedCount, ha]
    · have := respond_append lines ((ls.filterMap answer).map (·.response)) [.accepted a.command]
        [a.response] (by simpa using hcount)
      simp only [ha, Option.toList_some, List.map_append, List.map_singleton]
      rw [this, hrep]; rfl

theorem device_answered {w : LongWidth} {d₀ d : Device} {ls : List Event}
    (h0 : (deviceSystem w true).init d₀)
    (hrun : ((deviceSystem w true).restrict fun d e => InOrder d.commands.length e).Run d₀ ls d) :
    Answered w ls d := by
  have hinv := (device_inductive w true).restrict fun d e => InOrder d.commands.length e
  have h0 : d₀ = Device.start ⟨true, []⟩ := h0
  refine (hinv.history (P := fun ls d => Answered w ls d ∧ d.telemetry.telemetryWriter = true)
    (hinv.init d₀ h0) ?_ ?_ hrun).1
  · subst h0; exact ⟨⟨[], rfl, rfl, rfl⟩, rfl⟩
  · intro ls d e d' hd hP hstep
    obtain ⟨h, hw⟩ := hP
    obtain ⟨hst, hord⟩ := hstep
    obtain ⟨a, -, rfl, rfl⟩ := LTS.ofStep_step hst
    have hacc := step_accounts w hd hw a
    exact ⟨answered_step h hacc (taskStep_shape w d a) hord, hacc.writer⟩

/-! ## On the host -/

/-- The `i`-th response line answers the `i`-th line taken. -/
def PairsInOrder (w : LongWidth) (ls : List Event) (s : Firmware hostBackend) : Prop :=
  responseLines s.telemetry.written <+:
    respond (ls.filterMap (submission w)) ((ls.filterMap answer).map (·.response))

theorem respond_take (lines lines' : List Submission) (responses : List Text)
    (h : acceptedCount lines = responses.length) :
    respond lines responses <+: respond (lines ++ lines') responses := by
  have := respond_append lines responses lines' [] h
  rw [List.append_nil] at this
  rw [this]; exact List.prefix_append _ _

/-- **Pairing.** -/
theorem pairing {w : LongWidth} {s₀ s : Firmware hostBackend} {ls : List Event}
    (h0 : (hostSystem w true).init s₀) (hrun : (hostSystem w true).Run s₀ ls s) :
    ((responseLines s.telemetry.written).filter IsParserText <+: ls.filterMap (parseErrorReply w)) ∧
    ((responseLines s.telemetry.written).filter (fun t => !IsParserText t) <+:
        ((ls.filterMap answer).filter (·.sent)).map (·.response) ∧
      (ls.filterMap answer).map (·.command) <+: ls.filterMap (acceptedCommand w)) ∧
    (((hostSystem w true).restrict fun s e => InOrder (appTasksCommandQueueCount s) e).Run s₀ ls s →
      PairsInOrder w ls s) := by
  have hsim := firmware_simulation (B := hostBackend) w true
  obtain ⟨d₀, hd0, h⟩ := hsim.init s₀ h0
  obtain ⟨d, hrun', h', hd⟩ := hsim.run h hrun
  obtain ⟨hcom, hrep, -⟩ := device_conservation hd0 hrun'
  obtain ⟨h1, h2, h3⟩ := sent_split (run_shapes h.2 hrun')
  have hpre : responseLines s.telemetry.written <+: ls.filterMap (sentReply w) := by
    rw [← hrep, h'.tracks.telemetry]; exact List.prefix_append _ _
  refine ⟨?_, ⟨?_, ?_⟩, fun hres => ?_⟩
  · rw [← h1]; exact hpre.filter _
  · rw [← h2]; exact hpre.filter _
  · rw [← h3, ← hcom]; exact List.prefix_append _ _
  · have hsimr := hsim.restrict (C := fun s e => InOrder (appTasksCommandQueueCount s) e)
      (D := fun d e => InOrder d.commands.length e) fun s d e hR hC => by
        rw [count_commands hR.1.tracks] at hC; exact hC
    obtain ⟨d', hrun'', h'', -⟩ := hsimr.run h hres
    obtain ⟨lines, hlines, hcount, hresp⟩ := device_answered hd0 hrun''
    unfold PairsInOrder
    rw [hlines, h''.tracks.telemetry]
    refine List.IsPrefix.trans ?_ (respond_take lines _ _ (by simpa using hcount))
    rw [hresp]; exact List.prefix_append _ _

theorem ping_nul_free : 0 ∉ ascii "PING" := by decide

/-- A `PING` waits while a wrong line is answered. -/
def pingThenWrong : List Act :=
  [.command (some ⟨ascii "PING", ping_nul_free⟩) zeroLocals,
    .command (some ⟨ascii "BAD", by decide⟩) zeroLocals, .motion 100 zeroLocals, .telemetry zeroLocals]

theorem pairing_ping : (responseLines (hostRun .lp64 pingThenWrong).2.telemetry.written).filter
    IsParserText <+: [COMMAND_PARSE_TEXT_ERR_UNKNOWN_COMMAND] := by
  have h := (pairing (hostStart_init .lp64) (hostRun_run .lp64 pingThenWrong)).1
  have he : (hostRun .lp64 pingThenWrong).1.filterMap (parseErrorReply .lp64) =
      [COMMAND_PARSE_TEXT_ERR_UNKNOWN_COMMAND] := by decide +kernel
  rwa [he] at h

/-- The answer to the wrong line, sent second, comes out first. -/
theorem answers_swapped : (hostSystem .lp64 true).init hostStart ∧
    (hostSystem .lp64 true).Run hostStart (hostRun .lp64 pingThenWrong).1 (hostRun .lp64 pingThenWrong).2 ∧
    ¬ PairsInOrder .lp64 (hostRun .lp64 pingThenWrong).1 (hostRun .lp64 pingThenWrong).2 := by
  refine ⟨hostStart_init .lp64, hostRun_run .lp64 pingThenWrong, ?_⟩
  unfold PairsInOrder
  decide +kernel

end MotionFirmware.L4
