import MotionFirmware.L4System.Coherence

/-!
# Conservation of messages

What the statuses of the steps say about the two queues. A command that a
command step accepted is dequeued once, in order, or still waits; a response
that a step sent is written once, in order, or still waits
(`step_accounts` for one step, `device_conservation` for a run,
`conservation` on the host).

A message is told from the trace alone: the command a command step accepted
(`acceptedCommand`), the command a motion step took (`takenCommand`), the
response a step sent (`sentReply`).
-/
namespace MotionFirmware.L4

open MotionFirmware.Core MotionFirmware.L1.Motion MotionFirmware.L1.Fault MotionFirmware.L1.Telemetry
open MotionFirmware.L1.Parser MotionFirmware.L2.Port MotionFirmware.L2.HostPort
open MotionFirmware.L3.Messages MotionFirmware.L3.Tasks
open RtosQueueApi LawfulRtosQueue

/-! ## Messages of a trace -/

/-- The parsed command of a command step that returned `OK`. -/
def acceptedCommand (w : LongWidth) (e : Event) : Option Command :=
  match e.act with
  | .command (some line) _ => if e.result.status = .ok then some (Device.parse w line).2 else none
  | _ => none

/-- The command of a motion step that returned `OK` or `ERROR_QUEUE_FULL`. -/
def takenCommand (e : Event) : Option Command :=
  match e.act with
  | .motion _ _ =>
    if e.result.status = .ok ∨ e.result.status = .errorQueueFull then e.result.dequeued else none
  | _ => none

/-- The parse-error text of a command step that returned `ERROR_PARSE`. -/
def parseErrorReply (w : LongWidth) (e : Event) : Option Text :=
  match e.act with
  | .command (some line) _ =>
    if e.result.status = .errorParse then some (commandParserResultToString (Device.parse w line).1)
    else none
  | _ => none

/-- The dispatcher's response of a motion step that returned `OK`. -/
def motionReply (e : Event) : Option Text :=
  match e.act with
  | .motion _ _ => if e.result.status = .ok then e.result.response else none
  | _ => none

/-- The response a step sent to the output. -/
def sentReply (w : LongWidth) (e : Event) : Option Text :=
  match parseErrorReply w e with
  | some text => some text
  | none => motionReply e

/-- The writer is also called with the newline of each line. -/
def IsResponseLine (text : Text) : Bool := decide (text ≠ ascii "\n") && !decide (IsStatusLine text)

/-- The response lines among the texts handed to the writer. -/
def responseLines (written : List Text) : List Text := written.filter IsResponseLine

/-! ## What the writer gets -/

theorem sendLine_written {t : TelemetryState} (h : t.telemetryWriter = true) (line : Text) :
    telemetrySendLine t line = { t with written := t.written ++ [line, ascii "\n"] } := by
  rw [telemetrySendLine, if_pos h]

/-- One line more in the output. -/
theorem sendLine_responses {t : TelemetryState} (h : t.telemetryWriter = true) (line : Text) :
    (telemetrySendLine t line).telemetryWriter = true ∧
      responseLines (telemetrySendLine t line).written =
        responseLines t.written ++ if IsResponseLine line then [line] else [] := by
  have hnl : IsResponseLine (ascii "\n") = false := by decide
  rw [sendLine_written h]
  refine ⟨h, ?_⟩
  simp only [responseLines, List.filter_append, List.filter_cons, hnl, Bool.false_eq_true, if_false,
    List.filter_nil]

theorem isResponseLine_known {t : Text} (h : t ∈ responseTexts) : IsResponseLine t = true := by
  obtain ⟨-, -, hst, hnl⟩ := responseTexts_spec t h
  simp [IsResponseLine, hst, hnl]

theorem sendLines_responses {lines : List Text} (hk : ∀ t ∈ lines, t ∈ responseTexts)
    {t : TelemetryState} (h : t.telemetryWriter = true) :
    (lines.foldl telemetrySendLine t).telemetryWriter = true ∧
      responseLines (lines.foldl telemetrySendLine t).written = responseLines t.written ++ lines := by
  induction lines generalizing t with
  | nil => simp [h]
  | cons line lines ih =>
    obtain ⟨hw, hline⟩ := sendLine_responses h line
    rw [isResponseLine_known (hk line (by simp)), if_pos rfl] at hline
    obtain ⟨hw', hlines⟩ := ih (fun t ht => hk t (List.mem_cons_of_mem _ ht)) hw
    refine ⟨hw', ?_⟩
    rw [List.foldl_cons, hlines, hline, List.append_assoc, List.singleton_append]

theorem statusText_isStatusLine {status : TelemetryStatus} (h : ShortName (stateName status)) :
    IsStatusLine (snprintf TELEMETRY_LINE_BUFFER_SIZE (statusText status)) := by
  have htag : ascii "T ms=" = ascii "T " ++ ascii "ms=" := by decide
  have hlen : (ascii "T ").length = 2 := by decide
  rw [statusLine_eq h, IsStatusLine, statusText, htag]
  simp only [List.append_assoc]
  rw [← hlen, List.take_left]

/-- A status line is no response. -/
theorem sendStatus_responses {t : TelemetryState} (h : t.telemetryWriter = true)
    {status : TelemetryStatus} (hname : ShortName (stateName status)) :
    (telemetrySendStatus t status).telemetryWriter = true ∧
      responseLines (telemetrySendStatus t status).written = responseLines t.written := by
  obtain ⟨hw, hline⟩ := sendLine_responses h (snprintf TELEMETRY_LINE_BUFFER_SIZE (statusText status))
  have hno : IsResponseLine (snprintf TELEMETRY_LINE_BUFFER_SIZE (statusText status)) = false := by
    simp [IsResponseLine, statusText_isStatusLine hname]
  rw [hno, if_neg Bool.false_ne_true, List.append_nil] at hline
  exact ⟨hw, hline⟩

/-- A telemetry step writes the queued replies, and no other response line. -/
theorem responseLines_telemetryStep {d : Device} (hd : d.Inv) (h : d.telemetry.telemetryWriter = true) :
    d.telemetryStep.2.telemetry.telemetryWriter = true ∧
      responseLines d.telemetryStep.2.telemetry.written =
        responseLines d.telemetry.written ++ d.replies := by
  obtain ⟨hw, hlines⟩ := sendLines_responses hd.known h
  have hname : ShortName (stateName d.snapshot) := shortName_state d.motion.status.state
  obtain ⟨hw', hstatus⟩ := sendStatus_responses hw hname
  exact ⟨hw', hstatus.trans hlines⟩

/-! ## One step -/

/-- The messages of one step, in and out of both queues. -/
structure Accounts (w : LongWidth) (d : Device) (e : Event) (d' : Device) : Prop where
  writer : d'.telemetry.telemetryWriter = true
  commands : d.commands ++ (acceptedCommand w e).toList = (takenCommand e).toList ++ d'.commands
  replies : responseLines d'.telemetry.written ++ d'.replies =
    responseLines d.telemetry.written ++ d.replies ++ (sentReply w e).toList

theorem accounts_command (w : LongWidth) {d : Device} (h : d.telemetry.telemetryWriter = true)
    (line : Option CString) (locals : Locals) :
    Accounts w d (Device.taskStep w d (.command line locals)).1
      (Device.taskStep w d (.command line locals)).2 := by
  cases line with
  | none =>
    exact ⟨h, by simp [Device.taskStep, Device.commandStep, acceptedCommand, takenCommand],
      by simp [Device.taskStep, Device.commandStep, sentReply, parseErrorReply, motionReply]⟩
  | some line =>
    simp only [Device.taskStep, Device.commandStep]
    by_cases hok : (Device.parse w line).1 = .ok
    · simp only [hok, ne_eq, not_true_eq_false, if_false]
      split
      · exact ⟨h, by simp [acceptedCommand, takenCommand],
          by simp [sentReply, parseErrorReply, motionReply]⟩
      · exact ⟨h, by simp [acceptedCommand, takenCommand],
          by simp [sentReply, parseErrorReply, motionReply]⟩
    · simp only [ne_eq, hok, not_false_eq_true, if_true]
      rcases d.reply_cases (commandParserResultToString (Device.parse w line).1) with hr | hr <;> rw [hr]
      · exact ⟨h, by simp [acceptedCommand, takenCommand],
          by simp [sentReply, parseErrorReply]⟩
      · exact ⟨h, by simp [acceptedCommand, takenCommand],
          by simp [sentReply, parseErrorReply, motionReply]⟩

theorem accounts_motion (w : LongWidth) {d : Device} (h : d.telemetry.telemetryWriter = true)
    (deltaMs : UInt32) (locals : Locals) :
    Accounts w d (Device.taskStep w d (.motion deltaMs locals)).1
      (Device.taskStep w d (.motion deltaMs locals)).2 := by
  simp only [Device.taskStep, Device.motionStep]
  split
  · exact ⟨h, by simp [Device.tick, acceptedCommand, takenCommand],
      by simp [Device.tick, sentReply, parseErrorReply, motionReply]⟩
  · rename_i c rest hq
    rcases Device.reply_cases ((Device.obey { d with commands := rest } c).tick deltaMs) (d.response c)
      with hr | hr <;> rw [hr]
    · exact ⟨by simp [Device.tick, h], by simp [Device.tick, hq, acceptedCommand, takenCommand],
        by simp [Device.tick, sentReply, parseErrorReply, motionReply]⟩
    · exact ⟨by simp [Device.tick, h], by simp [Device.tick, hq, acceptedCommand, takenCommand],
        by simp [Device.tick, sentReply, parseErrorReply, motionReply]⟩

/-- Every step keeps the accounts. -/
theorem step_accounts (w : LongWidth) {d : Device} (hd : d.Inv) (h : d.telemetry.telemetryWriter = true)
    (a : Act) : Accounts w d (Device.taskStep w d a).1 (Device.taskStep w d a).2 := by
  cases a with
  | command line locals => exact accounts_command w h line locals
  | motion deltaMs locals => exact accounts_motion w h deltaMs locals
  | telemetry locals =>
    obtain ⟨h1, h2⟩ := responseLines_telemetryStep hd h
    refine ⟨h1, ?_, ?_⟩
    · show d.commands ++ _ = _ ++ d.commands
      simp [Device.taskStep, acceptedCommand, takenCommand]
    · show responseLines d.telemetryStep.2.telemetry.written ++ [] = _
      rw [h2]
      simp [Device.taskStep, sentReply, parseErrorReply, motionReply]

/-- The step dequeued a command iff its status says so. -/
def StatusTellsTaken (e : Event) : Prop :=
  ∀ deltaMs locals, e.act = .motion deltaMs locals →
    ((e.result.status = .ok ∨ e.result.status = .errorQueueFull) ↔ e.result.dequeued ≠ none)

theorem statusTellsTaken_step (w : LongWidth) (d : Device) (a : Act) :
    StatusTellsTaken (Device.taskStep w d a).1 := by
  intro deltaMs locals ha
  cases a with
  | command line locals => cases ha
  | telemetry locals => cases ha
  | motion deltaMs locals =>
  simp only [Device.taskStep, Device.motionStep]
  split
  · simp
  · simp only [ne_eq, reduceCtorEq, not_false_eq_true, iff_true]
    split
    · exact Or.inl rfl
    · exact Or.inr rfl

/-! ## A run -/

theorem device_conservation {w : LongWidth} {d₀ d : Device} {ls : List Event}
    (h0 : (deviceSystem w true).init d₀) (hrun : (deviceSystem w true).Run d₀ ls d) :
    ls.filterMap takenCommand ++ d.commands = ls.filterMap (acceptedCommand w) ∧
      responseLines d.telemetry.written ++ d.replies = ls.filterMap (sentReply w) ∧
      d.telemetry.telemetryWriter = true := by
  have h0 : d₀ = Device.start ⟨true, []⟩ := h0
  refine (device_inductive w true).history
    (P := fun ls d => ls.filterMap takenCommand ++ d.commands = ls.filterMap (acceptedCommand w) ∧
      responseLines d.telemetry.written ++ d.replies = ls.filterMap (sentReply w) ∧
      d.telemetry.telemetryWriter = true)
    ((device_inductive w true).init d₀ h0) ?_ ?_ hrun
  · subst h0; exact ⟨rfl, rfl, rfl⟩
  · intro ls d e d' hd hP hst
    obtain ⟨h1, h2, h3⟩ := hP
    obtain ⟨a, -, rfl, rfl⟩ := LTS.ofStep_step hst
    obtain ⟨hw, hc, hr⟩ := step_accounts w hd h3 a
    refine ⟨?_, ?_, hw⟩
    · rw [LTS.filterMap_snoc, LTS.filterMap_snoc, ← h1, List.append_assoc, List.append_assoc, hc]
    · rw [LTS.filterMap_snoc, hr, h2]

/-! ## On the host -/

def queuedCommands (s : Firmware hostBackend) : List Command :=
  s.context.commandQueue.items.map decodeCommand

def queuedReplies (s : Firmware hostBackend) : List Text := s.context.telemetryQueue.items.map cstr

theorem queuedCommands_eq {s : Firmware hostBackend} {d : Device} (h : Tracks s d) :
    queuedCommands s = d.commands := by
  obtain ⟨-, hitems⟩ := h.commands
  simp [queuedCommands, hitems, Function.comp_def]

theorem queuedReplies_eq {s : Firmware hostBackend} {d : Device} (h : Tracks s d) :
    queuedReplies s = d.replies ∧ ∀ b ∈ s.context.telemetryQueue.items,
      b.length = APP_TELEMETRY_MESSAGE_LENGTH ∧ 0 ∈ b := by
  obtain ⟨ms, ⟨-, hitems⟩, hread, hterm⟩ := h.replies
  refine ⟨by rw [queuedReplies, hitems, List.map_map, ← hread]; rfl, ?_⟩
  intro b hb
  rw [hitems, List.mem_map] at hb
  obtain ⟨m, hm, rfl⟩ := hb
  exact ⟨m.size, hterm m hm⟩

/-- A command step that finds its queue full changes nothing. -/
theorem command_full (w : LongWidth) {s : Firmware hostBackend} {d : Device} (h : Tracks s d)
    (line : Option CString) (locals : Locals)
    (hfull : (appCommandTaskStep w s line locals).1.status = .errorQueueFull) :
    (appCommandTaskStep w s line locals).2 = s := by
  cases line with
  | none => rfl
  | some line =>
    have hp : commandParserParse w (some line) locals.command = Device.parse w line :=
      parse_prior w (some line) _ _
    have hcq := h.commands
    obtain ⟨ms, hms, hread, -⟩ := h.replies
    have hcle := bounded hcq
    have htle := bounded hms
    simp only [appCommandTaskStep, Option.isNone_some, Bool.false_eq_true, if_false, hp] at hfull ⊢
    by_cases hok : (Device.parse w line).1 = .ok
    · simp only [hok, ne_eq, not_true_eq_false, if_false] at hfull ⊢
      by_cases hroom : (d.commands.map encodeCommand).length = APP_COMMAND_QUEUE_CAPACITY
      · rw [send_full _ hcq hroom]
      · obtain ⟨hs, -⟩ := LawfulRtosQueue.send (encodeCommand (Device.parse w line).2) hcq
          (encodeCommand_length _) (by omega)
        rw [hs] at hfull; cases hfull
    · simp only [ne_eq, hok, not_false_eq_true, if_true] at hfull ⊢
      obtain ⟨hlen, -⟩ := responseTexts_spec _ (resultToString_mem (Device.parse w line).1)
      simp only [appTasksEnqueueTelemetryLine, hlen, dif_pos] at hfull ⊢
      by_cases hroom : (ms.map (·.text)).length = APP_TELEMETRY_QUEUE_CAPACITY
      · rw [send_full _ hms hroom]
      · obtain ⟨hs, -⟩ := LawfulRtosQueue.send (locals.telemetry.store _ hlen).text hms
          (locals.telemetry.store _ hlen).size (by omega)
        rw [hs] at hfull; cases hfull

/-- **Conservation.** -/
theorem conservation {w : LongWidth} {s₀ s : Firmware hostBackend} {ls : List Event}
    (h0 : (hostSystem w true).init s₀) (hrun : (hostSystem w true).Run s₀ ls s) :
    (ls.filterMap takenCommand ++ queuedCommands s = ls.filterMap (acceptedCommand w) ∧
      ∀ l ∈ ls, StatusTellsTaken l) ∧
    responseLines s.telemetry.written ++ queuedReplies s = ls.filterMap (sentReply w) ∧
    (appTasksCommandQueueCount s ≤ 8 ∧ appTasksTelemetryQueueCount s ≤ 16 ∧
      (∀ b ∈ s.context.telemetryQueue.items, b.length = 128 ∧ 0 ∈ b) ∧
      ∀ line locals, (appCommandTaskStep w s line locals).1.status = .errorQueueFull →
        (appCommandTaskStep w s line locals).2 = s) := by
  have hsim := firmware_simulation (B := hostBackend) w true
  obtain ⟨d₀, hd0, h⟩ := hsim.init s₀ h0
  obtain ⟨d, hrun', h, hd⟩ := hsim.run h hrun
  obtain ⟨h1, h2, -⟩ := device_conservation hd0 hrun'
  obtain ⟨hrep, hblocks⟩ := queuedReplies_eq h.tracks
  rw [queuedCommands_eq h.tracks, hrep, h.tracks.telemetry]
  refine ⟨⟨h1, ?_⟩, h2, ?_, ?_, hblocks, fun line locals => command_full w h.tracks line locals⟩
  · refine (device_inductive w true).forall_steps ((device_inductive w true).init d₀ hd0) ?_ hrun'
    intro e l e' _ hst
    obtain ⟨a, -, rfl, -⟩ := LTS.ofStep_step hst
    exact statusTellsTaken_step w e a
  · rw [count_commands h.tracks]; exact hd.commands_le
  · rw [count_replies h.tracks]; exact hd.replies_le

/-- One command, answered and printed. -/
def pingAnswered : List Act :=
  [.command (some ⟨ascii "PING", by decide⟩) zeroLocals, .motion 100 zeroLocals, .telemetry zeroLocals]

theorem conservation_ping :
    responseLines (hostRun .lp64 pingAnswered).2.telemetry.written ++
      queuedReplies (hostRun .lp64 pingAnswered).2 = [APP_RESPONSE_PONG] :=
  (conservation (hostStart_init .lp64) (hostRun_run .lp64 pingAnswered)).2.1.trans (by decide +kernel)

end MotionFirmware.L4
