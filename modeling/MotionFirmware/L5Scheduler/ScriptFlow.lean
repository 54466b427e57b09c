import MotionFirmware.L1Modules.CommandText
import MotionFirmware.L4System.FaultLatch
import MotionFirmware.L4System.Session
import MotionFirmware.L5Scheduler.Shutdown

/-!
# The flow of responses

When a line is taken, preempted, queued, served and printed is up to the
schedule. What is answered is not: as long as no message is dropped and no
line rejected, the response lines are those of the sequential machine
`session` to the lines in the order of their submission, or the beginning of
them (`answers_in_order`). A short script cannot overflow the queues, so under
the scheduler this needs no such condition (`script_answers`).
-/
namespace MotionFirmware.L5

open MotionFirmware.Core MotionFirmware.L1.Motion MotionFirmware.L1.Fault MotionFirmware.L1.Telemetry
open MotionFirmware.L1.Parser MotionFirmware.L2.Port MotionFirmware.L3.Messages MotionFirmware.L3.Tasks
open MotionFirmware.L4
open AppScheduler
open MotionFirmware.L2.FreertosPort (targetBackend)
open MotionFirmware.L2.TaskKernel

/-! ## Nothing dropped -/

/-- No message was dropped and no line rejected. -/
def Label.Delivers (l : Label) : Prop :=
  ∀ e ∈ l.event?, e.result.status ≠ .errorQueueFull ∧ e.result.status ≠ .errorParse

instance (l : Label) : Decidable l.Delivers := inferInstanceAs (Decidable (∀ e ∈ l.event?, _))

/-- The step of the buffered machine that a label without drops is. -/
def Label.buffered? (w : LongWidth) : Label → Option (BufferedLabel Command)
  | .activation ⟨.command (some line) _, _⟩ => some (.accept (Device.parse w line).2)
  | .activation ⟨.motion _ _, result⟩ => result.dequeued.map .serve
  | _ => none

theorem buffered_accepted (w : LongWidth) (ls : List Label) :
    (ls.filterMap (Label.buffered? w)).filterMap BufferedLabel.accepted? =
      commandsOf w (ls.filterMap Label.line?) := by
  have hone (l : Label) : (l.buffered? w).bind BufferedLabel.accepted? =
      l.line?.map fun line => (Device.parse w line).2 := by
    match l with
    | .activation ⟨.command (some line) _, _⟩ => rfl
    | .activation ⟨.command none _, _⟩ => rfl
    | .activation ⟨.motion _ _, ⟨_, none, _⟩⟩ => rfl
    | .activation ⟨.motion _ _, ⟨_, some _, _⟩⟩ => rfl
    | .activation ⟨.telemetry _, _⟩ => rfl
    | .telemetry _ => rfl
  rw [commandsOf, List.filterMap_filterMap, List.map_filterMap]
  exact List.filterMap_congr fun l _ => hone l

/-- The controller behind its queues. -/
structure Serves (p : Preempted) (b : Buffered Bool Command Text) : Prop where
  inv : p.Inv
  writer : p.device.telemetry.telemetryWriter = true
  pending : b.pending = p.device.commands
  state : b.state = p.device.fault.faultActive
  answered : b.answered = p.responses

theorem action_commands (p : Preempted) : p.action.device.commands = p.device.commands ∧
    p.action.device.fault = p.device.fault := by
  obtain ⟨d, point⟩ := p
  cases point with
  | draining status message => cases hq : d.replies <;> simp [Preempted.action, hq]
  | _ => simp [Preempted.action]

variable {w : LongWidth} {grain : Preempted → Preempted} {p : Preempted}
  {b : Buffered Bool Command Text}

/-- A command step that was not refused queues its command. -/
theorem commandStep_delivers {d : Device} {line : CString}
    (hfull : (d.commandStep w (some line)).1.status ≠ .errorQueueFull)
    (hparse : (d.commandStep w (some line)).1.status ≠ .errorParse) :
    (d.commandStep w (some line)).2 = { d with commands := d.commands ++ [(Device.parse w line).2] } := by
  simp only [Device.commandStep] at hfull hparse ⊢
  split
  · rename_i herr
    rw [if_pos herr] at hfull hparse
    cases hr : (d.reply (commandParserResultToString (Device.parse w line).1)).1 <;>
      simp [hr] at hfull hparse
  · rename_i hok
    rw [if_neg hok] at hfull
    split
    · rfl
    · rename_i hroom
      rw [if_neg hroom] at hfull
      exact absurd rfl hfull

theorem motionStep_idle {d : Device} {deltaMs : UInt32} (h : (d.motionStep deltaMs).1.dequeued = none) :
    d.commands = [] ∧ d.motionStep deltaMs = (⟨.noMessage, none, none⟩, d.tick deltaMs) := by
  unfold Device.motionStep at h ⊢
  split at h
  · rename_i hq
    exact ⟨hq, rfl⟩
  · cases h

theorem motionStep_status_ok {d : Device} {deltaMs : UInt32} {c : Command}
    (h : (d.motionStep deltaMs).1.dequeued = some c)
    (hfull : (d.motionStep deltaMs).1.status ≠ .errorQueueFull) :
    (d.motionStep deltaMs).1.status = .ok := by
  obtain ⟨rest, hq, -⟩ := Device.motionStep_dequeued h
  simp only [Device.motionStep, hq] at hfull ⊢
  split
  · rfl
  · rename_i hroom
    rw [if_neg hroom] at hfull
    exact absurd rfl hfull

section Sides

variable {p' : Preempted} (h : Serves p b) (hinv : p'.Inv)
  (hwriter : p'.device.telemetry.telemetryWriter = true)

include h hinv hwriter

/-- A step that neither queues a command nor answers one. -/
theorem Serves.silent (hcommands : p'.device.commands = p.device.commands)
    (hfault : p'.device.fault.faultActive = p.device.fault.faultActive)
    (hresponses : p'.responses = p.responses) : Serves p' b :=
  ⟨hinv, hwriter, h.pending.trans hcommands.symm, h.state.trans hfault.symm,
    h.answered.trans hresponses.symm⟩

/-- A step that queues a command. -/
theorem Serves.accept {c : Command} (hcommands : p'.device.commands = p.device.commands ++ [c])
    (hfault : p'.device.fault.faultActive = p.device.fault.faultActive)
    (hresponses : p'.responses = p.responses) :
    ∃ b', (buffered session false).step b (.accept c) b' ∧ Serves p' b' := by
  refine ⟨{ b with pending := b.pending ++ [c] }, .accept b c, hinv, hwriter, ?_,
    h.state.trans hfault.symm, h.answered.trans hresponses.symm⟩
  rw [hcommands, h.pending]

/-- A step that answers the first command that waits. -/
theorem Serves.serve {c : Command} {rest : List Command} (hqueue : p.device.commands = c :: rest)
    (hcommands : p'.device.commands = rest)
    (hfault : p'.device.fault.faultActive = session.next p.device.fault.faultActive c)
    (hresponses : p'.responses = p.responses ++ [p.device.response c]) :
    ∃ b', (buffered session false).step b (.serve c) b' ∧ Serves p' b' := by
  refine ⟨⟨rest, session.next b.state c, b.answered ++ [session.out b.state c]⟩,
    .serve b c rest (h.pending.trans hqueue), hinv, hwriter, hcommands.symm, ?_, ?_⟩
  · rw [hfault, h.state]
  · rw [hresponses, h.answered, h.state, response_session]

end Sides

/-- A step that delivers is a step of the buffered machine, or none of its. -/
theorem serves_step (hg : OfActions grain) (h : Serves p b) (c : Choice)
    (hdel : (Preempted.step w grain p c).1.Delivers) :
    let r := Preempted.step w grain p c
    (r.1.buffered? w = none ∧ Serves r.2 b) ∨
      ∃ k b', r.1.buffered? w = some k ∧ (buffered session false).step b k b' ∧ Serves r.2 b' := by
  intro r
  obtain ⟨hwriter, hresponses⟩ := responses_step w hg h.inv h.writer c
  have hinv := inv_step w hg h.inv c
  rcases Preempted.step_cases w grain p c with ⟨locals, he⟩ | ⟨locals, -, he⟩ |
    ⟨a, ⟨line, locals, rfl⟩ | ⟨deltaMs, locals, rfl⟩, -, he⟩
  · obtain ⟨hcommands, hfault⟩ := hg (fun q => q.device.commands = p.device.commands ∧
      q.device.fault = p.device.fault) (fun q hq => ⟨(action_commands q).1.trans hq.1,
        (action_commands q).2.trans hq.2⟩) p ⟨rfl, rfl⟩
    have hsent : r.1.sent w = none := by simp only [r, he, Label.sent, Label.event?, Option.bind_none]
    rw [hsent, Option.toList_none, List.append_nil] at hresponses
    refine Or.inl ⟨by simp only [r, he, Label.buffered?], h.silent hinv hwriter ?_ ?_ hresponses⟩
    · simp only [r, he, hcommands]
    · simp only [r, he, hfault]
  · refine Or.inl ⟨by simp only [r, he, Label.buffered?, Option.map_none], ?_⟩
    simp only [r, he]
    exact h
  · cases line with
    | none =>
      refine Or.inl ⟨by simp only [r, he, Device.taskStep, Label.buffered?], ?_⟩
      simp only [r, he]
      exact ⟨h.inv, h.writer, h.pending, h.state, h.answered⟩
    | some line =>
      rw [he] at hdel hresponses
      obtain ⟨hfull, hparse⟩ := hdel _ rfl
      have hparse : (p.device.commandStep w (some line)).1.status ≠ .errorParse := hparse
      have hstep := commandStep_delivers hfull hparse
      have hsent : (Label.activation (Device.taskStep w p.device (.command (some line) locals)).1).sent w =
          none := by
        simp [Label.sent, Label.event?, Device.taskStep, sentReply, parseErrorReply, motionReply, hparse]
      rw [hsent, Option.toList_none, List.append_nil] at hresponses
      obtain ⟨b', hb', h'⟩ := h.accept (c := (Device.parse w line).2) hinv hwriter
        (by simp only [he, Device.taskStep, hstep]) (by simp only [he, Device.taskStep, hstep])
        (by simp only [he, hresponses])
      exact Or.inr ⟨_, b', by simp only [r, he, Device.taskStep, Label.buffered?], hb', h'⟩
  · cases hdq : (p.device.motionStep deltaMs).1.dequeued with
    | none =>
      obtain ⟨hq, htick⟩ := motionStep_idle hdq
      have hsent : (Label.activation (Device.taskStep w p.device (.motion deltaMs locals)).1).sent w =
          none := by
        simp [Label.sent, Label.event?, Device.taskStep, sentReply, parseErrorReply, motionReply, htick]
      rw [he, hsent, Option.toList_none, List.append_nil] at hresponses
      refine Or.inl ⟨by simp only [r, he, Device.taskStep, Label.buffered?, hdq, Option.map_none],
        h.silent hinv hwriter ?_ ?_ (by simp only [r, he, hresponses])⟩
      · simp only [r, he, Device.taskStep, htick, Device.tick]
      · simp only [r, he, Device.taskStep, htick, Device.tick]
    | some c =>
      rw [he] at hdel hresponses
      obtain ⟨hfull, -⟩ := hdel _ rfl
      obtain ⟨rest, hq, hresponse, hdevice⟩ := Device.motionStep_dequeued hdq
      have hstatus := motionStep_status_ok hdq hfull
      have hsent : (Label.activation (Device.taskStep w p.device (.motion deltaMs locals)).1).sent w =
          some (p.device.response c) := by
        simp [Label.sent, Label.event?, Device.taskStep, sentReply, parseErrorReply, motionReply, hstatus,
          hresponse]
      rw [hsent, Option.toList_some] at hresponses
      obtain ⟨b', hb', h'⟩ := h.serve hinv hwriter hq
        (by
          simp only [he, Device.taskStep, hdevice, Device.reply_eq]
          exact (Device.obey_queues { p.device with commands := rest } c).1)
        (by
          simp only [he, Device.taskStep, hdevice, Device.reply_eq]
          exact obey_session { p.device with commands := rest } c)
        (by simp only [he, hresponses])
      exact Or.inr ⟨.serve c, b', by simp only [r, he, Device.taskStep, Label.buffered?, hdq,
        Option.map_some], hb', h'⟩

/-! ## In order -/

/-- Without drops, the tasks under preemption are a sequential machine behind
a queue. -/
theorem serves_stuttering (w : LongWidth) (hg : OfActions grain) :
    ((preemptedSystem w true grain).restrict fun _ l => l.Delivers).Stuttering (buffered session false)
      (Label.buffered? w) Serves where
  init := by
    intro p hinit
    obtain ⟨d, point⟩ := p
    have hinv := (preempted_inductive w true hg).init _ hinit
    obtain ⟨hd, hp⟩ := hinit
    simp only at hd hp
    have hd : d = Device.start ⟨true, []⟩ := hd
    subst hp
    rw [hd] at hinv ⊢
    exact ⟨⟨[], false, []⟩, rfl, hinv, rfl, rfl, rfl, rfl⟩
  stutter := by
    intro p b l p' h hst hnone
    obtain ⟨hst, hdel⟩ := hst
    obtain ⟨c, -, rfl, rfl⟩ := LTS.ofStep_step hst
    rcases serves_step hg h c hdel with ⟨-, h'⟩ | ⟨k, b', hsome, -, -⟩
    · exact h'
    · rw [hnone] at hsome
      cases hsome
  step := by
    intro p b l p' k h hst hsome
    obtain ⟨hst, hdel⟩ := hst
    obtain ⟨c, -, rfl, rfl⟩ := LTS.ofStep_step hst
    rcases serves_step hg h c hdel with ⟨hnone, -⟩ | ⟨k', b', hsome', hstep, h'⟩
    · rw [hnone] at hsome
      cases hsome
    · rw [hsome'] at hsome
      cases hsome
      exact ⟨b', hstep, h'⟩

/-- The responses so far, written or not, are those of the machine to all but
the commands that wait. -/
theorem preempted_served (hg : OfActions grain) {p₀ p : Preempted} {ls : List Label}
    (h0 : (preemptedSystem w true grain).init p₀) (hrun : (preemptedSystem w true grain).Run p₀ ls p)
    (hdel : ∀ l ∈ ls, l.Delivers) :
    ∃ served, served ++ p.device.commands = commandsOf w (ls.filterMap Label.line?) ∧
      p.responses = session.outputs false served := by
  obtain ⟨b, served, h, haccepted, hanswered⟩ := refines_buffered (serves_stuttering w hg) h0
    (hrun.restrict fun l hl _ => hdel l hl)
  rw [buffered_accepted, h.pending] at haccepted
  rw [h.answered] at hanswered
  exact ⟨served, haccepted, hanswered⟩

theorem preempted_answers (hg : OfActions grain) {p₀ p : Preempted} {ls : List Label}
    (h0 : (preemptedSystem w true grain).init p₀) (hrun : (preemptedSystem w true grain).Run p₀ ls p)
    (hdel : ∀ l ∈ ls, l.Delivers) :
    p.responses <+: session.outputs false (commandsOf w (ls.filterMap Label.line?)) := by
  obtain ⟨served, haccepted, hanswered⟩ := preempted_served hg h0 hrun hdel
  rw [hanswered]
  exact session.outputs_prefix ⟨_, haccepted⟩ false

variable {B : RtosBackend} [RtosApi B] [LawfulRtos B]

/-- **Responses do not depend on the schedule.** -/
theorem answers_in_order {s₀ s : Rtos B} {ls : List Label}
    (h0 : (rtosSystem B w true telemetryAction).init s₀)
    (hrun : (rtosSystem B w true telemetryAction).Run s₀ ls s) (hdel : ∀ l ∈ ls, l.Delivers) :
    responseLines s.firmware.telemetry.written <+:
      session.outputs false (commandsOf w (ls.filterMap Label.line?)) := by
  have hsim := rtos_simulation (B := B) w true (fun _ _ locals h => follows_action h locals)
    ofActions_action
  obtain ⟨p₀, hp₀, h⟩ := hsim.init s₀ h0
  obtain ⟨p, hp, h, -⟩ := hsim.run h hrun
  refine List.IsPrefix.trans ?_ (preempted_answers ofActions_action hp₀ hp hdel)
  rw [h.tracks.telemetry, Preempted.responses, List.append_assoc]
  exact List.prefix_append _ _

/-- A ping, its response, and the report that writes it. -/
def pingChoices : List Choice :=
  .command (some (commandLine ⟨.ping, 0, 0, 0⟩)) zeroLocals :: motionChoice ::
    List.replicate 7 telemetryChoice

theorem answers_in_order_ping : responseLines
    (targetRun telemetryAction targetStart pingChoices).2.firmware.telemetry.written <+:
      session.outputs false (commandsOf .lp64
        ((targetRun telemetryAction targetStart pingChoices).1.filterMap Label.line?)) :=
  answers_in_order (targetStart_init .lp64 telemetryAction)
    (targetRun_run telemetryAction targetStart pingChoices) (by decide +kernel)

/-! ## Short scripts -/

/-- A line makes one command or one response, a command one response. -/
theorem activation_count (w : LongWidth) (d : Device) {a : Act}
    (ha : (∃ line locals, a = .command line locals) ∨ ∃ deltaMs locals, a = .motion deltaMs locals) :
    let r := Device.taskStep w d a
    r.2.replies.length + r.2.commands.length ≤ d.replies.length + d.commands.length +
      ((Label.activation r.1).line?).toList.length := by
  rcases ha with ⟨line, locals, rfl⟩ | ⟨deltaMs, locals, rfl⟩
  · cases line with
    | none => exact Nat.le_add_right _ _
    | some line =>
      simp only [Device.taskStep, Device.commandStep, Label.line?, Option.toList_some, List.length_singleton]
      split
      · obtain ⟨h1, h2⟩ := reply_count d (commandParserResultToString (Device.parse w line).1)
        simp only [h2]
        omega
      · split <;> simp only [List.length_append, List.length_singleton] <;> omega
  · simp only [Device.taskStep, Device.motionStep, Label.line?, Option.toList_none, List.length_nil,
      Nat.add_zero]
    split
    · exact Nat.le_refl _
    · rename_i c rest hq
      obtain ⟨hc, hr, -⟩ := Device.obey_queues { d with commands := rest } c
      obtain ⟨h1, h2⟩ := reply_count ((Device.obey { d with commands := rest } c).tick deltaMs)
        (d.response c)
      have h1 := h1.trans_eq (congrArg (·.length + 1) hr)
      have h2 := h2.trans hc
      simp only [h2, hq, List.length_cons] at h1 ⊢
      omega

/-- So many lines, so many commands that wait and responses at most. -/
theorem messages_le (hg : OfActions grain) {p₀ p : Preempted} {ls : List Label}
    (h0 : (preemptedSystem w true grain).init p₀) (hrun : (preemptedSystem w true grain).Run p₀ ls p) :
    p.responses.length + p.device.commands.length ≤ (ls.filterMap Label.line?).length ∧
      p.device.telemetry.telemetryWriter = true := by
  have hind := preempted_inductive w true hg
  refine hind.history (P := fun ls p => p.responses.length + p.device.commands.length ≤
    (ls.filterMap Label.line?).length ∧ p.device.telemetry.telemetryWriter = true) (hind.init p₀ h0) ?_ ?_ hrun
  · obtain ⟨d, point⟩ := p₀
    obtain ⟨hd, hp⟩ := h0
    simp only at hd hp
    have hd : d = Device.start ⟨true, []⟩ := hd
    rw [hd, hp]
    exact ⟨Nat.le_refl 0, rfl⟩
  · intro ls p l p' hinv hP hst
    obtain ⟨hle, hwriter⟩ := hP
    obtain ⟨c, -, rfl, rfl⟩ := LTS.ofStep_step hst
    obtain ⟨hwriter', hresponses⟩ := responses_step w hg hinv hwriter c
    refine ⟨?_, hwriter'⟩
    rw [LTS.filterMap_snoc, List.length_append]
    refine LE.le.trans ?_ (Nat.add_le_add_right hle _)
    rcases Preempted.step_cases w grain p c with ⟨locals, he⟩ | ⟨locals, -, he⟩ | ⟨a, hact, -, he⟩
    · have hcommands := hg (fun q => q.device.commands = p.device.commands)
        (fun q hq => (action_commands q).1.trans hq) p rfl
      rw [he] at hresponses ⊢
      have hsent : (Label.telemetry locals).sent w = none := rfl
      rw [hsent, Option.toList_none, List.append_nil] at hresponses
      simp only [hresponses, hcommands]
      exact Nat.le_add_right _ _
    · rw [he]
      exact Nat.le_add_right _ _
    · have hcount := activation_count w p.device hact
      have hwritten := activation_telemetry w p.device hact
      rw [he]
      simp only [Preempted.responses, hwritten, List.length_append] at hcount ⊢
      omega

theorem motionStep_room {d : Device} (hroom : d.replies.length < APP_TELEMETRY_QUEUE_CAPACITY)
    (deltaMs : UInt32) : (d.motionStep deltaMs).1.status ≠ .errorQueueFull ∧
      (d.motionStep deltaMs).1.status ≠ .errorParse := by
  unfold Device.motionStep
  split
  · simp
  · rename_i c rest hq
    obtain ⟨-, hr, -⟩ := Device.obey_queues { d with commands := rest } c
    have hroom' : ((Device.obey { d with commands := rest } c).tick deltaMs).replies.length <
        APP_TELEMETRY_QUEUE_CAPACITY := by
      simp only [Device.tick, hr]
      exact hroom
    simp [Device.reply, hroom']

/-- At most eight lines, all of which parse, are all taken and answered. -/
theorem short_delivers (hg : OfActions grain) {p₀ p : Preempted} {ls : List Label}
    (h0 : (preemptedSystem w true grain).init p₀) (hrun : (preemptedSystem w true grain).Run p₀ ls p)
    (hlen : (ls.filterMap Label.line?).length ≤ APP_COMMAND_QUEUE_CAPACITY)
    (hparse : ∀ line ∈ ls.filterMap Label.line?, (Device.parse w line).1 = .ok) :
    ∀ l ∈ ls, l.Delivers := by
  have hind := preempted_inductive w true hg
  induction hrun with
  | nil => exact fun l hl => by cases hl
  | @snoc ls p p' l hrun hst ih =>
    have hbefore := messages_le hg h0 hrun
    rw [LTS.filterMap_snoc, List.length_append] at hlen
    rw [LTS.filterMap_snoc] at hparse
    have hls := ih (by omega) fun line hline => hparse line (List.mem_append_left _ hline)
    intro l' hl'
    rcases List.mem_append.mp hl' with hl' | hl'
    · exact hls l' hl'
    rw [List.mem_singleton.mp hl']
    obtain ⟨c, -, rfl, -⟩ := LTS.ofStep_step hst
    have hreplies : p.device.replies.length ≤ p.responses.length := by
      simp only [Preempted.responses, List.length_append]
      omega
    intro e hevent
    rcases Preempted.step_cases w grain p c with ⟨locals, he⟩ | ⟨locals, -, he⟩ |
      ⟨a, ⟨line, locals, rfl⟩ | ⟨deltaMs, locals, rfl⟩, -, he⟩
    · rw [he] at hevent
      cases hevent
    · rw [he] at hevent
      cases hevent
      exact ⟨by simp, by simp⟩
    · rw [he] at hevent hlen hparse
      cases hevent
      cases line with
      | none => exact ⟨by simp [Device.taskStep, Device.commandStep], by
          simp [Device.taskStep, Device.commandStep]⟩
      | some line =>
        have hok : (Device.parse w line).1 = .ok := by
          refine hparse line (List.mem_append_right _ ?_)
          simp [Device.taskStep, Label.line?]
        have hroom : p.device.commands.length < APP_COMMAND_QUEUE_CAPACITY := by
          simp only [Device.taskStep, Label.line?, Option.toList_some, List.length_singleton] at hlen
          omega
        simp [Device.taskStep, Device.commandStep, hok, hroom]
    · rw [he] at hevent
      cases hevent
      have hroom : p.device.replies.length < APP_TELEMETRY_QUEUE_CAPACITY := by
        have hcapacity : APP_COMMAND_QUEUE_CAPACITY < APP_TELEMETRY_QUEUE_CAPACITY := by decide
        omega
      exact motionStep_room hroom deltaMs

/-- The boot message comes first. -/
theorem written_behind {s t : Rtos B} (hsame : s = t.behind (startupLines true)) (h : Follows t p) :
    responseLines s.firmware.telemetry.written =
      TELEMETRY_STARTUP_LINE :: responseLines p.device.telemetry.written := by
  have hboot : responseLines (startupLines true) = [TELEMETRY_STARTUP_LINE] := by decide
  rw [hsame, ← h.tracks.telemetry]
  simp only [Rtos.behind, responseLines, List.filter_append] at hboot ⊢
  rw [hboot, List.singleton_append]

/-- **The flow of a script.** Whatever the schedule, the response lines of a
short script are the boot message and the answers to its lines, in order, as
far as they go. -/
theorem script_answers {K : Type} [TaskApi Task K] {script : List CString} {s₀ s : AppScheduler B K}
    {ls : List SchedLabel} (h0 : (schedulerSystem B K w script true).init s₀)
    (hrun : (schedulerSystem B K w script true).Run s₀ ls s)
    (hlen : script.length ≤ APP_COMMAND_QUEUE_CAPACITY)
    (hparse : ∀ line ∈ script, (Device.parse w line).1 = .ok) :
    responseLines s.rtos.firmware.telemetry.written <+:
      TELEMETRY_STARTUP_LINE :: session.outputs false (commandsOf w script) := by
  obtain ⟨p₀, p, t, hp₀, hp, hsame, h, -⟩ := scheduler_preempted h0 hrun
  have hlines : submitted ls <+: script := by
    rw [(submits_run h0 hrun).lines]
    exact List.take_prefix _ _
  have hdel := short_delivers ofActions_action hp₀ hp (hlines.length_le.trans hlen)
    fun line hline => hparse line (hlines.subset hline)
  have hanswers := preempted_answers ofActions_action hp₀ hp hdel
  have hall : session.outputs false (commandsOf w (submitted ls)) <+:
      session.outputs false (commandsOf w script) := session.outputs_prefix (hlines.map _) false
  rw [written_behind hsame h, List.prefix_cons_inj]
  refine List.IsPrefix.trans ?_ (hanswers.trans hall)
  rw [Preempted.responses, List.append_assoc]
  exact List.prefix_append _ _

theorem script_answers_demo :
    responseLines (demoRun (demoChoices 17 0)).2.rtos.firmware.telemetry.written <+:
      TELEMETRY_STARTUP_LINE :: session.outputs false (commandsOf .lp64 APP_SCHEDULER_DEMO_SCRIPT) :=
  script_answers (schedulerStart_init .lp64 APP_SCHEDULER_DEMO_SCRIPT) (demoRun_run (demoChoices 17 0))
    (by decide) (by decide +kernel)

end MotionFirmware.L5
