import MotionFirmware.L5Scheduler.PreemptedDevice
import MotionFirmware.L5Scheduler.AppScheduler

/-!
# The scheduler refines the interleavings

A run of the scheduler, with its priorities, delays and script, is one of the
interleavings of `Preemption` (`scheduler_refinement`): the actions that name a
step of `rtosSystem` take it, and the others leave the firmware alone. So what
holds in every interleaving holds under the scheduler, whatever the kernel
does: no law of the kernel is used here.

Two things stand in between. The motion task can preempt the command task
between its parser and its queue; the activation counts from the queue on, as
the parser looks at nothing shared (`bodyAction_did`). And the boot message
stands in front of the output, which no task reads back (`rtosStep_behind`).
-/
namespace MotionFirmware.L5

open MotionFirmware.Core MotionFirmware.L1.Motion MotionFirmware.L1.Fault MotionFirmware.L1.Telemetry
open MotionFirmware.L1.Parser MotionFirmware.L2.Port MotionFirmware.L3.Messages MotionFirmware.L3.Tasks
open MotionFirmware.L4
open AppScheduler
open MotionFirmware.L2.FreertosPort (targetBackend)
open MotionFirmware.L2.TaskKernel

variable {B : RtosBackend}

/-! ## The output is write-only -/

/-- The same state with `before` in front of its output. -/
def Rtos.behind (s : Rtos B) (before : List Text) : Rtos B :=
  { s with firmware := { s.firmware with telemetry := { s.firmware.telemetry with
    written := before ++ s.firmware.telemetry.written } } }

theorem sendLine_behind (t : TelemetryState) (before : List Text) (line : Text) :
    telemetrySendLine { t with written := before ++ t.written } line =
      { telemetrySendLine t line with written := before ++ (telemetrySendLine t line).written } := by
  unfold telemetrySendLine
  split
  · simp only [List.append_assoc]
  · rfl

theorem handle_telemetry_irrelevant [RtosApi B] (s : Firmware B) (t : TelemetryState) (c : Command) :
    appTasksHandleCommand { s with telemetry := t } c =
      ((appTasksHandleCommand s c).1, { (appTasksHandleCommand s c).2 with telemetry := t }) := by
  unfold appTasksHandleCommand
  cases c.type with
  | move =>
    simp only [appTasksIsFaultBlockingMove]
    split
    · rfl
    · split
      · rfl
      · split <;> rfl
  | _ => rfl

variable [RtosApi B]

section WriteOnly

variable (s : Firmware B) (t : TelemetryState)

theorem enqueue_telemetry (line : Text) (message : TelemetryMessage) :
    appTasksEnqueueTelemetryLine { s with telemetry := t } line message =
      ((appTasksEnqueueTelemetryLine s line message).1,
        { (appTasksEnqueueTelemetryLine s line message).2 with telemetry := t }) := by
  unfold appTasksEnqueueTelemetryLine
  split <;> rfl

theorem commandStep_telemetry_irrelevant (w : LongWidth) (line : Option CString) (locals : Locals) :
    appCommandTaskStep w { s with telemetry := t } line locals =
      ((appCommandTaskStep w s line locals).1,
        { (appCommandTaskStep w s line locals).2 with telemetry := t }) := by
  cases line with
  | none => rfl
  | some line =>
    simp only [commandStep_eq, appCommandTaskQueue]
    split
    · simp only [enqueue_telemetry]
    · rfl

theorem motionBody_telemetry_irrelevant (deltaMs : UInt32) (locals : Locals) :
    appMotionTaskBody { s with telemetry := t } deltaMs locals =
      ((appMotionTaskBody s deltaMs locals).1,
        { (appMotionTaskBody s deltaMs locals).2 with telemetry := t }) := by
  simp only [motionBody_eq, appMotionTaskDispatch]
  split
  · have hhandle := handle_telemetry_irrelevant { s with context.commandQueue :=
      (RtosQueueApi.rtosQueueReceive s.context.commandQueue (encodeCommand locals.command)).2.1 } t
      (decodeCommand (RtosQueueApi.rtosQueueReceive s.context.commandQueue
        (encodeCommand locals.command)).2.2)
    rw [hhandle]
    rfl
  · rfl

theorem motionStep_telemetry_irrelevant (deltaMs : UInt32) (locals : Locals) :
    appMotionTaskStep { s with telemetry := t } deltaMs locals =
      ((appMotionTaskStep s deltaMs locals).1,
        { (appMotionTaskStep s deltaMs locals).2 with telemetry := t }) := by
  have hbody := motionBody_telemetry_irrelevant { s with
    context.stateMutex := (RtosMutexApi.rtosMutexLock s.context.stateMutex).2 } t deltaMs locals
  simp only [appMotionTaskStep]
  split
  · rfl
  · simp only at hbody
    rw [hbody]
    generalize appMotionTaskBody { s with
      context.stateMutex := (RtosMutexApi.rtosMutexLock s.context.stateMutex).2 } deltaMs locals = b
    simp only
    split
    · rfl
    · cases b.1.map (·.2) with
      | none => rfl
      | some text =>
        have hqueue := enqueue_telemetry { b.2 with
          context.stateMutex := (RtosMutexApi.rtosMutexUnlock b.2.context.stateMutex).2 } t text
          locals.telemetry
        simp only at hqueue ⊢
        rw [hqueue]

end WriteOnly

theorem telemetryAction_behind (s : Rtos B) (before : List Text) (locals : Locals) :
    telemetryAction (s.behind before) locals = (telemetryAction s locals).behind before := by
  obtain ⟨firmware, point⟩ := s
  cases point with
  | idle =>
    cases hl : (RtosMutexApi.rtosMutexLock firmware.context.stateMutex).1 <;>
      simp [telemetryAction, Rtos.behind, hl]
  | locked => rfl
  | snapped status =>
    cases hu : (RtosMutexApi.rtosMutexUnlock firmware.context.stateMutex).1 <;>
      simp [telemetryAction, Rtos.behind, hu]
  | draining status message =>
    cases hr : (RtosQueueApi.rtosQueueReceive firmware.context.telemetryQueue message).1 <;>
      simp [telemetryAction, Rtos.behind, hr]
  | received status message =>
    simp only [telemetryAction, Rtos.behind, sendLine_behind]
  | drained status =>
    simp only [telemetryAction, Rtos.behind, telemetrySendStatus, sendLine_behind]

/-- A task neither sees what was written before nor changes it. -/
theorem rtosStep_behind (w : LongWidth) (s : Rtos B) (before : List Text) (c : Choice) :
    rtosStep w telemetryAction (s.behind before) c =
      ((rtosStep w telemetryAction s c).1, (rtosStep w telemetryAction s c).2.behind before) := by
  cases c with
  | telemetry locals => simp only [rtosStep, telemetryAction_behind]
  | command line locals =>
    have hframe := commandStep_telemetry_irrelevant s.firmware s.firmware.telemetry w line locals
    have hout : (appCommandTaskStep w s.firmware line locals).2.telemetry = s.firmware.telemetry :=
      congrArg (fun r => r.2.telemetry) hframe
    simp only [rtosStep, appTaskStep, Rtos.behind, commandStep_telemetry_irrelevant, hout]
  | motion locals =>
    have hframe := motionStep_telemetry_irrelevant s.firmware s.firmware.telemetry
      APP_SCHEDULER_MOTION_PERIOD_MS locals
    have hout : (appMotionTaskStep s.firmware APP_SCHEDULER_MOTION_PERIOD_MS locals).2.telemetry =
        s.firmware.telemetry := congrArg (fun r => r.2.telemetry) hframe
    simp only [rtosStep, appTaskStep, Rtos.behind, motionStep_telemetry_irrelevant, hout]

/-! ## Steps of the interleavings -/

/-- The step of `rtosSystem` a scheduler step is, if it is one. -/
def SchedLabel.did (l : SchedLabel) : Option Label :=
  match l.event with
  | .acted _ did => did
  | _ => none

variable {K : Type} [TaskApi Task K] {w : LongWidth} {script : List CString} {s : AppScheduler B K}

/-- The firmware takes the step the label names, or none. -/
def TakesStep (w : LongWidth) (before after : Rtos B) (did : Option Label) : Prop :=
  (did = none ∧ after = before) ∨ ∃ choice, did = some (rtosStep w telemetryAction before choice).1 ∧
    after = (rtosStep w telemetryAction before choice).2

/-- What the command task holds is what the parser made of the line. -/
def AppScheduler.ParsedLine (w : LongWidth) (s : AppScheduler B K) : Prop :=
  ∀ line locals result c, s.commandTask = .parsed line locals result c →
    commandParserParse w (some line) locals.command = (result, c)

omit [TaskApi Task K] in
theorem bodyAction_did (script : List CString) (h : s.ParsedLine w) (p : Periodic) (locals : Locals) :
    TakesStep w s.rtos (bodyAction w script s p locals).2.2.rtos (bodyAction w script s p locals).1 := by
  cases p with
  | command =>
    rcases commandAction_cases w script s locals with ⟨-, -, he⟩ | ⟨line, result, c, -, -, -, he⟩ |
      ⟨line, locals', result, c, r, htask, hr, he⟩ <;> simp only [bodyAction, he]
    · exact Or.inl ⟨rfl, rfl⟩
    · exact Or.inl ⟨rfl, rfl⟩
    · -- the parser has run before, on nothing but the line
      have hqueue := commandStep_eq w s.rtos.firmware line locals'
      rw [h line locals' result c htask, hr] at hqueue
      refine Or.inr ⟨.command (some line) locals', ?_, ?_⟩ <;>
        simp only [rtosStep, appTaskStep, hqueue]
  | motion => exact Or.inr ⟨.motion locals, rfl, rfl⟩
  | telemetry => exact Or.inr ⟨.telemetry locals, rfl, rfl⟩

/-- Only the body of a loop concerns the firmware and the script. -/
theorem loopAction_firmware (w : LongWidth) (script : List CString) (s : AppScheduler B K) (p : Periodic)
    (locals : Locals) (c : SchedChoice) :
    let s' := (loopAction w script s p locals).2
    let did := SchedLabel.did ⟨c, (loopAction w script s p locals).1⟩
    let r := bodyAction w script s p locals
    ((s.loops p).point ≠ .body ∧ did = none ∧ s'.rtos = s.rtos ∧ s'.commandIndex = s.commandIndex ∧
      s'.commandTask = s.commandTask) ∨
    ((s.loops p).point = .body ∧ did = r.1 ∧ s'.rtos = r.2.2.rtos ∧
      s'.commandIndex = r.2.2.commandIndex ∧ s'.commandTask = r.2.2.commandTask) := by
  cases hpoint : (s.loops p).point with
  | check => cases hstop : s.stopRequested <;> simp [loopAction, hpoint, hstop, goto, SchedLabel.did]
  | body =>
    right
    simp only [loopAction, hpoint, SchedLabel.did, true_and]
    split <;> exact ⟨rfl, rfl, rfl⟩
  | _ => simp [loopAction, hpoint, SchedLabel.did]

theorem parsedLine_step (script : List CString) (h : s.ParsedLine w) (c : SchedChoice) :
    (AppScheduler.step w script s c).2.ParsedLine w := by
  intro line locals' result command htask
  rcases step_cases w script s c with ⟨-, he⟩ | ⟨locals, -, -, he⟩ | ⟨locals, p, -, -, he⟩ |
    ⟨locals, -, -, he⟩ <;> rw [he] at htask
  · exact h line locals' result command htask
  · exact h line locals' result command htask
  · rcases loopAction_firmware w script s p locals (.run locals) with ⟨-, -, -, -, hkeep⟩ |
      ⟨-, -, -, -, hbody⟩
    · exact h line locals' result command (hkeep ▸ htask)
    · rw [hbody] at htask
      rcases bodyAction_parsed w script s locals htask with hold | hnew
      · exact h line locals' result command hold
      · exact hnew
  · refine h line locals' result command ?_
    rw [← htask]
    simp only [supervisorAction]
    split <;> rfl

theorem step_did (script : List CString) (h : s.ParsedLine w) (c : SchedChoice) :
    TakesStep w s.rtos (AppScheduler.step w script s c).2.rtos
      (AppScheduler.step w script s c).1.did := by
  rcases step_cases w script s c with ⟨-, he⟩ | ⟨locals, -, -, he⟩ | ⟨locals, p, -, -, he⟩ |
    ⟨locals, -, -, he⟩ <;> rw [he]
  · exact Or.inl ⟨rfl, rfl⟩
  · exact Or.inl ⟨rfl, rfl⟩
  · rcases loopAction_firmware w script s p locals (.run locals) with ⟨-, hdid, hrtos, -⟩ |
      ⟨-, hdid, hrtos, -⟩
    · exact Or.inl ⟨hdid, hrtos⟩
    · rw [hdid, hrtos]
      exact bodyAction_did script h p locals
  · refine Or.inl ⟨rfl, ?_⟩
    simp only [supervisorAction]
    split <;> rfl

/-! ## Refinement -/

/-- What `telemetry_send_startup` writes. -/
def startupLines (writer : Bool) : List Text :=
  if writer then [TELEMETRY_STARTUP_LINE, ascii "\n"] else []

theorem init_telemetry {s₀ : Firmware B} {writer : Bool} (h : (appTasksInit s₀ writer).1 = true) :
    (appTasksInit s₀ writer).2.telemetry = ⟨writer, s₀.telemetry.written⟩ := by
  simp only [appTasksInit] at h ⊢
  split
  · rename_i hc
    simp [hc] at h
  · rename_i hc
    split
    · rename_i ht
      simp [hc, ht] at h
    · rename_i ht
      split
      · rename_i hm
        simp [hc, ht, hm] at h
      · rename_i hm
        split
        · rename_i he
          simp [hc, ht, hm, he] at h
        · rfl

theorem start_behind {s₀ : Firmware B} {writer : Bool} (hempty : s₀.telemetry.written = [])
    (h : appSchedulerStart s₀ writer = some s) :
    s.rtos = Rtos.behind ⟨(appTasksInit s₀ writer).2, .idle⟩ (startupLines writer) := by
  obtain ⟨hok, -, he⟩ := start_eq h
  have hout := init_telemetry hok
  rw [hempty] at hout
  rw [he]
  simp only [create, Rtos.behind, hout, startupLines, telemetrySendStartup, telemetrySendLine]
  cases writer <;> rfl

/-- **The scheduler takes steps of the interleavings.** -/
theorem scheduler_stuttering (w : LongWidth) (script : List CString) (writer : Bool) :
    (schedulerSystem B K w script writer).Stuttering (rtosSystem B w writer telemetryAction) SchedLabel.did
      fun s t => s.ParsedLine w ∧ s.rtos = t.behind (startupLines writer) where
  init := by
    intro s hinit
    obtain ⟨s₀, hempty, hstart⟩ := hinit
    have hparsed : s.ParsedLine w := by
      rw [(start_eq hstart).2.2]
      intro _ _ _ _ h
      cases h
    exact ⟨_, ⟨⟨s₀, hempty, rfl⟩, rfl⟩, hparsed, start_behind hempty hstart⟩
  stutter := by
    intro s t l s' hR hst hnone
    obtain ⟨hinv, hsame⟩ := hR
    obtain ⟨c, -, rfl, rfl⟩ := LTS.ofStep_step hst
    refine ⟨parsedLine_step script hinv c, ?_⟩
    rcases step_did script hinv c with ⟨-, hkeep⟩ | ⟨choice, hsome, -⟩
    · exact hkeep.trans hsame
    · rw [hsome] at hnone; cases hnone
  step := by
    intro s t l s' k hR hst hsome
    obtain ⟨hinv, hsame⟩ := hR
    obtain ⟨c, -, rfl, rfl⟩ := LTS.ofStep_step hst
    rcases step_did script hinv c with ⟨hnone, -⟩ | ⟨choice, hdid, hnext⟩
    · rw [hnone] at hsome; cases hsome
    · rw [hdid, hsame, rtosStep_behind] at hsome
      rw [hsame, rtosStep_behind] at hnext
      cases hsome
      exact ⟨_, LTS.step_of_act (rtosStep_choice w telemetryAction) t choice,
        parsedLine_step script hinv c, hnext⟩

/-- **Refinement of the interleavings.** -/
theorem scheduler_refinement {w : LongWidth} {script : List CString} {writer : Bool}
    {s₀ s : AppScheduler B K} {ls : List SchedLabel}
    (h0 : (schedulerSystem B K w script writer).init s₀)
    (hrun : (schedulerSystem B K w script writer).Run s₀ ls s) :
    ∃ t₀ t, (rtosSystem B w writer telemetryAction).init t₀ ∧
      (rtosSystem B w writer telemetryAction).Run t₀ (ls.filterMap SchedLabel.did) t ∧
      s.rtos = t.behind (startupLines writer) := by
  have hsim := scheduler_stuttering (B := B) (K := K) w script writer
  obtain ⟨t₀, ht₀, hR⟩ := hsim.init s₀ h0
  obtain ⟨t, hrun', -, hsame⟩ := hsim.run hR hrun
  exact ⟨t₀, t, ht₀, hrun', hsame⟩

theorem scheduler_refinement_demo : ∃ t₀ t, (rtosSystem targetBackend .lp64 true telemetryAction).init t₀ ∧
    (rtosSystem targetBackend .lp64 true telemetryAction).Run t₀
      ((demoRun (demoChoices 17 0)).1.filterMap SchedLabel.did) t ∧
    (demoRun (demoChoices 17 0)).2.rtos = t.behind (startupLines true) :=
  scheduler_refinement (schedulerStart_init .lp64 APP_SCHEDULER_DEMO_SCRIPT) (demoRun_run (demoChoices 17 0))

/-- So a run of the scheduler is one of the controller under preemption, up
to the boot message. -/
theorem scheduler_preempted [LawfulRtos B] {writer : Bool} {s₀ : AppScheduler B K}
    {ls : List SchedLabel} (h0 : (schedulerSystem B K w script writer).init s₀)
    (hrun : (schedulerSystem B K w script writer).Run s₀ ls s) :
    ∃ p₀ p t, (preemptedSystem w writer Preempted.action).init p₀ ∧
      (preemptedSystem w writer Preempted.action).Run p₀ (ls.filterMap SchedLabel.did) p ∧
      s.rtos = Rtos.behind t (startupLines writer) ∧ Follows t p ∧ p.Inv := by
  have hstut := scheduler_stuttering (B := B) (K := K) w script writer
  have hsim := rtos_simulation (B := B) w writer (fun _ _ locals h => follows_action h locals)
    ofActions_action
  obtain ⟨t₀, ht₀, hR⟩ := hstut.init s₀ h0
  obtain ⟨t, hrun', -, hsame⟩ := hstut.run hR hrun
  obtain ⟨p₀, hp₀, hF⟩ := hsim.init t₀ ht₀
  obtain ⟨p, hp, h, hinv⟩ := hsim.run hF hrun'
  exact ⟨p₀, p, t, hp₀, hp, hsame, h, hinv⟩

/-- In every state reached the command task holds what the parser made of its
line. -/
theorem parsed_reachable {writer : Bool} (hs : (schedulerSystem B K w script writer).Reachable s) :
    s.ParsedLine w := by
  obtain ⟨-, -, hparsed, -⟩ := (scheduler_stuttering w script writer).reachable hs
  exact hparsed

theorem scheduler_follows [LawfulRtos B] {writer : Bool}
    (hs : (schedulerSystem B K w script writer).Reachable s) :
    ∃ t p, s.rtos = Rtos.behind t (startupLines writer) ∧ Follows t p ∧ p.Inv := by
  obtain ⟨s₀, ls, h0, hrun⟩ := hs
  obtain ⟨-, p, t, -, -, hsame, h, hp⟩ := scheduler_preempted h0 hrun
  exact ⟨t, p, hsame, h, hp⟩

end MotionFirmware.L5
