import MotionFirmware.L5Scheduler.IdealKernel

/-!
# The invariant of the scheduler

What holds in every state the scheduler reaches on the ideal kernel
(`AppScheduler.Inv`): the kernel knows the four tasks and runs them until the
supervisor ends it, a task waits only in front of the test of its loop or
behind the loop, a step is in progress only while its loop is in its body, and
once the stop is requested no loop is.

The last part is where the priorities matter: the supervisor has the lowest,
so when it requests the stop every other task waits.
-/
namespace MotionFirmware.L5

open MotionFirmware.Core MotionFirmware.L1.Motion MotionFirmware.L1.Fault MotionFirmware.L1.Telemetry
open MotionFirmware.L1.Parser MotionFirmware.L2.Port MotionFirmware.L3.Messages MotionFirmware.L3.Tasks
open MotionFirmware.L4
open MotionFirmware.L2.TaskKernel

/-- No delay stands before the next action. -/
def LoopPoint.runnable : LoopPoint → Bool
  | .entry | .body | .delay => true
  | .check | .parked => false

namespace AppScheduler

variable {B : RtosBackend} {s : IdealScheduler B} {p : Periodic} {t : Task}

/-! ## Invariant -/

structure Inv (s : IdealScheduler B) : Prop where
  tasks : s.kernel.tasks = Task.created
  running : s.kernel.running = false ↔ s.supervisorTask = .ended
  prompt : ∀ p, (s.loops p).point.runnable = true → s.kernel.wake (.loop p) ≤ s.kernel.ticks
  telemetry : s.rtos.telemetryTask ≠ .idle → (s.loops .telemetry).point = .body
  command : s.commandTask ≠ .idle → (s.loops .command).point = .body
  parked : ∀ p, (s.loops p).point = .parked → s.stopRequested = true
  stopped : s.stopRequested = true → ∀ p, (s.loops p).point.runnable = false
  supervisor : s.stopRequested = false ↔
    s.supervisorTask = .entry ∨ s.supervisorTask = .requestStop

theorem Inv.stop_of_ended (h : s.Inv) (hended : s.supervisorTask = .ended) : s.stopRequested = true := by
  cases hstop : s.stopRequested with
  | true => rfl
  | false =>
    rcases h.supervisor.mp hstop with hsup | hsup <;> rw [hended] at hsup <;> cases hsup

/-! ## Who runs -/

theorem ready_of_run (h : s.taskToRun = some t) : s.kernel.wake t ≤ s.kernel.ticks :=
  (TaskView.runs h).2.1

/-- Nothing above the task that runs is ready. -/
theorem Inv.waits (hinv : s.Inv) (h : s.taskToRun = some t) {u : Task} (hlt : t.priority < u.priority) :
    s.kernel.ticks < s.kernel.wake u := by
  obtain ⟨-, -, n, hn, hhighest⟩ := TaskView.runs h
  rw [hinv.tasks] at hn hhighest
  obtain ⟨t', -, ht'⟩ := List.mem_map.mp hn
  cases ht'
  by_contra hready
  have := hhighest u u.priority u.mem_created (Nat.le_of_not_lt hready)
  omega

theorem Inv.not_ended (hinv : s.Inv) (h : s.taskToRun = some t) : s.supervisorTask ≠ .ended := by
  intro hended
  have hrunning := (TaskView.runs h).1
  rw [hinv.running.mpr hended] at hrunning
  cases hrunning

/-- Until the end some task is ready, or none is. -/
theorem Inv.idle (hinv : s.Inv) (h : s.taskToRun = none) (hended : s.supervisorTask ≠ .ended) (t : Task) :
    s.kernel.ticks < s.kernel.wake t := by
  refine TaskView.idles h ?_ (n := t.priority) (hinv.tasks ▸ t.mem_created)
  by_contra hrunning
  exact hended (hinv.running.mp (by simpa using hrunning))

theorem Inv.taskToRun_ended (hinv : s.Inv) (hended : s.supervisorTask = .ended) : s.taskToRun = none := by
  cases h : s.taskToRun with
  | none => rfl
  | some t => exact absurd hended (hinv.not_ended h)

/-- Every task above the one that runs is in front of its test or behind its
loop. -/
theorem Inv.waiting (h : s.Inv) (hrun : s.taskToRun = some t)
    (hlt : t.priority < (Task.loop p).priority) : (s.loops p).point.runnable = false := by
  by_contra hp
  have hready := h.prompt p (by simpa using hp)
  have hwaits := h.waits hrun hlt
  omega

/-- While the demo runs, it is in front of its test. -/
theorem Inv.check_of_above (h : s.Inv) (hstop : s.stopRequested = false) (hrun : s.taskToRun = some t)
    (hlt : t.priority < (Task.loop p).priority) : (s.loops p).point = .check := by
  have hrest := h.waiting hrun hlt
  cases hpoint : (s.loops p).point with
  | check => rfl
  | parked =>
    have := h.parked p hpoint
    rw [hstop] at this
    cases this
  | _ => rw [hpoint] at hrest; cases hrest

/-! ## It is kept -/

theorem inv_create (firmware : Firmware B) : Inv (create firmware (TaskView.started Task.created)) where
  tasks := rfl
  running := ⟨fun h => (by cases h), fun h => (by cases h)⟩
  prompt _ _ := Nat.le_refl 0
  telemetry h := absurd rfl h
  command h := absurd rfl h
  parked _ h := by cases h
  stopped h := by cases h
  supervisor := ⟨fun _ => Or.inl rfl, fun _ => rfl⟩

theorem inv_tick (h : s.Inv) : Inv { s with kernel := s.kernel.tick } :=
  { h with prompt := fun p hp => Nat.le_succ_of_le (h.prompt p hp) }

theorem inv_supervisor (h : s.Inv) (hrun : s.taskToRun = some .supervisor) : s.supervisorAction.Inv := by
  have hwaiting (p : Periodic) : (s.loops p).point.runnable = false :=
    h.waiting hrun (by cases p <;> decide)
  have hnever (p : Periodic) : ¬ (s.loops p).point.runnable = true := by rw [hwaiting p]; decide
  have hrunning : s.kernel.running = true := (TaskView.runs hrun).1
  obtain ⟨h1, h2, h3, h4, h5, h6, h7, h8⟩ := h
  cases hsup : s.supervisorTask with
  | entry =>
    simp only [supervisorAction, hsup]
    exact ⟨h1, by simp [TaskView.delay, hrunning], fun p hp => absurd hp (hnever p), h4, h5, h6, h7,
      by simp [h8, hsup]⟩
  | requestStop =>
    simp only [supervisorAction, hsup]
    exact ⟨h1, by simp [hrunning], h3, h4, h5, fun _ _ => rfl, fun _ => hwaiting, by simp⟩
  | grace =>
    simp only [supervisorAction, hsup]
    exact ⟨h1, by simp [TaskView.delay, hrunning], fun p hp => absurd hp (hnever p), h4, h5, h6, h7,
      by simp [h8, hsup]⟩
  | endScheduler =>
    simp only [supervisorAction, hsup]
    exact ⟨h1, ⟨fun _ => rfl, fun _ => rfl⟩, h3, h4, h5, h6, h7, by simp [h8, hsup]⟩
  | ended =>
    simp only [supervisorAction, hsup]
    exact ⟨h1, h2, h3, h4, h5, h6, h7, h8⟩

/-- A loop that goes on to another point, outside its body. -/
theorem Inv.move (h : s.Inv) (l : TaskLoop) (wake : Nat)
    (htel : p = .telemetry → s.rtos.telemetryTask = .idle) (hcmd : p = .command → s.commandTask = .idle)
    (hprompt : l.point.runnable = true → wake ≤ s.kernel.ticks)
    (hparked : l.point = .parked → s.stopRequested = true)
    (hstopped : s.stopRequested = true → l.point.runnable = false) :
    Inv { s with
      loops := Function.update s.loops p l
      kernel := s.kernel.wakeAt (.loop p) wake } := by
  refine ⟨h.tasks, h.running, fun q hq => ?_, fun hne => ?_, fun hne => ?_, fun q hq => ?_, fun hs q => ?_,
    h.supervisor⟩
  · dsimp only at hq ⊢
    by_cases hqp : q = p
    · subst hqp
      rw [Function.update_self] at hq
      rw [TaskView.wakeAt_wake]
      exact hprompt hq
    · rw [Function.update_of_ne hqp] at hq
      rw [TaskView.wakeAt_wake_of_ne _ _ _ (by simpa using hqp)]
      exact h.prompt q hq
  · have hp : Periodic.telemetry ≠ p := fun e => hne (htel e.symm)
    simp only [Function.update_of_ne hp]
    exact h.telemetry hne
  · have hp : Periodic.command ≠ p := fun e => hne (hcmd e.symm)
    simp only [Function.update_of_ne hp]
    exact h.command hne
  · dsimp only at hq ⊢
    by_cases hqp : q = p
    · subst hqp
      rw [Function.update_self] at hq
      exact hparked hq
    · rw [Function.update_of_ne hqp] at hq
      exact h.parked q hq
  · by_cases hqp : q = p
    · subst hqp
      simp only [Function.update_self]
      exact hstopped hs
    · simp only [Function.update_of_ne hqp]
      exact h.stopped hs q

/-- The same, when no delay is involved. -/
theorem Inv.moveReady (h : s.Inv) (hrun : s.taskToRun = some (.loop p)) {l : TaskLoop}
    (htel : p = .telemetry → s.rtos.telemetryTask = .idle) (hcmd : p = .command → s.commandTask = .idle)
    (hparked : l.point = .parked → s.stopRequested = true)
    (hstopped : s.stopRequested = true → l.point.runnable = false) :
    Inv { s with loops := Function.update s.loops p l } := by
  have hmoved := h.move l (s.kernel.wake (.loop p)) htel hcmd (fun _ => ready_of_run hrun) hparked hstopped
  rw [TaskView.wakeAt_wake_self] at hmoved
  exact hmoved

/-- Outside its body a loop has no step in progress. -/
theorem Inv.outside (h : s.Inv) (hp : (s.loops p).point ≠ .body) :
    (p = .telemetry → s.rtos.telemetryTask = .idle) ∧ (p = .command → s.commandTask = .idle) := by
  refine ⟨fun e => ?_, fun e => ?_⟩ <;> subst e
  · exact Classical.not_not.mp (fun hne => hp (h.telemetry hne))
  · exact Classical.not_not.mp (fun hne => hp (h.command hne))

variable [RtosApi B] {w : LongWidth} {script : List CString}

/-- In its body a task keeps the invariant, whether its step is over or not. -/
theorem inv_body (w : LongWidth) (script : List CString) (h : s.Inv) (hpoint : (s.loops p).point = .body)
    (locals : Locals) : (bodyAction w script s p locals).2.2.Inv := by
  obtain ⟨h1, h2, h3, h4, h5, h6, h7, h8⟩ := h
  have htel := fun hp => bodyAction_telemetryTask w script s locals (p := p) hp
  have hcmd := fun hp => bodyAction_commandTask w script s locals (p := p) hp
  rw [bodyAction_frame]
  refine ⟨h1, h2, h3, fun hne => ?_, fun hne => ?_, h6, h7, h8⟩
  · by_cases hp : p = .telemetry
    · subst hp; exact hpoint
    · exact h4 (by rw [← htel hp]; exact hne)
  · by_cases hp : p = .command
    · subst hp; exact hpoint
    · exact h5 (by rw [← hcmd hp]; exact hne)

theorem inv_loop (w : LongWidth) (script : List CString) (h : s.Inv) (hrun : s.taskToRun = some (.loop p))
    (locals : Locals) : (loopAction w script s p locals).2.Inv := by
  cases hpoint : (s.loops p).point with
  | entry =>
    obtain ⟨htel, hcmd⟩ := h.outside (p := p) (by rw [hpoint]; decide)
    simp only [loopAction, hpoint]
    exact h.moveReady hrun htel hcmd (fun e => by cases e) fun _ => rfl
  | check =>
    obtain ⟨htel, hcmd⟩ := h.outside (p := p) (by rw [hpoint]; decide)
    simp only [loopAction, hpoint]
    split
    · rename_i hstop
      exact h.moveReady hrun htel hcmd (fun _ => hstop) fun _ => rfl
    · rename_i hstop
      exact h.moveReady hrun htel hcmd (fun e => by cases e) fun e => absurd e hstop
  | body =>
    have hbody := inv_body w script h hpoint locals
    have hstop : s.stopRequested ≠ true := fun e => by
      have := h.stopped e p
      rw [hpoint] at this
      cases this
    simp only [loopAction, hpoint]
    split
    · rename_i hover
      obtain ⟨htel, hcmd⟩ := bodyAction_finished w script s locals hover
      have hframe := bodyAction_frame w script s locals p
      have hrun' : (bodyAction w script s p locals).2.2.taskToRun = some (.loop p) := by
        rw [hframe]; exact hrun
      have hstop' : (bodyAction w script s p locals).2.2.stopRequested ≠ true := by
        rw [hframe]; exact hstop
      exact hbody.moveReady hrun' htel hcmd (fun e => by cases e) fun e => absurd e hstop'
    · exact hbody
  | delay =>
    obtain ⟨htel, hcmd⟩ := h.outside (p := p) (by rw [hpoint]; decide)
    simp only [loopAction, hpoint]
    have hmoved := h.move (p := p)
      ⟨.check, (s.loops p).lastWakeTime + TaskApi.pdMsToTicks (TaskView Task) p.periodMs⟩
      (s.kernel.nextWake (.loop p) (s.loops p).lastWakeTime (TaskApi.pdMsToTicks (TaskView Task) p.periodMs))
      htel hcmd (fun e => by cases e) (fun e => by cases e) fun _ => rfl
    rw [← TaskView.delayUntil_eq] at hmoved
    exact hmoved
  | parked =>
    obtain ⟨htel, hcmd⟩ := h.outside (p := p) (by rw [hpoint]; decide)
    have hsame : Function.update s.loops p (s.loops p) = s.loops := Function.update_eq_self _ _
    simp only [loopAction, hpoint]
    have hmoved := h.move (s.loops p) (s.kernel.ticks +
        (TaskApi.pdMsToTicks (TaskView Task) APP_SCHEDULER_SHUTDOWN_GRACE_MS).toNat)
      htel hcmd (fun e => by rw [hpoint] at e; cases e)
      (fun _ => h.parked p hpoint) fun _ => by rw [hpoint]; rfl
    rw [hsame] at hmoved
    exact hmoved

theorem inv_step (script : List CString) (h : s.Inv) (c : SchedChoice) : (step w script s c).2.Inv := by
  rcases step_cases w script s c with ⟨-, he⟩ | ⟨locals, -, -, he⟩ | ⟨locals, p, -, hrun, he⟩ |
    ⟨locals, -, hrun, he⟩ <;> rw [he]
  · exact inv_tick h
  · exact h
  · exact inv_loop w script h hrun locals
  · exact inv_supervisor h hrun

end AppScheduler

variable {B : RtosBackend} [RtosApi B]

theorem scheduler_inductive (w : LongWidth) (script : List CString) (writer : Bool) :
    (idealSystem B w script writer).Inductive AppScheduler.Inv := by
  refine LTS.inductive_ofStep ?_ fun s c h => AppScheduler.inv_step script h c
  intro s hinit
  obtain ⟨s₀, -, hstart⟩ := hinit
  rw [(start_eq hstart).2.2]
  exact AppScheduler.inv_create _

end MotionFirmware.L5
