import MotionFirmware.L5Scheduler.Workload

/-!
# Schedules without overload

The schedules in which the tasks are always done before the next tick: time
passes only while nothing is ready (`InTime`). There every activation starts
in the tick it is released in, and nothing preempts it (`OnTick`): the `k`-th
activation of a task runs at `k * period`, after those of the tasks above it
and before those of the tasks below.

`can_end`: whatever has happened, there is such a schedule to the end of the
demo.
-/
namespace MotionFirmware.L5

open MotionFirmware.Core MotionFirmware.L1.Motion MotionFirmware.L1.Fault MotionFirmware.L1.Telemetry
open MotionFirmware.L1.Parser MotionFirmware.L2.Port MotionFirmware.L3.Messages MotionFirmware.L3.Tasks
open MotionFirmware.L4
open AppScheduler
open MotionFirmware.L2.FreertosPort (targetBackend)
open MotionFirmware.L2.TaskKernel

variable {B : RtosBackend} {w : LongWidth} {script : List CString} {writer : Bool}
  {s s' s₀ : IdealScheduler B} {ls : List SchedLabel} {p q : Periodic}

/-- Time passes only while nothing is ready. -/
def InTime {K : Type} [TaskApi Task K] (s : AppScheduler B K) (l : SchedLabel) : Prop :=
  l.isTick = true → s.taskToRun = none

/-- A loop with an activation in progress. -/
def LoopPoint.active : LoopPoint → Bool
  | .body | .delay => true
  | .entry | .check | .parked => false

theorem LoopPoint.runnable_of_active {point : LoopPoint} (h : point.active = true) :
    point.runnable = true := by cases point <;> first | rfl | cases h

/-- Every activation in its own tick, and on its own. -/
structure OnTick (ls : List SchedLabel) (s : IdealScheduler B) : Prop where
  timed : ∀ p, Timed p ls s
  entry : ∀ p, (s.loops p).point = .entry → s.kernel.ticks = 0
  base : ∀ p, (s.loops p).point ≠ .entry → entries p ls = [0]
  check : ∀ p, (s.loops p).point = .check → s.kernel.ticks ≤ release 0 p.periodTicks (starts p ls).length
  active : ∀ p, (s.loops p).point.active = true → starts p ls ≠ [] ∧
    s.kernel.ticks = release 0 p.periodTicks ((starts p ls).length - 1)
  above : ∀ p q, (s.loops p).point.active = true → (Task.loop p).priority < (Task.loop q).priority →
    s.kernel.ticks < s.kernel.wake (.loop q)

/-- The history of a task that has run, from tick 0. -/
theorem OnTick.history (h : OnTick ls s) (hp : (s.loops p).point ≠ .entry) : TaskHistory p 0 ls s := by
  rcases h.timed p with ⟨he, -⟩ | ⟨-, base, hist⟩
  · exact absurd he hp
  · have hbase := hist.entered
    rw [h.base p hp] at hbase
    cases hbase
    exact hist

/-- No task has had more activations than were due. -/
theorem OnTick.count_le (h : OnTick ls s) (p : Periodic) :
    (starts p ls).length ≤ due 0 p.periodTicks s.kernel.ticks := by
  by_cases hp : (s.loops p).point = .entry
  · rcases h.timed p with ⟨-, -, hnone⟩ | ⟨hne, -⟩
    · rw [hnone]
      exact Nat.zero_le _
    · exact absurd hp hne
  · exact (h.history hp).count_le

/-- The priorities are distinct. -/
theorem priority_lt_or (h : p ≠ q) : (Task.loop p).priority < (Task.loop q).priority ∨
    (Task.loop q).priority < (Task.loop p).priority := by
  cases p <;> cases q <;> first | exact absurd rfl h | (left; decide) | (right; decide)

/-- While an activation is in progress, no other task runs that is above it or
also in progress. -/
theorem OnTick.alone (h : OnTick ls s) (hinv : s.Inv) (hrun : s.taskToRun = some (.loop p))
    (hactive : (s.loops q).point.active = true) : q = p := by
  by_contra hne
  have hready := ready_of_run hrun
  rcases priority_lt_or hne with hlt | hlt
  · have := h.above q p hactive hlt
    omega
  · have hwaits := hinv.waits hrun hlt
    have := hinv.prompt q (LoopPoint.runnable_of_active hactive)
    omega

/-- The same task, nothing started. -/
theorem OnTick.frame (h : OnTick ls s) {ls' : List SchedLabel} (htimed : ∀ p, Timed p ls' s')
    (he : ∀ p, entries p ls' = entries p ls) (hs : ∀ p, starts p ls' = starts p ls)
    (hl : s'.loops = s.loops) (hw : ∀ p, s'.kernel.wake (.loop p) = s.kernel.wake (.loop p))
    (ht : s'.kernel.ticks = s.kernel.ticks) : OnTick ls' s' := by
  refine ⟨htimed, ?_, ?_, ?_, ?_, ?_⟩
  · rw [hl, ht]
    exact h.entry
  · simp only [hl, he]
    exact h.base
  · simp only [hl, ht, hs]
    exact h.check
  · simp only [hl, ht, hs]
    exact h.active
  · simp only [hl, ht, hw]
    exact h.above

/-- Time passes while every task waits. -/
theorem onTick_tick (h : OnTick ls s) (hinv : s.Inv) (hidle : s.taskToRun = none)
    (hstop : s.stopRequested = false) {l : SchedLabel} (htimed : ∀ p, Timed p (ls ++ [l]) s')
    (he : ∀ p, l.event.enters p = false) (hs : ∀ p, l.event.begins p = false)
    (hs' : s' = { s with kernel := s.kernel.tick }) : OnTick (ls ++ [l]) s' := by
  have hended : s.supervisorTask ≠ .ended := by
    intro e
    rw [hinv.stop_of_ended e] at hstop
    cases hstop
  have hwaits (p : Periodic) := hinv.idle hidle hended (.loop p)
  have hcheck (p : Periodic) : (s.loops p).point = .check := by
    cases hpoint : (s.loops p).point with
    | check => rfl
    | parked =>
      have := hinv.parked p hpoint
      rw [hstop] at this
      cases this
    | _ =>
      have hready := hinv.prompt p (by rw [hpoint]; rfl)
      have := hwaits p
      omega
  have hentries (p : Periodic) : entries p (ls ++ [l]) = entries p ls := by simp [entries_snoc, he p]
  have hstarts (p : Periodic) : starts p (ls ++ [l]) = starts p ls := by simp [starts_snoc, hs p]
  refine ⟨htimed, fun p e => ?_, fun p _ => ?_, fun p _ => ?_, fun p e => ?_, fun p q e _ => ?_⟩
  · rw [hs'] at e
    simp only [hcheck] at e
    cases e
  · rw [hentries]
    exact h.base p (by rw [hcheck]; decide)
  · rw [hs', hstarts]
    exact (h.history (by rw [hcheck]; decide)).next (hcheck p) (hwaits p)
  · rw [hs'] at e
    simp only [hcheck] at e
    cases e
  · rw [hs'] at e
    simp only [hcheck] at e
    cases e

/-- The supervisor sleeps from tick 0 for as long as the demo runs. -/
structure Runtime (s : IdealScheduler B) : Prop where
  entry : s.supervisorTask = .entry → s.kernel.ticks = 0 ∧ s.kernel.wake .supervisor = 0
  runtime : s.supervisorTask = .requestStop → s.kernel.ticks ≤ inTicks APP_SCHEDULER_DEMO_RUNTIME_MS ∧
    s.kernel.wake .supervisor = inTicks APP_SCHEDULER_DEMO_RUNTIME_MS

/-- So the tick count does not wrap before the stop. -/
theorem Runtime.ticks_le (h : Runtime s) (hinv : s.Inv) (hstop : s.stopRequested = false) :
    s.kernel.ticks ≤ inTicks APP_SCHEDULER_DEMO_RUNTIME_MS := by
  rcases hinv.supervisor.mp hstop with hsup | hsup
  · rw [(h.entry hsup).1]
    exact Nat.zero_le _
  · exact (h.runtime hsup).1

variable [RtosApi B]

/-- What a task's own action leaves it with. -/
theorem onTick_own_loop (script : List CString) (h : OnTick ls s) (hinv : s.Inv)
    (hrun : s.taskToRun = some (.loop p)) (hstop : s.stopRequested = false)
    (htime : s.kernel.ticks = elapsed ls) (locals : Locals) (c : SchedChoice) :
    let l : SchedLabel := ⟨c, (loopAction w script s p locals).1⟩
    let s' := (loopAction w script s p locals).2
    (s'.loops p).point ≠ .entry ∧ entries p (ls ++ [l]) = [0] ∧
      ((s'.loops p).point = .check → s.kernel.ticks ≤ release 0 p.periodTicks (starts p (ls ++ [l])).length) ∧
      ((s'.loops p).point.active = true → starts p (ls ++ [l]) ≠ [] ∧
        s.kernel.ticks = release 0 p.periodTicks ((starts p (ls ++ [l])).length - 1)) := by
  intro l s'
  obtain ⟨henters, hbegins⟩ := loopAction_marks w script s p p locals
  have hready := ready_of_run hrun
  have hentries : entries p (ls ++ [l]) = _ := entries_snoc p ls l
  have hstarts : starts p (ls ++ [l]) = _ := starts_snoc p ls l
  rw [henters, ← htime] at hentries
  rw [hbegins, ← htime] at hstarts
  rw [hentries, hstarts]
  cases hpoint : (s.loops p).point with
  | entry =>
    have hzero := h.entry p hpoint
    rcases h.timed p with ⟨-, hnone, -⟩ | ⟨hne, -⟩
    · simp [s', loopAction, hpoint, hnone, hzero, LoopPoint.active]
    · exact absurd hpoint hne
  | check =>
    have hbase := h.base p (by rw [hpoint]; decide)
    have hreleased := (h.history (p := p) (by rw [hpoint]; decide)).released hpoint hready
    have hnow := Nat.le_antisymm (h.check p hpoint) hreleased
    simpa [s', loopAction, hpoint, hstop, goto, hbase, LoopPoint.active] using hnow
  | body =>
    have hbase := h.base p (by rw [hpoint]; decide)
    have hnow := h.active p (by rw [hpoint]; rfl)
    have hframe := bodyAction_frame w script s locals p
    simp only [s', loopAction, hpoint]
    split <;> rw [hframe] <;> simpa [goto, hpoint, hbase] using fun _ => hnow
  | delay =>
    have hbase := h.base p (by rw [hpoint]; decide)
    obtain ⟨-, hnow⟩ := h.active p (by rw [hpoint]; rfl)
    have hle : release 0 p.periodTicks ((starts p ls).length - 1) ≤
        release 0 p.periodTicks (starts p ls).length :=
      Nat.add_le_add_left (Nat.mul_le_mul_left _ (Nat.sub_le _ _)) _
    simp [s', loopAction, hpoint, hbase, LoopPoint.active, hnow, hle]
  | parked =>
    have := hinv.parked p hpoint
    rw [hstop] at this
    cases this

/-- A task's own action. -/
theorem onTick_own (h : OnTick ls s) (hinv : s.Inv) (hrun : s.taskToRun = some (.loop p))
    (hstop : s.stopRequested = false) (htime : s.kernel.ticks = elapsed ls) (locals : Locals)
    (c : SchedChoice)
    (htimed : ∀ q, Timed q (ls ++ [⟨c, (loopAction w script s p locals).1⟩])
      (loopAction w script s p locals).2) :
    OnTick (ls ++ [⟨c, (loopAction w script s p locals).1⟩]) (loopAction w script s p locals).2 := by
  obtain ⟨h1, h2, h3, h4⟩ := onTick_own_loop (w := w) script h hinv hrun hstop htime locals c
  have htick := loopAction_ticks w script s p locals
  have hother (q : Periodic) (hq : q ≠ p) := loopAction_other w script s hq locals
  have hmarks (q : Periodic) (hq : q ≠ p) :
      entries q (ls ++ [⟨c, (loopAction w script s p locals).1⟩]) = entries q ls ∧
        starts q (ls ++ [⟨c, (loopAction w script s p locals).1⟩]) = starts q ls := by
    obtain ⟨henters, hbegins⟩ := loopAction_marks w script s p q locals
    have hq' : ¬ p = q := fun e => hq e.symm
    simp [entries_snoc, starts_snoc, henters, hbegins, hq']
  refine ⟨htimed, fun q e => ?_, fun q hne => ?_, fun q e => ?_, fun q e => ?_, fun q r e hlt => ?_⟩
  · by_cases hq : q = p
    · subst hq
      exact absurd e h1
    · rw [(hother q hq).1] at e
      rw [htick]
      exact h.entry q e
  · by_cases hq : q = p
    · subst hq
      exact h2
    · rw [(hother q hq).1] at hne
      rw [(hmarks q hq).1]
      exact h.base q hne
  · rw [htick]
    by_cases hq : q = p
    · subst hq
      exact h3 e
    · rw [(hother q hq).1] at e
      rw [(hmarks q hq).2]
      exact h.check q e
  · rw [htick]
    by_cases hq : q = p
    · subst hq
      exact h4 e
    · rw [(hother q hq).1] at e
      rw [(hmarks q hq).2]
      exact h.active q e
  · -- only the task that runs is inside an activation
    have hq : q = p := by
      by_contra hq
      rw [(hother q hq).1] at e
      exact hq (h.alone hinv hrun e)
    subst hq
    have hr : r ≠ q := fun e => by rw [e] at hlt; exact absurd hlt (Nat.lt_irrefl _)
    rw [htick, (hother r hr).2]
    exact hinv.waits hrun hlt

/-- The supervisor sleeps through the demo. -/
theorem runtime_step (h : Runtime s) (hinv : s.Inv) {c : SchedChoice}
    (hintime : InTime s (AppScheduler.step w script s c).1) :
    Runtime (AppScheduler.step w script s c).2 := by
  rcases step_cases w script s c with ⟨-, he⟩ | ⟨locals, -, -, he⟩ | ⟨locals, p, -, -, he⟩ |
    ⟨locals, -, hrun, he⟩ <;> rw [he] at hintime ⊢
  · have hidle := hintime rfl
    refine ⟨fun e => ?_, fun e => ?_⟩
    · have hwait := hinv.idle hidle (fun e' => by rw [e'] at e; cases e) .supervisor
      have hnow := h.entry e
      omega
    · have hwait := hinv.idle hidle (fun e' => by rw [e'] at e; cases e) .supervisor
      obtain ⟨hnow, hwake⟩ := h.runtime e
      exact ⟨by simp only [tick_ideal, TaskView.tick_ticks]; omega, hwake⟩
  · exact h
  · obtain ⟨h1, -, h2⟩ := loopAction_supervision w script s p locals
    refine ⟨?_, ?_⟩ <;> rw [h1, h2, loopAction_ticks w script s]
    · exact h.entry
    · exact h.runtime
  · cases hsup : s.supervisorTask with
    | entry =>
      obtain ⟨hnow, -⟩ := h.entry hsup
      have hdemo : (TaskApi.pdMsToTicks (TaskView Task) APP_SCHEDULER_DEMO_RUNTIME_MS).toNat =
          inTicks APP_SCHEDULER_DEMO_RUNTIME_MS := pdMsToTicks_toNat (by decide)
      refine ⟨?_, ?_⟩ <;> simp [supervisorAction, hsup, TaskView.delay, hnow, hdemo]
    | ended => exact absurd hsup (hinv.not_ended hrun)
    | _ => refine ⟨?_, ?_⟩ <;> simp [supervisorAction, hsup]

/-- A step of the tasks, or a tick between them. -/
theorem onTick_step (h : OnTick ls s) (hinv : s.Inv) (hbound : s.kernel.ticks < 2 ^ 32)
    (htime : s.kernel.ticks = elapsed ls) {c : SchedChoice}
    (hintime : InTime s (AppScheduler.step w script s c).1)
    (hstop : (AppScheduler.step w script s c).2.stopRequested = false) :
    OnTick (ls ++ [(AppScheduler.step w script s c).1]) (AppScheduler.step w script s c).2 := by
  have htimed := fun p => timed_step (w := w) script (h.timed p) htime hbound c
  rcases step_cases w script s c with ⟨-, he⟩ | ⟨locals, -, -, he⟩ | ⟨locals, p, -, hrun, he⟩ |
    ⟨locals, -, hrun, he⟩ <;> rw [he] at htimed hstop hintime ⊢
  · exact onTick_tick h hinv (hintime rfl) hstop htimed (fun _ => rfl) (fun _ => rfl) rfl
  · exact h.frame htimed (by simp [entries_snoc, SchedEvent.enters])
      (by simp [starts_snoc, SchedEvent.begins]) rfl (fun _ => rfl) rfl
  · rw [(loopAction_supervision w script s p locals).2.1] at hstop
    exact onTick_own h hinv hrun hstop htime locals _ htimed
  · have hframe := supervisorAction_frame s
    exact h.frame htimed (by simp [entries_snoc, SchedEvent.enters])
      (by simp [starts_snoc, SchedEvent.begins]) (funext fun p => (hframe p).1)
      (fun p => (hframe p).2.1) (hframe .motion).2.2

/-- Nobody takes the stop back. -/
theorem stop_mono (script : List CString) (s : IdealScheduler B) (c : SchedChoice)
    (h : (AppScheduler.step w script s c).2.stopRequested = false) : s.stopRequested = false := by
  rcases step_cases w script s c with ⟨-, he⟩ | ⟨locals, -, -, he⟩ | ⟨locals, p, -, -, he⟩ |
    ⟨locals, -, -, he⟩ <;> rw [he] at h
  · exact h
  · exact h
  · rw [(loopAction_supervision w script s p locals).2.1] at h
    exact h
  · unfold supervisorAction at h
    cases hsup : s.supervisorTask <;> simp only [hsup] at h <;> first | exact h | cases h

/-- While the demo runs, every activation is on its tick. -/
theorem onTick_run (h0 : (idealSystem B w script writer).init s₀)
    (hrun : ((idealSystem B w script writer).restrict InTime).Run s₀ ls s) :
    Runtime s ∧ (s.stopRequested = false → OnTick ls s) := by
  have hind := (scheduler_inductive (B := B) w script writer).restrict InTime
  refine (hind.history (P := fun ls s => s.kernel.ticks = elapsed ls ∧ Runtime s ∧
    (s.stopRequested = false → OnTick ls s)) (hind.init s₀ h0) ?_ ?_ hrun).2
  · have htimed := timed_run h0 LTS.Run.nil (by decide)
    obtain ⟨s₀', -, hstart⟩ := h0
    rw [(start_eq hstart).2.2] at htimed ⊢
    exact ⟨rfl, ⟨fun _ => ⟨rfl, rfl⟩, fun e => (by cases e)⟩, fun _ => ⟨htimed, fun _ _ => rfl,
      fun _ e => absurd rfl e, fun _ e => (by cases e), fun _ e => (by cases e), fun _ _ e => (by cases e)⟩⟩
  · intro ls s l s' hinv hP hst
    obtain ⟨htime, hruntime, hontick⟩ := hP
    obtain ⟨hst, hintime⟩ := hst
    obtain ⟨c, -, rfl, rfl⟩ := LTS.ofStep_step hst
    refine ⟨ticks_step script htime c, runtime_step hruntime hinv hintime, fun hstop => ?_⟩
    have hbefore := stop_mono script s c hstop
    have hlong : inTicks APP_SCHEDULER_DEMO_RUNTIME_MS < 2 ^ 32 := by decide
    exact onTick_step (hontick hbefore) hinv ((hruntime.ticks_le hinv hbefore).trans_lt hlong) htime
      hintime hstop

/-! ## To the end -/

/-- The supervisor waits as it did, or has got further. -/
theorem supervisor_step (script : List CString) (hinv : s.Inv) (c : SchedChoice) :
    ((AppScheduler.step w script s c).2.supervisorTask = s.supervisorTask ∧
      (AppScheduler.step w script s c).2.kernel.wake .supervisor = s.kernel.wake .supervisor) ∨
    (AppScheduler.step w script s c).2.supervisorTask.work < s.supervisorTask.work := by
  rcases step_cases w script s c with ⟨-, he⟩ | ⟨locals, -, -, he⟩ | ⟨locals, p, -, -, he⟩ |
    ⟨locals, -, hrun, he⟩ <;> rw [he]
  · exact Or.inl ⟨rfl, rfl⟩
  · exact Or.inl ⟨rfl, rfl⟩
  · obtain ⟨h1, -, h2⟩ := loopAction_supervision w script s p locals
    exact Or.inl ⟨h1, h2⟩
  · have hended := hinv.not_ended hrun
    right
    cases hsup : s.supervisorTask with
    | ended => exact absurd hsup hended
    | _ => simp [supervisorAction, hsup, SupervisorPoint.work]

theorem supervisor_run (hinv : s.Inv) (hrun : (idealSystem B w script writer).Run s ls s') :
    s.kernel.ticks ≤ s'.kernel.ticks ∧ ((s'.supervisorTask = s.supervisorTask ∧
      s'.kernel.wake .supervisor = s.kernel.wake .supervisor) ∨
      s'.supervisorTask.work < s.supervisorTask.work) := by
  refine (scheduler_inductive w script writer).history (P := fun _ s' => s.kernel.ticks ≤ s'.kernel.ticks ∧
    ((s'.supervisorTask = s.supervisorTask ∧ s'.kernel.wake .supervisor = s.kernel.wake .supervisor) ∨
      s'.supervisorTask.work < s.supervisorTask.work)) hinv ⟨Nat.le_refl _, Or.inl ⟨rfl, rfl⟩⟩ ?_ hrun
  intro ls u l u' hu ih hst
  obtain ⟨hle, hih⟩ := ih
  obtain ⟨c, -, rfl, rfl⟩ := LTS.ofStep_step hst
  refine ⟨hle.trans ?_, ?_⟩
  · rcases step_busy (w := w) script u c with ⟨he, -⟩ | ⟨he, -⟩ | ⟨-, he, -⟩
    · rw [he]
      exact Nat.le_succ _
    · rw [he]
    · exact he.ge
  · rcases supervisor_step (w := w) script hu c with ⟨h1, h2⟩ | hlt
    · rw [h1, h2]
      exact hih
    · rcases hih with ⟨h1, -⟩ | hlt'
      · exact Or.inr (by rw [← h1]; exact hlt)
      · exact Or.inr (hlt.trans hlt')

/-- The tasks catch up before the next tick. -/
theorem catch_up [LawfulRtos B] (hs : (idealSystem B w script writer).Reachable s) :
    ∃ ls s', ((idealSystem B w script writer).restrict InTime).Run s ls s' ∧ s'.taskToRun = none := by
  have hchoices := LTS.exec_act (step_choice w script)
    ((List.replicate (work s) zeroLocals).map .run) s
  have hrun : (idealSystem B w script writer).Run s _ _ :=
    LTS.run_exec (step_choice w script) ((List.replicate (work s) zeroLocals).map .run) s
  have hidle := idle_after (List.replicate (work s) zeroLocals) hs
    (Or.inr (by rw [List.length_replicate]))
  refine ⟨_, _, LTS.Run.restrict hrun ?_, hidle⟩
  intro l hl u htick
  have hmem := List.mem_map_of_mem (f := SchedLabel.choice) hl
  rw [hchoices, List.mem_map] at hmem
  obtain ⟨locals, -, hchoice⟩ := hmem
  rw [SchedLabel.isTick, ← hchoice] at htick
  cases htick

/-- The supervisor gets further, after `m` more ticks at most. -/
theorem supervisor_advances [LawfulRtos B] (m : Nat) (hs : (idealSystem B w script writer).Reachable s)
    (hidle : s.taskToRun = none) (hended : s.supervisorTask ≠ .ended)
    (hm : s.kernel.wake .supervisor ≤ s.kernel.ticks + m) :
    ∃ ls s', ((idealSystem B w script writer).restrict InTime).Run s ls s' ∧
      s'.supervisorTask.work < s.supervisorTask.work := by
  induction m generalizing s with
  | zero =>
    have hlater := ((scheduler_inductive w script writer).reachable s hs).idle hidle hended .supervisor
    omega
  | succ m ih =>
    have hinv := (scheduler_inductive w script writer).reachable s hs
    have htick : ((idealSystem B w script writer).restrict InTime).step s
        (AppScheduler.step w script s .tick).1 (AppScheduler.step w script s .tick).2 :=
      ⟨LTS.step_of_act (step_choice w script) s .tick, fun _ => hidle⟩
    have hs₁ := hs.snoc htick.1
    obtain ⟨ls, s₂, hrun, hidle₂⟩ := catch_up hs₁
    have hrun' := LTS.Run.cons htick hrun
    have hinv₁ := (scheduler_inductive w script writer).reachable _ hs₁
    obtain ⟨hlater, -⟩ := supervisor_run hinv₁ hrun.of_restrict
    obtain ⟨-, ⟨hsame, hwake⟩ | hless⟩ := supervisor_run hinv hrun'.of_restrict
    · simp only [AppScheduler.step, tick_ideal, TaskView.tick_ticks] at hlater
      obtain ⟨ls', s', hrun'', hless⟩ := ih (hs.run hrun'.of_restrict) hidle₂
        (by rw [hsame]; exact hended) (by omega)
      rw [hsame] at hless
      exact ⟨_, s', hrun'.append hrun'', hless⟩
    · exact ⟨_, s₂, hrun', hless⟩

/-- From every state the demo can go on to its end. -/
theorem run_to_end [LawfulRtos B] (hs : (idealSystem B w script writer).Reachable s) :
    ∃ ls s', ((idealSystem B w script writer).restrict InTime).Run s ls s' ∧ s'.supervisorTask = .ended := by
  induction hn : s.supervisorTask.work using Nat.strong_induction_on generalizing s with
  | _ n ih =>
  subst hn
  by_cases hended : s.supervisorTask = .ended
  · exact ⟨[], s, LTS.Run.nil, hended⟩
  have hfurther : ∃ ls u, ((idealSystem B w script writer).restrict InTime).Run s ls u ∧
      u.supervisorTask.work < s.supervisorTask.work := by
    obtain ⟨ls, u, hrun, hidle⟩ := catch_up hs
    have hinv := (scheduler_inductive w script writer).reachable s hs
    obtain ⟨-, ⟨hsame, -⟩ | hless⟩ := supervisor_run hinv hrun.of_restrict
    · obtain ⟨ls', u', hrun', hless⟩ := supervisor_advances _ (hs.run hrun.of_restrict) hidle
        (by rw [hsame]; exact hended) (Nat.le_add_left _ _)
      rw [hsame] at hless
      exact ⟨_, u', hrun.append hrun', hless⟩
    · exact ⟨_, u, hrun, hless⟩
  obtain ⟨ls, u, hrun, hless⟩ := hfurther
  obtain ⟨ls', s', hrun', hended⟩ := ih _ hless (hs.run hrun.of_restrict) rfl
  exact ⟨_, s', hrun.append hrun', hended⟩

/-- The demo has runs in which the stop is requested. -/
theorem demo_stops : ∃ ls s,
    ((idealSystem targetBackend .lp64 APP_SCHEDULER_DEMO_SCRIPT true).restrict InTime).Run schedulerStart
      ls s ∧ s.stopRequested = true := by
  have hstart := schedulerStart_init .lp64 APP_SCHEDULER_DEMO_SCRIPT
  obtain ⟨ls, s, hrun, hended⟩ := run_to_end (LTS.Reachable.of_init hstart)
  have hinv := (scheduler_inductive (B := targetBackend) .lp64 APP_SCHEDULER_DEMO_SCRIPT true).reachable s
    ⟨schedulerStart, ls, hstart, hrun.of_restrict⟩
  exact ⟨ls, s, hrun, hinv.stop_of_ended hended⟩

section Kernel

variable [LawfulRtos B] {K : Type} [TaskApi Task K] [LawfulTasks Task K] {k₀ k : AppScheduler B K}

omit [RtosApi B] [LawfulRtos B] in
/-- A lawful kernel is in time when the ideal one is. -/
theorem Shown.inTime {k : AppScheduler B K} {u : IdealScheduler B} (h : Shown k u) (l : SchedLabel) :
    InTime k l ↔ InTime u l := by
  unfold InTime
  rw [h.taskToRun]

omit [LawfulRtos B] in
/-- A run without overload is one on the ideal kernel. -/
theorem ideal_run_inTime (h0 : (schedulerSystem B K w script writer).init k₀)
    (hrun : ((schedulerSystem B K w script writer).restrict InTime).Run k₀ ls k) :
    ∃ u₀ u, (idealSystem B w script writer).init u₀ ∧
      ((idealSystem B w script writer).restrict InTime).Run u₀ ls u ∧ Shown k u := by
  have hsim := (kernel_simulation (B := B) (K := K) w script writer).restrict
    fun _ _ l hshown => (hshown.inTime l).mp
  obtain ⟨u₀, hu₀, hshown⟩ := hsim.init k₀ h0
  obtain ⟨u, hu, hshown'⟩ := hsim.run hshown hrun
  exact ⟨u₀, u, hu₀, hu, hshown'⟩

/-- **No deadlock.** Whatever has happened, the demo can go on to its end
without any overload, and stops cleanly there. -/
theorem can_end (hk : (schedulerSystem B K w script writer).Reachable k) :
    ∃ ls k', ((schedulerSystem B K w script writer).restrict InTime).Run k ls k' ∧
      k'.supervisorTask = .ended ∧ k'.taskToRun = none ∧ k'.stopRequested = true ∧
      ∀ p, (k'.loops p).point = .check ∨ (k'.loops p).point = .parked := by
  obtain ⟨k₀, ls₀, h0, hrun₀⟩ := hk
  obtain ⟨u₀, u, hu₀, hu, hshown⟩ := ideal_run h0 hrun₀
  obtain ⟨ls, u', hrun, hended⟩ := run_to_end ⟨u₀, ls₀, hu₀, hu⟩
  have hsim := (ideal_simulation (B := B) (K := K) w script writer).restrict
    fun _ _ l hshown => (hshown.inTime l).mpr
  obtain ⟨k', hrun', hshown'⟩ := hsim.run hshown hrun
  have hinv := (scheduler_inductive w script writer).reachable u'
    (LTS.Reachable.run ⟨u₀, ls₀, hu₀, hu⟩ hrun.of_restrict)
  have hstop := hinv.stop_of_ended hended
  refine ⟨ls, k', hrun', hshown'.supervisorTask.trans hended, ?_, hshown'.stopRequested.trans hstop,
    fun p => ?_⟩
  · rw [hshown'.taskToRun]
    exact hinv.taskToRun_ended hended
  · have hrest := hinv.stopped hstop p
    rw [hshown'.loops]
    cases hpoint : (u'.loops p).point with
    | check => exact Or.inl rfl
    | parked => exact Or.inr rfl
    | _ => rw [hpoint] at hrest; cases hrest

theorem can_end_demo : ∃ ls s', ((schedulerSystem targetBackend (TaskView Task) .lp64 APP_SCHEDULER_DEMO_SCRIPT
    true).restrict InTime).Run (demoRun (demoChoices 12 1000)).2 ls s' ∧ s'.supervisorTask = .ended := by
  obtain ⟨ls, s', hrun, hended, -⟩ := can_end
    ⟨schedulerStart, _, schedulerStart_init .lp64 APP_SCHEDULER_DEMO_SCRIPT, demoRun_run (demoChoices 12 1000)⟩
  exact ⟨ls, s', hrun, hended⟩

end Kernel

end MotionFirmware.L5
