import MotionFirmware.L5Scheduler.SchedulerInv

/-!
# When the activations start

`vTaskDelayUntil` counts from the last wake time, not from now. So however
long an activation takes and whatever preempts it, a task never starts the
next one early, and catches up on those it is late for (`release_times`).

With the priorities this is exact: whenever a task runs, every task above it
has started as many activations as were due, no fewer and no more
(`on_schedule`).

The tick count has 32 bits. Both hold as long as it has not wrapped: a task
kept from running for 2^32 ticks would take a wake time of the past for one
of the future.
-/
namespace MotionFirmware.L5

open MotionFirmware.Core MotionFirmware.L1.Motion MotionFirmware.L1.Fault MotionFirmware.L1.Telemetry
open MotionFirmware.L1.Parser MotionFirmware.L2.Port MotionFirmware.L3.Messages MotionFirmware.L3.Tasks
open MotionFirmware.L4
open AppScheduler
open MotionFirmware.L2.FreertosPort (targetBackend)
open MotionFirmware.L2.TaskKernel

/-! ## Times in a trace -/

/-- The ticks at which the events of a kind stand in a trace that begins at
`now`. -/
def timesFrom (f : SchedEvent → Bool) (now : Nat) : List SchedLabel → List Nat
  | [] => []
  | l :: ls => (if f l.event then [now] else []) ++ timesFrom f (if l.isTick then now + 1 else now) ls

def SchedEvent.enters (p : Periodic) : SchedEvent → Bool
  | .entered q => decide (q = p)
  | _ => false

def SchedEvent.begins (p : Periodic) : SchedEvent → Bool
  | .began q => decide (q = p)
  | _ => false

/-- The ticks at which a task first ran. -/
def entries (p : Periodic) (ls : List SchedLabel) : List Nat := timesFrom (SchedEvent.enters p) 0 ls

/-- The ticks at which the activations of a task began. -/
def starts (p : Periodic) (ls : List SchedLabel) : List Nat := timesFrom (SchedEvent.begins p) 0 ls

@[simp] theorem isTick_tick (e : SchedEvent) : SchedLabel.isTick ⟨.tick, e⟩ = true := rfl

@[simp] theorem isTick_run (locals : Locals) (e : SchedEvent) :
    SchedLabel.isTick ⟨.run locals, e⟩ = false := rfl

theorem elapsed_snoc (ls : List SchedLabel) (l : SchedLabel) :
    elapsed (ls ++ [l]) = elapsed ls + if l.isTick then 1 else 0 := by
  rw [elapsed, elapsed, List.countP_append, List.countP_singleton]

theorem elapsed_le_snoc (ls : List SchedLabel) (l : SchedLabel) : elapsed ls ≤ elapsed (ls ++ [l]) := by
  rw [elapsed_snoc]
  exact Nat.le_add_right _ _

/-- The choices say how long a run takes. -/
theorem elapsed_demoRun (choices : List SchedChoice) :
    elapsed (demoRun choices).1 = choices.countP SchedChoice.isTick := by
  have hact := LTS.exec_act (step_choice .lp64 APP_SCHEDULER_DEMO_SCRIPT) choices schedulerStart
  conv_rhs => rw [← hact, List.countP_map]
  rfl

theorem demoChoices_ticks (n m : Nat) : (demoChoices n m).countP SchedChoice.isTick = m := by
  simp [demoChoices, List.countP_replicate, SchedChoice.isTick]

theorem timesFrom_snoc (f : SchedEvent → Bool) (ls : List SchedLabel) (l : SchedLabel) (now : Nat) :
    timesFrom f now (ls ++ [l]) = timesFrom f now ls ++ if f l.event then [now + elapsed ls] else [] := by
  induction ls generalizing now with
  | nil => simp [timesFrom, elapsed]
  | cons l' ls ih =>
    have helapsed : elapsed (l' :: ls) = elapsed ls + if l'.isTick then 1 else 0 := by
      rw [elapsed, elapsed, List.countP_cons]
    rw [List.cons_append, timesFrom, timesFrom, ih, List.append_assoc, helapsed]
    cases l'.isTick
    · rfl
    · simp only [if_true, Nat.add_assoc, Nat.add_comm]

theorem entries_snoc (p : Periodic) (ls : List SchedLabel) (l : SchedLabel) :
    entries p (ls ++ [l]) = entries p ls ++ if l.event.enters p then [elapsed ls] else [] := by
  rw [entries, timesFrom_snoc, Nat.zero_add]
  rfl

theorem starts_snoc (p : Periodic) (ls : List SchedLabel) (l : SchedLabel) :
    starts p (ls ++ [l]) = starts p ls ++ if l.event.begins p then [elapsed ls] else [] := by
  rw [starts, timesFrom_snoc, Nat.zero_add]
  rfl

variable {B : RtosBackend} {s s' : IdealScheduler B} {p q : Periodic} {ls : List SchedLabel} {base : Nat}

/-- The activations of a task that are over. -/
def finished {K : Type} (p : Periodic) (ls : List SchedLabel) (s : AppScheduler B K) : Nat :=
  (starts p ls).length - if (s.loops p).point = .body then 1 else 0

/-! ## The history of one task -/

/-- A task that first ran at `base`, as its locals and the kernel know it. In
front of its test it sleeps until its next release, if that is to come. -/
structure TaskHistory (p : Periodic) (base : Nat) (ls : List SchedLabel) (s : IdealScheduler B) : Prop where
  entered : entries p ls = [base]
  base_le : base ≤ s.kernel.ticks
  paced : Paced base p.periodTicks (starts p ls)
  past : ∀ t ∈ starts p ls, t ≤ s.kernel.ticks
  inside : (s.loops p).point = .body ∨ (s.loops p).point = .delay → starts p ls ≠ [] ∧
    (s.loops p).lastWakeTime = UInt32.ofNat (release base p.periodTicks ((starts p ls).length - 1))
  waiting : (s.loops p).point = .check →
    (s.loops p).lastWakeTime = UInt32.ofNat (release base p.periodTicks (starts p ls).length) ∧
    if s.kernel.ticks < release base p.periodTicks (starts p ls).length
      then s.kernel.wake (.loop p) = release base p.periodTicks (starts p ls).length
      else s.kernel.wake (.loop p) ≤ s.kernel.ticks

/-- Nothing yet, or started. -/
def Timed (p : Periodic) (ls : List SchedLabel) (s : IdealScheduler B) : Prop :=
  ((s.loops p).point = .entry ∧ entries p ls = [] ∧ starts p ls = []) ∨
    ((s.loops p).point ≠ .entry ∧ ∃ base, TaskHistory p base ls s)

/-- The same task, later. -/
theorem Timed.frame (h : Timed p ls s) {ls' : List SchedLabel} (he : entries p ls' = entries p ls)
    (hs : starts p ls' = starts p ls) (hl : s'.loops p = s.loops p)
    (hw : s'.kernel.wake (.loop p) = s.kernel.wake (.loop p)) (ht : s.kernel.ticks ≤ s'.kernel.ticks) :
    Timed p ls' s' := by
  rcases h with ⟨hpoint, h1, h2⟩ | ⟨hpoint, base, h1, h2, h3, h4, h5, h6⟩
  · exact Or.inl ⟨by rw [hl]; exact hpoint, he.trans h1, hs.trans h2⟩
  · refine Or.inr ⟨by rw [hl]; exact hpoint, base, he.trans h1, h2.trans ht, ?_, ?_, ?_, ?_⟩
    · rw [hs]; exact h3
    · rw [hs]; exact fun t hm => (h4 t hm).trans ht
    · rw [hs, hl]; exact h5
    · rw [hs, hl, hw]
      intro hcheck
      obtain ⟨hlast, hwake⟩ := h6 hcheck
      refine ⟨hlast, ?_⟩
      split at hwake <;> split <;> omega

/-- A waiting task waits for its next release. -/
theorem TaskHistory.next (h : TaskHistory p base ls s) (hpoint : (s.loops p).point = .check)
    (hwait : s.kernel.ticks < s.kernel.wake (.loop p)) :
    s.kernel.ticks < release base p.periodTicks (starts p ls).length := by
  have hwake := (h.waiting hpoint).2
  split at hwake <;> omega

/-- A waiting task is on schedule. -/
theorem TaskHistory.due (h : TaskHistory p base ls s) (hpoint : (s.loops p).point = .check)
    (hwait : s.kernel.ticks < s.kernel.wake (.loop p)) :
    (starts p ls).length = due base p.periodTicks s.kernel.ticks := by
  have hnext := h.next hpoint hwait
  have hne : starts p ls ≠ [] := by
    intro hnil
    have := h.base_le
    simp only [hnil, List.length_nil, release, Nat.mul_zero] at hnext
    omega
  exact h.paced.due h.past hne hnext p.periodTicks_pos

/-- A waiting task that becomes ready may start. -/
theorem TaskHistory.released (h : TaskHistory p base ls s) (hpoint : (s.loops p).point = .check)
    (hready : s.kernel.wake (.loop p) ≤ s.kernel.ticks) :
    release base p.periodTicks (starts p ls).length ≤ s.kernel.ticks := by
  have hwake := (h.waiting hpoint).2
  split at hwake <;> omega

/-- A task never has more activations than were due. -/
theorem TaskHistory.count_le (h : TaskHistory p base ls s) :
    (starts p ls).length ≤ Core.due base p.periodTicks s.kernel.ticks :=
  h.paced.count_le h.past p.periodTicks_pos

/-- A task that is past its first action has a history. -/
theorem Timed.history (h : Timed p ls s) (hp : (s.loops p).point ≠ .entry) :
    ∃ base, TaskHistory p base ls s := by
  rcases h with ⟨he, -⟩ | ⟨-, h⟩
  · exact absurd he hp
  · exact h

/-- The same starts, at another point of the loop. -/
theorem TaskHistory.moved (h : TaskHistory p base ls s) {ls' : List SchedLabel}
    (he : entries p ls' = entries p ls) (hs : starts p ls' = starts p ls)
    (ht : s'.kernel.ticks = s.kernel.ticks)
    (hinside : (s'.loops p).point = .body ∨ (s'.loops p).point = .delay → starts p ls ≠ [] ∧
      (s'.loops p).lastWakeTime = UInt32.ofNat (release base p.periodTicks ((starts p ls).length - 1)))
    (hwaiting : (s'.loops p).point = .check →
      (s'.loops p).lastWakeTime = UInt32.ofNat (release base p.periodTicks (starts p ls).length) ∧
      if s.kernel.ticks < release base p.periodTicks (starts p ls).length
        then s'.kernel.wake (.loop p) = release base p.periodTicks (starts p ls).length
        else s'.kernel.wake (.loop p) ≤ s.kernel.ticks) :
    TaskHistory p base ls' s' :=
  ⟨he.trans h.entered, by rw [ht]; exact h.base_le, by rw [hs]; exact h.paced,
    by rw [hs, ht]; exact h.past, by rw [hs]; exact hinside, by rw [hs, ht]; exact hwaiting⟩

/-! ## Steps -/

/-- What the label of a loop action adds to the history of `q`. -/
theorem loopAction_marks {K : Type} [RtosApi B] [TaskApi Task K] (w : LongWidth) (script : List CString)
    (s : AppScheduler B K) (p q : Periodic) (locals : Locals) :
    (loopAction w script s p locals).1.enters q = decide ((s.loops p).point = .entry ∧ p = q) ∧
      (loopAction w script s p locals).1.begins q =
        decide ((s.loops p).point = .check ∧ s.stopRequested = false ∧ p = q) := by
  cases hpoint : (s.loops p).point with
  | check =>
    cases hstop : s.stopRequested <;>
      simp [loopAction, hpoint, hstop, SchedEvent.enters, SchedEvent.begins]
  | _ => simp [loopAction, hpoint, SchedEvent.enters, SchedEvent.begins]

/-- The supervisor leaves the loops and the clock alone. -/
theorem supervisorAction_frame (s : IdealScheduler B) (p : Periodic) :
    s.supervisorAction.loops p = s.loops p ∧
      s.supervisorAction.kernel.wake (.loop p) = s.kernel.wake (.loop p) ∧
      s.supervisorAction.kernel.ticks = s.kernel.ticks := by
  unfold supervisorAction
  cases s.supervisorTask <;> simp [TaskView.delay, TaskView.wakeAt_wake_of_ne]

section Steps

variable [RtosApi B] {w : LongWidth} {script : List CString}

/-- A loop action concerns its own task. -/
theorem loopAction_other (w : LongWidth) (script : List CString) (s : IdealScheduler B) (hq : q ≠ p)
    (locals : Locals) :
    (loopAction w script s p locals).2.loops q = s.loops q ∧
      (loopAction w script s p locals).2.kernel.wake (.loop q) = s.kernel.wake (.loop q) := by
  have htask : Task.loop q ≠ .loop p := by simpa using hq
  have hframe := bodyAction_frame w script s locals p
  cases hpoint : (s.loops p).point with
  | body =>
    simp only [loopAction, hpoint]
    split
    · rw [hframe]
      simp only [goto, Function.update_of_ne hq, and_self]
    · rw [hframe]
      exact ⟨rfl, rfl⟩
  | check =>
    simp only [loopAction, hpoint]
    split <;> simp only [goto, Function.update_of_ne hq, and_self]
  | delay =>
    simp only [loopAction, hpoint, delayUntil_ideal, TaskView.delayUntil_eq, Function.update_of_ne hq,
      TaskView.wakeAt_wake_of_ne _ _ _ htask, and_self]
  | _ =>
    simp only [loopAction, hpoint, delay_ideal, TaskView.delay, Function.update_of_ne hq,
      TaskView.wakeAt_wake_of_ne _ _ _ htask, and_self]

theorem loopAction_ticks (w : LongWidth) (script : List CString) (s : IdealScheduler B) (p : Periodic)
    (locals : Locals) :
    (loopAction w script s p locals).2.kernel.ticks = s.kernel.ticks := by
  have hframe := bodyAction_frame w script s locals p
  cases hpoint : (s.loops p).point with
  | body =>
    simp only [loopAction, hpoint]
    split
    · rw [hframe]
      rfl
    · rw [hframe]
  | check =>
    simp only [loopAction, hpoint]
    split <;> rfl
  | delay => simp only [loopAction, hpoint, delayUntil_ideal, TaskView.delayUntil_eq, TaskView.wakeAt_ticks]
  | _ => simp only [loopAction, hpoint, delay_ideal, TaskView.delay, TaskView.wakeAt_ticks]

/-- The clock counts the ticks. -/
theorem ticks_step (script : List CString) (h : s.kernel.ticks = elapsed ls) (c : SchedChoice) :
    (AppScheduler.step w script s c).2.kernel.ticks =
      elapsed (ls ++ [(AppScheduler.step w script s c).1]) := by
  rw [elapsed_snoc, ← h]
  rcases step_cases w script s c with ⟨-, he⟩ | ⟨locals, -, -, he⟩ | ⟨locals, q, -, -, he⟩ |
    ⟨locals, -, -, he⟩ <;> rw [he]
  · rfl
  · rfl
  · exact loopAction_ticks w script s q locals
  · exact (supervisorAction_frame s .motion).2.2

/-- A task's own action, while the tick count has not wrapped. -/
theorem timed_own (w : LongWidth) (script : List CString) (h : Timed p ls s)
    (hrun : s.taskToRun = some (.loop p)) (htime : s.kernel.ticks = elapsed ls)
    (hbound : s.kernel.ticks < 2 ^ 32) (locals : Locals) (c : SchedChoice) :
    Timed p (ls ++ [⟨c, (loopAction w script s p locals).1⟩]) (loopAction w script s p locals).2 := by
  obtain ⟨henters, hbegins⟩ := loopAction_marks w script s p p locals
  have hready := ready_of_run hrun
  have htick := loopAction_ticks w script s p locals
  have he := entries_snoc p ls ⟨c, (loopAction w script s p locals).1⟩
  have hs := starts_snoc p ls ⟨c, (loopAction w script s p locals).1⟩
  rw [henters, ← htime] at he
  rw [hbegins, ← htime] at hs
  rcases h with ⟨hpoint, h1, h2⟩ | ⟨hne, base, h⟩
  · -- the task reads the tick count for the first time
    simp only [hpoint, reduceCtorEq, false_and, and_self, decide_true, decide_false, if_true, if_false, h1, h2,
      Bool.false_eq_true, List.nil_append, List.append_nil] at he hs
    refine Or.inr ⟨by simp [loopAction, hpoint], s.kernel.ticks, he, htick.ge, ?_, ?_, ?_, ?_⟩
    · rw [hs]; exact Paced.nil
    · rw [hs]; exact fun _ hm => by cases hm
    · simp [loopAction, hpoint]
    · rw [hs]
      simp [loopAction, hpoint, release, hready]
  simp only [hne, false_and, decide_false, Bool.false_eq_true, if_false, List.append_nil] at he
  cases hpoint : (s.loops p).point with
  | entry => exact absurd hpoint hne
  | check =>
    obtain ⟨hlast, -⟩ := h.waiting hpoint
    cases hstop : s.stopRequested with
    | true =>
      simp only [hstop, reduceCtorEq, false_and, and_false, decide_false, Bool.false_eq_true, if_false,
        List.append_nil] at hs
      refine Or.inr ⟨by simp [loopAction, hpoint, hstop, goto], base, h.moved he hs htick ?_ ?_⟩
      · simp [loopAction, hpoint, hstop, goto]
      · simp [loopAction, hpoint, hstop, goto]
    | false =>
      simp only [hpoint, hstop, and_self, decide_true, if_true] at hs
      refine Or.inr ⟨by simp [loopAction, hpoint, hstop, goto], base, he.trans h.entered,
        h.base_le.trans_eq htick.symm, ?_, ?_, ?_, ?_⟩
      · rw [hs]; exact h.paced.snoc (h.released hpoint hready)
      · rw [hs, htick]
        intro t ht
        rcases List.mem_append.mp ht with ht | ht
        · exact h.past t ht
        · exact (List.mem_singleton.mp ht).le
      · rw [hs]
        simp [loopAction, hpoint, hstop, goto, hlast]
      · simp [loopAction, hpoint, hstop, goto]
  | body =>
    simp only [hpoint, reduceCtorEq, false_and, decide_false, Bool.false_eq_true, if_false,
      List.append_nil] at hs
    have hframe := bodyAction_frame w script s locals p
    have hplace : ((loopAction w script s p locals).2.loops p).lastWakeTime =
          (s.loops p).lastWakeTime ∧
        (((loopAction w script s p locals).2.loops p).point = .body ∨
          ((loopAction w script s p locals).2.loops p).point = .delay) := by
      simp only [loopAction, hpoint]
      split <;> rw [hframe] <;> simp [goto, hpoint]
    obtain ⟨hwake, hplace⟩ := hplace
    refine Or.inr ⟨?_, base, h.moved he hs htick ?_ ?_⟩
    · rcases hplace with e | e <;> rw [e] <;> decide
    · rw [hwake]; exact fun _ => h.inside (Or.inl hpoint)
    · intro e
      rcases hplace with e' | e' <;> rw [e'] at e <;> cases e
  | delay =>
    simp only [hpoint, reduceCtorEq, false_and, decide_false, Bool.false_eq_true, if_false,
      List.append_nil] at hs
    obtain ⟨hstarted, hlast⟩ := h.inside (Or.inr hpoint)
    have hnext : release base p.periodTicks ((starts p ls).length - 1) + p.periodTicks =
        release base p.periodTicks (starts p ls).length := by
      rw [← release_succ, Nat.sub_add_cancel (List.length_pos_of_ne_nil hstarted)]
    have hpast := h.paced.last_le h.past hstarted
    have hwake := s.kernel.nextWake_of_past (.loop p) (TaskApi.pdMsToTicks (TaskView Task) p.periodMs)
      hpast (by omega)
    rw [period_toNat, hnext] at hwake
    refine Or.inr ⟨by simp [loopAction, hpoint], base, h.moved he hs htick ?_ ?_⟩
    · simp [loopAction, hpoint]
    · intro _
      simp only [loopAction, hpoint, delayUntil_ideal, Function.update_self, TaskView.delayUntil_eq,
        TaskView.wakeAt_wake, hlast, hwake]
      refine ⟨?_, ?_⟩
      · rw [← hnext, UInt32.ofNat_add]
        rfl
      · split
        · rfl
        · exact hready
  | parked =>
    simp only [hpoint, reduceCtorEq, false_and, decide_false, Bool.false_eq_true, if_false,
      List.append_nil] at hs
    refine Or.inr ⟨by simp [loopAction, hpoint], base, h.moved he hs htick ?_ ?_⟩
    · simp [loopAction, hpoint]
    · simp [loopAction, hpoint]

/-- An action finishes the activation it is the last of. -/
theorem finished_own (w : LongWidth) (script : List CString) (h : Timed p ls s) (locals : Locals)
    (c : SchedChoice) :
    finished p (ls ++ [⟨c, (loopAction w script s p locals).1⟩])
      (loopAction w script s p locals).2 = finished p ls s +
        if (s.loops p).point = .body ∧ (bodyAction w script s p locals).2.1 = true then 1 else 0 := by
  obtain ⟨-, hbegins⟩ := loopAction_marks w script s p p locals
  have hstarts := starts_snoc p ls ⟨c, (loopAction w script s p locals).1⟩
  rw [hbegins] at hstarts
  have hframe := bodyAction_frame w script s locals p
  rw [finished, finished, hstarts]
  cases hpoint : (s.loops p).point with
  | check => cases hstop : s.stopRequested <;> simp [loopAction, hpoint, hstop, goto]
  | body =>
    obtain ⟨base, hist⟩ := h.history (by rw [hpoint]; decide)
    have hpos := List.length_pos_of_ne_nil (hist.inside (Or.inl hpoint)).1
    cases hover : (bodyAction w script s p locals).2.1 with
    | true =>
      simp only [loopAction, hpoint, hover, if_true, goto, Function.update_self, reduceCtorEq, false_and,
        decide_false, Bool.false_eq_true, if_false, List.append_nil, and_self]
      omega
    | false =>
      simp only [loopAction, hpoint, hover, Bool.false_eq_true, if_false]
      rw [hframe]
      simp [hpoint]
  | _ => simp [loopAction, hpoint]

/-- Another task's action finishes nothing. -/
theorem finished_other (w : LongWidth) (script : List CString) (s : IdealScheduler B) (ls : List SchedLabel)
    (hq : q ≠ p) (locals : Locals) (c : SchedChoice) :
    finished q (ls ++ [⟨c, (loopAction w script s p locals).1⟩])
      (loopAction w script s p locals).2 = finished q ls s := by
  obtain ⟨-, hbegins⟩ := loopAction_marks w script s p q locals
  have hq' : ¬ p = q := fun e => hq e.symm
  rw [finished, finished, starts_snoc, hbegins, (loopAction_other w script s hq locals).1]
  simp [hq']

theorem timed_step (script : List CString) (h : Timed p ls s) (htime : s.kernel.ticks = elapsed ls)
    (hbound : s.kernel.ticks < 2 ^ 32) (c : SchedChoice) :
    Timed p (ls ++ [(AppScheduler.step w script s c).1]) (AppScheduler.step w script s c).2 := by
  rcases step_cases w script s c with ⟨-, he⟩ | ⟨locals, -, -, he⟩ | ⟨locals, q, -, hrun, he⟩ |
    ⟨locals, -, -, he⟩ <;> rw [he]
  · exact h.frame (by simp [entries_snoc, SchedEvent.enters]) (by simp [starts_snoc, SchedEvent.begins])
      rfl rfl (Nat.le_succ _)
  · exact h.frame (by simp [entries_snoc, SchedEvent.enters]) (by simp [starts_snoc, SchedEvent.begins])
      rfl rfl le_rfl
  · by_cases hqp : p = q
    · subst hqp; exact timed_own w script h hrun htime hbound locals _
    · obtain ⟨henters, hbegins⟩ := loopAction_marks w script s q p locals
      obtain ⟨hloops, hwake⟩ := loopAction_other w script s hqp locals
      have hqp' : ¬ q = p := fun e => hqp e.symm
      exact h.frame (by simp [entries_snoc, henters, hqp']) (by simp [starts_snoc, hbegins, hqp'])
        hloops hwake (loopAction_ticks w script s q locals).ge
  · obtain ⟨hloops, hwake, htick⟩ := supervisorAction_frame s p
    exact h.frame (by simp [entries_snoc, SchedEvent.enters]) (by simp [starts_snoc, SchedEvent.begins])
      hloops hwake htick.ge

variable {writer : Bool}

theorem elapsed_run {s₀ : IdealScheduler B} (h0 : (idealSystem B w script writer).init s₀)
    (hrun : (idealSystem B w script writer).Run s₀ ls s) :
    s.kernel.ticks = elapsed ls := by
  refine (scheduler_inductive w script writer).history (P := fun ls s => s.kernel.ticks = elapsed ls)
    ((scheduler_inductive w script writer).init s₀ h0) ?_ ?_ hrun
  · obtain ⟨s₀', -, hstart⟩ := h0
    rw [(start_eq hstart).2.2]
    rfl
  · intro ls s l s' _ h hst
    obtain ⟨c, -, rfl, rfl⟩ := LTS.ofStep_step hst
    exact ticks_step script h c

theorem timed_run {s₀ : IdealScheduler B}
    (h0 : (idealSystem B w script writer).init s₀)
    (hrun : (idealSystem B w script writer).Run s₀ ls s)
    (hbound : elapsed ls < 2 ^ 32) (p : Periodic) : Timed p ls s := by
  refine ((scheduler_inductive w script writer).history
    (P := fun ls s => s.kernel.ticks = elapsed ls ∧ (elapsed ls < 2 ^ 32 → Timed p ls s))
    ((scheduler_inductive w script writer).init s₀ h0) ?_ ?_ hrun).2 hbound
  · obtain ⟨s₀', -, hstart⟩ := h0
    rw [(start_eq hstart).2.2]
    exact ⟨rfl, fun _ => Or.inl ⟨rfl, rfl, rfl⟩⟩
  · intro ls s l s' _ h hst
    obtain ⟨c, -, rfl, rfl⟩ := LTS.ofStep_step hst
    obtain ⟨htime, h⟩ := h
    refine ⟨ticks_step script htime c, fun hlt => ?_⟩
    have hlt := (elapsed_le_snoc ls _).trans_lt hlt
    exact timed_step script (h hlt) htime (htime.trans_lt hlt) c

end Steps

/-! ## On every lawful kernel -/

section Kernel

variable [RtosApi B] {K : Type} [TaskApi Task K] [LawfulTasks Task K] {w : LongWidth}
  {script : List CString} {writer : Bool} {t : Task}

/-- The tick count, before it wraps. -/
theorem tickCount_run {s₀ s : AppScheduler B K} (h0 : (schedulerSystem B K w script writer).init s₀)
    (hrun : (schedulerSystem B K w script writer).Run s₀ ls s) (hbound : elapsed ls < 2 ^ 32) :
    (TaskApi.xTaskGetTickCount s.kernel).toNat = elapsed ls := by
  obtain ⟨u₀, u, hu₀, hu, v, hk, -, rfl⟩ := ideal_run h0 hrun
  have hticks : v.ticks = elapsed ls := elapsed_run hu₀ hu
  rw [LawfulTasks.tick_count hk, hticks, UInt32.toNat_ofNat', Nat.mod_eq_of_lt hbound]

/-- **Activations are never early.** Once a task has read the tick count at
`base`, its activation `k` starts at `base + k * period` at the earliest, and
so it has never had more of them than were due. -/
theorem release_times {s₀ s : AppScheduler B K} (h0 : (schedulerSystem B K w script writer).init s₀)
    (hrun : (schedulerSystem B K w script writer).Run s₀ ls s) (hbound : elapsed ls < 2 ^ 32)
    (p : Periodic) :
    (entries p ls = [] ∧ starts p ls = []) ∨ ∃ base, entries p ls = [base] ∧
      Paced base p.periodTicks (starts p ls) ∧
      (starts p ls).length ≤ due base p.periodTicks (elapsed ls) := by
  obtain ⟨u₀, u, hu₀, hu, -⟩ := ideal_run h0 hrun
  rcases timed_run hu₀ hu hbound p with ⟨-, h⟩ | ⟨-, base, h⟩
  · exact Or.inl h
  · exact Or.inr ⟨base, h.entered, h.paced, elapsed_run hu₀ hu ▸ h.count_le⟩

theorem release_times_demo :
    entries .command (demoRun (demoChoices 9 0)).1 = [] ∧ starts .command (demoRun (demoChoices 9 0)).1 = [] ∨
      ∃ base, entries .command (demoRun (demoChoices 9 0)).1 = [base] ∧
        Paced base Periodic.command.periodTicks (starts .command (demoRun (demoChoices 9 0)).1) ∧
        (starts .command (demoRun (demoChoices 9 0)).1).length ≤
          due base Periodic.command.periodTicks (elapsed (demoRun (demoChoices 9 0)).1) :=
  release_times (schedulerStart_init .lp64 APP_SCHEDULER_DEMO_SCRIPT) (demoRun_run (demoChoices 9 0))
    (by decide +kernel) .command

/-- **And never late when it matters.** While the demo runs, a task that runs
finds every task above it on schedule: of that task exactly the activations
that are due have started. -/
theorem on_schedule {s₀ s : AppScheduler B K} (h0 : (schedulerSystem B K w script writer).init s₀)
    (hrun : (schedulerSystem B K w script writer).Run s₀ ls s) (hbound : elapsed ls < 2 ^ 32)
    (hstop : s.stopRequested = false) (ht : s.taskToRun = some t)
    (hlt : t.priority < (Task.loop p).priority) :
    ∃ base, entries p ls = [base] ∧ (starts p ls).length = due base p.periodTicks (elapsed ls) := by
  obtain ⟨u₀, u, hu₀, hu, hshown⟩ := ideal_run h0 hrun
  have hinv := (scheduler_inductive w script writer).run hu
    ((scheduler_inductive w script writer).init u₀ hu₀)
  rw [hshown.taskToRun] at ht
  rw [hshown.stopRequested] at hstop
  have hpoint := hinv.check_of_above hstop ht hlt
  obtain ⟨base, h⟩ := (timed_run hu₀ hu hbound p).history (by rw [hpoint]; decide)
  exact ⟨base, h.entered, elapsed_run hu₀ hu ▸ h.due hpoint (hinv.waits ht hlt)⟩

/-- After nine actions the telemetry task runs. -/
theorem on_schedule_demo : ∃ base, entries .motion (demoRun (demoChoices 9 0)).1 = [base] ∧
    (starts .motion (demoRun (demoChoices 9 0)).1).length =
      due base Periodic.motion.periodTicks (elapsed (demoRun (demoChoices 9 0)).1) :=
  on_schedule (schedulerStart_init .lp64 APP_SCHEDULER_DEMO_SCRIPT) (demoRun_run (demoChoices 9 0))
    (by decide +kernel) (by decide +kernel) (t := .loop .telemetry) (by decide +kernel) (by decide)

end Kernel

end MotionFirmware.L5
