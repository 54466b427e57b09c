import MotionFirmware.L5Scheduler.LostTick
import MotionFirmware.L5Scheduler.Workload

/-!
# The uptime against the clock of the kernel

The uptime in a status line is not a clock: it counts the motion activations
that found the mutex free, 100 ms each. As long as the kernel's tick count has
not wrapped, it is never more than one activation ahead of it
(`uptime_never_ahead`). And whenever another task runs, it is exactly 100 ms
for each activation that was due, less the lost ones, of which there are no
more than ticks inside the critical section of the telemetry task
(`uptime_clock`).

The bound is a potential argument. While the telemetry task holds the mutex,
the motion task can still lose what it owes, and a tick adds one at most; it
owes nothing at the lock, as the telemetry task runs only while it waits.
-/
namespace MotionFirmware.L5

open MotionFirmware.Core MotionFirmware.L1.Motion MotionFirmware.L1.Fault MotionFirmware.L1.Telemetry
open MotionFirmware.L1.Parser MotionFirmware.L2.Port MotionFirmware.L3.Messages MotionFirmware.L3.Tasks
open MotionFirmware.L4
open AppScheduler
open MotionFirmware.L2.FreertosPort (targetBackend)
open MotionFirmware.L2.TaskKernel

/-! ## Activations kept and lost -/

/-- A motion activation that did nothing. -/
def Label.isLost : Label → Bool
  | .activation ⟨.motion _ _, result⟩ => decide (result.status = .errorMutex)
  | _ => false

/-- A motion activation that did its work. -/
def Label.isKept (l : Label) : Bool := l.isMotion && !l.isLost

theorem motionStep_status (d : Device) (deltaMs : UInt32) :
    (d.motionStep deltaMs).1.status ≠ .errorMutex := by
  unfold Device.motionStep
  split
  · simp
  · simp only
    split <;> decide

/-- The uptime counts the activations that did their work. -/
theorem kept_step (w : LongWidth) (p : Preempted) (c : Choice) :
    (Preempted.step w Preempted.action p c).2.device.uptimeMs = p.device.uptimeMs +
      if (Preempted.step w Preempted.action p c).1.isKept then APP_SCHEDULER_MOTION_PERIOD_MS else 0 := by
  rcases Preempted.step_cases w Preempted.action p c with
    ⟨locals, he⟩ | ⟨locals, -, he⟩ | ⟨a, ⟨line, locals, rfl⟩ | ⟨deltaMs, locals, rfl⟩, hdelta, he⟩ <;> rw [he]
  · simp [(action_time p).2, Label.isKept, Label.isMotion]
  · simp [Label.isKept, Label.isMotion, Label.isLost]
  · simp [Device.taskStep, (commandStep_time w p.device line).2, Label.isKept, Label.isMotion]
  · obtain ⟨rfl, -⟩ := hdelta deltaMs locals rfl
    simp [Device.taskStep, motionStep_uptime, motionStep_status, Label.isKept, Label.isMotion,
      Label.isLost]

theorem kept_run {w : LongWidth} {writer : Bool} {p₀ p : Preempted} {ls : List Label}
    (h0 : (preemptedSystem w writer Preempted.action).init p₀)
    (hrun : (preemptedSystem w writer Preempted.action).Run p₀ ls p) :
    p.device.uptimeMs.toNat = 100 * ls.countP Label.isKept % 2 ^ 32 := by
  have hinv := preempted_inductive w writer ofActions_action
  refine hinv.history (P := fun ls p => p.device.uptimeMs.toNat =
    100 * ls.countP Label.isKept % 2 ^ 32) (hinv.init p₀ h0) ?_ ?_ hrun
  · obtain ⟨hd, -⟩ := h0
    have hd : p₀.device = Device.start ⟨writer, []⟩ := hd
    rw [hd]
    rfl
  · intro ls q l q' _ hq hst
    obtain ⟨c, -, rfl, rfl⟩ := LTS.ofStep_step hst
    rw [kept_step, UInt32.toNat_add, hq, List.countP_append, List.countP_singleton]
    split
    · simp [APP_SCHEDULER_MOTION_PERIOD_MS, Nat.mul_add]
    · simp

/-! ## Under the scheduler -/

/-- The motion activations in a trace of the scheduler that did nothing. -/
def lost (ls : List SchedLabel) : Nat := (ls.filterMap SchedLabel.did).countP Label.isLost

def SchedLabel.isCriticalTick (l : SchedLabel) : Bool :=
  match l.event with
  | .tick critical => critical
  | _ => false

/-- The ticks that fell inside the critical section of the telemetry task. -/
def criticalTicks (ls : List SchedLabel) : Nat := ls.countP SchedLabel.isCriticalTick

variable {B : RtosBackend} [RtosApi B] {w : LongWidth} {script : List CString} {writer : Bool}
  {s s₀ : IdealScheduler B} {ls : List SchedLabel}

section Lawful

variable [LawfulRtos B]

/-- A motion activation is lost when the telemetry task holds the mutex. -/
theorem motion_lost (hs : (idealSystem B w script writer).Reachable s) (locals : Locals) :
    (rtosStep w telemetryAction s.rtos (.motion locals)).1.isLost =
      s.rtos.telemetryTask.holdsMutex := by
  obtain ⟨t, p, hsame, h, hp⟩ := scheduler_follows hs
  have hlabel := (follows_step w (fun _ _ locals h => follows_action h locals) h hp.device
    (.motion locals)).1
  have hhold : s.rtos.telemetryTask.holdsMutex = p.telemetryTask.holdsMutex := by
    rw [hsame, h.holdsMutex]
    rfl
  rw [hsame, rtosStep_behind, hlabel, ← hsame, hhold]
  cases hm : p.telemetryTask.holdsMutex with
  | true => simp [Preempted.step, hm, Label.isLost]
  | false => simp [Preempted.step, hm, Device.taskStep, Label.isLost, motionStep_status]

/-- The uptime of the scheduler's firmware. -/
theorem scheduler_uptime (h0 : (idealSystem B w script writer).init s₀)
    (hrun : (idealSystem B w script writer).Run s₀ ls s) :
    s.rtos.firmware.context.uptimeMs.toNat =
      100 * (ls.filterMap SchedLabel.did).countP Label.isKept % 2 ^ 32 := by
  obtain ⟨p₀, p, t, hp₀, hp, hsame, h, -⟩ := scheduler_preempted h0 hrun
  have hup : s.rtos.firmware.context.uptimeMs = p.device.uptimeMs := by
    rw [hsame]
    exact h.tracks.uptime
  rw [hup, kept_run hp₀ hp]

end Lawful

/-! ## One step, seen by the motion task -/

/-- An activation that is not the motion task's is none of its own. -/
theorem bodyAction_apart (w : LongWidth) (script : List CString) (s : IdealScheduler B) {p : Periodic}
    (hp : p ≠ .motion) (locals : Locals) :
    ∀ l ∈ (bodyAction w script s p locals).1, l.isMotion = false := by
  intro l hl
  cases p with
  | motion => exact absurd rfl hp
  | telemetry =>
    cases hl
    rfl
  | command =>
    rcases commandAction_cases w script s locals with ⟨-, -, he⟩ | ⟨line, result, c, -, -, -, he⟩ |
      ⟨line, locals', result, c, r, -, -, he⟩ <;> simp only [bodyAction, he] at hl <;> cases hl
    rfl

/-- The step is the motion task's own, or leaves its loop alone. -/
theorem motion_apart (script : List CString) (s : IdealScheduler B) (c : SchedChoice) :
    (∃ locals, s.taskToRun = some (.loop .motion) ∧ AppScheduler.step w script s c =
      (⟨.run locals, (loopAction w script s .motion locals).1⟩,
        (loopAction w script s .motion locals).2)) ∨
    ((AppScheduler.step w script s c).2.loops .motion = s.loops .motion ∧
      (AppScheduler.step w script s c).2.kernel.wake (.loop .motion) = s.kernel.wake (.loop .motion) ∧
      (AppScheduler.step w script s c).1.event.begins .motion = false ∧
      ∀ l ∈ (AppScheduler.step w script s c).1.did, l.isMotion = false) := by
  rcases step_cases w script s c with ⟨-, he⟩ | ⟨locals, -, -, he⟩ | ⟨locals, p, -, hrun, he⟩ |
    ⟨locals, -, -, he⟩ <;> rw [he]
  · exact Or.inr ⟨rfl, rfl, rfl, by simp [SchedLabel.did]⟩
  · exact Or.inr ⟨rfl, rfl, rfl, by simp [SchedLabel.did]⟩
  · by_cases hp : p = .motion
    · subst hp
      exact Or.inl ⟨locals, hrun, rfl⟩
    · obtain ⟨hloops, hwake⟩ := loopAction_other w script s (fun e => hp e.symm) locals
      have hstart := (loopAction_marks w script s p .motion locals).2
      refine Or.inr ⟨hloops, hwake, by rw [hstart]; simp [hp], ?_⟩
      rcases loopAction_firmware w script s p locals (.run locals) with ⟨-, hdid, -⟩ | ⟨-, hdid, -⟩
      · simp [hdid]
      · rw [hdid]
        exact bodyAction_apart w script s hp locals
  · obtain ⟨hloops, hwake, -⟩ := supervisorAction_frame s .motion
    exact Or.inr ⟨hloops, hwake, rfl, by simp [SchedLabel.did]⟩

/-- Time passes, or it does not. -/
theorem step_clock (script : List CString) (s : IdealScheduler B) (c : SchedChoice) :
    (AppScheduler.step w script s c = (⟨.tick, .tick s.rtos.telemetryTask.holdsMutex⟩,
      { s with kernel := s.kernel.tick })) ∨
    ((AppScheduler.step w script s c).2.kernel.ticks = s.kernel.ticks ∧
      (AppScheduler.step w script s c).1.isCriticalTick = false) := by
  rcases step_cases w script s c with ⟨-, he⟩ | ⟨locals, -, -, he⟩ | ⟨locals, p, -, -, he⟩ |
    ⟨locals, -, -, he⟩ <;> rw [he]
  · exact Or.inl rfl
  · exact Or.inr ⟨rfl, rfl⟩
  · refine Or.inr ⟨loopAction_ticks w script s p locals, ?_⟩
    cases hpoint : (s.loops p).point with
    | check =>
      simp only [loopAction, hpoint]
      split <;> rfl
    | _ => simp only [loopAction, hpoint, SchedLabel.isCriticalTick]
  · exact Or.inr ⟨(supervisorAction_frame s .motion).2.2, rfl⟩

/-- Only the telemetry task takes the mutex and keeps it. -/
theorem step_holds (script : List CString) (s : IdealScheduler B) (c : SchedChoice)
    (h : (AppScheduler.step w script s c).2.rtos.telemetryTask.holdsMutex = true) :
    s.rtos.telemetryTask.holdsMutex = true ∨ s.taskToRun = some (.loop .telemetry) := by
  rcases step_cases w script s c with ⟨-, he⟩ | ⟨locals, -, -, he⟩ | ⟨locals, p, -, hrun, he⟩ |
    ⟨locals, -, -, he⟩ <;> rw [he] at h
  · exact Or.inl h
  · exact Or.inl h
  · by_cases hp : p = .telemetry
    · subst hp
      exact Or.inr hrun
    · refine Or.inl ?_
      have hbody := bodyAction_telemetryTask w script s locals hp
      cases hpoint : (s.loops p).point with
      | body =>
        simp only [loopAction, hpoint] at h
        split at h
        · simpa only [goto, hbody] using h
        · simpa only [hbody] using h
      | check =>
        simp only [loopAction, hpoint] at h
        split at h <;> exact h
      | _ =>
        simp only [loopAction, hpoint] at h
        exact h
  · refine Or.inl ?_
    simp only [supervisorAction] at h
    split at h <;> exact h

/-! ## Activations and their labels -/

theorem countP_did (q : Label → Bool) (ls : List SchedLabel) (l : SchedLabel) :
    ((ls ++ [l]).filterMap SchedLabel.did).countP q =
      (ls.filterMap SchedLabel.did).countP q + l.did.toList.countP q := by
  rw [LTS.filterMap_snoc, List.countP_append]

/-- An activation of another task is neither lost nor kept. -/
theorem apart_count {l : SchedLabel} (h : ∀ l' ∈ l.did, l'.isMotion = false) {q : Label → Bool}
    (hq : ∀ l', q l' = true → l'.isMotion = true) : l.did.toList.countP q = 0 := by
  rw [List.countP_eq_zero]
  intro l' hl' hql
  have hne := h l' (by simpa using hl')
  rw [hq l' hql] at hne
  cases hne

theorem isMotion_of_isLost {l : Label} (h : l.isLost = true) : l.isMotion = true := by
  unfold Label.isLost at h
  split at h
  · rfl
  · cases h

/-- Every activation that began has acted, but the one in progress. -/
theorem motion_starts (h0 : (idealSystem B w script writer).init s₀)
    (hrun : (idealSystem B w script writer).Run s₀ ls s) :
    (ls.filterMap SchedLabel.did).countP Label.isMotion +
      (if (s.loops .motion).point = .body then 1 else 0) = (starts .motion ls).length := by
  have hinv := scheduler_inductive (B := B) w script writer
  refine hinv.history (P := fun ls s => (ls.filterMap SchedLabel.did).countP Label.isMotion +
    (if (s.loops .motion).point = .body then 1 else 0) = (starts .motion ls).length)
    (hinv.init s₀ h0) ?_ ?_ hrun
  · obtain ⟨s₀', -, hstart⟩ := h0
    rw [(start_eq hstart).2.2]
    rfl
  · intro ls s l s' _ hP hst
    obtain ⟨c, -, rfl, rfl⟩ := LTS.ofStep_step hst
    rw [starts_snoc, countP_did, List.length_append]
    rcases motion_apart (w := w) script s c with ⟨locals, hown, he⟩ | ⟨hloop, -, hstart, hdid⟩
    · rw [he]
      cases hpoint : (s.loops .motion).point with
      | check =>
        simp only [hpoint, reduceCtorEq, if_false] at hP
        cases hstop : s.stopRequested <;>
          simp [loopAction, hpoint, hstop, SchedLabel.did, SchedEvent.begins, goto, hP]
      | body =>
        simp only [hpoint, if_true] at hP
        have hmotion : (rtosStep w telemetryAction s.rtos (.motion locals)).1.isMotion = true := rfl
        simp [loopAction, hpoint, bodyAction, motionAction, SchedLabel.did, SchedEvent.begins, goto,
          hmotion, hP]
      | _ =>
        simp only [hpoint, reduceCtorEq, if_false] at hP
        simp [loopAction, hpoint, SchedLabel.did, SchedEvent.begins, hP]
    · rw [hloop, hstart, apart_count hdid fun _ h => h]
      simpa using hP

/-! ## What is lost -/

/-- While the telemetry task holds the mutex, what the motion task owes can
still be lost. -/
structure Losses (ls : List SchedLabel) (s : IdealScheduler B) : Prop where
  lost_le : lost ls ≤ criticalTicks ls
  critical : s.rtos.telemetryTask.holdsMutex = true → lost ls + owed .motion s ≤ criticalTicks ls

/-- The motion task's own action. -/
theorem losses_own [LawfulRtos B] (hs : (idealSystem B w script writer).Reachable s)
    (h : Losses ls s) (hrun : s.taskToRun = some (.loop .motion)) (locals : Locals) (c : SchedChoice) :
    Losses (ls ++ [⟨c, (loopAction w script s .motion locals).1⟩])
      (loopAction w script s .motion locals).2 := by
  have hlost : lost (ls ++ [⟨c, (loopAction w script s .motion locals).1⟩]) = lost ls +
      if (s.loops .motion).point = .body ∧ s.rtos.telemetryTask.holdsMutex = true then 1 else 0 := by
    have hmotion := motion_lost hs locals
    rw [lost, countP_did]
    cases hpoint : (s.loops .motion).point with
    | check => cases hstop : s.stopRequested <;> simp [lost, loopAction, hpoint, hstop, SchedLabel.did]
    | body => simp [lost, loopAction, hpoint, bodyAction, motionAction, SchedLabel.did,
        List.countP_singleton, hmotion]
    | _ => simp [lost, loopAction, hpoint, SchedLabel.did]
  have hticks : criticalTicks (ls ++ [⟨c, (loopAction w script s .motion locals).1⟩]) =
      criticalTicks ls := by
    rw [criticalTicks, List.countP_append, List.countP_singleton]
    cases hpoint : (s.loops .motion).point <;> simp only [loopAction, hpoint]
    case check => split <;> rfl
    all_goals rfl
  have htel : (loopAction w script s .motion locals).2.rtos.telemetryTask = s.rtos.telemetryTask := by
    have hkeep := bodyAction_telemetryTask w script s locals (p := .motion) (by decide)
    cases hpoint : (s.loops .motion).point with
    | check => cases hstop : s.stopRequested <;> simp [loopAction, hpoint, hstop, goto]
    | body =>
      simp only [bodyAction, motionAction] at hkeep
      simp [loopAction, hpoint, goto, bodyAction, hkeep, motionAction]
    | _ => simp [loopAction, hpoint]
  have hover : (bodyAction w script s .motion locals).2.1 = true := rfl
  have hpay := owed_own w script hrun locals
  simp only [hover, and_true] at hpay
  refine ⟨?_, fun hhold => ?_⟩
  · rw [hlost, hticks]
    split
    · rename_i hbody
      have hle := h.critical hbody.2
      rw [if_pos hbody.1] at hpay
      omega
    · exact h.lost_le
  · rw [htel] at hhold
    have hle := h.critical hhold
    simp only [hlost, hticks, hhold, and_true]
    omega

theorem losses_step [LawfulRtos B] (hs : (idealSystem B w script writer).Reachable s)
    (h : Losses ls s) (c : SchedChoice) : Losses (ls ++ [(AppScheduler.step w script s c).1])
      (AppScheduler.step w script s c).2 := by
  have hinv := (scheduler_inductive w script writer).reachable s hs
  rcases motion_apart (w := w) script s c with ⟨locals, hrun, he⟩ | ⟨hloop, hwake, -, hdid⟩
  · rw [he]
    exact losses_own hs h hrun locals _
  have hlost : lost (ls ++ [(AppScheduler.step w script s c).1]) = lost ls := by
    rw [lost, countP_did, apart_count hdid fun _ => isMotion_of_isLost]
    rfl
  have hticks : criticalTicks (ls ++ [(AppScheduler.step w script s c).1]) = criticalTicks ls +
      if (AppScheduler.step w script s c).1.isCriticalTick then 1 else 0 := by
    rw [criticalTicks, List.countP_append, List.countP_singleton]
    rfl
  refine ⟨?_, fun hhold => ?_⟩
  · rw [hlost, hticks]
    exact h.lost_le.trans (Nat.le_add_right _ _)
  rw [hlost, hticks]
  rcases step_clock (w := w) script s c with he | ⟨htick, hcrit⟩
  · rw [he] at hhold ⊢
    have hle := h.critical hhold
    have hstep := owed_tick (reachable_punctual hs .motion)
    simp only [SchedLabel.isCriticalTick, hhold, if_true]
    omega
  · have hsame : owed .motion (AppScheduler.step w script s c).2 = owed .motion s := by
      simp only [owed, late, TaskView.lateness, hloop, hwake, htick]
    rw [hsame, hcrit]
    rcases step_holds script s c hhold with hold | htel
    · exact h.critical hold
    · -- the telemetry task takes the mutex
      rw [owed_waiting hinv htel (by decide)]
      exact h.lost_le

theorem losses_run [LawfulRtos B] (h0 : (idealSystem B w script writer).init s₀)
    (hrun : (idealSystem B w script writer).Run s₀ ls s) : Losses ls s := by
  refine LTS.inductive_reachable.history (P := fun ls s => Losses ls s) (LTS.Reachable.of_init h0) ?_ ?_
    hrun
  · obtain ⟨s₀', -, hstart⟩ := h0
    rw [(start_eq hstart).2.2]
    exact ⟨Nat.le_refl 0, fun h => by cases h⟩
  · intro ls s l s' hs h hst
    obtain ⟨c, -, rfl, rfl⟩ := LTS.ofStep_step hst
    exact losses_step hs h c

/-! ## The uptime -/

theorem motion_periodTicks : Periodic.motion.periodTicks = 100 := by decide

theorem kept_add_lost (ls : List Label) :
    ls.countP Label.isKept + ls.countP Label.isLost = ls.countP Label.isMotion := by
  induction ls with
  | nil => rfl
  | cons l ls ih =>
    rw [List.countP_cons, List.countP_cons, List.countP_cons, ← ih]
    have hlost := @isMotion_of_isLost l
    cases hm : l.isMotion <;> cases hl : l.isLost <;> simp_all [Label.isKept] <;> omega

section Kernel

variable [LawfulRtos B] {K : Type} [TaskApi Task K] [LawfulTasks Task K] {k₀ k : AppScheduler B K}

open TaskApi (xTaskGetTickCount)

/-- **The uptime never runs ahead.** -/
theorem uptime_never_ahead (h0 : (schedulerSystem B K w script writer).init k₀)
    (hrun : (schedulerSystem B K w script writer).Run k₀ ls k) (hbound : elapsed ls < 2 ^ 32) :
    k.rtos.firmware.context.uptimeMs.toNat ≤ (xTaskGetTickCount k.kernel).toNat + 100 := by
  rw [tickCount_run h0 hrun hbound]
  obtain ⟨u₀, u, hu₀, hu, hshown⟩ := ideal_run h0 hrun
  have hup := scheduler_uptime hu₀ hu
  have hmotion := kept_add_lost (ls.filterMap SchedLabel.did)
  have hstarts := motion_starts hu₀ hu
  have hmod := Nat.mod_le (100 * (ls.filterMap SchedLabel.did).countP Label.isKept) (2 ^ 32)
  rw [hshown.rtos]
  rcases timed_run hu₀ hu hbound .motion with ⟨-, -, hnone⟩ | ⟨-, base, h⟩
  · rw [hnone] at hstarts
    simp only [List.length_nil] at hstarts
    omega
  · have hdue := h.count_le
    rw [motion_periodTicks, elapsed_run hu₀ hu] at hdue
    unfold due at hdue
    omega

theorem uptime_never_ahead_demo :
    (demoRun (demoChoices 12 1000)).2.rtos.firmware.context.uptimeMs.toNat ≤
      (xTaskGetTickCount (demoRun (demoChoices 12 1000)).2.kernel).toNat + 100 :=
  uptime_never_ahead (schedulerStart_init .lp64 APP_SCHEDULER_DEMO_SCRIPT) (demoRun_run (demoChoices 12 1000))
    (by decide +kernel)

/-- **The uptime against the clock.** -/
theorem uptime_clock (h0 : (schedulerSystem B K w script writer).init k₀)
    (hrun : (schedulerSystem B K w script writer).Run k₀ ls k) (hbound : elapsed ls < 2 ^ 32)
    (hstop : k.stopRequested = false) {t : Task} (ht : k.taskToRun = some t)
    (hlt : t.priority < (Task.loop .motion).priority) :
    ∃ base, entries .motion ls = [base] ∧ lost ls ≤ criticalTicks ls ∧
      lost ls ≤ due base 100 (xTaskGetTickCount k.kernel).toNat ∧
      k.rtos.firmware.context.uptimeMs.toNat =
        100 * (due base 100 (xTaskGetTickCount k.kernel).toNat - lost ls) % 2 ^ 32 := by
  rw [tickCount_run h0 hrun hbound]
  obtain ⟨u₀, u, hu₀, hu, hshown⟩ := ideal_run h0 hrun
  have hinv := (scheduler_inductive w script writer).run hu
    ((scheduler_inductive w script writer).init u₀ hu₀)
  rw [hshown.taskToRun] at ht
  rw [hshown.stopRequested] at hstop
  have hpoint := hinv.check_of_above hstop ht hlt
  obtain ⟨base, h⟩ := (timed_run hu₀ hu hbound .motion).history (by rw [hpoint]; decide)
  have hstarts := motion_starts hu₀ hu
  have hmotion := kept_add_lost (ls.filterMap SchedLabel.did)
  rw [hpoint, if_neg (by decide), Nat.add_zero, h.due hpoint (hinv.waits ht hlt), motion_periodTicks,
    elapsed_run hu₀ hu] at hstarts
  have hlost : lost ls = (ls.filterMap SchedLabel.did).countP Label.isLost := rfl
  refine ⟨base, h.entered, (losses_run hu₀ hu).lost_le, by omega, ?_⟩
  rw [hshown.rtos, scheduler_uptime hu₀ hu]
  congr 2
  omega

/-- A second passes while the telemetry task holds the mutex. -/
theorem uptime_clock_demo :
    let r := demoRun (demoChoices 12 1000 ++ demoChoices 30 0)
    ∃ base, entries .motion r.1 = [base] ∧ lost r.1 ≤ criticalTicks r.1 ∧
      lost r.1 ≤ due base 100 (xTaskGetTickCount r.2.kernel).toNat ∧
      r.2.rtos.firmware.context.uptimeMs.toNat =
        100 * (due base 100 (xTaskGetTickCount r.2.kernel).toNat - lost r.1) % 2 ^ 32 :=
  uptime_clock (schedulerStart_init .lp64 APP_SCHEDULER_DEMO_SCRIPT)
    (demoRun_run (demoChoices 12 1000 ++ demoChoices 30 0)) (by decide +kernel) (by decide +kernel)
    (t := .loop .command) (by decide +kernel) (by decide)

end Kernel

end MotionFirmware.L5
