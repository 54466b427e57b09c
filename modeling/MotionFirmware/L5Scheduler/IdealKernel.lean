import MotionFirmware.L5Scheduler.AppScheduler

/-!
# Any lawful kernel will do

The four tasks have four priorities, so the laws leave the kernel no choice:
on every lawful kernel the scheduler does, step for step, what it does on the
ideal one (`shown_step`). The states differ in the kernel only, and of that
every caller sees the same (`Shown`).

The modules that follow prove what they prove on the ideal kernel, whose time
is a natural number and whose ready tasks are a comparison, and carry it over
with `ideal_run`.
-/
namespace MotionFirmware.L5

open MotionFirmware.Core MotionFirmware.L1.Motion MotionFirmware.L1.Fault MotionFirmware.L1.Telemetry
open MotionFirmware.L1.Parser MotionFirmware.L2.Port MotionFirmware.L3.Messages MotionFirmware.L3.Tasks
open MotionFirmware.L4
open MotionFirmware.L2.TaskKernel
open AppScheduler
open TaskApi (xTaskCreateStatic vTaskStartScheduler vTaskEndScheduler xTaskGetTickCount vTaskDelay
  vTaskDelayUntil pdMsToTicks)

/-- What the kernel is told of the tasks. -/
def Task.created : List (Task × Nat) := Task.all.map fun t => (t, t.priority)

theorem Task.mem_created (t : Task) : (t, t.priority) ∈ Task.created :=
  List.mem_map.mpr ⟨t, Task.mem_all t, rfl⟩

theorem Task.priorities_distinct : (Task.created.map Prod.snd).Nodup := by decide

abbrev IdealScheduler (B : RtosBackend) := AppScheduler B (TaskView Task)

abbrev idealSystem (B : RtosBackend) [RtosApi B] (w : LongWidth) (script : List CString) (writer : Bool) :
    LTS (IdealScheduler B) SchedLabel := schedulerSystem B (TaskView Task) w script writer

variable {B : RtosBackend} {K : Type}

/-- The same, on another kernel. -/
def AppScheduler.onKernel {K' : Type} (s : AppScheduler B K) (kernel : K') : AppScheduler B K' :=
  { s with kernel := kernel }

/-! ## Times -/

section Times

variable [TaskApi Task K] [LawfulTasks Task K] {ms : UInt32}

theorem pdMsToTicks_toNat (h : ms.toNat * configTICK_RATE_HZ < 2 ^ 32) :
    (pdMsToTicks K ms).toNat = inTicks ms := LawfulTasks.ms_to_ticks ms h

theorem Periodic.periodMs_small (p : Periodic) : p.periodMs.toNat * configTICK_RATE_HZ < 2 ^ 32 := by
  cases p <;> decide

@[simp] theorem period_toNat (p : Periodic) : (pdMsToTicks K p.periodMs).toNat = p.periodTicks :=
  pdMsToTicks_toNat p.periodMs_small

theorem pdMsToTicks_pos (h : ms.toNat * configTICK_RATE_HZ < 2 ^ 32) (hpos : 0 < inTicks ms) :
    0 < pdMsToTicks K ms := by
  rw [UInt32.lt_iff_toNat_lt, pdMsToTicks_toNat h]
  exact hpos

end Times

/-! ## The same steps -/

section Shown

variable [TaskApi Task K] [LawfulTasks Task K] {w : LongWidth} {script : List CString}
  {s : AppScheduler B K} {u : IdealScheduler B}

open LawfulTasks (Shows)

/-- The kernel of `s` shows what the ideal kernel of `u` is; the rest is the
same. -/
def Shown (s : AppScheduler B K) (u : IdealScheduler B) : Prop :=
  ∃ v, Shows s.kernel v ∧ v.tasks = Task.created ∧ u = s.onKernel v

theorem Shown.taskToRun (h : Shown s u) : s.taskToRun = u.taskToRun := by
  obtain ⟨v, hk, htasks, rfl⟩ := h
  exact taskToRun_view hk (htasks ▸ Task.priorities_distinct)

/-- The kernel apart, there is one state. -/
theorem Shown.same (h : Shown s u) : s.rtos = u.rtos ∧ s.stopRequested = u.stopRequested ∧
    s.loops = u.loops ∧ s.supervisorTask = u.supervisorTask ∧ s.commandIndex = u.commandIndex ∧
    s.commandTask = u.commandTask := by
  obtain ⟨v, -, -, rfl⟩ := h
  exact ⟨rfl, rfl, rfl, rfl, rfl, rfl⟩

theorem Shown.rtos (h : Shown s u) : s.rtos = u.rtos := h.same.1
theorem Shown.stopRequested (h : Shown s u) : s.stopRequested = u.stopRequested := h.same.2.1
theorem Shown.loops (h : Shown s u) : s.loops = u.loops := h.same.2.2.1
theorem Shown.supervisorTask (h : Shown s u) : s.supervisorTask = u.supervisorTask := h.same.2.2.2.1
theorem Shown.commandTask (h : Shown s u) : s.commandTask = u.commandTask := h.same.2.2.2.2.2

theorem shown_supervisor (h : Shown s u) (hrun : s.taskToRun = some .supervisor) :
    Shown s.supervisorAction u.supervisorAction := by
  obtain ⟨v, hk, htasks, rfl⟩ := h
  have hdelay {ms : UInt32} (hms : ms.toNat * configTICK_RATE_HZ < 2 ^ 32) (hpos : 0 < inTicks ms) :
      Shows (vTaskDelay s.kernel .supervisor (pdMsToTicks K ms))
        (v.delay .supervisor (pdMsToTicks (TaskView Task) ms)) := by
    rw [← pdMsToTicks_view (K := K) hms]
    exact LawfulTasks.delay _ hk hrun (pdMsToTicks_pos hms hpos)
  cases hsup : s.supervisorTask with
  | entry =>
    simp only [supervisorAction, onKernel, hsup]
    exact ⟨_, hdelay (by decide) (by decide), htasks, rfl⟩
  | requestStop =>
    simp only [supervisorAction, onKernel, hsup]
    exact ⟨v, hk, htasks, rfl⟩
  | grace =>
    simp only [supervisorAction, onKernel, hsup]
    exact ⟨_, hdelay (by decide) (by decide), htasks, rfl⟩
  | endScheduler =>
    simp only [supervisorAction, onKernel, hsup]
    exact ⟨_, LawfulTasks.end_scheduler hk (LawfulTasks.runs hk hrun).1, htasks, rfl⟩
  | ended =>
    simp only [supervisorAction, onKernel, hsup]
    exact ⟨v, hk, htasks, by simp only [onKernel, hsup]⟩

variable [RtosApi B]

omit [TaskApi Task K] [LawfulTasks Task K] in
/-- An action of an activation does not call the kernel. -/
theorem bodyAction_onKernel {K' : Type} (w : LongWidth) (script : List CString) (s : AppScheduler B K)
    (kernel : K') (p : Periodic) (locals : Locals) : bodyAction w script (s.onKernel kernel) p locals =
      ((bodyAction w script s p locals).1, (bodyAction w script s p locals).2.1,
        (bodyAction w script s p locals).2.2.onKernel kernel) := by
  cases p with
  | command =>
    cases htask : s.commandTask with
    | idle =>
      cases hline : script[s.commandIndex]? <;> simp [bodyAction, commandAction, onKernel, htask, hline]
    | parsed line locals' result c => simp [bodyAction, commandAction, onKernel, htask]
  | motion => rfl
  | telemetry => rfl

theorem shown_loop (w : LongWidth) (script : List CString) (h : Shown s u) {p : Periodic}
    (hrun : s.taskToRun = some (.loop p)) (locals : Locals) :
    (loopAction w script s p locals).1 = (loopAction w script u p locals).1 ∧
      Shown (loopAction w script s p locals).2 (loopAction w script u p locals).2 := by
  obtain ⟨v, hk, htasks, rfl⟩ := h
  have hpoint' : ((s.onKernel v).loops p).point = (s.loops p).point := rfl
  cases hpoint : (s.loops p).point with
  | entry =>
    rw [hpoint] at hpoint'
    simp only [loopAction, hpoint, hpoint', LawfulTasks.tick_count hk]
    exact ⟨trivial, v, hk, htasks, rfl⟩
  | check =>
    rw [hpoint] at hpoint'
    have hstop : (s.onKernel v).stopRequested = s.stopRequested := rfl
    simp only [loopAction, hpoint, hpoint', hstop]
    split <;> exact ⟨rfl, v, hk, htasks, rfl⟩
  | body =>
    rw [hpoint] at hpoint'
    have hkernel : (bodyAction w script s p locals).2.2.kernel = s.kernel := by rw [bodyAction_frame]
    simp only [loopAction, hpoint, hpoint', bodyAction_onKernel]
    split
    · exact ⟨trivial, v, hkernel ▸ hk, htasks, rfl⟩
    · exact ⟨trivial, v, hkernel ▸ hk, htasks, rfl⟩
  | delay =>
    rw [hpoint] at hpoint'
    have hpos : 0 < pdMsToTicks K p.periodMs := pdMsToTicks_pos p.periodMs_small p.periodTicks_pos
    obtain ⟨hlast, hk'⟩ := LawfulTasks.delay_until (s.loops p).lastWakeTime _ hk hrun hpos
    simp only [loopAction, hpoint, hpoint', hlast]
    rw [pdMsToTicks_view p.periodMs_small] at hk' ⊢
    refine ⟨trivial, _, hk', ?_, rfl⟩
    rw [TaskView.delayUntil_eq]
    exact htasks
  | parked =>
    rw [hpoint] at hpoint'
    have hsmall : APP_SCHEDULER_SHUTDOWN_GRACE_MS.toNat * configTICK_RATE_HZ < 2 ^ 32 := by decide
    have hk' := LawfulTasks.delay _ hk hrun (pdMsToTicks_pos (K := K) hsmall (by decide))
    simp only [loopAction, hpoint, hpoint']
    rw [pdMsToTicks_view hsmall] at hk' ⊢
    exact ⟨trivial, _, hk', htasks, rfl⟩

theorem shown_step (w : LongWidth) (script : List CString) (h : Shown s u) (c : SchedChoice) :
    (AppScheduler.step w script s c).1 = (AppScheduler.step w script u c).1 ∧
      Shown (AppScheduler.step w script s c).2 (AppScheduler.step w script u c).2 := by
  have hrun := h.taskToRun
  rcases step_cases w script s c with ⟨rfl, he⟩ | ⟨locals, rfl, hs, he⟩ | ⟨locals, p, rfl, hs, he⟩ |
    ⟨locals, rfl, hs, he⟩
  · obtain ⟨v, hk, htasks, rfl⟩ := h
    exact ⟨rfl, v.tick, LawfulTasks.tick hk, htasks, rfl⟩
  · rw [hs] at hrun
    simp only [AppScheduler.step, ← hrun, hs]
    exact ⟨trivial, h⟩
  · obtain ⟨hevent, hnext⟩ := shown_loop w script h hs locals
    rw [hs] at hrun
    simp only [AppScheduler.step, ← hrun, hs, hevent]
    exact ⟨trivial, hnext⟩
  · have hnext := shown_supervisor h hs
    rw [hs] at hrun
    simp only [AppScheduler.step, ← hrun, hs, h.supervisorTask]
    exact ⟨trivial, hnext⟩

/-! ## The same start -/

theorem create_tasks_shown : (appSchedulerCreateTasks (TaskApi.reset : K)).1 = true ∧
    Shows (appSchedulerCreateTasks (TaskApi.reset : K)).2 (TaskView.created Task.created) := by
  obtain ⟨h₁, hk₁⟩ := LawfulTasks.create (K := K) (.loop .command) APP_SCHEDULER_COMMAND_TASK_PRIORITY
    LawfulTasks.reset (by decide) (by decide)
  obtain ⟨h₂, hk₂⟩ := LawfulTasks.create (.loop .motion) APP_SCHEDULER_MOTION_TASK_PRIORITY hk₁
    (by decide) (by decide)
  obtain ⟨h₃, hk₃⟩ := LawfulTasks.create (.loop .telemetry) APP_SCHEDULER_TELEMETRY_TASK_PRIORITY hk₂
    (by decide) (by decide)
  obtain ⟨h₄, hk₄⟩ := LawfulTasks.create .supervisor APP_SCHEDULER_SUPERVISOR_TASK_PRIORITY hk₃
    (by decide) (by decide)
  simp only [appSchedulerCreateTasks, appSchedulerCreateTask, h₁, h₂, h₃, h₄]
  exact ⟨rfl, hk₄⟩

/-- Whatever the kernel, the scheduler starts unless `app_tasks_init` fails. -/
theorem start_shown {s₀ : Firmware B} {writer : Bool} (h : (appTasksInit s₀ writer).1 = true) :
    ∃ (s : AppScheduler B K) (u : IdealScheduler B), appSchedulerStart s₀ writer = some s ∧
      appSchedulerStart s₀ writer = some u ∧ Shown s u := by
  obtain ⟨hcreate, hshows⟩ := create_tasks_shown (K := K)
  let firmware : Firmware B := { (appTasksInit s₀ writer).2 with
    telemetry := telemetrySendStartup (appTasksInit s₀ writer).2.telemetry }
  refine ⟨create firmware (vTaskStartScheduler (appSchedulerCreateTasks (TaskApi.reset : K)).2),
    create firmware (TaskView.started Task.created), ?_, ?_, _, LawfulTasks.start_scheduler hshows, rfl, rfl⟩
  · simp only [appSchedulerStart, h, hcreate]
    rfl
  · simp only [appSchedulerStart, h]
    rfl

variable {writer : Bool}

theorem kernel_simulation (w : LongWidth) (script : List CString) (writer : Bool) :
    (schedulerSystem B K w script writer).Simulation (idealSystem B w script writer)
      Shown where
  init s hinit := by
    obtain ⟨s₀, hempty, hstart⟩ := hinit
    obtain ⟨s', u, hs', hu, hshown⟩ := start_shown (K := K) (start_eq hstart).1
    rw [hstart] at hs'
    cases hs'
    exact ⟨u, ⟨s₀, hempty, hu⟩, hshown⟩
  step s u l s' h hst := by
    obtain ⟨c, -, rfl, rfl⟩ := LTS.ofStep_step hst
    obtain ⟨hlabel, hnext⟩ := shown_step w script h c
    rw [hlabel]
    exact ⟨_, LTS.step_of_act (step_choice w script) u c, hnext⟩

/-- And the other way round. -/
theorem ideal_simulation (w : LongWidth) (script : List CString) (writer : Bool) :
    (idealSystem B w script writer).Simulation (schedulerSystem B K w script writer)
      (fun u s => Shown s u) where
  init u hinit := by
    obtain ⟨s₀, hempty, hstart⟩ := hinit
    obtain ⟨s, u', hs, hu', hshown⟩ := start_shown (K := K) (start_eq hstart).1
    rw [hstart] at hu'
    cases hu'
    exact ⟨s, ⟨s₀, hempty, hs⟩, hshown⟩
  step u s l u' h hst := by
    obtain ⟨c, -, rfl, rfl⟩ := LTS.ofStep_step hst
    obtain ⟨hlabel, hnext⟩ := shown_step w script h c
    rw [← hlabel]
    exact ⟨_, LTS.step_of_act (step_choice w script) s c, hnext⟩

/-- **Every run is one on the ideal kernel.** -/
theorem ideal_run {s₀ : AppScheduler B K} {ls : List SchedLabel}
    (h0 : (schedulerSystem B K w script writer).init s₀)
    (hrun : (schedulerSystem B K w script writer).Run s₀ ls s) :
    ∃ u₀ u, (idealSystem B w script writer).init u₀ ∧
      (idealSystem B w script writer).Run u₀ ls u ∧ Shown s u := by
  have hsim := kernel_simulation (B := B) (K := K) w script writer
  obtain ⟨u₀, hu₀, hshown⟩ := hsim.init s₀ h0
  obtain ⟨u, hu, hshown'⟩ := hsim.run hshown hrun
  exact ⟨u₀, u, hu₀, hu, hshown'⟩

/-- And goes on as one. -/
theorem exec_shown (h : Shown s u) (choices : List SchedChoice) :
    (LTS.exec (AppScheduler.step w script) s choices).1 =
        (LTS.exec (AppScheduler.step w script) u choices).1 ∧
      Shown (LTS.exec (AppScheduler.step w script) s choices).2
        (LTS.exec (AppScheduler.step w script) u choices).2 := by
  have hsame := LTS.exec_related (R := Shown) (E := (· = ·)) (O := (· = ·))
    (f := AppScheduler.step w script) (g := AppScheduler.step w script)
    (fun s u a b h hab => by rw [← hab]; exact shown_step w script h a) h
    (List.forall₂_eq_eq_eq.symm ▸ rfl : List.Forall₂ (· = ·) choices choices)
  rw [List.forall₂_eq_eq_eq] at hsame
  exact hsame

end Shown

end MotionFirmware.L5
