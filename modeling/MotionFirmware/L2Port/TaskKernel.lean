import Mathlib.Algebra.Group.Nat.Defs
import Mathlib.Data.List.Nodup
import Mathlib.Logic.Function.Basic
import MotionFirmware.Core.FixedPriority

/-!
# The task kernel (`task.h`)

What `tasks/app_scheduler.c` calls of the FreeRTOS kernel. The kernel is not
part of the repository, so it is a parameter: `TaskApi` names the calls, on
whatever state the kernel keeps, and `LawfulTasks` is what it documents, about
the part of that state a caller can see (`TaskView`):

* of the ready tasks one with the highest priority runs, and at once;
* a delayed task is ready again from its wake tick on. `vTaskDelay` counts
  from now, `vTaskDelayUntil` from the last wake time, which it advances; it
  returns at once when the time is past;
* the tick count is the number of ticks since the start, and `TickType_t` has
  32 bits, so it wraps. A wake time in the past is one that is less than 2^32
  ticks old;
* creating a task fails for null buffers only, and every buffer is static.

A view is a kernel too, the one that keeps nothing else. It meets the laws,
and when no two tasks share a priority every lawful kernel runs the task it
runs (`taskToRun_view`).
-/
namespace MotionFirmware.L2.TaskKernel

open MotionFirmware.Core

/-- mirrors firmware/Config/FreeRTOSConfig.h:11, 14 -/
def configTICK_RATE_HZ : Nat := 1000
def configMAX_PRIORITIES : Nat := 5

/-- `T` names the tasks, `K` is the state of the kernel. A call that concerns
the calling task is given that task. -/
class TaskApi (T : outParam Type) (K : Type) where
  /-- Before any call. -/
  reset : K
  xTaskCreateStatic : K → (task : T) → (uxPriority : Nat) → Bool × K
  vTaskStartScheduler : K → K
  vTaskEndScheduler : K → K
  xTaskGetTickCount : K → UInt32
  vTaskDelay : K → (task : T) → (xTicksToDelay : UInt32) → K
  /-- The last wake time, advanced, and the kernel. -/
  vTaskDelayUntil : K → (task : T) → (xLastWakeTime xTimeIncrement : UInt32) → UInt32 × K
  pdMsToTicks : (xTimeInMs : UInt32) → UInt32
  /-- The tick interrupt. -/
  tick : K → K
  /-- The task that runs, unless it is the idle task. -/
  taskToRun : K → Option T

/-! ## What a caller sees -/

/-- The tasks created, with their priorities; whether the scheduler runs; the
ticks since it was started; for each task the tick from which it is ready. -/
structure TaskView (T : Type) where
  tasks : List (T × Nat)
  running : Bool
  ticks : Nat
  wake : T → Nat

namespace TaskView

variable {T : Type}

/-- Tasks have been created, and nothing else has happened. -/
def created (tasks : List (T × Nat)) : TaskView T := ⟨tasks, false, 0, fun _ => 0⟩

/-- And the scheduler has been started. -/
def started (tasks : List (T × Nat)) : TaskView T := ⟨tasks, true, 0, fun _ => 0⟩

/-- How far a wake time is in the past. -/
def lateness (v : TaskView T) (wakeTime : UInt32) : UInt32 := UInt32.ofNat v.ticks - wakeTime

/-- Ready, and nothing ready has a higher priority. -/
def Highest (v : TaskView T) (t : T) : Prop :=
  v.wake t ≤ v.ticks ∧ ∃ n, (t, n) ∈ v.tasks ∧ ∀ u m, (u, m) ∈ v.tasks → v.wake u ≤ v.ticks → m ≤ n

def tick (v : TaskView T) : TaskView T := { v with ticks := v.ticks + 1 }

/-- What runs, as a choice by priority. -/
def taskToRun (v : TaskView T) : Option T :=
  if v.running then (highest Prod.snd (fun p => decide (v.wake p.1 ≤ v.ticks)) v.tasks).map Prod.fst
  else none

variable [DecidableEq T]

/-- Task `t` is ready from tick `n` on. -/
def wakeAt (v : TaskView T) (t : T) (n : Nat) : TaskView T :=
  { v with wake := Function.update v.wake t n }

def delay (v : TaskView T) (t : T) (ticks : UInt32) : TaskView T := v.wakeAt t (v.ticks + ticks.toNat)

def delayUntil (v : TaskView T) (t : T) (wakeTime period : UInt32) : TaskView T :=
  if v.lateness wakeTime < period then v.delay t (period - v.lateness wakeTime) else v

end TaskView

instance {T : Type} [DecidableEq T] : TaskApi T (TaskView T) where
  reset := TaskView.created []
  xTaskCreateStatic v t priority := (true, { v with tasks := v.tasks ++ [(t, priority)] })
  vTaskStartScheduler v := { v with running := true }
  vTaskEndScheduler v := { v with running := false }
  xTaskGetTickCount v := UInt32.ofNat v.ticks
  vTaskDelay := TaskView.delay
  vTaskDelayUntil v t wakeTime period := (wakeTime + period, v.delayUntil t wakeTime period)
  pdMsToTicks ms := UInt32.ofNat (ms.toNat * configTICK_RATE_HZ / 1000)
  tick := TaskView.tick
  taskToRun := TaskView.taskToRun

open TaskApi

section Ideal

variable {T : Type} [DecidableEq T] (v : TaskView T) (t : T)

@[simp] theorem tickCount_ideal : xTaskGetTickCount v = UInt32.ofNat v.ticks := rfl
@[simp] theorem tick_ideal : TaskApi.tick v = v.tick := rfl
@[simp] theorem taskToRun_ideal : TaskApi.taskToRun v = v.taskToRun := rfl
@[simp] theorem delay_ideal (ticks : UInt32) : vTaskDelay v t ticks = v.delay t ticks := rfl

@[simp] theorem delayUntil_ideal (wakeTime period : UInt32) :
    vTaskDelayUntil v t wakeTime period = (wakeTime + period, v.delayUntil t wakeTime period) := rfl

@[simp] theorem endScheduler_ideal : vTaskEndScheduler v = { v with running := false } := rfl

end Ideal

/-! ## Laws -/

/-- `Shows k v`: a caller of `k` sees `v`. -/
class LawfulTasks (T : outParam Type) [DecidableEq T] (K : Type) [TaskApi T K] where
  Shows : K → TaskView T → Prop
  reset : Shows reset (TaskView.created [])
  create : ∀ {k : K} {tasks : List (T × Nat)} (t : T) (priority : Nat),
    Shows k (TaskView.created tasks) → t ∉ tasks.map Prod.fst → priority < configMAX_PRIORITIES →
    (xTaskCreateStatic k t priority).1 = true ∧
      Shows (xTaskCreateStatic k t priority).2 (TaskView.created (tasks ++ [(t, priority)]))
  start_scheduler : ∀ {k : K} {tasks : List (T × Nat)}, Shows k (TaskView.created tasks) →
    Shows (vTaskStartScheduler k) (TaskView.started tasks)
  end_scheduler : ∀ {k : K} {v : TaskView T}, Shows k v → v.running = true →
    Shows (vTaskEndScheduler k) { v with running := false }
  tick_count : ∀ {k : K} {v : TaskView T}, Shows k v → xTaskGetTickCount k = UInt32.ofNat v.ticks
  delay : ∀ {k : K} {v : TaskView T} {t : T} (ticks : UInt32), Shows k v → taskToRun k = some t →
    0 < ticks → Shows (vTaskDelay k t ticks) (v.delay t ticks)
  delay_until : ∀ {k : K} {v : TaskView T} {t : T} (wakeTime period : UInt32), Shows k v →
    taskToRun k = some t → 0 < period →
    (vTaskDelayUntil k t wakeTime period).1 = wakeTime + period ∧
      Shows (vTaskDelayUntil k t wakeTime period).2 (v.delayUntil t wakeTime period)
  ms_to_ticks : ∀ ms : UInt32, ms.toNat * configTICK_RATE_HZ < 2 ^ 32 →
    (pdMsToTicks K ms).toNat = ms.toNat * configTICK_RATE_HZ / 1000
  tick : ∀ {k : K} {v : TaskView T}, Shows k v → Shows (TaskApi.tick k) v.tick
  runs : ∀ {k : K} {v : TaskView T} {t : T}, Shows k v → taskToRun k = some t →
    v.running = true ∧ v.Highest t
  idles : ∀ {k : K} {v : TaskView T}, Shows k v → taskToRun k = none → v.running = true →
    ∀ t n, (t, n) ∈ v.tasks → v.ticks < v.wake t

section Choice

variable {T : Type} {v : TaskView T} {t : T}

theorem TaskView.runs (h : v.taskToRun = some t) : v.running = true ∧ v.Highest t := by
  unfold TaskView.taskToRun at h
  split at h
  · rename_i hrunning
    obtain ⟨⟨t', n⟩, hchosen, rfl⟩ := Option.map_eq_some_iff.mp h
    refine ⟨hrunning, of_decide_eq_true (highest_ready hchosen :), n, List.mem_of_mem_filter
      (List.argmax_mem hchosen), fun u m hu hready => ?_⟩
    by_contra hlt
    have hblocked := highest_blocks hchosen hu (by simpa using hlt)
    simp [hready] at hblocked
  · cases h

theorem TaskView.idles (h : v.taskToRun = none) (hrunning : v.running = true) {n : Nat}
    (ht : (t, n) ∈ v.tasks) : v.ticks < v.wake t := by
  rw [TaskView.taskToRun, if_pos hrunning, Option.map_eq_none_iff] at h
  simpa using highest_idle h ht

end Choice

instance {T : Type} [DecidableEq T] : LawfulTasks T (TaskView T) where
  Shows := Eq
  reset := rfl
  create _ _ h _ _ := by rw [h]; exact ⟨rfl, rfl⟩
  start_scheduler h := by rw [h]; rfl
  end_scheduler h _ := by rw [h]; rfl
  tick_count h := by rw [h]; rfl
  delay _ h _ _ := by rw [h]; rfl
  delay_until _ _ h _ _ := by rw [h]; exact ⟨rfl, rfl⟩
  ms_to_ticks ms h := by
    show (UInt32.ofNat (ms.toNat * configTICK_RATE_HZ / 1000)).toNat = _
    rw [UInt32.toNat_ofNat']
    exact Nat.mod_eq_of_lt ((Nat.div_le_self _ _).trans_lt h)
  tick h := by rw [h]; rfl
  runs h hrun := by
    subst h
    exact TaskView.runs hrun
  idles h hidle hrunning t n ht := by
    subst h
    exact TaskView.idles hidle hrunning ht

section Lawful

variable {T : Type} [DecidableEq T] {K : Type} [TaskApi T K] [LawfulTasks T K] {k : K} {v : TaskView T}

open LawfulTasks

/-- With a priority of its own for each task, the choice is no choice. -/
theorem taskToRun_view (h : Shows k v) (hdistinct : (v.tasks.map Prod.snd).Nodup) :
    TaskApi.taskToRun k = v.taskToRun := by
  have hsame {t u : T} (ht : v.Highest t) (hu : v.Highest u) : t = u := by
    obtain ⟨hreadyt, n, hnt, ht⟩ := ht
    obtain ⟨hreadyu, m, hmu, hu⟩ := hu
    have hnm : n = m := Nat.le_antisymm (hu t n hnt hreadyt) (ht u m hmu hreadyu)
    exact congrArg Prod.fst (List.inj_on_of_nodup_map hdistinct hnt hmu hnm)
  have hnone {t : T} (hrunning : v.running = true) (ht : v.Highest t)
      (hidle : ∀ t n, (t, n) ∈ v.tasks → v.ticks < v.wake t) : False := by
    obtain ⟨hready, n, hn, -⟩ := ht
    have := hidle t n hn
    omega
  cases hk : TaskApi.taskToRun k with
  | some t =>
    obtain ⟨hrunning, ht⟩ := runs h hk
    cases hv : v.taskToRun with
    | some u => rw [hsame ht (TaskView.runs hv).2]
    | none => exact (hnone hrunning ht fun t n hn => TaskView.idles hv hrunning hn).elim
  | none =>
    cases hv : v.taskToRun with
    | some u =>
      obtain ⟨hrunning, hu⟩ := TaskView.runs hv
      exact (hnone hrunning hu (idles h hk hrunning)).elim
    | none => rfl

theorem pdMsToTicks_view {ms : UInt32} (h : ms.toNat * configTICK_RATE_HZ < 2 ^ 32) :
    pdMsToTicks K ms = pdMsToTicks (TaskView T) ms :=
  UInt32.toNat_inj.mp ((ms_to_ticks ms h).trans (ms_to_ticks (K := TaskView T) ms h).symm)

end Lawful

/-! ## Wake times -/

namespace TaskView

variable {T : Type}

/-- A wake time less than 2^32 ticks old is seen as what it is. -/
theorem lateness_toNat {v : TaskView T} {n : Nat} (hle : n ≤ v.ticks) (hlt : v.ticks < n + 2 ^ 32) :
    (v.lateness (UInt32.ofNat n)).toNat = v.ticks - n := by
  unfold lateness
  rw [UInt32.toNat_sub, UInt32.toNat_ofNat', UInt32.toNat_ofNat']
  omega

/-- A tick makes a wake time one tick older, and may wrap. -/
theorem lateness_tick_le (v : TaskView T) (wakeTime : UInt32) :
    (v.tick.lateness wakeTime).toNat ≤ (v.lateness wakeTime).toNat + 1 := by
  simp only [lateness, tick, UInt32.toNat_sub, UInt32.toNat_ofNat']
  omega

/-- A wake time is not late at its own tick. -/
theorem lateness_wake {v : TaskView T} {n : Nat} (h : v.ticks = n) : v.lateness (UInt32.ofNat n) = 0 := by
  rw [lateness, h, UInt32.sub_self]

/-- An advanced wake time is that much less late. -/
theorem lateness_add {v : TaskView T} {wakeTime period : UInt32} (h : period ≤ v.lateness wakeTime) :
    (v.lateness (wakeTime + period)).toNat = (v.lateness wakeTime).toNat - period.toNat := by
  have hsub : v.lateness (wakeTime + period) = v.lateness wakeTime - period := by
    rw [lateness, lateness, UInt32.sub_eq_iff_eq_add, UInt32.add_comm wakeTime, ← UInt32.add_assoc,
      UInt32.sub_add_cancel, UInt32.sub_add_cancel]
  rw [hsub, UInt32.toNat_sub_of_le _ _ h]

variable [DecidableEq T] (v : TaskView T) (t : T) (n : Nat)

@[simp] theorem tick_ticks {T : Type} (v : TaskView T) : v.tick.ticks = v.ticks + 1 := rfl

@[simp] theorem wakeAt_ticks : (v.wakeAt t n).ticks = v.ticks := rfl
@[simp] theorem wakeAt_tasks : (v.wakeAt t n).tasks = v.tasks := rfl
@[simp] theorem wakeAt_running : (v.wakeAt t n).running = v.running := rfl

@[simp] theorem lateness_wakeAt (wakeTime : UInt32) :
    (v.wakeAt t n).lateness wakeTime = v.lateness wakeTime := rfl

@[simp] theorem wakeAt_wake : (v.wakeAt t n).wake t = n := Function.update_self _ _ _

theorem wakeAt_wake_of_ne {u : T} (h : u ≠ t) : (v.wakeAt t n).wake u = v.wake u :=
  Function.update_of_ne h _ _

@[simp] theorem wakeAt_wake_self : v.wakeAt t (v.wake t) = v :=
  congrArg (fun wake => { v with wake }) (Function.update_eq_self _ _)

variable (wakeTime period : UInt32)

/-- When a task that delays until its next wake time is ready. -/
def nextWake : Nat :=
  if v.lateness wakeTime < period then v.ticks + (period - v.lateness wakeTime).toNat else v.wake t

omit [DecidableEq T] in
/-- A delay that is not over at once ends later than now. -/
theorem lt_nextWake {wakeTime period : UInt32} (h : v.lateness wakeTime < period) :
    v.ticks < v.nextWake t wakeTime period := by
  have hsub := UInt32.toNat_sub_of_le _ _ (UInt32.le_of_lt h)
  rw [UInt32.lt_iff_toNat_lt] at h
  rw [nextWake, if_pos (UInt32.lt_iff_toNat_lt.mpr h)]
  omega

omit [DecidableEq T] in
/-- It ends at the time the caller counts from. -/
theorem ofNat_nextWake {wakeTime period : UInt32} (h : v.lateness wakeTime < period) :
    UInt32.ofNat (v.nextWake t wakeTime period) = wakeTime + period := by
  rw [nextWake, if_pos h, UInt32.ofNat_add, UInt32.ofNat_toNat, lateness, UInt32.sub_eq_add_neg period,
    UInt32.neg_sub, UInt32.add_comm, UInt32.add_assoc, UInt32.sub_add_cancel, UInt32.add_comm]

theorem delayUntil_eq : v.delayUntil t wakeTime period = v.wakeAt t (v.nextWake t wakeTime period) := by
  unfold delayUntil nextWake
  split
  · rfl
  · exact (wakeAt_wake_self v t).symm

omit [DecidableEq T] in
/-- Counted without wrapping: the next wake time if it is still to come, else
no delay. -/
theorem nextWake_of_past {m : Nat} (hle : m ≤ v.ticks) (hlt : v.ticks < m + 2 ^ 32) :
    v.nextWake t (UInt32.ofNat m) period =
      if v.ticks < m + period.toNat then m + period.toNat else v.wake t := by
  have hlate := lateness_toNat hle hlt
  simp only [nextWake, UInt32.lt_iff_toNat_lt, hlate]
  by_cases h : v.ticks < m + period.toNat
  · have hsub : v.lateness (UInt32.ofNat m) ≤ period := by
      rw [UInt32.le_iff_toNat_le, hlate]
      omega
    rw [if_pos (by omega), if_pos h, UInt32.toNat_sub_of_le _ _ hsub, hlate]
    omega
  · rw [if_neg (by omega), if_neg h]

end TaskView

end MotionFirmware.L2.TaskKernel
