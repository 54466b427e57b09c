import Mathlib.Data.List.MinMax

/-!
# Periodic tasks under fixed priorities

Two halves of a preemptive scheduler, apart from any system.

* The choice: of the tasks that are ready, the one with the highest priority
  runs (`highest`). So whatever runs, nothing above it is ready
  (`highest_blocks`).
* The releases: a task that delays until `base + period`, `base + 2 * period`,
  … is never early (`Paced`). When it waits for its next release, it has had
  exactly as many as were due (`Paced.due`).
-/
namespace MotionFirmware.Core

/-! ## The choice -/

section Choice

variable {T : Type} {priority : T → Nat} {ready : T → Bool} {tasks : List T} {t u : T}

/-- The ready task with the highest priority, if any is ready. -/
def highest (priority : T → Nat) (ready : T → Bool) (tasks : List T) : Option T :=
  (tasks.filter ready).argmax priority

theorem highest_ready (h : highest priority ready tasks = some t) : ready t = true :=
  List.of_mem_filter (List.argmax_mem h)

/-- What runs keeps nothing above it waiting. -/
theorem highest_blocks (h : highest priority ready tasks = some t) (hu : u ∈ tasks)
    (hlt : priority t < priority u) : ready u = false := by
  by_contra hready
  have hmem : u ∈ tasks.filter ready := List.mem_filter.mpr ⟨hu, by simpa using hready⟩
  exact absurd (List.le_of_mem_argmax hmem h) (by omega)

theorem highest_idle (h : highest priority ready tasks = none) (hu : u ∈ tasks) : ready u = false := by
  rw [highest, List.argmax_eq_none, List.filter_eq_nil_iff] at h
  simpa using h u hu

end Choice

/-! ## The releases -/

section Releases

variable {base period : Nat} {starts : List Nat} {now : Nat}

/-- When the activation after `k` others is released. -/
def release (base period k : Nat) : Nat := base + period * k

/-- How many activations are due by `now`. -/
def due (base period now : Nat) : Nat := (now - base) / period + 1

theorem release_succ (base period k : Nat) :
    release base period (k + 1) = release base period k + period := by
  rw [release, release, Nat.mul_succ, Nat.add_assoc]

/-- No activation starts before its release. -/
def Paced (base period : Nat) (starts : List Nat) : Prop :=
  ∀ k (h : k < starts.length), release base period k ≤ starts[k]

theorem Paced.nil : Paced base period [] := fun k h => absurd h (Nat.not_lt_zero k)

theorem Paced.snoc (h : Paced base period starts) (hnow : release base period starts.length ≤ now) :
    Paced base period (starts ++ [now]) := by
  intro k hk
  rw [List.length_append, List.length_singleton] at hk
  by_cases hlast : k < starts.length
  · rw [List.getElem_append_left hlast]
    exact h k hlast
  · have hlast : k = starts.length := by omega
    subst hlast
    simpa using hnow

/-- The last activation has been released. -/
theorem Paced.last_le (h : Paced base period starts) (hpast : ∀ t ∈ starts, t ≤ now)
    (hne : starts ≠ []) : release base period (starts.length - 1) ≤ now := by
  have hlen : starts.length - 1 < starts.length := by
    have := List.length_pos_of_ne_nil hne
    omega
  exact (h _ hlen).trans (hpast _ (List.getElem_mem hlen))

/-- So there are never more activations than were due. -/
theorem Paced.count_le (h : Paced base period starts) (hpast : ∀ t ∈ starts, t ≤ now)
    (hperiod : 0 < period) : starts.length ≤ due base period now := by
  by_cases hne : starts = []
  · rw [hne]
    exact Nat.zero_le _
  · have hlast := h.last_le hpast hne
    have hdiv : starts.length - 1 ≤ (now - base) / period := by
      rw [Nat.le_div_iff_mul_le hperiod, Nat.mul_comm]
      unfold release at hlast
      omega
    unfold due
    omega

/-- And as many as were due, once the next one is still to come. -/
theorem Paced.due (h : Paced base period starts) (hpast : ∀ t ∈ starts, t ≤ now)
    (hne : starts ≠ []) (hnext : now < release base period starts.length) (hperiod : 0 < period) :
    starts.length = due base period now := by
  have hle := h.count_le hpast hperiod
  have hdiv : (now - base) / period < starts.length := by
    rw [Nat.div_lt_iff_lt_mul hperiod, Nat.mul_comm]
    have := h.last_le hpast hne
    unfold release at hnext this
    omega
  unfold Core.due at hle ⊢
  omega

end Releases

end MotionFirmware.Core
