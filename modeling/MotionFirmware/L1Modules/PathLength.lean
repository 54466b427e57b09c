import MotionFirmware.L1Modules.MotionSpec

/-!
# Path length on the whole coordinate type

`motion_controller_start_move` takes any two `int32_t` coordinates. The
differences `target - start` are taken in `int32_t`, where an overflow is
undefined; `motion_interpolate_position` widens to `int64_t` first.

`MotionController` lets the differences wrap. Here they are partial (`subI32`),
so that a result exists only where C defines one: `movesExactly_iff` says that
the path length is exact, and a move starts as it should, where both exact
differences fit in `int32_t`, and only there.
-/
namespace MotionFirmware.L1.Motion

open MotionFirmware.Core

/-- The exact difference is an `int32_t`. -/
def DifferenceFits (start target : Int32) : Prop :=
  -2 ^ 31 ≤ target.toInt - start.toInt ∧ target.toInt - start.toInt < 2 ^ 31

instance (start target : Int32) : Decidable (DifferenceFits start target) :=
  inferInstanceAs (Decidable (_ ∧ _))

/-- `target - start` in C: `none` where the behaviour is undefined. -/
def subI32 (target start : Int32) : Option Int32 :=
  if DifferenceFits start target then some (target - start) else none

/-- mirrors firmware/App/motion/motion_controller.c:53-66 -/
def motionCalculatePathLengthC (startX startY targetX targetY : Int32) : Option UInt32 := do
  let dx := motionAbsI32 (← subI32 targetX startX)
  let dy := motionAbsI32 (← subI32 targetY startY)
  let dxSquared := dx.toUInt64 * dx.toUInt64
  let dySquared := dy.toUInt64 * dy.toUInt64
  return motionIsqrtU64 (dxSquared + dySquared)

/-- Undefined where the path length is and it is asked for.
mirrors firmware/App/motion/motion_controller.c:124-155 -/
def motionControllerStartMoveC (m : MotionController) (targetX targetY : Int32) (feedrate : UInt32) :
    Option (Bool × MotionController) :=
  if m.status.state = .fault ∨ feedrate = 0 then some (false, m)
  else
    (motionCalculatePathLengthC m.status.currentXMilliMm m.status.currentYMilliMm targetX targetY).map
      fun _ => motionControllerStartMove m targetX targetY feedrate

variable {sx sy tx ty : Int32}

theorem subI32_of_fits (h : DifferenceFits sx tx) :
    subI32 tx sx = some (tx - sx) ∧ (tx - sx).toInt = tx.toInt - sx.toInt := by
  refine ⟨if_pos h, ?_⟩
  rw [Int32.toInt_sub, bmod32_eq h.1 h.2]

/-- Where C defines the path length, it is the one of `MotionController`. -/
theorem pathLengthC_of_fits (hx : DifferenceFits sx tx) (hy : DifferenceFits sy ty) :
    motionCalculatePathLengthC sx sy tx ty = some (motionCalculatePathLength sx sy tx ty) := by
  simp only [motionCalculatePathLengthC, (subI32_of_fits hx).1, (subI32_of_fits hy).1]
  rfl

theorem pathLengthC_isSome : (motionCalculatePathLengthC sx sy tx ty).isSome = true ↔
    DifferenceFits sx tx ∧ DifferenceFits sy ty := by
  constructor
  · intro h
    by_contra hno
    have hnone : motionCalculatePathLengthC sx sy tx ty = none := by
      unfold motionCalculatePathLengthC
      by_cases hx : DifferenceFits sx tx
      · have hy : ¬ DifferenceFits sy ty := fun hy => hno ⟨hx, hy⟩
        have hy : subI32 ty sy = none := if_neg hy
        rw [(subI32_of_fits hx).1, hy]
        rfl
      · have hx : subI32 tx sx = none := if_neg hx
        rw [hx]
        rfl
    rw [hnone] at h; cases h
  · intro h
    rw [pathLengthC_of_fits h.1 h.2]; rfl

/-- The floor of the exact Euclidean distance, no signed overflow on the way
and no wrap of the 64-bit sum of squares. -/
def PathExact (sx sy tx ty : Int32) : Prop :=
  (∃ length, motionCalculatePathLengthC sx sy tx ty = some length ∧
    length.toNat = distance sx.toInt sy.toInt tx.toInt ty.toInt) ∧
  (tx.toInt - sx.toInt).natAbs * (tx.toInt - sx.toInt).natAbs +
    (ty.toInt - sy.toInt).natAbs * (ty.toInt - sy.toInt).natAbs < 2 ^ 64

/-- The move is accepted; it is over at once iff there is nowhere to go; the
stage does not move. -/
def StartsExactly (m : MotionController) (tx ty : Int32) (feedrate : UInt32) : Prop :=
  ∃ s, motionControllerStartMoveC m tx ty feedrate = some (true, s) ∧
    (s.status.state = .done ↔ tx = m.status.currentXMilliMm ∧ ty = m.status.currentYMilliMm) ∧
    s.status.currentXMilliMm = m.status.currentXMilliMm ∧
    s.status.currentYMilliMm = m.status.currentYMilliMm

theorem pathExact_iff : PathExact sx sy tx ty ↔ DifferenceFits sx tx ∧ DifferenceFits sy ty := by
  constructor
  · intro h
    obtain ⟨⟨length, hlen, -⟩, -⟩ := h
    rw [← pathLengthC_isSome, hlen]
    rfl
  · intro h
    obtain ⟨hx, hy⟩ := h
    refine ⟨⟨_, pathLengthC_of_fits hx hy, ?_⟩, ?_⟩
    · exact pathLength_toNat (subI32_of_fits hx).2 (subI32_of_fits hy).2
    · obtain ⟨_, _⟩ := hx
      obtain ⟨_, _⟩ := hy
      have h1 : (tx.toInt - sx.toInt).natAbs ≤ 2 ^ 31 := by omega
      have h2 : (ty.toInt - sy.toInt).natAbs ≤ 2 ^ 31 := by omega
      have := Nat.mul_le_mul h1 h1
      have := Nat.mul_le_mul h2 h2
      omega

theorem startsExactly_of_fits {m : MotionController} {f : UInt32} (hf : m.status.state ≠ .fault)
    (hz : f ≠ 0) (hx : DifferenceFits m.status.currentXMilliMm tx)
    (hy : DifferenceFits m.status.currentYMilliMm ty) : StartsExactly m tx ty f := by
  have hlen := pathLength_toNat (subI32_of_fits hx).2 (subI32_of_fits hy).2
  have hno : ¬ (m.status.state = .fault ∨ f = 0) := by simp [hf, hz]
  unfold StartsExactly motionControllerStartMoveC
  rw [if_neg hno, pathLengthC_of_fits hx hy, Option.map_some, motionControllerStartMove, if_neg hno]
  simp only
  split
  · rename_i h0
    rw [h0] at hlen
    obtain ⟨ex, ey⟩ := distance_eq_zero.mp hlen.symm
    have ex := Int32.toInt_inj.mp ex
    have ey := Int32.toInt_inj.mp ey
    exact ⟨_, rfl, iff_of_true rfl ⟨ex, ey⟩, ex, ey⟩
  · rename_i h0
    refine ⟨_, rfl, iff_of_false (fun e => by cases e) ?_, rfl, rfl⟩
    intro hsame
    obtain ⟨rfl, rfl⟩ := hsame
    rw [distance_eq_zero.mpr ⟨rfl, rfl⟩] at hlen
    exact h0 (UInt32.toNat_inj.mp hlen)

/-- **Path length and start are exact iff both exact differences fit.** -/
theorem movesExactly_iff (m : MotionController) (tx ty : Int32) (f : UInt32) :
    (PathExact m.status.currentXMilliMm m.status.currentYMilliMm tx ty ∧
      (m.status.state ≠ .fault → f ≠ 0 → StartsExactly m tx ty f)) ↔
    DifferenceFits m.status.currentXMilliMm tx ∧ DifferenceFits m.status.currentYMilliMm ty := by
  constructor
  · intro h
    exact pathExact_iff.mp h.1
  · intro h
    exact ⟨pathExact_iff.mpr h, fun hf hz => startsExactly_of_fits hf hz h.1 h.2⟩

/-- A stage that a first move took to x = -2000 m. -/
def farLeft : MotionController :=
  motionControllerUpdate (motionControllerStartMove motionControllerInit (-2000000000) 0 4294967295).2
    1000

/-- From there to x = 2000 m: the difference overflows; wrapped, it makes a
path of 295 m out of 4000 m. -/
theorem movesExactly_overflow :
    farLeft.status.state = .done ∧
    ¬ (PathExact farLeft.status.currentXMilliMm farLeft.status.currentYMilliMm 2000000000 0 ∧
      (farLeft.status.state ≠ .fault → (1 : UInt32) ≠ 0 → StartsExactly farLeft 2000000000 0 1)) ∧
    motionCalculatePathLengthC farLeft.status.currentXMilliMm farLeft.status.currentYMilliMm
      2000000000 0 = none ∧
    motionCalculatePathLength farLeft.status.currentXMilliMm farLeft.status.currentYMilliMm
      2000000000 0 = 294967296 ∧
    distance farLeft.status.currentXMilliMm.toInt farLeft.status.currentYMilliMm.toInt
      2000000000 0 = 4000000000 := by
  refine ⟨by decide +kernel, fun h => ?_, by decide +kernel, by decide +kernel, by decide +kernel⟩
  obtain ⟨⟨length, hlen, -⟩, -⟩ := h.1
  have hnone : motionCalculatePathLengthC farLeft.status.currentXMilliMm
    farLeft.status.currentYMilliMm 2000000000 0 = none := by decide +kernel
  rw [hnone] at hlen
  cases hlen

end MotionFirmware.L1.Motion
