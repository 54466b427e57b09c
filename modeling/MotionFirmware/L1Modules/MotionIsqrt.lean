import MotionFirmware.Core.Loop
import MotionFirmware.L1Modules.MotionController
import Mathlib.Data.Nat.Sqrt
import Mathlib.Tactic.Ring
import Mathlib.Tactic.NormNum

/-!
# The integer square root of the motion controller

`motion_isqrt_u64` computes the root digit by digit in base 2. With `j`
digits left, the partial root `R` satisfies `R² ≤ v < (R + 2^j)²`; the loop
variables are `value = v - R²`, `result = R·2^j` and `bit = 4^(j-1)` (0 when
no digit is left), so `value ≥ result + bit` asks whether
`(R + 2^(j-1))² ≤ v`. Nothing wraps because `R + 2^j ≤ 2^32`.

Both loops count down the digits left: `WhileRun.counted` gives their runs, and
`isqrt_exact` says what happens on the way.
-/
namespace MotionFirmware.L1.Motion

open MotionFirmware.Core

/-! ## The two loops -/

/-- The variables of the second loop. -/
structure IsqrtState where
  value : UInt64
  result : UInt64
  bit : UInt64
  deriving DecidableEq, Repr

/-- One pass of the second loop.
mirrors firmware/App/motion/motion_controller.c:36-45 -/
def isqrtDigit (s : IsqrtState) : IsqrtState :=
  if s.value ≥ s.result + s.bit then
    ⟨s.value - (s.result + s.bit), (s.result >>> 1) + s.bit, s.bit >>> 2⟩
  else ⟨s.value, s.result >>> 1, s.bit >>> 2⟩

/-- The alignment loop. -/
def AlignRun (value : UInt64) : UInt64 → List UInt64 → UInt64 → Prop :=
  WhileRun (fun bit => bit > value) fun bit => bit >>> 2

/-- The digit loop. -/
def DigitRun : IsqrtState → List IsqrtState → IsqrtState → Prop :=
  WhileRun (fun s => s.bit ≠ 0) isqrtDigit

theorem AlignRun.result {value bit bit' : UInt64} {heads : List UInt64}
    (h : AlignRun value bit heads bit') : motionIsqrtAlign value bit = bit' := by
  induction h with
  | exit hno => rw [motionIsqrtAlign, if_neg hno]
  | pass hyes _ ih => rw [motionIsqrtAlign, if_pos hyes, ih]

theorem DigitRun.result {s s' : IsqrtState} {heads : List IsqrtState} (h : DigitRun s heads s') :
    motionIsqrtDigits s.value s.result s.bit = s'.result := by
  induction h with
  | exit hno => rw [motionIsqrtDigits, if_neg hno]
  | @pass s s' heads hyes _ ih =>
    rw [motionIsqrtDigits, if_pos hyes]
    unfold isqrtDigit at ih
    split at ih
    · rename_i hge; rw [if_pos hge, ih]
    · rename_i hlt; rw [if_neg hlt, ih]

/-! ## The digits left -/

theorem bit_halve {bit : UInt64} {j : Nat} (hb : bit.toNat = 4 ^ (j + 1) / 4) :
    bit.toNat = 4 ^ j ∧ (bit >>> 2).toNat = 4 ^ j / 4 := by
  have : bit.toNat = 4 ^ j := by rw [hb, Nat.pow_succ, Nat.mul_div_cancel _ (by decide)]
  exact ⟨this, by rw [shiftRight_two_toNat, this]⟩

theorem uint64_eq_zero {b : UInt64} (h : b.toNat = 0) : b = 0 :=
  UInt64.toNat_inj.mp (by simpa using h)

/-- The alignment stops at a power of four (or at 0) whose square range still
holds the radicand. -/
theorem align_run (value : UInt64) : ∃ heads bit j,
    AlignRun value ((1 : UInt64) <<< 62) heads bit ∧ heads.length + j = 32 ∧
      bit.toNat = 4 ^ j / 4 ∧ value.toNat < 4 ^ j ∧ bit ≤ value := by
  have hv := value.toNat_lt
  have hexit : ∀ bit : UInt64, bit.toNat = 4 ^ 0 / 4 ∧ value.toNat < 4 ^ 0 → ¬ bit > value := by
    intro bit hI hgt
    have hgt : value.toNat < bit.toNat := hgt
    omega
  have hpass : ∀ (j : Nat) (bit : UInt64), bit.toNat = 4 ^ (j + 1) / 4 ∧ value.toNat < 4 ^ (j + 1) →
      bit > value → (bit >>> 2).toNat = 4 ^ j / 4 ∧ value.toNat < 4 ^ j := by
    intro j bit hI hgt
    have hgt : value.toNat < bit.toNat := hgt
    obtain ⟨hbit, hnext⟩ := bit_halve hI.1
    exact ⟨hnext, by omega⟩
  obtain ⟨heads, bit, j, hrun, hlen, ⟨hbit, hlt⟩, hno, -⟩ := WhileRun.counted
    (fun bit => bit > value) (fun bit => bit >>> 2)
    (I := fun j bit => bit.toNat = 4 ^ j / 4 ∧ value.toNat < 4 ^ j) hexit hpass
    32 ((1 : UInt64) <<< 62) ⟨by decide, by norm_num; omega⟩
  exact ⟨heads, bit, j, hrun, hlen, hbit, hlt, UInt64.not_lt.mp hno⟩

/-- `j` digits of the root of `v` are left, and `R` is the root so far. -/
structure DigitsLeft (v j R : Nat) (s : IsqrtState) : Prop where
  bit : s.bit.toNat = 4 ^ j / 4
  above : v < (R + 2 ^ j) * (R + 2 ^ j)
  small : R + 2 ^ j ≤ 2 ^ 32
  value : s.value.toNat + R * R = v
  result : s.result.toNat = R * 2 ^ j

/-- The arithmetic of one pass is that of the integers. -/
structure PassExact (s : IsqrtState) : Prop where
  sum : s.result.toNat + s.bit.toNat ≤ 2 ^ 64 - 1
  root : (s.result >>> 1).toNat + s.bit.toNat ≤ 2 ^ 64 - 1
  reduce : s.value ≥ s.result + s.bit → s.result.toNat + s.bit.toNat ≤ s.value.toNat

section Digits

variable {v j R : Nat} {s : IsqrtState}

theorem DigitsLeft.bit_zero (h : DigitsLeft v 0 R s) : s.bit = 0 := uint64_eq_zero h.bit

/-- The sums of a pass, with `P = 2^j` the weight of its digit. -/
theorem DigitsLeft.sums (h : DigitsLeft v (j + 1) R s) {P : Nat} (hP : 2 ^ j = P) :
    (R + P) * (R + P) < 2 ^ 64 ∧ s.bit.toNat = P * P ∧ s.result.toNat = R * (2 * P) ∧
      (s.result >>> 1).toNat = R * P ∧ (s.result + s.bit).toNat = R * (2 * P) + P * P := by
  have hP2 : 2 ^ (j + 1) = 2 * P := by rw [Nat.pow_succ, hP]; omega
  have hsmall := h.small
  have hres := h.result
  rw [hP2] at hsmall hres
  have hbit : s.bit.toNat = P * P := by
    rw [(bit_halve h.bit).1, ← hP, show 4 = 2 * 2 by rfl, Nat.mul_pow]
  have hPpos : 0 < P := by rw [← hP]; exact Nat.two_pow_pos j
  -- (R + P)² = R² + (result + bit), and it fits in 64 bits
  have hfit : (R + P) * (R + P) < 2 ^ 64 :=
    lt_of_le_of_lt (Nat.mul_le_mul (show R + P ≤ 2 ^ 32 - 1 by omega)
      (show R + P ≤ 2 ^ 32 - 1 by omega)) (by norm_num)
  have hsq : (R + P) * (R + P) = R * R + (R * (2 * P) + P * P) := by ring
  refine ⟨hfit, hbit, hres, ?_, ?_⟩
  · rw [UInt64.toNat_shiftRight, hres]
    simp only [UInt64.reduceToNat, Nat.reduceMod, Nat.shiftRight_eq_div_pow]
    rw [show R * (2 * P) = R * P * 2 by ring]; omega
  · rw [UInt64.toNat_add, hres, hbit, Nat.mod_eq_of_lt (by omega)]

theorem DigitsLeft.exact (h : DigitsLeft v (j + 1) R s) : PassExact s := by
  obtain ⟨hfit, hbit, hres, hhalf, hsum⟩ := h.sums rfl
  have hsq : (R + 2 ^ j) * (R + 2 ^ j) = R * R + (R * (2 * 2 ^ j) + 2 ^ j * 2 ^ j) := by ring
  have hroot : (R + 2 ^ j) * (R + 2 ^ j) = R * R + R * 2 ^ j + (R * 2 ^ j + 2 ^ j * 2 ^ j) := by ring
  refine ⟨by omega, by omega, fun hge => ?_⟩
  have hge := UInt64.le_iff_toNat_le.mp hge
  omega

/-- One pass settles one digit. -/
theorem DigitsLeft.pass (h : DigitsLeft v (j + 1) R s) : ∃ R', DigitsLeft v j R' (isqrtDigit s) := by
  obtain ⟨-, hnext⟩ := bit_halve h.bit
  have habove := h.above
  have hsmall := h.small
  have hval := h.value
  have hP2 : 2 ^ (j + 1) = 2 * 2 ^ j := by rw [Nat.pow_succ]; omega
  rw [hP2] at habove hsmall
  obtain ⟨P, hP⟩ : ∃ P, 2 ^ j = P := ⟨_, rfl⟩
  obtain ⟨hfit, hbit, -, hhalf, hsum⟩ := h.sums hP
  rw [hP] at habove hsmall
  have hsq : (R + P) * (R + P) = R * R + (R * (2 * P) + P * P) := by ring
  unfold isqrtDigit
  split
  · -- the digit is 1
    rename_i hge
    have hle : R * (2 * P) + P * P ≤ s.value.toNat := by
      rw [← hsum]; exact UInt64.le_iff_toNat_le.mp hge
    refine ⟨R + P, hnext, ?_, ?_, ?_, ?_⟩
    · rw [hP, show R + P + P = R + 2 * P by omega]; exact habove
    · omega
    · rw [UInt64.toNat_sub_of_le _ _ hge, hsum, hsq]; omega
    · rw [hP, UInt64.toNat_add, hhalf, hbit, ← Nat.add_mul, Nat.mod_eq_of_lt]
      exact lt_of_le_of_lt (Nat.mul_le_mul_left _ (show P ≤ R + P by omega)) hfit
  · -- the digit is 0
    rename_i hlt
    have hlt : s.value.toNat < R * (2 * P) + P * P := by
      rw [← hsum]; exact UInt64.not_le.mp hlt
    refine ⟨R, hnext, ?_, by omega, hval, ?_⟩
    · rw [hP]; omega
    · rw [hP]; exact hhalf

/-- The digit loop from `j` digits left: `j` passes, all of them exact, and
the root at the end. -/
theorem DigitsLeft.run (h : DigitsLeft v j R s) : ∃ heads last,
    DigitRun s heads last ∧ heads.length = j ∧ (∀ t ∈ heads, PassExact t) ∧
      last.result.toNat = Nat.sqrt v := by
  have hexit : ∀ t, (∃ R, DigitsLeft v 0 R t) → ¬ t.bit ≠ 0 := by
    intro t ht
    obtain ⟨R, ht⟩ := ht
    exact not_not_intro ht.bit_zero
  have hpass : ∀ j t, (∃ R, DigitsLeft v (j + 1) R t) → t.bit ≠ 0 →
      ∃ R, DigitsLeft v j R (isqrtDigit t) := by
    intro j t ht _
    obtain ⟨R, ht⟩ := ht
    exact ht.pass
  obtain ⟨heads, last, m, hrun, hlen, ⟨R', hlast⟩, hno, hheads⟩ := WhileRun.counted
    (fun s => s.bit ≠ 0) isqrtDigit (I := fun j s => ∃ R, DigitsLeft v j R s) hexit hpass j s ⟨R, h⟩
  -- the bit is gone, and so are the digits
  have hm : m = 0 := by
    have hbit := hlast.bit
    rw [not_not.mp hno] at hbit
    cases m with
    | zero => rfl
    | succ m =>
      have hpos := Nat.pow_pos (a := 4) (n := m) (by decide)
      rw [Nat.pow_succ, Nat.mul_div_cancel _ (by decide), UInt64.toNat_zero] at hbit
      omega
  subst hm
  refine ⟨heads, last, hrun, hlen, fun t ht => ?_, ?_⟩
  · obtain ⟨-, k, R, hk⟩ := hheads t ht
    exact hk.exact
  · have habove := hlast.above
    have hval := hlast.value
    rw [hlast.result, Nat.pow_zero, Nat.mul_one]
    rw [Nat.pow_zero] at habove
    exact Nat.eq_sqrt.mpr ⟨by omega, habove⟩

end Digits

/-! ## The root -/

/-- The run of the function: both loops end, after 32 passes in all. -/
theorem isqrt_run (value : UInt64) : ∃ shifts bit digits last,
    AlignRun value ((1 : UInt64) <<< 62) shifts bit ∧ DigitRun ⟨value, 0, bit⟩ digits last ∧
      shifts.length + digits.length = 32 ∧ bit ≤ value ∧ (∀ s ∈ digits, PassExact s) ∧
      last.result.toNat = Nat.sqrt value.toNat := by
  obtain ⟨shifts, bit, j, halign, hlen, hbit, hlt, hle⟩ := align_run value
  have hstart : DigitsLeft value.toNat j 0 ⟨value, 0, bit⟩ := by
    refine ⟨hbit, ?_, ?_, by simp, by simp⟩
    · rw [Nat.zero_add, ← Nat.mul_pow]; exact hlt
    · rw [Nat.zero_add]; exact Nat.pow_le_pow_right (by decide) (by omega)
  obtain ⟨digits, last, hrun, hcount, hexact, hroot⟩ := hstart.run
  exact ⟨shifts, bit, digits, last, halign, hrun, by omega, hle, hexact, hroot⟩

theorem isqrtU64_of_run {value bit : UInt64} {shifts : List UInt64} {digits : List IsqrtState}
    {last : IsqrtState} (halign : AlignRun value ((1 : UInt64) <<< 62) shifts bit)
    (hdigits : DigitRun ⟨value, 0, bit⟩ digits last) :
    motionIsqrtU64 value = last.result.toUInt32 := by
  rw [motionIsqrtU64, halign.result]
  exact congrArg UInt64.toUInt32 hdigits.result

/-- `motion_isqrt_u64` is the floor of the square root. -/
theorem motionIsqrtU64_toNat (value : UInt64) :
    (motionIsqrtU64 value).toNat = Nat.sqrt value.toNat := by
  obtain ⟨shifts, bit, digits, last, halign, hdigits, -, -, -, hroot⟩ := isqrt_run value
  have hv := value.toNat_lt
  have hsmall : Nat.sqrt value.toNat < 2 ^ 32 := Nat.sqrt_lt.mpr (by omega)
  rw [isqrtU64_of_run halign hdigits, UInt64.toNat_toUInt32, hroot]
  exact Nat.mod_eq_of_lt hsmall

/-- **The integer square root.** Both loops end, no pass wraps, and the cast to
32 bits loses nothing. -/
theorem isqrt_exact (value : UInt64) :
    (∃ shifts bit digits last,
      AlignRun value ((1 : UInt64) <<< 62) shifts bit ∧ DigitRun ⟨value, 0, bit⟩ digits last) ∧
    (∀ shifts bit digits last,
      AlignRun value ((1 : UInt64) <<< 62) shifts bit → DigitRun ⟨value, 0, bit⟩ digits last →
      shifts.length + digits.length = 32 ∧ (value = 0 → bit = 0) ∧ (∀ s ∈ digits, PassExact s) ∧
      motionIsqrtU64 value = last.result.toUInt32 ∧
      (motionIsqrtU64 value).toNat = last.result.toNat) ∧
    (motionIsqrtU64 value).toNat * (motionIsqrtU64 value).toNat ≤ value.toNat ∧
    value.toNat < ((motionIsqrtU64 value).toNat + 1) * ((motionIsqrtU64 value).toNat + 1) := by
  obtain ⟨shifts, bit, digits, last, halign, hdigits, hlen, hle, hexact, hroot⟩ := isqrt_run value
  have hvalue := motionIsqrtU64_toNat value
  refine ⟨⟨shifts, bit, digits, last, halign, hdigits⟩, ?_, ?_, ?_⟩
  · intro shifts' bit' digits' last' halign' hdigits'
    obtain ⟨rfl, rfl⟩ := halign.unique halign'
    obtain ⟨rfl, rfl⟩ := hdigits.unique hdigits'
    refine ⟨hlen, ?_, hexact, isqrtU64_of_run halign hdigits, hvalue.trans hroot.symm⟩
    rintro rfl
    exact UInt64.le_zero_iff.mp hle
  · rw [hvalue]; exact Nat.sqrt_le value.toNat
  · rw [hvalue]; exact Nat.lt_succ_sqrt value.toNat

end MotionFirmware.L1.Motion
