import Mathlib.Algebra.Group.Int.Defs
import Mathlib.Algebra.Group.Nat.Defs

/-!
# C integers

Widening and absolute value on `int32_t` and `uint32_t`, the ranges in which
`Int.bmod` (two's complement wrapping) is the identity, and the little-endian
object representation of a `uint32_t` (`bytesU32_u32Bytes`).
-/
namespace MotionFirmware.Core

/-- The magnitude of an `int32_t`, computed as `-(value + 1) + 1` on the
negative side so that the minimum does not overflow. -/
def absI32 (value : Int32) : UInt32 :=
  if value < 0 then (-(value + 1)).toUInt32 + 1 else value.toUInt32

/-- `(int64_t)` of a `uint32_t`. -/
def i64OfU32 (u : UInt32) : Int64 := u.toUInt64.toInt64

theorem i64OfU32_toInt (u : UInt32) : (i64OfU32 u).toInt = u.toNat := by
  have := u.toNat_lt
  have h : (i64OfU32 u).toInt = u.toUInt64.toBitVec.toInt := rfl
  rw [h, BitVec.toInt_eq_toNat_of_lt (by
    simp only [UInt64.toNat_toBitVec, UInt32.toNat_toUInt64]; omega)]
  simp only [UInt64.toNat_toBitVec, UInt32.toNat_toUInt64]

theorem i32_toUInt32_toNat {v : Int32} (h : 0 ≤ v.toInt) : (v.toUInt32.toNat : Int) = v.toInt := by
  rw [Int32.toNat_toUInt32_of_le (Int32.le_iff_toInt_le.mpr (by simpa using h))]
  exact Int.toNat_of_nonneg h

theorem bmod32_eq {n : Int} (h : -2 ^ 31 ≤ n) (h' : n < 2 ^ 31) : n.bmod (2 ^ 32) = n :=
  Int.bmod_eq_of_le (by omega) (by omega)

theorem bmod64_eq {n : Int} (h : -2 ^ 63 ≤ n) (h' : n < 2 ^ 63) : n.bmod (2 ^ 64) = n :=
  Int.bmod_eq_of_le (by omega) (by omega)

/-- The magnitude is exact on the whole type, the minimum included. -/
theorem absI32_toNat (v : Int32) : (absI32 v).toNat = v.toInt.natAbs := by
  have hlo := v.le_toInt
  have hhi := v.toInt_lt
  unfold absI32
  split
  · rename_i hneg
    have hneg' : v.toInt < 0 := by simpa using Int32.lt_iff_toInt_lt.mp hneg
    have hsucc : (v + 1).toInt = v.toInt + 1 := by
      rw [Int32.toInt_add, Int32.toInt_one, bmod32_eq (by omega) (by omega)]
    have hflip : (-(v + 1)).toInt = -(v.toInt + 1) := by
      rw [Int32.toInt_neg, hsucc, bmod32_eq (by omega) (by omega)]
    have hnat := i32_toUInt32_toNat (v := -(v + 1)) (by omega)
    rw [UInt32.toNat_add, UInt32.toNat_one, Nat.mod_eq_of_lt (by omega)]
    omega
  · rename_i hpos
    have hpos' : 0 ≤ v.toInt := by simpa using Int32.le_iff_toInt_le.mp (Int32.not_lt.mp hpos)
    have := i32_toUInt32_toNat hpos'
    omega

/-! ## Object representation -/

/-- The four bytes of a `uint32_t` in memory, lowest first. -/
def u32Bytes (v : UInt32) : List UInt8 :=
  [UInt8.ofNat v.toNat, UInt8.ofNat (v.toNat / 256), UInt8.ofNat (v.toNat / 65536),
    UInt8.ofNat (v.toNat / 16777216)]

/-- The `uint32_t` at the start of an object. -/
def bytesU32 (b : List UInt8) : UInt32 :=
  UInt32.ofNat ((b.getD 0 0).toNat + 256 * (b.getD 1 0).toNat + 65536 * (b.getD 2 0).toNat
    + 16777216 * (b.getD 3 0).toNat)

/-- Storing and loading, whatever follows the object. -/
@[simp] theorem bytesU32_u32Bytes (v : UInt32) (rest : List UInt8) :
    bytesU32 (u32Bytes v ++ rest) = v := by
  have hv := v.toNat_lt
  show UInt32.ofNat ((UInt8.ofNat v.toNat).toNat + 256 * (UInt8.ofNat (v.toNat / 256)).toNat
    + 65536 * (UInt8.ofNat (v.toNat / 65536)).toNat
    + 16777216 * (UInt8.ofNat (v.toNat / 16777216)).toNat) = v
  rw [← UInt32.toNat_inj]
  simp only [UInt8.toNat_ofNat', UInt32.toNat_ofNat']
  omega

end MotionFirmware.Core
