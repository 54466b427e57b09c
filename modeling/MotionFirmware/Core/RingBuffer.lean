import MotionFirmware.Core.Libc
import Mathlib.Data.List.GetD

/-!
# Byte memory and ring windows

`Memory n` is an array of `n` bytes, with `memcpy` out of it (`memRead`) and
into it (`memWrite`); disjoint accesses commute (`memRead_memWrite_disjoint`).

`window slot cap head count` lists `count` slots from `head` on, modulo `cap`.
Writing the slot behind the window appends (`window_push`), advancing the head
drops the front (`window_pop`): the two facts a ring buffer rests on.
-/
namespace MotionFirmware.Core

/-! ## Memory -/

abbrev Memory (n : Nat) := Fin n → UInt8

variable {n : Nat}

def byteAt (m : Memory n) (k : Nat) : UInt8 := if h : k < n then m ⟨k, h⟩ else 0

/-- `memcpy (item, m + offset, size)`. -/
def memRead (m : Memory n) (offset size : Nat) : Text :=
  (List.range size).map fun i => byteAt m (offset + i)

/-- `memcpy (m + offset, item, size)`. -/
def memWrite (m : Memory n) (offset size : Nat) (item : Text) : Memory n := fun i =>
  if offset ≤ i.val ∧ i.val < offset + size then item.getD (i.val - offset) 0 else m i

@[simp] theorem memRead_length (m : Memory n) (offset size : Nat) :
    (memRead m offset size).length = size := by simp [memRead]

theorem byteAt_memWrite_inside {m : Memory n} {offset size i : Nat} {item : Text} (hi : i < size)
    (hfit : offset + size ≤ n) : byteAt (memWrite m offset size item) (offset + i) = item.getD i 0 := by
  have hn : offset + i < n := by omega
  have hin : offset ≤ offset + i ∧ offset + i < offset + size := by omega
  simp only [byteAt, memWrite, hn, dif_pos, if_pos hin, Nat.add_sub_cancel_left]

theorem byteAt_memWrite_outside {m : Memory n} {offset size k : Nat} {item : Text}
    (hk : k < offset ∨ offset + size ≤ k) : byteAt (memWrite m offset size item) k = byteAt m k := by
  have hout : ¬ (offset ≤ k ∧ k < offset + size) := by omega
  unfold byteAt
  split
  · exact if_neg hout
  · rfl

/-- What was written is read back. -/
theorem memRead_memWrite {m : Memory n} {offset size : Nat} {item : Text}
    (hlen : item.length = size) (hfit : offset + size ≤ n) :
    memRead (memWrite m offset size item) offset size = item := by
  apply List.ext_getElem
  · rw [memRead_length, hlen]
  · intro i h1 h2
    rw [memRead_length] at h1
    simp only [memRead, List.getElem_map, List.getElem_range]
    rw [byteAt_memWrite_inside h1 hfit, List.getD_eq_getElem _ _ h2]

/-- A write leaves every range beside it alone. -/
theorem memRead_memWrite_disjoint {m : Memory n} {offset size offset' size' : Nat} {item : Text}
    (h : offset' + size' ≤ offset ∨ offset + size ≤ offset') :
    memRead (memWrite m offset size item) offset' size' = memRead m offset' size' := by
  unfold memRead
  apply List.map_congr_left
  intro i hi
  have := List.mem_range.mp hi
  exact byteAt_memWrite_outside (by omega)

/-- Slots of one size do not overlap. -/
theorem slots_disjoint {i j size : Nat} (h : i ≠ j) :
    j * size + size ≤ i * size ∨ i * size + size ≤ j * size := by
  rcases Nat.lt_or_gt_of_ne h with h | h
  · right
    calc i * size + size = (i + 1) * size := by rw [Nat.add_mul, Nat.one_mul]
      _ ≤ j * size := Nat.mul_le_mul_right size h
  · left
    calc j * size + size = (j + 1) * size := by rw [Nat.add_mul, Nat.one_mul]
      _ ≤ i * size := Nat.mul_le_mul_right size h

/-- The slots of an array lie inside it. -/
theorem slot_fits {i cap size : Nat} (h : i < cap) (hfit : cap * size ≤ n) :
    i * size + size ≤ n :=
  calc i * size + size = (i + 1) * size := by rw [Nat.add_mul, Nat.one_mul]
    _ ≤ cap * size := Nat.mul_le_mul_right size h
    _ ≤ n := hfit

/-! ## Windows -/

section Window

variable {α : Type}

def window (slot : Nat → α) (cap head count : Nat) : List α :=
  (List.range count).map fun i => slot ((head + i) % cap)

@[simp] theorem window_length (slot : Nat → α) (cap head count : Nat) :
    (window slot cap head count).length = count := by simp [window]

theorem window_congr {slot slot' : Nat → α} {cap head count : Nat}
    (h : ∀ i < count, slot ((head + i) % cap) = slot' ((head + i) % cap)) :
    window slot cap head count = window slot' cap head count := by
  unfold window
  exact List.map_congr_left fun i hi => h i (List.mem_range.mp hi)

theorem window_mod (slot : Nat → α) (cap head count : Nat) :
    window slot cap (head % cap) count = window slot cap head count := by
  unfold window
  exact List.map_congr_left fun i _ => by rw [Nat.mod_add_mod]

/-- The front of a nonempty window, and the window behind it. -/
theorem window_pop (slot : Nat → α) (cap head count : Nat) :
    window slot cap head (count + 1) =
      slot (head % cap) :: window slot cap ((head + 1) % cap) count := by
  rw [window_mod, window, List.range_succ_eq_map, List.map_cons, List.map_map, Nat.add_zero]
  congr 1
  exact List.map_congr_left fun i _ => by
    simp only [Function.comp_apply, Nat.succ_eq_add_one, Nat.add_assoc, Nat.add_comm 1 i]

/-- Two different places of a window are different slots. -/
theorem window_slots_ne {cap head i count : Nat} (hi : i < count) (hcap : count < cap) :
    (head + i) % cap ≠ (head + count) % cap := by
  intro h
  have hd : cap ∣ (head + count) - (head + i) :=
    Nat.dvd_of_mod_eq_zero (Nat.sub_mod_eq_zero_of_mod_eq h.symm)
  have := Nat.le_of_dvd (by omega) hd
  omega

/-- Writing the slot behind a window that is not full appends to it. -/
theorem window_push {slot slot' : Nat → α} {cap head count : Nat} {x : α} (hcap : count < cap)
    (hx : slot' ((head + count) % cap) = x)
    (hold : ∀ k, k ≠ (head + count) % cap → slot' k = slot k) :
    window slot' cap head (count + 1) = window slot cap head count ++ [x] := by
  have h : window slot' cap head count = window slot cap head count :=
    window_congr fun i hi => hold _ (window_slots_ne hi hcap)
  rw [← h, window, List.range_succ, List.map_append, List.map_singleton, hx, window]

end Window

end MotionFirmware.Core
