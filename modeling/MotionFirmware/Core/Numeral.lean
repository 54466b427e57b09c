import MotionFirmware.Core.Libc

/-!
# Decimal numerals and `strtol`

`Denotes s v`: the whole text `s` is white space, an optional sign and digits,
and `v` is the integer it reads as, of any size. The two C functions take the
whole of a nonempty text iff it is such a numeral (`strtol_end`, `strtoul_end`).
Their results are then `v`, clamped to `long` (`strtol_denotes`), and `v` modulo
the unsigned type, unless its magnitude exceeds that type (`strtoul_denotes`).
-/
namespace MotionFirmware.Core

def IsDigits (s : Text) : Prop := s ≠ [] ∧ ∀ c ∈ s, isdigit c = true

def IsSpace (s : Text) : Prop := ∀ c ∈ s, isspace c = true

/-- The value of a text as an optionally signed decimal numeral. -/
inductive Denotes : Text → Int → Prop
  | plain {space digits : Text} : IsSpace space → IsDigits digits →
      Denotes (space ++ digits) (digitsValue 0 digits)
  | plus {space digits : Text} : IsSpace space → IsDigits digits →
      Denotes (space ++ 43 :: digits) (digitsValue 0 digits)
  | minus {space digits : Text} : IsSpace space → IsDigits digits →
      Denotes (space ++ 45 :: digits) (-(digitsValue 0 digits : Int))

/-! ## The subject sequence -/

theorem isdigit_not_space {c : UInt8} (h : isdigit c = true) : isspace c = false := by
  simp only [isdigit, Bool.and_eq_true, decide_eq_true_eq, UInt8.le_iff_toNat_le] at h
  have h48 : (48 : UInt8).toNat = 48 := rfl
  simp only [isspace, Bool.or_eq_false_iff, Bool.and_eq_false_iff, beq_eq_false_iff_ne,
    decide_eq_false_iff_not, UInt8.le_iff_toNat_le]
  have h13 : (13 : UInt8).toNat = 13 := rfl
  refine ⟨?_, Or.inr (by omega)⟩
  rintro rfl
  exact absurd h.1 (by decide)

theorem readSign_digit {c : UInt8} (h : isdigit c = true) (t : Text) :
    readSign (c :: t) = (false, c :: t) := by
  unfold readSign
  split
  · rename_i he
    obtain ⟨rfl, -⟩ := List.cons.inj he
    cases h
  · rename_i he
    obtain ⟨rfl, -⟩ := List.cons.inj he
    cases h
  · rfl

/-- Leading white space is skipped. -/
theorem dropWhile_space {space rest : Text} {c : UInt8} (h : IsSpace space) (hc : isspace c = false) :
    (space ++ c :: rest).dropWhile isspace = c :: rest := by
  rw [List.dropWhile_append_of_pos h, List.dropWhile_cons_of_neg (by simp [hc])]

theorem IsDigits.takeWhile {digits : Text} (h : IsDigits digits) :
    digits.takeWhile isdigit = digits := List.takeWhile_eq_self_iff.mpr h.2

theorem IsDigits.dropWhile {digits : Text} (h : IsDigits digits) : digits.dropWhile isdigit = [] :=
  List.dropWhile_eq_nil_iff.mpr h.2

/-- The reader after the sign. -/
theorem numeral_of_signed {s digits : Text} {negative : Bool} (h : IsDigits digits)
    (hs : readSign (s.dropWhile isspace) = (negative, digits)) :
    numeral s = some (negative, digitsValue 0 digits, []) := by
  simp only [numeral, hs, h.takeWhile, h.dropWhile, if_neg h.1]

/-- The value of a sign and a magnitude. -/
def signedValue (negative : Bool) (n : Nat) : Int := if negative then -n else n

/-- A numeral is read to its end. -/
theorem Denotes.numeral {s : Text} {v : Int} (h : Denotes s v) :
    ∃ negative n, numeral s = some (negative, n, []) ∧ v = signedValue negative n := by
  cases h with
  | @plain space digits hspace hdigits =>
    obtain ⟨c, t, rfl⟩ := List.exists_cons_of_ne_nil hdigits.1
    have hc : isdigit c = true := hdigits.2 c (by simp)
    refine ⟨false, _, numeral_of_signed hdigits ?_, rfl⟩
    rw [dropWhile_space hspace (isdigit_not_space hc), readSign_digit hc]
  | plus hspace hdigits =>
    refine ⟨false, _, numeral_of_signed hdigits ?_, rfl⟩
    rw [dropWhile_space hspace rfl]
    rfl
  | minus hspace hdigits =>
    refine ⟨true, _, numeral_of_signed hdigits ?_, rfl⟩
    rw [dropWhile_space hspace rfl]
    rfl

/-- What is read to its end is a numeral. -/
theorem denotes_of_numeral {s : Text} {negative : Bool} {n : Nat}
    (h : numeral s = some (negative, n, [])) : Denotes s (signedValue negative n) := by
  have hsplit := List.takeWhile_append_dropWhile (p := isspace) (l := s)
  have hspace : IsSpace (s.takeWhile isspace) := fun c hc => List.mem_takeWhile_imp hc
  unfold numeral at h
  generalize hsigned : readSign (s.dropWhile isspace) = signed at h
  obtain ⟨sign, digits⟩ := signed
  simp only at h
  split at h
  · cases h
  · rename_i hne
    simp only [Option.some.injEq, Prod.mk.injEq] at h
    obtain ⟨rfl, rfl, hend⟩ := h
    have hall := List.dropWhile_eq_nil_iff.mp hend
    have htake := List.takeWhile_eq_self_iff.mpr hall
    rw [htake] at hne ⊢
    have hdigits : IsDigits digits := ⟨hne, hall⟩
    rw [← hsplit]
    unfold readSign at hsigned
    split at hsigned
    · rename_i t he
      obtain ⟨rfl, rfl⟩ := Prod.mk.inj hsigned
      rw [he]
      exact .minus hspace hdigits
    · rename_i t he
      obtain ⟨rfl, rfl⟩ := Prod.mk.inj hsigned
      rw [he]
      exact .plus hspace hdigits
    · obtain ⟨rfl, he⟩ := Prod.mk.inj hsigned
      rw [he]
      exact .plain hspace hdigits

/-- A text denotes one integer. -/
theorem Denotes.unique {s : Text} {v v' : Int} (h : Denotes s v) (h' : Denotes s v') : v = v' := by
  obtain ⟨negative, n, hn, rfl⟩ := h.numeral
  obtain ⟨negative', n', hn', rfl⟩ := h'.numeral
  rw [hn] at hn'
  cases hn'
  rfl

theorem Denotes.ne_nil {s : Text} {v : Int} (h : Denotes s v) : s ≠ [] := by
  cases h with
  | plain _ hdigits => simp [hdigits.1]
  | plus _ _ => simp
  | minus _ _ => simp

/-- The end pointer is at the end of a nonempty text iff the text is a numeral. -/
theorem numeral_end {s : Text} (hs : s ≠ []) :
    ((numeral s).elim s fun r => r.2.2) = [] ↔ ∃ v, Denotes s v := by
  constructor
  · intro h
    cases hn : numeral s with
    | none => rw [hn] at h; exact absurd h hs
    | some r =>
      obtain ⟨negative, n, rest⟩ := r
      rw [hn] at h
      have hrest : rest = [] := h
      rw [hrest] at hn
      exact ⟨_, denotes_of_numeral hn⟩
  · intro h
    obtain ⟨v, hv⟩ := h
    obtain ⟨negative, n, hn, -⟩ := hv.numeral
    rw [hn]
    rfl

/-! ## `strtol` and `strtoul` -/

variable {w : LongWidth} {s : Text} {v : Int}

theorem strtol_end (hs : s ≠ []) : (strtol w s).2 = [] ↔ ∃ v, Denotes s v := by
  rw [← numeral_end hs]
  unfold strtol
  cases numeral s <;> exact Iff.rfl

theorem strtoul_end (hs : s ≠ []) : (strtoul w s).2 = [] ↔ ∃ v, Denotes s v := by
  rw [← numeral_end hs]
  unfold strtoul
  cases numeral s <;> exact Iff.rfl

theorem strtol_denotes (h : Denotes s v) :
    (strtol w s).1 = if v > w.longMax then w.longMax else if v < w.longMin then w.longMin else v := by
  obtain ⟨negative, n, hn, rfl⟩ := h.numeral
  simp only [strtol, hn]
  rfl

/-- Beyond the unsigned type the result is its maximum, on either side of 0;
otherwise it is the value modulo the type. -/
theorem strtoul_denotes (h : Denotes s v) : ((strtoul w s).1 : Int) =
    if v.natAbs > w.ulongMax then (w.ulongMax : Int) else v % 2 ^ w.bits := by
  obtain ⟨negative, n, hn, rfl⟩ := h.numeral
  have hmax : w.ulongMax = 2 ^ w.bits - 1 := rfl
  have hpos := Nat.two_pow_pos w.bits
  have hsize : (2 : Int) ^ w.bits = ((2 ^ w.bits : Nat) : Int) := (Int.natCast_pow 2 w.bits).symm
  have habs : (signedValue negative n).natAbs = n := by
    unfold signedValue
    split <;> omega
  simp only [strtoul, hn, habs, hsize, hmax]
  generalize 2 ^ w.bits = size at hpos ⊢
  split
  · rfl
  · rename_i hle
    cases negative with
    | true =>
      have hneg : signedValue true n = -n := rfl
      have hsub : ((size - n : Nat) : Int) = -n + size := by omega
      simp only [if_true, hneg]
      rw [Int.natCast_emod, hsub, Int.add_emod_right]
    | false =>
      have hplain : signedValue false n = n := rfl
      simp only [Bool.false_eq_true, if_false, hplain]
      exact (Int.emod_eq_of_lt (by omega) (by omega)).symm

end MotionFirmware.Core
