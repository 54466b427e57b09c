import MotionFirmware.Core.Libc

/-!
# Decimal output

The digits `snprintf` writes for `%lu` and `%0<k>lu`, and its truncation to
the buffer. A number below `10^k` takes at most `k` digits
(`decimal_length_le`); all bytes are digits (`decimal_isdigit`), the first is no
zero (`decimal_head`); reading them back gives the number (`digitsValue_decimal`).
-/
namespace MotionFirmware.Core

def digit (d : Nat) : UInt8 := UInt8.ofNat (48 + d)

/-- `%lu`. -/
def decimal (n : Nat) : Text :=
  if n < 10 then [digit n] else decimal (n / 10) ++ [digit (n % 10)]

/-- `%0<width>lu`. -/
def decimalPadded (width n : Nat) : Text :=
  List.replicate (width - (decimal n).length) 48 ++ decimal n

/-- What `snprintf` leaves in a buffer of `size` bytes, before the NUL. -/
def snprintf (size : Nat) (text : Text) : Text := text.take (size - 1)

theorem snprintf_eq {size : Nat} {text : Text} (h : text.length < size) : snprintf size text = text :=
  List.take_of_length_le (by omega)

theorem digit_isdigit {d : Nat} (h : d < 10) : isdigit (digit d) = true := by
  have : ∀ d, d < 10 → isdigit (digit d) = true := by decide
  exact this d h

theorem digit_value {d : Nat} (h : d < 10) : (digit d).toNat - 48 = d := by
  have : ∀ d, d < 10 → (digit d).toNat - 48 = d := by decide
  exact this d h

theorem decimal_isdigit (n : Nat) : ∀ c ∈ decimal n, isdigit c = true := by
  induction n using Nat.strongRecOn with
  | ind n ih =>
    rw [decimal]
    split
    · rename_i h; simpa using digit_isdigit h
    · intro c hc
      rcases List.mem_append.mp hc with hc | hc
      · exact ih (n / 10) (by omega) c hc
      · rw [List.mem_singleton.mp hc]; exact digit_isdigit (Nat.mod_lt _ (by decide))

theorem decimal_length_le (n : Nat) : ∀ k, n < 10 ^ (k + 1) → (decimal n).length ≤ k + 1 := by
  induction n using Nat.strongRecOn with
  | ind n ih =>
    intro k hk
    rw [decimal]
    split
    · simp
    · rename_i h
      cases k with
      | zero => omega
      | succ k =>
        have := ih (n / 10) (by omega) k (by rw [Nat.pow_succ] at hk; omega)
        simp only [List.length_append, List.length_singleton]; omega

theorem decimalPadded_length {width n : Nat} (h : (decimal n).length ≤ width) :
    (decimalPadded width n).length = width := by
  simp only [decimalPadded, List.length_append, List.length_replicate]; omega

theorem decimalPadded_isdigit (width n : Nat) : ∀ c ∈ decimalPadded width n, isdigit c = true := by
  intro c hc
  rcases List.mem_append.mp hc with hc | hc
  · rw [List.eq_of_mem_replicate hc]; decide
  · exact decimal_isdigit n c hc

theorem digitsValue_append (s t : Text) : ∀ acc, digitsValue acc (s ++ t) =
    digitsValue (digitsValue acc s) t := by
  induction s with
  | nil => intro acc; rfl
  | cons c s ih => intro acc; exact ih _

theorem digitsValue_digit (acc : Nat) {d : Nat} (h : d < 10) :
    digitsValue acc [digit d] = 10 * acc + d := by
  show 10 * acc + ((digit d).toNat - 48) = 10 * acc + d
  rw [digit_value h]

/-- Reading a number back gives the number. -/
theorem digitsValue_decimal (n : Nat) : digitsValue 0 (decimal n) = n := by
  induction n using Nat.strongRecOn with
  | ind n ih =>
    rw [decimal]
    split
    · rename_i h
      rw [digitsValue_digit 0 h]; omega
    · have hq := ih (n / 10) (by omega)
      rw [digitsValue_append, hq, digitsValue_digit _ (Nat.mod_lt n (by decide))]
      omega

/-! ## Zeros -/

/-- The numeral of a number other than 0 does not start with a zero. -/
theorem decimal_head (n : Nat) (hn : 1 ≤ n) : ∃ c t, decimal n = c :: t ∧ c ≠ 48 := by
  induction n using Nat.strongRecOn with
  | ind n ih =>
    rw [decimal]
    split
    · rename_i h
      have hne : ∀ d, d < 10 → 1 ≤ d → digit d ≠ 48 := by decide
      exact ⟨_, [], rfl, hne n h hn⟩
    · obtain ⟨c, t, ht, hc⟩ := ih (n / 10) (by omega) (by omega)
      exact ⟨c, t ++ [digit (n % 10)], by rw [ht]; rfl, hc⟩

theorem decimal_zero : decimal 0 = [48] := by
  rw [decimal, if_pos (by decide)]
  rfl

theorem decimal_ne_nil (n : Nat) : decimal n ≠ [] := by
  rw [decimal]
  split <;> simp

/-- Leading zeros do not count. -/
theorem digitsValue_zeros (k : Nat) (s : Text) :
    digitsValue 0 (List.replicate k 48 ++ s) = digitsValue 0 s := by
  induction k with
  | zero => rfl
  | succ k ih =>
    rw [List.replicate_succ, List.cons_append]
    exact ih

theorem digitsValue_decimalPadded (width n : Nat) : digitsValue 0 (decimalPadded width n) = n := by
  rw [decimalPadded, digitsValue_zeros, digitsValue_decimal]

end MotionFirmware.Core
