import MotionFirmware.Core.Words
import Mathlib.Algebra.Group.Int.Defs
import Mathlib.Algebra.Group.Nat.Defs

/-!
# C text

A C string is the list of its bytes before the NUL (`CString`). String
literals are written as Lean strings and read as ASCII. `strtol` and `strtoul`
follow C11 7.22.1.4 in base 10: leading white space, an optional sign, digits;
no digits means no conversion and the end pointer at the start. The value is
clamped (`strtol`), or replaced by `ULONG_MAX` when the digits exceed it and
otherwise negated in the unsigned type (`strtoul`). The width of `long` is a
parameter: 64 bits on the host, 32 on the ARM target.
-/
namespace MotionFirmware.Core

abbrev Text := List UInt8

/-- The bytes of a C string literal. -/
def ascii (s : String) : Text := s.toList.map fun c => c.toNat.toUInt8

/-- A NUL-terminated string: its bytes, without the NUL. -/
structure CString where
  bytes : Text
  nul_free : 0 ∉ bytes

/-- The string a NUL-terminated buffer holds. -/
def cstr (buffer : Text) : Text := buffer.takeWhile fun b => b != 0

theorem cstr_append_nul {s rest : Text} (h : 0 ∉ s) : cstr (s ++ 0 :: rest) = s := by
  unfold cstr
  rw [List.takeWhile_append_of_pos]
  · simp
  · intro b hb
    have : b ≠ 0 := fun e => h (by rw [← e]; exact hb)
    simpa using this

/-- `strtok`: the next token and the text saved for the call after it. -/
def strtok (s delimiters : Text) : Option (Text × Text) :=
  nextWord (fun c => delimiters.contains c) s

/-! ## Reading numbers -/

inductive LongWidth where
  | ilp32 | lp64
  deriving DecidableEq, Repr

def LongWidth.bits : LongWidth → Nat
  | .ilp32 => 32
  | .lp64 => 64

def LongWidth.longMax (w : LongWidth) : Int := 2 ^ (w.bits - 1) - 1
def LongWidth.longMin (w : LongWidth) : Int := -2 ^ (w.bits - 1)
def LongWidth.ulongMax (w : LongWidth) : Nat := 2 ^ w.bits - 1

/-- Space, and `\t \n \v \f \r`. -/
def isspace (c : UInt8) : Bool := c == 32 || (9 ≤ c && c ≤ 13)

def isdigit (c : UInt8) : Bool := 48 ≤ c && c ≤ 57

/-- The value of a string of digits, read after `acc`. -/
def digitsValue (acc : Nat) : Text → Nat
  | [] => acc
  | c :: cs => digitsValue (10 * acc + (c.toNat - 48)) cs

/-- The optional sign: whether it is a minus, and the text after it. -/
def readSign : Text → Bool × Text
  | 45 :: t => (true, t)
  | 43 :: t => (false, t)
  | t => (false, t)

/-- The subject sequence of `strtol`: sign, magnitude and the text after it;
`none` when there is no digit. -/
def numeral (s : Text) : Option (Bool × Nat × Text) :=
  let signed := readSign (s.dropWhile isspace)
  if signed.2.takeWhile isdigit = [] then none
  else some (signed.1, digitsValue 0 (signed.2.takeWhile isdigit), signed.2.dropWhile isdigit)

/-- `strtol (s, &end, 10)`: the value and the text at `end`. -/
def strtol (w : LongWidth) (s : Text) : Int × Text :=
  match numeral s with
  | none => (0, s)
  | some (negative, n, rest) =>
    let v : Int := if negative then -n else n
    (if v > w.longMax then w.longMax else if v < w.longMin then w.longMin else v, rest)

/-- `strtoul (s, &end, 10)`. -/
def strtoul (w : LongWidth) (s : Text) : Nat × Text :=
  match numeral s with
  | none => (0, s)
  | some (negative, n, rest) =>
    (if n > w.ulongMax then w.ulongMax
      else if negative then (2 ^ w.bits - n) % 2 ^ w.bits else n, rest)

end MotionFirmware.Core
