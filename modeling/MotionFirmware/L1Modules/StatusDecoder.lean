import MotionFirmware.Core.Numeral
import MotionFirmware.L1Modules.StatusLine
import Mathlib.Data.Rat.Defs
import Mathlib.Tactic.FieldSimp
import Mathlib.Tactic.Ring

/-!
# Reading a status line back

`decodeStatus` takes a status line apart, field by field, and inverts
`telemetry_send_status` for every uptime, state name, position and fault flag
(`status_round_trip`). A position is a fixed-point numeral with three decimals,
exact to the thousandth (`fixedPoint_positionText`).
-/
namespace MotionFirmware.L1.Telemetry

open MotionFirmware.Core MotionFirmware.L1.Motion

/-! ## State names -/

/-- The enumerator of a value of `motion_state_t`.
mirrors firmware/App/motion/motion_controller.h:16-22 -/
def motionStateOfValue (value : UInt32) : Option MotionState :=
  if value = 0 then some .idle
  else if value = 1 then some .moving
  else if value = 2 then some .stopped
  else if value = 3 then some .done
  else if value = 4 then some .fault
  else none

/-- The name of any value of the type: the default case included.
mirrors firmware/App/motion/motion_controller.c:256-272 -/
def motionStateNameOfValue (value : UInt32) : Text :=
  match motionStateOfValue value with
  | some state => motionControllerStateToString state
  | none => ascii "UNKNOWN"

theorem shortName_value (value : UInt32) : ShortName (motionStateNameOfValue value) := by
  unfold motionStateNameOfValue
  split
  · rename_i state _
    exact shortName_state state
  · exact ⟨by decide, not_blank_of_all rfl⟩

/-! ## Positions -/

/-- An optional minus, an integer part without leading zeros, a dot and three
digits, denoting `n` thousandths. -/
def FixedPoint (text : Text) (n : Int) : Prop :=
  ∃ minus whole frac : Text, text = minus ++ whole ++ ascii "." ++ frac ∧
    (minus = [] ∨ minus = ascii "-") ∧
    IsDigits whole ∧ (whole = ascii "0" ∨ whole.head? ≠ some 48) ∧
    IsDigits frac ∧ frac.length = 3 ∧
    ((if minus = [] then 1 else -1) * (digitsValue 0 whole + digitsValue 0 frac / 1000) : ℚ) = n / 1000

/-- The digits of a position. -/
theorem positionText_eq (v : Int32) : positionText v = (if v < 0 then ascii "-" else []) ++
    (decimal (v.toInt.natAbs / 1000) ++ 46 :: decimalPadded 3 (v.toInt.natAbs % 1000)) := by
  have hm : (telemetryAbsI32 v).toNat = v.toInt.natAbs := absI32_toNat v
  have hdot : ascii "." = [46] := by decide
  simp only [positionText, UInt32.toNat_div, UInt32.toNat_mod, hm, hdot, List.append_assoc,
    List.singleton_append]
  rfl

theorem lt_zero_iff (v : Int32) : v < 0 ↔ v.toInt < 0 := Int32.lt_iff_toInt_lt

theorem fixedPoint_positionText (v : Int32) : FixedPoint (positionText v) v.toInt := by
  have hfrac : (decimalPadded 3 (v.toInt.natAbs % 1000)).length = 3 :=
    decimalPadded_length (decimal_length_le _ 2 (Nat.mod_lt _ (by decide)))
  have hdot : ascii "." = [46] := by decide
  refine ⟨if v < 0 then ascii "-" else [], decimal (v.toInt.natAbs / 1000),
    decimalPadded 3 (v.toInt.natAbs % 1000), ?_, ?_, ?_, ?_, ?_, hfrac, ?_⟩
  · rw [positionText_eq, hdot, List.append_assoc, List.append_assoc]
    rfl
  · split
    · exact Or.inr rfl
    · exact Or.inl rfl
  · exact ⟨decimal_ne_nil _, decimal_isdigit _⟩
  · by_cases hz : v.toInt.natAbs / 1000 = 0
    · rw [hz, decimal_zero]
      exact Or.inl (by decide)
    · obtain ⟨c, t, ht, hc⟩ := decimal_head _ (Nat.one_le_iff_ne_zero.mpr hz)
      rw [ht]
      exact Or.inr (by simpa using hc)
  · refine ⟨fun e => ?_, decimalPadded_isdigit _ _⟩
    rw [e] at hfrac
    cases hfrac
  · rw [digitsValue_decimal, digitsValue_decimalPadded]
    have hneg : v < 0 ↔ v.toInt < 0 := lt_zero_iff v
    generalize hn : v.toInt.natAbs = n
    have hsplit : (n : ℚ) = 1000 * (n / 1000 : Nat) + (n % 1000 : Nat) := by
      exact_mod_cast (Nat.div_add_mod n 1000).symm
    have hminus : ascii "-" ≠ [] := by decide
    by_cases h : v < 0
    · have hv : v.toInt = -(n : Int) := by have := hneg.mp h; omega
      rw [if_pos h, if_neg hminus, hv, Int.cast_neg, Int.cast_natCast, hsplit]
      field_simp
    · have hv : v.toInt = (n : Int) := by have := hneg.not.mp h; omega
      rw [if_neg h, if_pos rfl, hv, Int.cast_natCast, hsplit]
      field_simp

/-- A whole number of millimetres. -/
theorem positionText_whole {v : Int32} {a : Nat} (h : v.toInt = 1000 * a) :
    positionText v = decimal a ++ ascii ".000" := by
  have habs : v.toInt.natAbs = 1000 * a := by omega
  have hpos : ¬ v < 0 := by
    rw [lt_zero_iff]; omega
  have hzeros : (46 : UInt8) :: decimalPadded 3 0 = ascii ".000" := by
    rw [decimalPadded, decimal_zero]; decide
  rw [positionText_eq, if_neg hpos, habs, Nat.mul_div_cancel_left _ (by decide), Nat.mul_mod_right,
    hzeros]
  rfl

/-- The thousandths of a fixed-point numeral. -/
def positionValue (text : Text) : Int :=
  let signed := readSign text
  let whole := digitsValue 0 (signed.2.takeWhile isdigit)
  let frac := digitsValue 0 ((signed.2.dropWhile isdigit).drop 1)
  signedValue signed.1 (1000 * whole + frac)

theorem positionValue_positionText (v : Int32) : positionValue (positionText v) = v.toInt := by
  obtain ⟨c, t, ht⟩ := List.exists_cons_of_ne_nil (decimal_ne_nil (v.toInt.natAbs / 1000))
  have hc : isdigit c = true := decimal_isdigit _ c (by rw [ht]; simp)
  have hsign : readSign (positionText v) = (decide (v.toInt < 0),
      decimal (v.toInt.natAbs / 1000) ++ 46 :: decimalPadded 3 (v.toInt.natAbs % 1000)) := by
    rw [positionText_eq]
    by_cases hneg : v < 0
    · rw [if_pos hneg, decide_eq_true ((lt_zero_iff v).mp hneg)]
      rfl
    · rw [if_neg hneg, decide_eq_false ((lt_zero_iff v).not.mp hneg), List.nil_append, ht,
        List.cons_append, readSign_digit hc]
  have htake : ∀ rest : Text, (decimal (v.toInt.natAbs / 1000) ++ 46 :: rest).takeWhile isdigit =
      decimal (v.toInt.natAbs / 1000) := by
    intro rest
    rw [List.takeWhile_append_of_pos (decimal_isdigit _)]
    simp [isdigit]
  have hdrop : ∀ rest : Text, (decimal (v.toInt.natAbs / 1000) ++ 46 :: rest).dropWhile isdigit =
      46 :: rest := by
    intro rest
    rw [List.dropWhile_append_of_pos (decimal_isdigit _)]
    rfl
  simp only [positionValue, hsign, htake, hdrop, List.drop_succ_cons, List.drop_zero,
    digitsValue_decimal, digitsValue_decimalPadded]
  rw [Nat.div_add_mod]
  unfold signedValue
  split
  · rename_i hneg
    have := of_decide_eq_true hneg
    omega
  · rename_i hneg
    have := of_decide_eq_false (Bool.eq_false_iff.mpr hneg)
    omega

/-! ## Lines -/

/-- What stands behind the name of a field. -/
def fieldValueOf (name field : Text) : Option Text :=
  if field.take name.length = name then some (field.drop name.length) else none

@[simp] theorem fieldValueOf_append (name value : Text) :
    fieldValueOf name (name ++ value) = some value := by
  simp [fieldValueOf]

def decodeStatus (line : Text) : Option TelemetryStatus :=
  match words isBlank line with
  | [tag, ms, state, x, y, fault] => do
    guard (tag = ascii "T")
    let uptime ← fieldValueOf (ascii "ms=") ms
    let name ← fieldValueOf (ascii "state=") state
    let xText ← fieldValueOf (ascii "x=") x
    let yText ← fieldValueOf (ascii "y=") y
    let bit ← fieldValueOf (ascii "fault=") fault
    return {
      uptimeMs := UInt32.ofNat (digitsValue 0 uptime)
      state := some name
      xMilliMm := Int32.ofInt (positionValue xText)
      yMilliMm := Int32.ofInt (positionValue yText)
      faultActive := decide (digitsValue 0 bit = 1) }
  | _ => none

theorem decodeStatus_line {status : TelemetryStatus} (h : ShortName (stateName status)) :
    decodeStatus (snprintf TELEMETRY_LINE_BUFFER_SIZE (statusText status)) =
      some { status with state := some (stateName status) } := by
  have hbit : decide (faultBit status = 1) = status.faultActive := by
    unfold faultBit
    cases status.faultActive <;> rfl
  rw [decodeStatus, statusLine_words h]
  simp only [statusFields, guard_true, fieldValueOf_append, Option.pure_def, Option.bind_eq_bind,
    Option.bind_some, digitsValue_decimal, positionValue_positionText, hbit, UInt32.ofNat_toNat,
    Int32.ofInt_toInt]

/-- **Status lines round-trip**, without truncation of the line or of a position. -/
theorem status_round_trip (uptimeMs value : UInt32) (x y : Int32) (fault : Bool)
    (before : List Text) :
    let status : TelemetryStatus := ⟨uptimeMs, some (motionStateNameOfValue value), x, y, fault⟩
    (telemetrySendStatus ⟨true, before⟩ status).written =
        before ++ [statusText status, ascii "\n"] ∧
      (statusText status).length < TELEMETRY_LINE_BUFFER_SIZE ∧
      (∀ v, telemetryFormatMilliMm v TELEMETRY_POSITION_BUFFER_SIZE = positionText v ∧
        (positionText v).length < TELEMETRY_POSITION_BUFFER_SIZE ∧
        FixedPoint (positionText v) v.toInt) ∧
      decodeStatus (statusText status) = some status := by
  intro status
  have hname : ShortName (stateName status) := shortName_value value
  have hlen := statusText_length hname
  have hline := statusLine_eq hname
  refine ⟨?_, by unfold TELEMETRY_LINE_BUFFER_SIZE; omega, fun v => ?_, ?_⟩
  · rw [telemetrySendStatus, hline]
    rfl
  · have hpos := positionText_length v
    exact ⟨formatMilliMm_eq v, by unfold TELEMETRY_POSITION_BUFFER_SIZE; omega,
      fixedPoint_positionText v⟩
  · have hdecode := decodeStatus_line hname
    rw [hline] at hdecode
    exact hdecode

example : decodeStatus (ascii "T ms=7 state=IDLE x=-0.004 y=-2147483.648 fault=1") =
    some ⟨7, some (ascii "IDLE"), -4, -2147483648, true⟩ := by decide +kernel

end MotionFirmware.L1.Telemetry
