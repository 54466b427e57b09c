import MotionFirmware.L1Modules.MotionController
import MotionFirmware.L1Modules.Telemetry

/-!
# The status line

`telemetry_send_status` never truncates: a position takes at most 12 bytes
(`positionText_length`), the line of a controller state at most 67
(`statusText_length`). Its blank-separated words are the tag `T` and one
`name=value` word a field (`statusLine_words`), so `fault=1` and
`state=FAULT` can be read off the words (`fault_word`, `state_word`).
-/
namespace MotionFirmware.L1.Telemetry

open MotionFirmware.Core MotionFirmware.L1.Motion

def isBlank (c : UInt8) : Bool := c == 32

theorem not_blank_of_all {text : Text} (h : text.all (fun c => !isBlank c) = true) :
    ∀ c ∈ text, isBlank c = false := by
  intro c hc
  simpa using List.all_eq_true.mp h c hc

/-! ## Lengths -/

theorem positionText_length (v : Int32) : (positionText v).length ≤ 12 := by
  have hm : (telemetryAbsI32 v).toNat ≤ 2147483648 := by
    have := v.le_toInt
    have := v.toInt_lt
    rw [telemetryAbsI32, absI32_toNat]; omega
  have hint := decimal_length_le ((telemetryAbsI32 v / 1000).toNat) 6
    (by rw [UInt32.toNat_div]; simp; omega)
  have hfrac : (decimal ((telemetryAbsI32 v % 1000).toNat)).length ≤ 3 :=
    decimal_length_le _ 2 (by rw [UInt32.toNat_mod]; simp; omega)
  have hpad := decimalPadded_length hfrac
  have hsign : (if v < 0 then ascii "-" else []).length ≤ 1 := by split <;> decide
  have hdot : (ascii ".").length = 1 := by decide
  simp only [positionText, List.length_append]
  omega

theorem formatMilliMm_eq (v : Int32) :
    telemetryFormatMilliMm v TELEMETRY_POSITION_BUFFER_SIZE = positionText v :=
  snprintf_eq (by have := positionText_length v; unfold TELEMETRY_POSITION_BUFFER_SIZE; omega)

/-- The value of the `fault` field. -/
def faultBit (status : TelemetryStatus) : Nat := if status.faultActive then 1 else 0

theorem faultBit_length (status : TelemetryStatus) : (decimal (faultBit status)).length ≤ 1 :=
  decimal_length_le _ 0 (by unfold faultBit; split <;> decide)

/-- What `%s` prints for the state. -/
def stateName (status : TelemetryStatus) : Text := status.state.getD (ascii "UNKNOWN")

/-- The tag, and one `name=value` word a field. -/
def statusFields (status : TelemetryStatus) : List Text :=
  [ascii "T", ascii "ms=" ++ decimal status.uptimeMs.toNat, ascii "state=" ++ stateName status,
    ascii "x=" ++ positionText status.xMilliMm, ascii "y=" ++ positionText status.yMilliMm,
    ascii "fault=" ++ decimal (faultBit status)]

/-- The line, behind a blank: each field behind one. -/
theorem statusText_fields (status : TelemetryStatus) :
    32 :: statusText status = (statusFields status).flatMap (32 :: ·) := by
  have htag : ascii "T ms=" = ascii "T" ++ 32 :: ascii "ms=" := by decide
  have hstate : ascii " state=" = 32 :: ascii "state=" := by decide
  have hx : ascii " x=" = 32 :: ascii "x=" := by decide
  have hy : ascii " y=" = 32 :: ascii "y=" := by decide
  have hfault : ascii " fault=" = 32 :: ascii "fault=" := by decide
  simp only [statusText, statusFields, formatMilliMm_eq, htag, hstate, hx, hy, hfault, faultBit,
    stateName, List.flatMap_cons, List.flatMap_nil, List.append_assoc, List.cons_append,
    List.append_nil]

/-- A name that leaves room for the other fields. -/
def ShortName (name : Text) : Prop := name.length ≤ 7 ∧ ∀ c ∈ name, isBlank c = false

theorem shortName_state (s : MotionState) : ShortName (motionControllerStateToString s) := by
  cases s <;> exact ⟨by decide, not_blank_of_all (by decide)⟩

theorem statusText_length {status : TelemetryStatus} (h : ShortName (stateName status)) :
    (statusText status).length ≤ 67 := by
  have hu := decimal_length_le status.uptimeMs.toNat 9 (by have := status.uptimeMs.toNat_lt; omega)
  have hx := positionText_length status.xMilliMm
  have hy := positionText_length status.yMilliMm
  have hf := faultBit_length status
  have hs := h.1
  have hnames : (ascii "T").length = 1 ∧ (ascii "ms=").length = 3 ∧ (ascii "state=").length = 6 ∧
      (ascii "x=").length = 2 ∧ (ascii "y=").length = 2 ∧ (ascii "fault=").length = 6 := by decide
  have hlen := congrArg List.length (statusText_fields status)
  simp only [statusFields, List.flatMap_cons, List.flatMap_nil, List.length_append, List.length_cons,
    List.length_nil] at hlen
  omega

theorem statusLine_eq {status : TelemetryStatus} (h : ShortName (stateName status)) :
    snprintf TELEMETRY_LINE_BUFFER_SIZE (statusText status) = statusText status :=
  snprintf_eq (by have := statusText_length h; unfold TELEMETRY_LINE_BUFFER_SIZE; omega)

/-! ## Words -/

theorem isdigit_not_blank {c : UInt8} (h : isdigit c = true) : isBlank c = false := by
  unfold isBlank
  by_cases hc : c = 32
  · rw [hc] at h; cases h
  · simpa using hc

theorem decimal_not_blank (n : Nat) : ∀ c ∈ decimal n, isBlank c = false :=
  fun c hc => isdigit_not_blank (decimal_isdigit n c hc)

theorem positionText_not_blank (v : Int32) : ∀ c ∈ positionText v, isBlank c = false := by
  intro c hc
  simp only [positionText, List.mem_append] at hc
  rcases hc with ((hc | hc) | hc) | hc
  · have hsign : ∀ c ∈ ascii "-", isBlank c = false := not_blank_of_all (by decide)
    split at hc
    · exact hsign c hc
    · cases hc
  · exact decimal_not_blank _ c hc
  · have hdot : ∀ c ∈ ascii ".", isBlank c = false := not_blank_of_all (by decide)
    exact hdot c hc
  · exact isdigit_not_blank (decimalPadded_isdigit _ _ c hc)

/-- Not empty, and without blanks. -/
def IsWord (text : Text) : Prop := text ≠ [] ∧ ∀ c ∈ text, isBlank c = false

/-- A field: its name, then its value. -/
theorem field_isWord (name : Text) (hname : (!name.isEmpty && name.all fun c => !isBlank c) = true)
    {value : Text} (hvalue : ∀ c ∈ value, isBlank c = false) : IsWord (name ++ value) := by
  obtain ⟨hne, hall⟩ := Bool.and_eq_true_iff.mp hname
  refine ⟨fun e => ?_, fun c hc => ?_⟩
  · rw [(List.append_eq_nil_iff.mp e).1] at hne; cases hne
  · rcases List.mem_append.mp hc with hc | hc
    · exact not_blank_of_all hall c hc
    · exact hvalue c hc

theorem statusFields_isWord {status : TelemetryStatus} (h : ShortName (stateName status)) :
    ∀ text ∈ statusFields status, IsWord text := by
  have htag : IsWord (ascii "T" ++ []) := field_isWord (ascii "T") rfl fun _ hc => by cases hc
  have hms := field_isWord (ascii "ms=") rfl (decimal_not_blank status.uptimeMs.toNat)
  have hstate := field_isWord (ascii "state=") rfl h.2
  have hx := field_isWord (ascii "x=") rfl (positionText_not_blank status.xMilliMm)
  have hy := field_isWord (ascii "y=") rfl (positionText_not_blank status.yMilliMm)
  have hfault := field_isWord (ascii "fault=") rfl (decimal_not_blank (faultBit status))
  intro text ht
  simp only [statusFields, List.mem_cons, List.not_mem_nil, or_false] at ht
  rcases ht with rfl | rfl | rfl | rfl | rfl | rfl
  · exact htag
  · exact hms
  · exact hstate
  · exact hx
  · exact hy
  · exact hfault

theorem statusLine_words {status : TelemetryStatus} (h : ShortName (stateName status)) :
    words isBlank (snprintf TELEMETRY_LINE_BUFFER_SIZE (statusText status)) = statusFields status := by
  have hblank : isBlank 32 = true := rfl
  rw [statusLine_eq h, ← words_delim hblank, statusText_fields,
    words_flatMap hblank (statusFields_isWord h)]

/-! ## What a line shows -/

def ShowsFault (line : Text) : Prop := ascii "fault=1" ∈ words isBlank line

def ShowsFaultState (line : Text) : Prop := ascii "state=FAULT" ∈ words isBlank line

theorem decimal_faultBit (status : TelemetryStatus) :
    decimal (faultBit status) = if status.faultActive then ascii "1" else ascii "0" := by
  have h1 : decimal 1 = ascii "1" := by decide +kernel
  have h0 : decimal 0 = ascii "0" := by decide +kernel
  unfold faultBit
  split
  · exact h1
  · exact h0

/-- A word that starts otherwise is another field. -/
theorem ne_field {a b : UInt8} {v w : Text} (h : a ≠ b) : a :: v ≠ b :: w := by
  intro e; exact h (List.cons.inj e).1

theorem fault_word {status : TelemetryStatus} (h : ShortName (stateName status)) :
    ShowsFault (snprintf TELEMETRY_LINE_BUFFER_SIZE (statusText status)) ↔
      status.faultActive = true := by
  have hms : ascii "fault=1" ≠ ascii "ms=" ++ decimal status.uptimeMs.toNat :=
    ne_field (by decide)
  have hst : ascii "fault=1" ≠ ascii "state=" ++ stateName status := ne_field (by decide)
  have hx : ascii "fault=1" ≠ ascii "x=" ++ positionText status.xMilliMm := ne_field (by decide)
  have hy : ascii "fault=1" ≠ ascii "y=" ++ positionText status.yMilliMm := ne_field (by decide)
  have ht : ascii "fault=1" ≠ ascii "T" := by decide
  rw [ShowsFault, statusLine_words h, statusFields, decimal_faultBit]
  simp only [List.mem_cons, List.not_mem_nil, hms, hst, hx, hy, ht, false_or, or_false]
  cases status.faultActive <;> decide

theorem state_word {status : TelemetryStatus} (h : ShortName (stateName status)) :
    ShowsFaultState (snprintf TELEMETRY_LINE_BUFFER_SIZE (statusText status)) ↔
      stateName status = ascii "FAULT" := by
  have hms : ascii "state=FAULT" ≠ ascii "ms=" ++ decimal status.uptimeMs.toNat :=
    ne_field (by decide)
  have hx : ascii "state=FAULT" ≠ ascii "x=" ++ positionText status.xMilliMm := ne_field (by decide)
  have hy : ascii "state=FAULT" ≠ ascii "y=" ++ positionText status.yMilliMm := ne_field (by decide)
  have hf : ascii "state=FAULT" ≠ ascii "fault=" ++ decimal (faultBit status) :=
    ne_field (by decide)
  have ht : ascii "state=FAULT" ≠ ascii "T" := by decide
  have hsplit : ascii "state=FAULT" = ascii "state=" ++ ascii "FAULT" := by decide
  rw [ShowsFaultState, statusLine_words h, statusFields]
  simp only [List.mem_cons, List.not_mem_nil, hms, hx, hy, hf, ht, false_or, or_false]
  rw [hsplit, List.append_cancel_left_eq]
  exact eq_comm

theorem stateToString_fault_iff (s : MotionState) :
    motionControllerStateToString s = ascii "FAULT" ↔ s = .fault := by
  cases s <;> decide

end MotionFirmware.L1.Telemetry
