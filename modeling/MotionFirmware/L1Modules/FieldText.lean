import MotionFirmware.Core.Numeral
import MotionFirmware.L1Modules.ParserGrammar
import Mathlib.Data.List.Nodup

/-!
# The text of a `MOVE` field and its value

What the field readers accept, in terms of the integer a text denotes. X and Y
are exact on both widths of `long`. F goes through `strtoul`, which negates a
numeral with a minus in the unsigned type before the range check sees it: a
text for `-n` with `n` just below `2^32` (or `2^64`) passes as a small positive
feedrate (`WrapsTo`).

`numeric_fidelity_iff`: a line is read with exact numbers, no feedrate below
one, and alike on both widths, unless it is a `MOVE` with such a feedrate.
-/
namespace MotionFirmware.L1.Parser

open MotionFirmware.Core

/-- A negative numeral that `strtoul` turns into an accepted feedrate. -/
def WrapsTo (w : LongWidth) (text : Text) : Prop :=
  ∃ n : Nat, Denotes text (-n) ∧ 2 ^ w.bits - 4294967 ≤ n ∧ n < 2 ^ w.bits

/-- The text denotes a number in the range of the field. -/
def PlainText (f : Field) (text : Text) : Prop := ∃ v, Denotes text v ∧ InRange f v

/-! ## The field readers -/

section Readers

variable {w : LongWidth} {text : Text} {v : Int} {f : Field}

theorem longMax_le (w : LongWidth) : 2147483647 ≤ w.longMax ∧ w.longMin ≤ -2147483648 := by
  cases w <;> decide

/-- Clamping to `long` keeps a number in range as it is, and takes none into it. -/
theorem strtol_inRange (h : Denotes text v) :
    (-2147483 ≤ (strtol w text).1 ∧ (strtol w text).1 ≤ 2147483 ↔ -2147483 ≤ v ∧ v ≤ 2147483) ∧
      (-2147483 ≤ v ∧ v ≤ 2147483 → (strtol w text).1 = v) := by
  have hw := longMax_le w
  rw [strtol_denotes h]
  constructor
  · split
    · omega
    · split <;> omega
  · intro hv
    rw [if_neg (by omega), if_neg (by omega)]

/-- A number in the range of F, or `2^bits - n` for a text that denotes `-n`. -/
theorem strtoul_inRange (h : Denotes text v) :
    (1 ≤ (strtoul w text).1 ∧ (strtoul w text).1 ≤ 4294967 ↔
      (1 ≤ v ∧ v ≤ 4294967) ∨ ∃ n : Nat, v = -n ∧ 2 ^ w.bits - 4294967 ≤ n ∧ n < 2 ^ w.bits) ∧
    (1 ≤ v ∧ v ≤ 4294967 → (strtoul w text).1 = v) := by
  have hval := strtoul_denotes (w := w) h
  have hsize : (2 : Int) ^ w.bits = ((2 ^ w.bits : Nat) : Int) := (Int.natCast_pow 2 w.bits).symm
  have hbig : 2 ^ 32 ≤ 2 ^ w.bits := by cases w <;> decide
  have hmax : w.ulongMax = 2 ^ w.bits - 1 := rfl
  rw [hsize, hmax] at hval
  generalize 2 ^ w.bits = size at hval hbig ⊢
  generalize (strtoul w text).1 = r at hval ⊢
  by_cases hout : v.natAbs > size - 1
  · rw [if_pos hout] at hval
    refine ⟨⟨fun hr => by omega, fun hr => ?_⟩, fun hv => by omega⟩
    rcases hr with hr | ⟨n, hn, hlo, hhi⟩ <;> omega
  · rw [if_neg hout] at hval
    rcases Int.lt_or_le v 0 with hneg | hpos
    · have hmod : v % (size : Int) = v + size := by
        rw [← Int.add_emod_right, Int.emod_eq_of_lt (by omega) (by omega)]
      rw [hmod] at hval
      refine ⟨⟨fun hr => Or.inr ⟨v.natAbs, by omega, by omega, by omega⟩, fun hr => ?_⟩,
        fun hv => by omega⟩
      rcases hr with hr | ⟨n, hn, hlo, hhi⟩ <;> omega
    · rw [Int.emod_eq_of_lt hpos (by omega)] at hval
      refine ⟨⟨fun hr => Or.inl (by omega), fun hr => ?_⟩, fun _ => hval⟩
      rcases hr with hr | ⟨n, hn, hlo, hhi⟩ <;> omega

theorem accepted_position (hf : f ≠ .feedrate) : Accepted w f text ↔ PlainText f text := by
  have hread : fieldNumber w f text = strtol w text := by
    cases f with
    | x => rfl
    | y => rfl
    | feedrate => exact absurd rfl hf
  have hrange : ∀ v, InRange f v ↔ -2147483 ≤ v ∧ v ≤ 2147483 := by
    intro v
    cases f with
    | x => exact Iff.rfl
    | y => exact Iff.rfl
    | feedrate => exact absurd rfl hf
  unfold Accepted PlainText
  rw [hread, hrange]
  constructor
  · rintro ⟨hne, hend, hin⟩
    obtain ⟨v, hv⟩ := (strtol_end hne).mp hend
    exact ⟨v, hv, (hrange v).mpr ((strtol_inRange hv).1.mp hin)⟩
  · rintro ⟨v, hv, hin⟩
    exact ⟨hv.ne_nil, (strtol_end hv.ne_nil).mpr ⟨v, hv⟩,
      (strtol_inRange hv).1.mpr ((hrange v).mp hin)⟩

theorem accepted_feedrate :
    Accepted w .feedrate text ↔ PlainText .feedrate text ∨ WrapsTo w text := by
  have hcast : InRange .feedrate (fieldNumber w .feedrate text).1 ↔
      1 ≤ (strtoul w text).1 ∧ (strtoul w text).1 ≤ 4294967 := by
    show 1 ≤ ((strtoul w text).1 : Int) ∧ ((strtoul w text).1 : Int) ≤ 4294967 ↔ _
    omega
  unfold Accepted
  rw [hcast]
  constructor
  · rintro ⟨hne, hend, hin⟩
    obtain ⟨v, hv⟩ := (strtoul_end hne).mp hend
    rcases (strtoul_inRange hv).1.mp hin with hr | ⟨n, rfl, hlo, hhi⟩
    · exact Or.inl ⟨v, hv, hr⟩
    · exact Or.inr ⟨n, hv, hlo, hhi⟩
  · rintro (⟨v, hv, hin⟩ | ⟨n, hv, hlo, hhi⟩)
    · exact ⟨hv.ne_nil, (strtoul_end hv.ne_nil).mpr ⟨v, hv⟩, (strtoul_inRange hv).1.mpr (Or.inl hin)⟩
    · exact ⟨hv.ne_nil, (strtoul_end hv.ne_nil).mpr ⟨_, hv⟩,
        (strtoul_inRange hv).1.mpr (Or.inr ⟨n, rfl, hlo, hhi⟩)⟩

/-- A number in range is read as it is. -/
theorem fieldNumber_of_inRange (h : Denotes text v) (hr : InRange f v) :
    (fieldNumber w f text).1 = v := by
  cases f with
  | x => exact (strtol_inRange h).2 hr
  | y => exact (strtol_inRange h).2 hr
  | feedrate => exact (strtoul_inRange h).2 hr

theorem accepted_of_plain (h : PlainText f text) : Accepted w f text := by
  by_cases hf : f = .feedrate
  · subst hf
    exact accepted_feedrate.mpr (Or.inl h)
  · exact (accepted_position hf).mpr h

end Readers

/-! ## Argument lists -/

/-- One argument a field, each with a number in range. -/
structure PlainArgs (args : List Text) : Prop where
  plain : ∀ t ∈ args, ∃ f, fieldOf t = some f ∧ PlainText f (fieldText t)
  once : (args.map fieldOf).Nodup

/-- The same, but for a feedrate that wraps. -/
structure WrapArgs (args : List Text) : Prop where
  positions : ∀ t ∈ args, ∃ f, fieldOf t = some f ∧ (f ≠ .feedrate → PlainText f (fieldText t))
  once : (args.map fieldOf).Nodup
  wraps : ∃ t ∈ args, fieldOf t = some .feedrate ∧ ∃ w, WrapsTo w (fieldText t)

section Args

variable {w : LongWidth} {args : List Text} {c c' : Command}

theorem PlainArgs.good (h : PlainArgs args) (w : LongWidth) : ¬ BadArgs w args := by
  rw [not_badArgs_iff]
  refine ⟨fun t ht => ?_, h.once⟩
  obtain ⟨f, hf, hp⟩ := h.plain t ht
  exact ⟨f, hf, accepted_of_plain hp⟩

/-- Accepted arguments are plain, or their feedrate wraps. -/
theorem plain_or_wraps (h : ¬ BadArgs w args) : PlainArgs args ∨ WrapArgs args := by
  obtain ⟨hall, honce⟩ := not_badArgs_iff.mp h
  by_cases hplain : ∀ t ∈ args, ∃ f, fieldOf t = some f ∧ PlainText f (fieldText t)
  · exact Or.inl ⟨hplain, honce⟩
  · right
    refine ⟨fun t ht => ?_, honce, ?_⟩
    · obtain ⟨f, hf, hacc⟩ := hall t ht
      exact ⟨f, hf, fun hne => (accepted_position hne).mp hacc⟩
    · simp only [not_forall] at hplain
      obtain ⟨t, ht, hno⟩ := hplain
      obtain ⟨f, hf, hacc⟩ := hall t ht
      have hno : ¬ PlainText f (fieldText t) := fun hp => hno ⟨f, hf, hp⟩
      have hfeed : f = .feedrate := by
        by_contra hne
        exact hno ((accepted_position hne).mp hacc)
      subst hfeed
      exact ⟨t, ht, hf, w, (accepted_feedrate.mp hacc).resolve_left hno⟩

/-- A feedrate that wraps on some width is accepted there. -/
theorem WrapArgs.accepted (h : WrapArgs args) :
    ∃ w, ¬ BadArgs w args ∧
      ∃ t ∈ args, fieldOf t = some .feedrate ∧ ∃ n : Nat, Denotes (fieldText t) (-n) := by
  obtain ⟨t, ht, hfeed, w, hwraps⟩ := h.wraps
  obtain ⟨n, hn, hlo, hhi⟩ := hwraps
  refine ⟨w, not_badArgs_iff.mpr ⟨fun u hu => ?_, h.once⟩, t, ht, hfeed, n, hn⟩
  obtain ⟨f, hf, hpos⟩ := h.positions u hu
  refine ⟨f, hf, ?_⟩
  by_cases hff : f = .feedrate
  · subst hff
    have hsame : u = t := List.inj_on_of_nodup_map h.once hu ht (hf.trans hfeed.symm)
    rw [hsame]
    exact accepted_feedrate.mpr (Or.inr ⟨n, hn, hlo, hhi⟩)
  · exact (accepted_position hff).mpr (hpos hff)

/-- A command is its type and its three fields. -/
theorem command_ext (htype : c.type = c'.type) (hval : ∀ f, fieldValue c f = fieldValue c' f) :
    c = c' := by
  obtain ⟨type, x, y, feedrate⟩ := c
  obtain ⟨type', x', y', feedrate'⟩ := c'
  have hx : x = x' := Int32.toInt_inj.mp (hval .x)
  have hy : y = y' := Int32.toInt_inj.mp (hval .y)
  have hf : feedrate = feedrate' := UInt32.toNat_inj.mp (Int.ofNat.inj (hval .feedrate))
  have htype : type = type' := htype
  rw [htype, hx, hy, hf]

/-- Plain arguments fill the command with their own numbers. -/
theorem PlainArgs.values (h : PlainArgs args) (hholds : Holds w args c) {t : Text} (ht : t ∈ args)
    {f : Field} (hf : fieldOf t = some f) :
    ∃ v, Denotes (fieldText t) v ∧ InRange f v ∧ fieldValue c f = 1000 * v := by
  obtain ⟨g, hg, v, hv, hr⟩ := h.plain t ht
  rw [hf] at hg
  cases hg
  exact ⟨v, hv, hr, by rw [hholds t ht f hf, fieldNumber_of_inRange hv hr]⟩

/-- So on both widths they fill it alike. -/
theorem PlainArgs.same {w' : LongWidth} (h : PlainArgs args) (hall : Complete args)
    (htype : c.type = c'.type) (hholds : Holds w args c) (hholds' : Holds w' args c') : c = c' := by
  apply command_ext htype
  intro f
  obtain ⟨t, ht, hf⟩ := hall f
  obtain ⟨v, hv, -, hval⟩ := h.values hholds ht hf
  obtain ⟨v', hv', -, hval'⟩ := h.values hholds' ht hf
  rw [hval, hval', hv.unique hv']

end Args

/-! ## The three fields in any order -/

/-- The tag of a field. -/
def fieldTag : Field → Text
  | .x => COMMAND_PREFIX_X
  | .y => COMMAND_PREFIX_Y
  | .feedrate => COMMAND_PREFIX_F

/-- A tagged text is an argument for its field. -/
theorem field_tagged (f : Field) (text : Text) : fieldOf (fieldTag f ++ text) = some f ∧
    fieldText (fieldTag f ++ text) = text := by
  have hx : COMMAND_PREFIX_X = [88, 61] := by decide
  have hy : COMMAND_PREFIX_Y = [89, 61] := by decide
  have hf : COMMAND_PREFIX_F = [70, 61] := by decide
  cases f <;> simp [fieldOf, fieldText, fieldTag, hx, hy, hf, COMMAND_PREFIX_LENGTH]

/-- A `MOVE` line with one text a field, in any order and with any delimiters. -/
theorem parse_move_fields {w : LongWidth} {line : CString} {args : List Text} {tx ty tf : Text}
    {a b f : Int} (hw : words isDelimiter line.bytes = COMMAND_TEXT_MOVE :: args)
    (hlen : line.bytes.length < 96)
    (hargs : args.Perm [fieldTag .x ++ tx, fieldTag .y ++ ty, fieldTag .feedrate ++ tf])
    (hx : Denotes tx a) (hy : Denotes ty b) (hf : Denotes tf f) (ha : InRange .x a)
    (hb : InRange .y b) (hr : InRange .feedrate f) (prior : Command) :
    ∃ c, commandParserParse w (some line) prior = (.ok, c) ∧ c.type = .move ∧
      c.xMilliMm.toInt = 1000 * a ∧ c.yMilliMm.toInt = 1000 * b ∧
      (c.feedrateMilliMmPerS.toNat : Int) = 1000 * f := by
  obtain ⟨hxf, hxt⟩ := field_tagged .x tx
  obtain ⟨hyf, hyt⟩ := field_tagged .y ty
  obtain ⟨hff, hft⟩ := field_tagged .feedrate tf
  have hplain : PlainArgs args := by
    refine ⟨fun t ht => ?_, ?_⟩
    · have ht := hargs.mem_iff.mp ht
      simp only [List.mem_cons, List.not_mem_nil, or_false] at ht
      rcases ht with rfl | rfl | rfl
      · exact ⟨.x, hxf, a, hxt.symm ▸ hx, ha⟩
      · exact ⟨.y, hyf, b, hyt.symm ▸ hy, hb⟩
      · exact ⟨.feedrate, hff, f, hft.symm ▸ hf, hr⟩
    · rw [(hargs.map fieldOf).nodup_iff]
      simp only [List.map_cons, List.map_nil, hxf, hyf, hff]
      decide
  have hxm : fieldTag .x ++ tx ∈ args := hargs.mem_iff.mpr (by simp)
  have hym : fieldTag .y ++ ty ∈ args := hargs.mem_iff.mpr (by simp)
  have hfm : fieldTag .feedrate ++ tf ∈ args := hargs.mem_iff.mpr (by simp)
  have hall : Complete args := by
    intro g
    cases g with
    | x => exact ⟨_, hxm, hxf⟩
    | y => exact ⟨_, hym, hyf⟩
    | feedrate => exact ⟨_, hfm, hff⟩
  obtain ⟨hok, htype, hholds⟩ := parse_move hw hlen (hplain.good w) hall prior
  have hvalue {g : Field} {text : Text} {v : Int} (hm : fieldTag g ++ text ∈ args)
      (hv : Denotes text v) : fieldValue (commandParserParse w (some line) prior).2 g = 1000 * v := by
    obtain ⟨hfield, htext⟩ := field_tagged g text
    obtain ⟨v', hv', -, hval⟩ := hplain.values hholds hm hfield
    rw [htext] at hv'
    rw [hval, hv.unique hv']
  exact ⟨_, Prod.ext hok rfl, htype, hvalue hxm hx, hvalue hym hy, hvalue hfm hf⟩

/-! ## Lines -/

/-- A line is read as it is written, and alike on host and target. -/
structure NumericFidelity (line : CString) : Prop where
  exact : ∀ w prior, (commandParserParse w (some line) prior).1 = .ok →
    (commandParserParse w (some line) prior).2.type = .move →
    ∃ args, words isDelimiter line.bytes = COMMAND_TEXT_MOVE :: args ∧ Complete args ∧
      ∀ t ∈ args, ∀ f, fieldOf t = some f → ∃ v, Denotes (fieldText t) v ∧
        fieldValue (commandParserParse w (some line) prior).2 f = 1000 * v
  positive : ∀ w prior args t v, (commandParserParse w (some line) prior).1 = .ok →
    words isDelimiter line.bytes = COMMAND_TEXT_MOVE :: args → t ∈ args →
    fieldOf t = some .feedrate → Denotes (fieldText t) v → 0 < v
  accepts : ∀ prior, (commandParserParse .ilp32 (some line) prior).1 = .ok ↔
    (commandParserParse .lp64 (some line) prior).1 = .ok
  commands : ∀ prior, (commandParserParse .lp64 (some line) prior).1 = .ok →
    (commandParserParse .ilp32 (some line) prior).2 = (commandParserParse .lp64 (some line) prior).2

/-- A `MOVE`, well formed but for a feedrate that wraps on one of the widths. -/
def WrappedMove (line : CString) : Prop :=
  line.bytes.length < 96 ∧
  ∃ args, words isDelimiter line.bytes = COMMAND_TEXT_MOVE :: args ∧ Complete args ∧ WrapArgs args

section Lines

variable {line : CString} {args : List Text}

/-- On a line that is no `WrappedMove`, accepted `MOVE` arguments are plain. -/
theorem plain_of_ok (hno : ¬ WrappedMove line) {w : LongWidth} {prior : Command}
    (hok : (commandParserParse w (some line) prior).1 = .ok)
    (hw : words isDelimiter line.bytes = COMMAND_TEXT_MOVE :: args) :
    PlainArgs args ∧ Complete args ∧ line.bytes.length < 96 ∧
      (commandParserParse w (some line) prior).2.type = .move ∧
      Holds w args (commandParserParse w (some line) prior).2 := by
  obtain ⟨hlen, hgood, hall⟩ := (parse_move_ok_iff hw).mp hok
  obtain ⟨-, htype, hholds⟩ := parse_move hw hlen hgood hall prior
  rcases plain_or_wraps hgood with hplain | hwraps
  · exact ⟨hplain, hall, hlen, htype, hholds⟩
  · exact absurd ⟨hlen, args, hw, hall, hwraps⟩ hno

/-- What one width accepts, the other accepts with the same command. -/
theorem same_of_ok (hno : ¬ WrappedMove line) {w : LongWidth} (w' : LongWidth) {prior : Command}
    (hok : (commandParserParse w (some line) prior).1 = .ok) :
    (commandParserParse w' (some line) prior).1 = .ok ∧
      (commandParserParse w' (some line) prior).2 = (commandParserParse w (some line) prior).2 := by
  by_cases hmove : ∃ args, words isDelimiter line.bytes = COMMAND_TEXT_MOVE :: args
  · obtain ⟨args, hw⟩ := hmove
    obtain ⟨hplain, hall, hlen, htype, hholds⟩ := plain_of_ok hno hok hw
    obtain ⟨hok', htype', hholds'⟩ := parse_move hw hlen (hplain.good w') hall prior
    exact ⟨hok', hplain.same hall (htype'.trans htype.symm) hholds' hholds⟩
  · have hsame : commandParserParse w (some line) prior = commandParserParse w' (some line) prior :=
      parse_bare_width fun args hw => hmove ⟨args, hw⟩
    rw [← hsame]
    exact ⟨hok, rfl⟩

/-- **Numeric fidelity**, on every line but a `MOVE` whose feedrate wraps. -/
theorem numeric_fidelity_iff (line : CString) : NumericFidelity line ↔ ¬ WrappedMove line := by
  constructor
  · intro h hwrapped
    obtain ⟨hlen, args, hw, hall, hwraps⟩ := hwrapped
    obtain ⟨w, hgood, t, ht, hfeed, n, hn⟩ := hwraps.accepted
    have hok := (parse_move hw hlen hgood hall ⟨.none, 0, 0, 0⟩).1
    have hpos := h.positive w _ args t _ hok hw ht hfeed hn
    omega
  · intro hno
    refine ⟨fun w prior hok htype => ?_, ?_, fun prior => ?_, fun prior hok => ?_⟩
    · obtain ⟨args, hw⟩ := words_of_move hok htype
      obtain ⟨hplain, hall, -, -, hholds⟩ := plain_of_ok hno hok hw
      refine ⟨args, hw, hall, fun t ht f hf => ?_⟩
      obtain ⟨v, hv, -, hval⟩ := hplain.values hholds ht hf
      exact ⟨v, hv, hval⟩
    · intro w prior args t v hok hw ht hfeed hv
      obtain ⟨hplain, -, -, -, hholds⟩ := plain_of_ok hno hok hw
      obtain ⟨v', hv', hr, -⟩ := hplain.values hholds ht hfeed
      rw [hv.unique hv']
      exact hr.1
    · exact ⟨fun hok => (same_of_ok hno .lp64 hok).1, fun hok => (same_of_ok hno .ilp32 hok).1⟩
    · exact (same_of_ok hno .ilp32 hok).2

end Lines

/-- `-(2^32 - 1)` is a feedrate of 1 where `long` has 32 bits, and out of range
where it has 64; `-(2^64 - 1)` is a feedrate of 1 on the host. -/
theorem numeric_fidelity_wraps :
    ¬ NumericFidelity ⟨ascii "MOVE X=1 Y=2 F=-4294967295", by decide⟩ ∧
    commandParserParse .ilp32 (some ⟨ascii "MOVE X=1 Y=2 F=-4294967295", by decide⟩) ⟨.none, 0, 0, 0⟩ =
      (.ok, ⟨.move, 1000, 2000, 1000⟩) ∧
    commandParserParse .lp64 (some ⟨ascii "MOVE X=1 Y=2 F=-4294967295", by decide⟩) ⟨.none, 0, 0, 0⟩ =
      (.errInvalidArgument, ⟨.none, 0, 0, 0⟩) ∧
    commandParserParse .lp64 (some ⟨ascii "MOVE X=1 Y=2 F=-18446744073709551615", by decide⟩)
      ⟨.none, 0, 0, 0⟩ = (.ok, ⟨.move, 1000, 2000, 1000⟩) := by
  have htarget : commandParserParse .ilp32 (some ⟨ascii "MOVE X=1 Y=2 F=-4294967295", by decide⟩)
      ⟨.none, 0, 0, 0⟩ = (.ok, ⟨.move, 1000, 2000, 1000⟩) := by decide +kernel
  have hhost : commandParserParse .lp64 (some ⟨ascii "MOVE X=1 Y=2 F=-4294967295", by decide⟩)
      ⟨.none, 0, 0, 0⟩ = (.errInvalidArgument, ⟨.none, 0, 0, 0⟩) := by decide +kernel
  refine ⟨fun h => ?_, htarget, hhost, by decide +kernel⟩
  have hsame := (h.accepts ⟨.none, 0, 0, 0⟩).mp (by rw [htarget])
  rw [hhost] at hsame
  cases hsame

end MotionFirmware.L1.Parser
