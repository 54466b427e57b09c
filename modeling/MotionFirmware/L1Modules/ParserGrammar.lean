import MotionFirmware.L1Modules.CommandParser
import Mathlib.Logic.Function.Basic
import Mathlib.Tactic.Tauto

/-!
# The line language of the command parser

A declarative grammar for `command_parser_parse`, over the words of the line
(the maximal runs of non-delimiters): no scanner state, no copies of the line,
no order of checks.

* `BadArgs`: some argument of `MOVE` has no field tag, repeats a field or is
  not accepted by the field's reader.
* `moveFields_eq_scan`, `scan_spec`: the first-error-wins field
  loop decides exactly that, and without an error each field holds 1000 times
  the number of its argument.
* `Classified`: the six outcomes, as rules over the words; `parseWord_classified`:
  the parser follows them.
* `parsed_of_ok`: what a parsed command is.
* `parse_classification`: the result and the command of the whole parser.
-/
namespace MotionFirmware.L1.Parser

open MotionFirmware.Core

/-! ## Words of a line -/

/-- Space, tab, CR or LF. -/
def isDelimiter (c : UInt8) : Bool := c == 32 || c == 9 || c == 13 || c == 10

theorem delimiters_contains (c : UInt8) :
    COMMAND_PARSER_TOKEN_DELIMITERS.contains c = isDelimiter c := by
  have h : COMMAND_PARSER_TOKEN_DELIMITERS = [32, 9, 13, 10] := by decide
  rw [h, Bool.eq_iff_iff]; simp [isDelimiter, or_assoc]

theorem strtok_eq (s : Text) :
    strtok s COMMAND_PARSER_TOKEN_DELIMITERS = nextWord isDelimiter s := by
  have h : (fun c => COMMAND_PARSER_TOKEN_DELIMITERS.contains c) = isDelimiter :=
    funext delimiters_contains
  rw [strtok, h]

theorem isEmptyLine_iff (s : Text) :
    commandParserIsEmptyLine s = true ↔ ∀ c ∈ s, isDelimiter c = true := by
  induction s with
  | nil => simp [commandParserIsEmptyLine]
  | cons c s ih =>
    unfold commandParserIsEmptyLine
    split
    · rename_i h
      simp [isDelimiter, h.1, h.2.1, h.2.2.1, h.2.2.2]
    · rename_i h
      have hc : isDelimiter c = true := by
        simp only [isDelimiter, Bool.or_eq_true, beq_iff_eq]; tauto
      simp [ih, hc]

/-! ## Fields of `MOVE` -/

inductive Field where
  | x | y | feedrate
  deriving DecidableEq, Repr

/-- The field an argument is for, by its first two bytes. -/
def fieldOf (token : Text) : Option Field :=
  if token.take COMMAND_PREFIX_LENGTH = COMMAND_PREFIX_X then some .x
  else if token.take COMMAND_PREFIX_LENGTH = COMMAND_PREFIX_Y then some .y
  else if token.take COMMAND_PREFIX_LENGTH = COMMAND_PREFIX_F then some .feedrate
  else none

/-- What is left of an argument after its tag. -/
def fieldText (token : Text) : Text := token.drop COMMAND_PREFIX_LENGTH

/-- What `strtol` (X, Y) or `strtoul` (F) returns on the text of a field. -/
def fieldNumber (w : LongWidth) : Field → Text → Int × Text
  | .x, t => strtol w t
  | .y, t => strtol w t
  | .feedrate, t => ((strtoul w t).1, (strtoul w t).2)

def InRange : Field → Int → Prop
  | .x, v => -2147483 ≤ v ∧ v ≤ 2147483
  | .y, v => -2147483 ≤ v ∧ v ≤ 2147483
  | .feedrate, v => 1 ≤ v ∧ v ≤ 4294967

/-- The field reader takes the whole nonempty text, and the number is in the
field's range. -/
def Accepted (w : LongWidth) (f : Field) (text : Text) : Prop :=
  text ≠ [] ∧ (fieldNumber w f text).2 = [] ∧ InRange f (fieldNumber w f text).1

/-- What a parsed command holds in a field. -/
def fieldValue (c : Command) : Field → Int
  | .x => c.xMilliMm.toInt
  | .y => c.yMilliMm.toInt
  | .feedrate => c.feedrateMilliMmPerS.toNat

/-- The argument `t`, coming after the arguments `before`, is wrong. -/
def BadArg (w : LongWidth) (before : List Text) (t : Text) : Prop :=
  fieldOf t = none ∨
  ∃ f, fieldOf t = some f ∧ ((∃ u ∈ before, fieldOf u = some f) ∨ ¬ Accepted w f (fieldText t))

def BadArgs (w : LongWidth) (args : List Text) : Prop :=
  ∃ before t after, args = before ++ t :: after ∧ BadArg w before t

/-! ## The field loop as a scan of words -/

/-- Reading one field into the command. -/
def storeField (w : LongWidth) (f : Field) (text : Text) (c : Command) : Option Command :=
  match f with
  | .x => (commandParserParseI32Mm w text).map fun v => { c with xMilliMm := v }
  | .y => (commandParserParseI32Mm w text).map fun v => { c with yMilliMm := v }
  | .feedrate => (commandParserParseU32MmPerS w text).map fun v => { c with feedrateMilliMmPerS := v }

def moveScan (w : LongWidth) : List Text → (Field → Bool) → Command → CommandParseResult × Command
  | [], seen, c => if !seen .x || !seen .y || !seen .feedrate then (.errMissingArgument, c) else (.ok, c)
  | t :: ts, seen, c =>
    match fieldOf t with
    | none => (.errInvalidArgument, c)
    | some f =>
      if seen f then (.errInvalidArgument, c)
      else match storeField w f (fieldText t) c with
        | none => (.errInvalidArgument, c)
        | some c' => moveScan w ts (Function.update seen f true) c'

/-- The loop over `strtok` is the scan over the words. -/
theorem moveFields_eq_scan (w : LongWidth) (saved : Text) (seen : Field → Bool) (c : Command) :
    commandParserMoveFields w saved (seen .x) (seen .y) (seen .feedrate) c =
      moveScan w (words isDelimiter saved) seen c := by
  induction h : saved.length using Nat.strongRecOn generalizing saved seen c with
  | ind n ih =>
    rw [commandParserMoveFields]
    split
    · rename_i hs
      rw [strtok_eq] at hs
      rw [words_eq_nil_iff.mpr hs, moveScan]
    · rename_i token saved' hs
      rw [strtok_eq] at hs
      have hlt : saved'.length < n := h ▸ nextWord_length hs
      rw [words_eq_cons_of_some hs, moveScan]
      unfold fieldOf fieldText
      split
      · simp only
        split
        · rfl
        · simp only [storeField]
          cases commandParserParseI32Mm w (token.drop COMMAND_PREFIX_LENGTH) with
          | none => rfl
          | some v =>
            simpa [Function.update] using
              ih _ hlt saved' (Function.update seen .x true) { c with xMilliMm := v } rfl
      · split
        · simp only
          split
          · rfl
          · simp only [storeField]
            cases commandParserParseI32Mm w (token.drop COMMAND_PREFIX_LENGTH) with
            | none => rfl
            | some v =>
              simpa [Function.update] using
                ih _ hlt saved' (Function.update seen .y true) { c with yMilliMm := v } rfl
        · split
          · simp only
            split
            · rfl
            · simp only [storeField]
              cases commandParserParseU32MmPerS w (token.drop COMMAND_PREFIX_LENGTH) with
              | none => rfl
              | some v =>
                simpa [Function.update] using
                  ih _ hlt saved' (Function.update seen .feedrate true) { c with feedrateMilliMmPerS := v } rfl
          · rfl

/-! ## The field readers -/

theorem parseI32Mm_spec (w : LongWidth) (text : Text) :
    (commandParserParseI32Mm w text = none ↔ ¬ Accepted w .x text) ∧
    ∀ v, commandParserParseI32Mm w text = some v → v.toInt = 1000 * (strtol w text).1 := by
  have hmax : Int.tdiv 2147483647 1000 = 2147483 := by decide
  have hmin : Int.tdiv (-2147483648) 1000 = -2147483 := by decide
  unfold commandParserParseI32Mm
  simp only [Accepted, InRange, fieldNumber, COMMAND_PARSER_MM_SCALE, hmax, hmin]
  generalize strtol w text = r
  split
  · simp [*]
  · split
    · simp [*]
    · split
      · rename_i ht he hr
        refine ⟨⟨fun _ h => by omega, fun _ => rfl⟩, fun v h => by cases h⟩
      · rename_i ht he hr
        refine ⟨⟨(fun h => by cases h), fun h => ?_⟩, fun v h => ?_⟩
        · exact absurd ⟨ht, by simpa using he, by omega, by omega⟩ h
        · simp only [Option.some.injEq] at h
          rw [← h, Int32.toInt_ofInt_of_le (by omega) (by omega)]
          omega

theorem parseU32MmPerS_spec (w : LongWidth) (text : Text) :
    (commandParserParseU32MmPerS w text = none ↔ ¬ Accepted w .feedrate text) ∧
    ∀ v, commandParserParseU32MmPerS w text = some v → v.toNat = 1000 * (strtoul w text).1 := by
  unfold commandParserParseU32MmPerS
  simp only [Accepted, InRange, fieldNumber]
  generalize strtoul w text = r
  split
  · simp [*]
  · split
    · simp [*]
    · split
      · rename_i ht he h0
        refine ⟨⟨fun _ h => by omega, fun _ => rfl⟩, fun v h => by cases h⟩
      · split
        · rename_i ht he h0 hr
          refine ⟨⟨fun _ h => by omega, fun _ => rfl⟩, fun v h => by cases h⟩
        · rename_i ht he h0 hr
          refine ⟨⟨(fun h => by cases h), fun h => ?_⟩, fun v h => ?_⟩
          · exact absurd ⟨ht, by simpa using he, by omega, by omega⟩ h
          · simp only [Option.some.injEq] at h
            rw [← h, UInt32.toNat_ofNat_of_lt' (by show _ < 4294967296; omega)]
            omega

/-- A field is stored iff it is accepted; the others keep their values. -/
theorem storeField_spec (w : LongWidth) (f : Field) (text : Text) (c : Command) :
    (storeField w f text c = none ↔ ¬ Accepted w f text) ∧
    ∀ c', storeField w f text c = some c' → c'.type = c.type ∧
      fieldValue c' f = 1000 * (fieldNumber w f text).1 ∧
      ∀ g, g ≠ f → fieldValue c' g = fieldValue c g := by
  cases f with
  | x =>
    obtain ⟨h1, h2⟩ := parseI32Mm_spec w text
    refine ⟨by simpa [storeField] using h1, fun c' h => ?_⟩
    simp only [storeField, Option.map_eq_some_iff] at h
    obtain ⟨v, hv, rfl⟩ := h
    exact ⟨rfl, h2 v hv, fun g hg => by cases g <;> simp_all [fieldValue]⟩
  | y =>
    obtain ⟨h1, h2⟩ := parseI32Mm_spec w text
    have h1 : _ ↔ ¬ Accepted w .y text := h1
    refine ⟨by simpa [storeField] using h1, fun c' h => ?_⟩
    simp only [storeField, Option.map_eq_some_iff] at h
    obtain ⟨v, hv, rfl⟩ := h
    exact ⟨rfl, h2 v hv, fun g hg => by cases g <;> simp_all [fieldValue]⟩
  | feedrate =>
    obtain ⟨h1, h2⟩ := parseU32MmPerS_spec w text
    refine ⟨by simpa [storeField] using h1, fun c' h => ?_⟩
    simp only [storeField, Option.map_eq_some_iff] at h
    obtain ⟨v, hv, rfl⟩ := h
    refine ⟨rfl, ?_, fun g hg => by cases g <;> simp_all [fieldValue]⟩
    have := h2 v hv
    simp only [fieldValue, fieldNumber]; omega

/-! ## The scan decides the grammar -/

/-- Every field has an argument. -/
def Complete (args : List Text) : Prop := ∀ f, ∃ u ∈ args, fieldOf u = some f

/-- The command holds the numbers of the arguments read so far. -/
def Holds (w : LongWidth) (args : List Text) (c : Command) : Prop :=
  ∀ u ∈ args, ∀ f, fieldOf u = some f → fieldValue c f = 1000 * (fieldNumber w f (fieldText u)).1

/-- The flags tell which fields the arguments so far are for. -/
def Sees (seen : Field → Bool) (before : List Text) : Prop :=
  ∀ f, seen f = true ↔ ∃ u ∈ before, fieldOf u = some f

/-- One of `args`, coming after `before`, is wrong. -/
def BadFrom (w : LongWidth) (before args : List Text) : Prop :=
  ∃ p t q, args = p ++ t :: q ∧ BadArg w (before ++ p) t

section Scan

variable {w : LongWidth} {before : List Text} {seen : Field → Bool} {c c' : Command} {t : Text} {f : Field}

theorem Sees.complete (h : Sees seen before) :
    Complete before ↔ seen .x = true ∧ seen .y = true ∧ seen .feedrate = true := by
  refine ⟨fun hall => ⟨(h _).mpr (hall _), (h _).mpr (hall _), (h _).mpr (hall _)⟩, fun hall f => ?_⟩
  obtain ⟨hx, hy, hf⟩ := hall
  apply (h f).mp
  cases f with
  | x => exact hx
  | y => exact hy
  | feedrate => exact hf

theorem Sees.snoc (h : Sees seen before) (hf : fieldOf t = some f) :
    Sees (Function.update seen f true) (before ++ [t]) := by
  intro g
  by_cases hg : g = f
  · subst hg; simpa using Or.inr hf
  · have hne : fieldOf t ≠ some g := by rw [hf]; simpa using fun e => hg e.symm
    rw [Function.update_of_ne hg, h g]
    simp [or_and_right, exists_or, hne]

/-- Reading a field no argument before was for. -/
theorem Holds.snoc (h : Holds w before c) (hf : fieldOf t = some f)
    (hfresh : ∀ u ∈ before, fieldOf u ≠ some f) (hst : storeField w f (fieldText t) c = some c') :
    Holds w (before ++ [t]) c' := by
  obtain ⟨-, hval, hother⟩ := (storeField_spec w f (fieldText t) c).2 c' hst
  intro u hu g hg
  rcases List.mem_append.mp hu with hu | hu
  · rw [hother g fun e => hfresh u hu (e ▸ hg)]
    exact h u hu g hg
  · rw [List.mem_singleton.mp hu] at hg ⊢
    rw [hf] at hg
    cases hg
    exact hval

/-- The two tests of the loop tell a wrong argument. -/
theorem badArg_iff (h : Sees seen before) (hf : fieldOf t = some f) :
    BadArg w before t ↔ seen f = true ∨ storeField w f (fieldText t) c = none := by
  rw [h f, (storeField_spec w f (fieldText t) c).1]
  constructor
  · intro hbad
    rcases hbad with hnone | ⟨g, hg, hb⟩
    · rw [hf] at hnone; cases hnone
    · rw [hf] at hg; cases hg; exact hb
  · exact fun hb => Or.inr ⟨f, hf, hb⟩

theorem badFrom_cons {ts : List Text} :
    BadFrom w before (t :: ts) ↔ BadArg w before t ∨ BadFrom w (before ++ [t]) ts := by
  constructor
  · intro h
    obtain ⟨p, u, q, he, hb⟩ := h
    cases p with
    | nil =>
      obtain ⟨rfl, -⟩ := List.cons.inj he
      exact Or.inl (by simpa using hb)
    | cons a p =>
      obtain ⟨rfl, rfl⟩ := List.cons.inj he
      exact Or.inr ⟨p, u, q, rfl, by simpa using hb⟩
  · intro h
    rcases h with hb | ⟨p, u, q, rfl, hb⟩
    · exact ⟨[], t, ts, rfl, by simpa using hb⟩
    · exact ⟨t :: p, u, q, rfl, by simpa using hb⟩

/-- No argument is wrong: each is tagged and accepted, and no two are for one field. -/
theorem not_badFrom_iff {args : List Text} : ∀ {before : List Text}, ¬ BadFrom w before args ↔
    (∀ t ∈ args, ∃ f, fieldOf t = some f ∧ Accepted w f (fieldText t)) ∧
      (args.map fieldOf).Nodup ∧ ∀ t ∈ args, ∀ u ∈ before, fieldOf u ≠ fieldOf t := by
  induction args with
  | nil => simp [BadFrom]
  | cons t ts ih =>
    intro before
    have hgood : ¬ BadArg w before t ↔ ∃ f, fieldOf t = some f ∧ Accepted w f (fieldText t) ∧
        ∀ u ∈ before, fieldOf u ≠ some f := by
      cases hf : fieldOf t with
      | none => simp [BadArg, hf]
      | some f => simp [BadArg, hf, and_comm]
    rw [badFrom_cons, not_or, hgood, ih]
    constructor
    · rintro ⟨⟨f, hf, hacc, hfresh⟩, hall, honce, hdiff⟩
      refine ⟨?_, ?_, ?_⟩
      · intro u hu
        rcases List.mem_cons.mp hu with rfl | hu
        · exact ⟨f, hf, hacc⟩
        · exact hall u hu
      · rw [List.map_cons, List.nodup_cons]
        refine ⟨fun hmem => ?_, honce⟩
        obtain ⟨u, hu, he⟩ := List.mem_map.mp hmem
        exact hdiff u hu t (by simp) he.symm
      · intro u hu b hb
        rcases List.mem_cons.mp hu with rfl | hu
        · rw [hf]; exact hfresh b hb
        · exact hdiff u hu b (List.mem_append_left _ hb)
    · rintro ⟨hall, honce, hdiff⟩
      rw [List.map_cons, List.nodup_cons] at honce
      obtain ⟨f, hf, hacc⟩ := hall t (by simp)
      refine ⟨⟨f, hf, hacc, fun u hu => ?_⟩, fun u hu => hall u (List.mem_cons_of_mem _ hu), honce.2, ?_⟩
      · rw [← hf]; exact hdiff t (by simp) u hu
      · intro u hu b hb
        rcases List.mem_append.mp hb with hb | hb
        · exact hdiff u (List.mem_cons_of_mem _ hu) b hb
        · rw [List.mem_singleton.mp hb]
          exact fun he => honce.1 (List.mem_map.mpr ⟨u, hu, he.symm⟩)

theorem not_badArgs_iff {args : List Text} : ¬ BadArgs w args ↔
    (∀ t ∈ args, ∃ f, fieldOf t = some f ∧ Accepted w f (fieldText t)) ∧
      (args.map fieldOf).Nodup := by
  have h : ¬ BadFrom w [] args ↔ _ := not_badFrom_iff
  simpa [BadFrom, BadArgs] using h

end Scan

theorem scan_spec (w : LongWidth) : ∀ (args before : List Text) (seen : Field → Bool) (c : Command),
    Sees seen before → Holds w before c →
    ((moveScan w args seen c).1 = .errInvalidArgument ∧ BadFrom w before args) ∨
    (¬ BadFrom w before args ∧
      ((moveScan w args seen c).1 = .ok ∧ Complete (before ++ args) ∨
        (moveScan w args seen c).1 = .errMissingArgument ∧ ¬ Complete (before ++ args)) ∧
      (moveScan w args seen c).2.type = c.type ∧ Holds w (before ++ args) (moveScan w args seen c).2) := by
  intro args
  induction args with
  | nil =>
    intro before seen c hseen hc
    refine Or.inr ⟨by simp [BadFrom], ?_, ?_⟩
    · rw [List.append_nil, hseen.complete, moveScan]
      split
      · rename_i h
        refine Or.inr ⟨rfl, fun hall => ?_⟩
        obtain ⟨hx, hy, hf⟩ := hall
        simp [hx, hy, hf] at h
      · rename_i h
        exact Or.inl ⟨rfl, by simpa [and_assoc] using h⟩
    · rw [List.append_nil, moveScan]
      split <;> exact ⟨rfl, hc⟩
  | cons t ts ih =>
    intro before seen c hseen hc
    rw [moveScan]
    cases hf : fieldOf t with
    | none => exact Or.inl ⟨rfl, badFrom_cons.mpr (Or.inl (Or.inl hf))⟩
    | some f =>
      have hbad : BadArg w before t ↔ seen f = true ∨ storeField w f (fieldText t) c = none :=
        badArg_iff hseen hf
      simp only
      split
      · rename_i hs
        exact Or.inl ⟨rfl, badFrom_cons.mpr (Or.inl (hbad.mpr (Or.inl hs)))⟩
      · rename_i hs
        cases hst : storeField w f (fieldText t) c with
        | none => exact Or.inl ⟨rfl, badFrom_cons.mpr (Or.inl (hbad.mpr (Or.inr hst)))⟩
        | some c' =>
          have hgood : ¬ BadArg w before t := by rw [hbad, hst]; simpa using hs
          have hfresh : ∀ u ∈ before, fieldOf u ≠ some f := fun u hu e => hs ((hseen f).mpr ⟨u, hu, e⟩)
          have hrest := ih (before ++ [t]) (Function.update seen f true) c' (hseen.snoc hf)
            (hc.snoc hf hfresh hst)
          have htype := ((storeField_spec w f (fieldText t) c).2 c' hst).1
          rw [htype, List.append_assoc, List.singleton_append] at hrest
          rw [badFrom_cons, or_iff_right hgood]
          exact hrest

/-! ## The whole parser -/

/-- The text of a command without arguments. -/
def bareText : CommandType → Option Text
  | .ping => some COMMAND_TEXT_PING
  | .status => some COMMAND_TEXT_STATUS
  | .stop => some COMMAND_TEXT_STOP
  | .estop => some COMMAND_TEXT_ESTOP
  | .clearFault => some COMMAND_TEXT_CLEAR_FAULT
  | .move => none
  | .none => none

/-- The dispatch of `command_parser_parse` on the first word. -/
def parseWord (w : LongWidth) (line t0 saved : Text) (command : Command) :
    CommandParseResult × Command :=
  if t0 = COMMAND_TEXT_PING then commandParserParseBare saved .ping command
  else if t0 = COMMAND_TEXT_STATUS then commandParserParseBare saved .status command
  else if t0 = COMMAND_TEXT_STOP then commandParserParseBare saved .stop command
  else if t0 = COMMAND_TEXT_ESTOP then commandParserParseBare saved .estop command
  else if t0 = COMMAND_TEXT_CLEAR_FAULT then commandParserParseBare saved .clearFault command
  else if t0 = COMMAND_TEXT_MOVE then
    let r := commandParserParseMove w line command
    if r.1 ≠ .ok then (r.1, commandParserResetCommand r.2) else r
  else (.errUnknownCommand, command)

theorem parse_blank (w : LongWidth) (line : CString) (prior : Command)
    (h : ∀ c ∈ line.bytes, isDelimiter c = true) :
    commandParserParse w (some line) prior = (.errEmpty, ⟨.none, 0, 0, 0⟩) := by
  simp only [commandParserParse]
  rw [if_pos ((isEmptyLine_iff _).mpr h)]; rfl

theorem parse_long (w : LongWidth) (line : CString) (prior : Command)
    (h : ¬ ∀ c ∈ line.bytes, isDelimiter c = true) (hlen : 96 ≤ line.bytes.length) :
    commandParserParse w (some line) prior = (.errInvalidArgument, ⟨.none, 0, 0, 0⟩) := by
  have hlen : line.bytes.length ≥ COMMAND_PARSER_LINE_BUFFER_SIZE := hlen
  simp only [commandParserParse]
  rw [if_neg (fun e => h ((isEmptyLine_iff _).mp e)), if_pos hlen]; rfl

theorem parse_words (w : LongWidth) (line : CString) (prior : Command)
    (h : ¬ ∀ c ∈ line.bytes, isDelimiter c = true) (hlen : line.bytes.length < 96) :
    ∃ t0 saved, strtok line.bytes COMMAND_PARSER_TOKEN_DELIMITERS = some (t0, saved) ∧
      words isDelimiter line.bytes = t0 :: words isDelimiter saved ∧
      commandParserParse w (some line) prior =
        parseWord w line.bytes t0 saved ⟨.none, 0, 0, 0⟩ := by
  cases hn : nextWord isDelimiter line.bytes with
  | none => exact absurd ((nextWord_isNone_iff _).mp hn) h
  | some r =>
    obtain ⟨t0, saved⟩ := r
    have hs : strtok line.bytes COMMAND_PARSER_TOKEN_DELIMITERS = some (t0, saved) := by
      rw [strtok_eq, hn]
    refine ⟨t0, saved, hs, words_eq_cons_of_some hn, ?_⟩
    simp only [commandParserParse]
    rw [if_neg (fun e => h ((isEmptyLine_iff _).mp e)),
      if_neg (by simp only [COMMAND_PARSER_LINE_BUFFER_SIZE]; omega), hs]
    rfl

theorem parseBare_eq (saved : Text) (type : CommandType) (c : Command) :
    commandParserParseBare saved type c = if words isDelimiter saved = [] then
      (.ok, { c with type := type }) else (.errInvalidArgument, c) := by
  simp only [commandParserParseBare, strtok_eq, words_eq_nil_iff, ne_eq, ite_not]

theorem parseWord_bare (w : LongWidth) (line saved : Text) (c : Command) {t0 : Text}
    {type : CommandType} (h : bareText type = some t0) :
    parseWord w line t0 saved c = commandParserParseBare saved type c := by
  cases type <;> simp only [bareText, Option.some.injEq, reduceCtorEq] at h <;> subst h <;> rfl

/-- The move branch: the second scan starts over and finds the same words. -/
theorem parseWord_move (w : LongWidth) (line saved : Text)
    (hs : strtok line COMMAND_PARSER_TOKEN_DELIMITERS = some (COMMAND_TEXT_MOVE, saved)) :
    let scan := moveScan w (words isDelimiter saved) (fun _ => false) ⟨.move, 0, 0, 0⟩
    parseWord w line COMMAND_TEXT_MOVE saved ⟨.none, 0, 0, 0⟩ =
      if scan.1 ≠ .ok then (scan.1, ⟨.none, 0, 0, 0⟩) else scan := by
  intro scan
  have hmove : commandParserParseMove w line ⟨.none, 0, 0, 0⟩ = scan := by
    unfold commandParserParseMove
    rw [hs]
    exact moveFields_eq_scan w saved (fun _ => false) ⟨.move, 0, 0, 0⟩
  show (if (commandParserParseMove w line ⟨.none, 0, 0, 0⟩).1 ≠ .ok then _ else _) = _
  rw [hmove]
  rfl

theorem parseWord_unknown (w : LongWidth) (line saved : Text) (c : Command) {t0 : Text}
    (hm : t0 ≠ COMMAND_TEXT_MOVE) (hb : ∀ type, bareText type ≠ some t0) :
    parseWord w line t0 saved c = (.errUnknownCommand, c) := by
  have hne : ∀ {u : Text} (type : CommandType), bareText type = some u → t0 ≠ u :=
    fun type hu e => hb type (e ▸ hu)
  unfold parseWord
  rw [if_neg (hne .ping rfl), if_neg (hne .status rfl), if_neg (hne .stop rfl),
    if_neg (hne .estop rfl), if_neg (hne .clearFault rfl), if_neg hm]

/-- The scan of a whole argument list, from nothing seen. -/
theorem scan_args (w : LongWidth) (args : List Text) :
    let scan := moveScan w args (fun _ => false) ⟨.move, 0, 0, 0⟩
    (scan.1 = .errInvalidArgument ∧ BadArgs w args) ∨
    (¬ BadArgs w args ∧ (scan.1 = .ok ∧ Complete args ∨ scan.1 = .errMissingArgument ∧ ¬ Complete args) ∧
      scan.2.type = .move ∧ Holds w args scan.2) := by
  exact scan_spec w args [] (fun _ => false) ⟨.move, 0, 0, 0⟩ (by simp [Sees]) (by simp [Holds])

/-- What the parser makes of a line, by its first word and the words after it. -/
inductive Classified (w : LongWidth) : Text → List Text → CommandParseResult × Command → Prop
  | bare {type : CommandType} {t0 : Text} : bareText type = some t0 →
      Classified w t0 [] (.ok, ⟨type, 0, 0, 0⟩)
  | extra {type : CommandType} {t0 : Text} {args : List Text} : bareText type = some t0 → args ≠ [] →
      Classified w t0 args (.errInvalidArgument, ⟨.none, 0, 0, 0⟩)
  | bad {args : List Text} : BadArgs w args →
      Classified w COMMAND_TEXT_MOVE args (.errInvalidArgument, ⟨.none, 0, 0, 0⟩)
  | incomplete {args : List Text} : ¬ BadArgs w args → ¬ Complete args →
      Classified w COMMAND_TEXT_MOVE args (.errMissingArgument, ⟨.none, 0, 0, 0⟩)
  | move {args : List Text} {c : Command} : ¬ BadArgs w args → Complete args → c.type = .move →
      Holds w args c → Classified w COMMAND_TEXT_MOVE args (.ok, c)
  | unknown {t0 : Text} {args : List Text} : t0 ≠ COMMAND_TEXT_MOVE →
      (∀ type, bareText type ≠ some t0) →
      Classified w t0 args (.errUnknownCommand, ⟨.none, 0, 0, 0⟩)

theorem parseWord_classified (w : LongWidth) {line t0 saved : Text}
    (hs : strtok line COMMAND_PARSER_TOKEN_DELIMITERS = some (t0, saved)) :
    Classified w t0 (words isDelimiter saved) (parseWord w line t0 saved ⟨.none, 0, 0, 0⟩) := by
  by_cases hbare : ∃ type, bareText type = some t0
  · obtain ⟨type, htype⟩ := hbare
    rw [parseWord_bare w line saved _ htype, parseBare_eq]
    split
    · rename_i hargs; rw [hargs]; exact .bare htype
    · rename_i hargs; exact .extra htype hargs
  by_cases hmove : t0 = COMMAND_TEXT_MOVE
  · subst hmove
    rw [parseWord_move w line saved hs]
    have hscan := scan_args w (words isDelimiter saved)
    generalize moveScan w (words isDelimiter saved) (fun _ => false) ⟨.move, 0, 0, 0⟩ = scan at hscan
    obtain ⟨result, c⟩ := scan
    rcases hscan with ⟨rfl, hbad⟩ | ⟨hgood, ⟨rfl, hall⟩ | ⟨rfl, hmissing⟩, htype, hholds⟩
    · exact .bad hbad
    · exact .move hgood hall htype hholds
    · exact .incomplete hgood hmissing
  · have hbare : ∀ type, bareText type ≠ some t0 := fun type h => hbare ⟨type, h⟩
    rw [parseWord_unknown w line saved _ hmove hbare]
    exact .unknown hmove hbare

theorem bareText_inj {type type' : CommandType} {t0 : Text} (h : bareText type = some t0)
    (h' : bareText type' = some t0) : type = type' := by
  have he := h.trans h'.symm
  cases type <;> cases type' <;> first | rfl | exact absurd he (by decide) | cases h

theorem bareText_ne_move (type : CommandType) : bareText type ≠ some COMMAND_TEXT_MOVE := by
  cases type <;> decide

section Classified

variable {w : LongWidth} {t0 : Text} {args : List Text} {r : CommandParseResult × Command}

theorem Classified.ne_empty (h : Classified w t0 args r) : r.1 ≠ .errEmpty := by cases h <;> simp

/-- An error leaves no command. -/
theorem Classified.reset (h : Classified w t0 args r) : r.1 ≠ .ok → r.2 = ⟨.none, 0, 0, 0⟩ := by
  cases h <;> simp

theorem Classified.of_bare (h : Classified w t0 args r) {type : CommandType}
    (htype : bareText type = some t0) :
    (args = [] → r = (.ok, ⟨type, 0, 0, 0⟩)) ∧ (args ≠ [] → r.1 = .errInvalidArgument) := by
  cases h with
  | bare htype' =>
    rw [bareText_inj htype htype']
    exact ⟨fun _ => rfl, fun h => absurd rfl h⟩
  | extra _ hargs => exact ⟨fun h => absurd h hargs, fun _ => rfl⟩
  | bad _ => exact absurd htype (bareText_ne_move type)
  | incomplete _ _ => exact absurd htype (bareText_ne_move type)
  | move _ _ _ _ => exact absurd htype (bareText_ne_move type)
  | unknown _ hbare => exact absurd htype (hbare type)

theorem Classified.of_move (h : Classified w t0 args r) (hmove : t0 = COMMAND_TEXT_MOVE) :
    (r.1 = .errInvalidArgument ↔ BadArgs w args) ∧
      (¬ BadArgs w args → (r.1 = .errMissingArgument ↔ ¬ Complete args)) ∧
      (¬ BadArgs w args → Complete args → r.1 = .ok ∧ r.2.type = .move ∧ Holds w args r.2) := by
  cases h with
  | @bare type _ htype => rw [hmove] at htype; exact absurd htype (bareText_ne_move type)
  | @extra type _ _ htype _ => rw [hmove] at htype; exact absurd htype (bareText_ne_move type)
  | unknown hne _ => exact absurd hmove hne
  | bad hbad => exact ⟨iff_of_true rfl hbad, fun h => absurd hbad h, fun h => absurd hbad h⟩
  | incomplete hgood hmissing =>
    exact ⟨iff_of_false (by simp) hgood, fun _ => iff_of_true rfl hmissing,
      fun _ h => absurd h hmissing⟩
  | move hgood hall htype hholds =>
    exact ⟨iff_of_false (by simp) hgood, fun _ => iff_of_false (by simp) (not_not_intro hall),
      fun _ _ => ⟨rfl, htype, hholds⟩⟩

theorem Classified.of_unknown (h : Classified w t0 args r) (hmove : t0 ≠ COMMAND_TEXT_MOVE)
    (hbare : ∀ type, bareText type ≠ some t0) : r.1 = .errUnknownCommand := by
  cases h with
  | unknown _ _ => rfl
  | bare htype => exact absurd htype (hbare _)
  | extra htype _ => exact absurd htype (hbare _)
  | bad _ => exact absurd rfl hmove
  | incomplete _ _ => exact absurd rfl hmove
  | move _ _ _ _ => exact absurd rfl hmove

end Classified

/-! ## Lines -/

section Lines

variable {w : LongWidth} {line : CString} {prior : Command} {t0 : Text} {args : List Text}

/-- A short line with a word in it, and that word and the others. -/
theorem parse_classified (w : LongWidth) (prior : Command)
    (hw : words isDelimiter line.bytes = t0 :: args) (hlen : line.bytes.length < 96) :
    Classified w t0 args (commandParserParse w (some line) prior) := by
  have hb : ¬ ∀ c ∈ line.bytes, isDelimiter c = true := by
    rw [← nextWord_isNone_iff, ← words_eq_nil_iff, hw]
    simp
  obtain ⟨t, saved, hs, hw', hr⟩ := parse_words w line prior hb hlen
  obtain ⟨rfl, rfl⟩ := List.cons.inj (hw.symm.trans hw')
  rw [hr]
  exact parseWord_classified w hs

/-- A line that is accepted is short and has a word in it. -/
theorem words_of_ok (h : (commandParserParse w (some line) prior).1 = .ok) :
    line.bytes.length < 96 ∧ ∃ t0 args, words isDelimiter line.bytes = t0 :: args := by
  by_cases hb : ∀ c ∈ line.bytes, isDelimiter c = true
  · rw [parse_blank w line prior hb] at h; cases h
  by_cases hlen : 96 ≤ line.bytes.length
  · rw [parse_long w line prior hb hlen] at h; cases h
  obtain ⟨t0, saved, -, hw, -⟩ := parse_words w line prior hb (by omega)
  exact ⟨by omega, t0, _, hw⟩

/-- A `MOVE` line whose arguments are right. -/
theorem parse_move (hw : words isDelimiter line.bytes = COMMAND_TEXT_MOVE :: args)
    (hlen : line.bytes.length < 96) (hgood : ¬ BadArgs w args) (hall : Complete args)
    (prior : Command) : (commandParserParse w (some line) prior).1 = .ok ∧
      (commandParserParse w (some line) prior).2.type = .move ∧
      Holds w args (commandParserParse w (some line) prior).2 :=
  ((parse_classified w prior hw hlen).of_move rfl).2.2 hgood hall

theorem parse_move_ok_iff (hw : words isDelimiter line.bytes = COMMAND_TEXT_MOVE :: args) :
    (commandParserParse w (some line) prior).1 = .ok ↔
      line.bytes.length < 96 ∧ ¬ BadArgs w args ∧ Complete args := by
  constructor
  · intro h
    obtain ⟨hlen, -⟩ := words_of_ok h
    obtain ⟨hbad, hmissing, -⟩ := (parse_classified w prior hw hlen).of_move rfl
    have hgood : ¬ BadArgs w args := fun hb => by rw [hbad.mpr hb] at h; cases h
    refine ⟨hlen, hgood, ?_⟩
    by_contra hno
    rw [(hmissing hgood).mpr hno] at h
    cases h
  · rintro ⟨hlen, hgood, hall⟩
    exact (parse_move hw hlen hgood hall prior).1

/-- Only `MOVE` lines give a `MOVE`. -/
theorem words_of_move (h : (commandParserParse w (some line) prior).1 = .ok)
    (htype : (commandParserParse w (some line) prior).2.type = .move) :
    ∃ args, words isDelimiter line.bytes = COMMAND_TEXT_MOVE :: args := by
  obtain ⟨hlen, t0, args, hw⟩ := words_of_ok h
  have hc := parse_classified w prior hw hlen
  generalize commandParserParse w (some line) prior = r at h htype hc
  cases hc with
  | @bare type _ hbare =>
    have htype : type = .move := htype
    rw [htype] at hbare
    cases hbare
  | move _ _ _ _ => exact ⟨args, hw⟩
  | extra _ _ => cases h
  | bad _ => cases h
  | incomplete _ _ => cases h
  | unknown _ _ => cases h

/-- The width of `long` matters to `MOVE` only. -/
theorem parse_bare_width {w' : LongWidth}
    (h : ∀ args, words isDelimiter line.bytes ≠ COMMAND_TEXT_MOVE :: args) :
    commandParserParse w (some line) prior = commandParserParse w' (some line) prior := by
  by_cases hb : ∀ c ∈ line.bytes, isDelimiter c = true
  · rw [parse_blank w line prior hb, parse_blank w' line prior hb]
  by_cases hlen : 96 ≤ line.bytes.length
  · rw [parse_long w line prior hb hlen, parse_long w' line prior hb hlen]
  obtain ⟨t0, saved, hs, hw, hr⟩ := parse_words w line prior hb (by omega)
  obtain ⟨t0', saved', hs', -, hr'⟩ := parse_words w' line prior hb (by omega)
  rw [hs] at hs'
  cases hs'
  have hm : t0 ≠ COMMAND_TEXT_MOVE := fun e => h _ (e ▸ hw)
  rw [hr, hr']
  unfold parseWord
  rw [if_neg hm, if_neg hm]

end Lines

/-- Nothing of the caller's command is read. -/
theorem parse_prior (w : LongWidth) (line : Option CString) (prior prior' : Command) :
    commandParserParse w line prior = commandParserParse w line prior' := rfl

/-- One of the six commands; a `MOVE` has a feedrate. -/
def Parsed (c : Command) : Prop :=
  c.type ≠ .none ∧ (c.type = .move → c.feedrateMilliMmPerS ≠ 0)

theorem parsed_bare {type : CommandType} {t0 : Text} (h : bareText type = some t0) :
    Parsed ⟨type, 0, 0, 0⟩ := by
  refine ⟨?_, ?_⟩
  · rintro (e : type = .none); rw [e] at h; cases h
  · rintro (e : type = .move); rw [e] at h; cases h

theorem parsed_move {w : LongWidth} {args : List Text} {c : Command} (hgood : ¬ BadArgs w args)
    (hall : Complete args) (htype : c.type = .move) (hholds : Holds w args c) : Parsed c := by
  obtain ⟨u, hu, hf⟩ := hall .feedrate
  obtain ⟨p, q, hsplit⟩ := List.append_of_mem hu
  have hacc : Accepted w .feedrate (fieldText u) := by
    by_contra hno
    exact hgood ⟨p, u, q, hsplit, Or.inr ⟨.feedrate, hf, Or.inr hno⟩⟩
  have hval : (c.feedrateMilliMmPerS.toNat : Int) =
      1000 * (fieldNumber w .feedrate (fieldText u)).1 := hholds u hu .feedrate hf
  have hlow : 1 ≤ (fieldNumber w .feedrate (fieldText u)).1 := hacc.2.2.1
  refine ⟨by rw [htype]; decide, fun _ hz => ?_⟩
  rw [hz] at hval
  simp only [UInt32.toNat_zero] at hval
  omega

/-- What the parser hands over with `OK`. -/
theorem parsed_of_ok (w : LongWidth) (line : CString) (prior : Command)
    (h : (commandParserParse w (some line) prior).1 = .ok) :
    Parsed (commandParserParse w (some line) prior).2 := by
  obtain ⟨hlen, t0, args, hw⟩ := words_of_ok h
  have hc := parse_classified w prior hw hlen
  generalize commandParserParse w (some line) prior = r at h hc
  cases hc with
  | bare htype => exact parsed_bare htype
  | move hgood hall htype hholds => exact parsed_move hgood hall htype hholds
  | extra _ _ => cases h
  | bad _ => cases h
  | incomplete _ _ => cases h
  | unknown _ _ => cases h

/-- **Parser classification.** The result and the command of every NUL-terminated
line, whatever `*command` held before and on either width of `long`. -/
theorem parse_classification (w : LongWidth) (line : CString) (prior : Command) :
    let r := commandParserParse w (some line) prior
    let Blank := ∀ c ∈ line.bytes, isDelimiter c = true
    (r.1 = .errEmpty ↔ Blank) ∧
    (¬ Blank → 96 ≤ line.bytes.length → r.1 = .errInvalidArgument) ∧
    (¬ Blank → line.bytes.length < 96 →
      ∃ t0 args, words isDelimiter line.bytes = t0 :: args ∧
        (∀ type, bareText type = some t0 →
          (args = [] → r = (.ok, ⟨type, 0, 0, 0⟩)) ∧ (args ≠ [] → r.1 = .errInvalidArgument)) ∧
        (t0 = COMMAND_TEXT_MOVE →
          (r.1 = .errInvalidArgument ↔ BadArgs w args) ∧
          (¬ BadArgs w args →
            (r.1 = .errMissingArgument ↔ ∃ f, ∀ u ∈ args, fieldOf u ≠ some f)) ∧
          (¬ BadArgs w args → (¬ ∃ f, ∀ u ∈ args, fieldOf u ≠ some f) →
            r.1 = .ok ∧ r.2.type = .move ∧ Holds w args r.2)) ∧
        (t0 ≠ COMMAND_TEXT_MOVE → (∀ type, bareText type ≠ some t0) → r.1 = .errUnknownCommand)) ∧
    (r.1 ≠ .ok → r.2 = ⟨.none, 0, 0, 0⟩) := by
  intro r Blank
  by_cases hb : Blank
  · have hr : r = (.errEmpty, ⟨.none, 0, 0, 0⟩) := parse_blank w line prior hb
    rw [hr]
    exact ⟨by simpa using hb, fun h => absurd hb h, fun h => absurd hb h, fun _ => rfl⟩
  by_cases hlen : 96 ≤ line.bytes.length
  · have hr : r = (.errInvalidArgument, ⟨.none, 0, 0, 0⟩) := parse_long w line prior hb hlen
    rw [hr]
    exact ⟨by simpa using hb, fun _ _ => rfl, fun _ h => by omega, fun _ => rfl⟩
  obtain ⟨t0, saved, -, hw, -⟩ := parse_words w line prior hb (by omega)
  have hc : Classified w t0 (words isDelimiter saved) r := parse_classified w prior hw (by omega)
  have habsent : (∃ f, ∀ u ∈ words isDelimiter saved, fieldOf u ≠ some f) ↔
      ¬ Complete (words isDelimiter saved) := by simp [Complete]
  refine ⟨⟨fun h => absurd h hc.ne_empty, fun h => absurd h hb⟩, fun _ h => absurd h hlen,
    fun _ _ => ⟨t0, _, hw, fun type htype => hc.of_bare htype, fun hmove => ?_, hc.of_unknown⟩, hc.reset⟩
  obtain ⟨hbad, hmissing, hok⟩ := hc.of_move hmove
  exact ⟨hbad, fun h => (hmissing h).trans habsent.symm,
    fun h hall => hok h (not_not.mp (habsent.not.mp hall))⟩

end MotionFirmware.L1.Parser
