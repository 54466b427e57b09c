import MotionFirmware.Core.Decimal
import MotionFirmware.L1Modules.FieldText

/-!
# The text of a command

What the parser reads of a short line is its first word and its other words in
any order (`parse_layout`): spaces, tabs, the line ending and the order of the
fields do not show in the result, the error or the command.

`commandText` writes a command back, with the names of
`command_parser_type_to_string`. The commands the parser hands over are the
`Sendable` ones, and each is what the parser makes of its own text, on either
width of `long` (`command_round_trip`): the command of an accepted line, sent on
as text, is accepted as the same command.
-/
namespace MotionFirmware.L1.Parser

open MotionFirmware.Core

/-! ## Layout -/

section Layout

variable {w : LongWidth} {args args' : List Text} {t0 : Text}

theorem badArgs_perm (h : args.Perm args') : BadArgs w args ↔ BadArgs w args' := by
  rw [← not_iff_not, not_badArgs_iff, not_badArgs_iff, (h.map fieldOf).nodup_iff]
  exact and_congr_left fun _ => forall_congr' fun t => imp_congr_left h.mem_iff

theorem complete_perm (h : args.Perm args') : Complete args ↔ Complete args' :=
  forall_congr' fun _ => exists_congr fun _ => and_congr_left fun _ => h.mem_iff

/-- Complete arguments determine the command. -/
theorem Holds.unique {c c' : Command} (hall : Complete args) (htype : c.type = c'.type)
    (h : Holds w args c) (h' : Holds w args c') : c = c' := by
  apply command_ext htype
  intro f
  obtain ⟨t, ht, hf⟩ := hall f
  rw [h t ht f hf, h' t ht f hf]

/-- The outcome is a function of the first word and the other words, unordered. -/
theorem Classified.unique {r r' : CommandParseResult × Command} (hperm : args.Perm args')
    (h : Classified w t0 args r) (h' : Classified w t0 args' r') : r = r' := by
  cases h with
  | bare htype => exact ((h'.of_bare htype).1 (List.nil_perm.mp hperm)).symm
  | extra htype hargs =>
    have hargs' : args' ≠ [] := fun e => hargs (List.perm_nil.mp (e ▸ hperm))
    have hr : r'.1 = .errInvalidArgument := (h'.of_bare htype).2 hargs'
    exact Prod.ext hr.symm (h'.reset (by rw [hr]; decide)).symm
  | bad hbad =>
    have hr : r'.1 = .errInvalidArgument := (h'.of_move rfl).1.mpr ((badArgs_perm hperm).mp hbad)
    exact Prod.ext hr.symm (h'.reset (by rw [hr]; decide)).symm
  | incomplete hgood hmissing =>
    have hgood' : ¬ BadArgs w args' := (badArgs_perm hperm).not.mp hgood
    have hr : r'.1 = .errMissingArgument :=
      ((h'.of_move rfl).2.1 hgood').mpr ((complete_perm hperm).not.mp hmissing)
    exact Prod.ext hr.symm (h'.reset (by rw [hr]; decide)).symm
  | @move _ c hgood hall htype hholds =>
    have hgood' : ¬ BadArgs w args' := (badArgs_perm hperm).not.mp hgood
    obtain ⟨hr, htype', hholds'⟩ := (h'.of_move rfl).2.2 hgood' ((complete_perm hperm).mp hall)
    have hsame : Holds w args r'.2 := fun t ht => hholds' t (hperm.mem_iff.mp ht)
    exact Prod.ext hr.symm (Holds.unique hall (htype.trans htype'.symm) hholds hsame)
  | unknown hmove hbare =>
    have hr : r'.1 = .errUnknownCommand := h'.of_unknown hmove hbare
    exact Prod.ext hr.symm (h'.reset (by rw [hr]; decide)).symm

end Layout

/-- **Layout.** Two short lines of one first word and the same other words, in any
order and with any delimiters, give the same result and the same command. -/
theorem parse_layout (w : LongWidth) (line line' : CString) (prior prior' : Command)
    {t0 : Text} {args args' : List Text} (hw : words isDelimiter line.bytes = t0 :: args)
    (hw' : words isDelimiter line'.bytes = t0 :: args') (hlen : line.bytes.length < 96)
    (hlen' : line'.bytes.length < 96) (hperm : args.Perm args') :
    commandParserParse w (some line) prior = commandParserParse w (some line') prior' :=
  Classified.unique hperm (parse_classified w prior hw hlen) (parse_classified w prior' hw' hlen')

theorem parse_layout_move :
    commandParserParse .lp64 (some ⟨ascii "MOVE X=1 Y=2 F=3", by decide⟩) ⟨.none, 0, 0, 0⟩ =
      commandParserParse .lp64 (some ⟨ascii "\tMOVE F=3  X=1 Y=2\r\n", by decide⟩) ⟨.stop, 7, 8, 9⟩ := by
  have hw : words isDelimiter (ascii "MOVE X=1 Y=2 F=3") =
      COMMAND_TEXT_MOVE :: [ascii "X=1", ascii "Y=2", ascii "F=3"] := by decide
  have hw' : words isDelimiter (ascii "\tMOVE F=3  X=1 Y=2\r\n") =
      COMMAND_TEXT_MOVE :: [ascii "F=3", ascii "X=1", ascii "Y=2"] := by decide
  exact parse_layout .lp64 _ _ _ _ hw hw' (by decide) (by decide) (by decide)

/-! ## Commands as text -/

/-- mirrors firmware/App/command/command_parser.c:19 -/
def COMMAND_TEXT_NONE : Text := ascii "NONE"

/-- mirrors firmware/App/command/command_parser.c:258-277 -/
def commandParserTypeToString : CommandType → Text
  | .none => COMMAND_TEXT_NONE
  | .ping => COMMAND_TEXT_PING
  | .status => COMMAND_TEXT_STATUS
  | .move => COMMAND_TEXT_MOVE
  | .stop => COMMAND_TEXT_STOP
  | .estop => COMMAND_TEXT_ESTOP
  | .clearFault => COMMAND_TEXT_CLEAR_FAULT

/-- A numeral for `v`: a minus where it takes one, and the digits. -/
def signedDecimal (v : Int) : Text := (if v < 0 then ascii "-" else []) ++ decimal v.natAbs

/-- A field in whole millimetres, as an argument. -/
def fieldArg (c : Command) (f : Field) : Text := fieldTag f ++ signedDecimal (fieldValue c f / 1000)

def commandArgs (c : Command) : List Text :=
  if c.type = .move then [fieldArg c .x, fieldArg c .y, fieldArg c .feedrate] else []

/-- The command as a line. -/
def commandText (c : Command) : Text :=
  commandParserTypeToString c.type ++ (commandArgs c).flatMap (32 :: ·)

/-- A bare command with its fields reset, or a `MOVE` of whole millimetres in
range. -/
def Sendable (c : Command) : Prop :=
  (∃ t, bareText c.type = some t ∧ c = ⟨c.type, 0, 0, 0⟩) ∨
  (c.type = .move ∧ ∀ f, ∃ v, InRange f v ∧ fieldValue c f = 1000 * v)

theorem typeToString_bare {type : CommandType} {t : Text} (h : bareText type = some t) :
    commandParserTypeToString type = t := by
  cases type <;> simp_all [bareText, commandParserTypeToString]

/-! ### Bytes of a text -/

/-- A printable byte: no NUL and no delimiter. -/
def isGraph (c : UInt8) : Bool := 33 ≤ c && c ≤ 126

theorem isGraph_not_delimiter {c : UInt8} (h : isGraph c = true) : isDelimiter c = false := by
  by_contra hd
  simp only [isDelimiter, Bool.not_eq_false, Bool.or_eq_true, beq_iff_eq] at hd
  rcases hd with ((rfl | rfl) | rfl) | rfl <;> cases h

theorem isdigit_isGraph {c : UInt8} (h : isdigit c = true) : isGraph c = true := by
  simp only [isdigit, isGraph, Bool.and_eq_true, decide_eq_true_eq, UInt8.le_iff_toNat_le] at h ⊢
  simp only [UInt8.reduceToNat] at h ⊢
  omega

theorem signedDecimal_isGraph (v : Int) : (signedDecimal v).all isGraph = true := by
  have hdigits : (decimal v.natAbs).all isGraph = true :=
    List.all_eq_true.mpr fun c hc => isdigit_isGraph (decimal_isdigit _ c hc)
  unfold signedDecimal
  split
  · rw [List.all_append, hdigits]; decide
  · exact hdigits

theorem signedDecimal_denotes (v : Int) : Denotes (signedDecimal v) v := by
  have hdigits : IsDigits (decimal v.natAbs) := ⟨decimal_ne_nil _, decimal_isdigit _⟩
  have hspace : IsSpace [] := fun _ hc => by cases hc
  unfold signedDecimal
  split
  · rename_i hneg
    have h := Denotes.minus hspace hdigits
    rwa [digitsValue_decimal, show -((v.natAbs : Nat) : Int) = v by omega] at h
  · rename_i hpos
    have h := Denotes.plain hspace hdigits
    rwa [digitsValue_decimal, show ((v.natAbs : Nat) : Int) = v by omega] at h

theorem signedDecimal_length {v : Int} (h : v.natAbs < 10 ^ 7) : (signedDecimal v).length ≤ 8 := by
  have hdigits := decimal_length_le v.natAbs 6 h
  have hsign : (if v < 0 then ascii "-" else []).length ≤ 1 := by split <;> decide
  unfold signedDecimal
  rw [List.length_append]
  omega

/-- A name or an argument: not empty, and of printable bytes. -/
def IsToken (text : Text) : Prop := text ≠ [] ∧ text.all isGraph = true

theorem typeToString_isToken (type : CommandType) : IsToken (commandParserTypeToString type) := by
  cases type <;> exact ⟨by decide, by decide⟩

theorem fieldArg_isToken (c : Command) (f : Field) : IsToken (fieldArg c f) := by
  have htag : fieldTag f ≠ [] ∧ (fieldTag f).all isGraph = true := by cases f <;> decide
  refine ⟨fun e => htag.1 (List.append_eq_nil_iff.mp e).1, ?_⟩
  rw [fieldArg, List.all_append, htag.2, signedDecimal_isGraph]
  rfl

theorem commandArgs_isToken (c : Command) : ∀ t ∈ commandArgs c, IsToken t := by
  intro t ht
  unfold commandArgs at ht
  split at ht
  · simp only [List.mem_cons, List.not_mem_nil, or_false] at ht
    rcases ht with rfl | rfl | rfl
    · exact fieldArg_isToken c .x
    · exact fieldArg_isToken c .y
    · exact fieldArg_isToken c .feedrate
  · cases ht

theorem commandText_words (c : Command) :
    words isDelimiter (commandText c) = commandParserTypeToString c.type :: commandArgs c := by
  have hall : ∀ t ∈ commandParserTypeToString c.type :: commandArgs c,
      t ≠ [] ∧ ∀ b ∈ t, isDelimiter b = false := by
    intro t ht
    have htoken : IsToken t := by
      rcases List.mem_cons.mp ht with rfl | ht
      · exact typeToString_isToken c.type
      · exact commandArgs_isToken c t ht
    exact ⟨htoken.1, fun b hb => isGraph_not_delimiter (List.all_eq_true.mp htoken.2 b hb)⟩
  have hblank : isDelimiter 32 = true := rfl
  have hwords := words_flatMap hblank hall
  rwa [List.flatMap_cons, List.cons_append, words_delim hblank] at hwords

theorem commandText_nul_free (c : Command) : 0 ∉ commandText c := by
  have hfree {t : Text} (h : IsToken t) : 0 ∉ t := fun h0 => by
    cases List.all_eq_true.mp h.2 0 h0
  unfold commandText
  rw [List.mem_append, List.mem_flatMap, not_or]
  refine ⟨hfree (typeToString_isToken c.type), ?_⟩
  rintro ⟨t, ht, h0⟩
  exact hfree (commandArgs_isToken c t ht) (by simpa using h0)

/-- The command as a C string. -/
def commandLine (c : Command) : CString := ⟨commandText c, commandText_nul_free c⟩

/-! ### Round trip -/

section RoundTrip

variable {w : LongWidth} {c : Command}

/-- What the parser hands over can be written as text. -/
theorem sendable_of_ok {line : CString} {prior : Command}
    (h : commandParserParse w (some line) prior = (.ok, c)) : Sendable c := by
  obtain ⟨hlen, t0, args, hw⟩ := words_of_ok (by rw [h])
  have hc := parse_classified w prior hw hlen
  rw [h] at hc
  cases hc with
  | bare htype => exact Or.inl ⟨_, htype, rfl⟩
  | move hgood hall htype hholds =>
    refine Or.inr ⟨htype, fun f => ?_⟩
    obtain ⟨t, ht, hf⟩ := hall f
    obtain ⟨g, hg, hacc⟩ := (not_badArgs_iff.mp hgood).1 t ht
    rw [hf] at hg
    cases hg
    exact ⟨_, hacc.2.2, hholds t ht f hf⟩

theorem commandText_length (h : Sendable c) : (commandText c).length < 96 := by
  have hname : (commandParserTypeToString c.type).length ≤ 11 := by cases c.type <;> decide
  unfold commandText commandArgs
  rw [List.length_append]
  split
  · rename_i htype
    have hfield (f : Field) : (fieldArg c f).length ≤ 10 := by
      have htag : (fieldTag f).length = 2 := by cases f <;> rfl
      rcases h with ⟨t, hbare, -⟩ | ⟨-, hmove⟩
      · rw [htype] at hbare; cases hbare
      obtain ⟨v, hr, hv⟩ := hmove f
      have hbound : v.natAbs < 10 ^ 7 := by cases f <;> simp only [InRange] at hr <;> omega
      have hlen := signedDecimal_length hbound
      rw [fieldArg, hv, Int.mul_ediv_cancel_left v (by decide), List.length_append]
      omega
    have hx := hfield .x
    have hy := hfield .y
    have hf := hfield .feedrate
    simp only [List.flatMap_cons, List.flatMap_nil, List.length_append, List.length_cons,
      List.length_nil]
    omega
  · simp only [List.flatMap_nil, List.length_nil]
    omega

/-- The parser reads a command back from its text. -/
theorem parse_commandText (h : Sendable c) (prior : Command) :
    commandParserParse w (some (commandLine c)) prior = (.ok, c) := by
  have hlen : (commandLine c).bytes.length < 96 := commandText_length h
  have hw : words isDelimiter (commandLine c).bytes = _ := commandText_words c
  rcases h with ⟨t, hbare, hc⟩ | ⟨htype, hfields⟩
  · have hargs : commandArgs c = [] := if_neg fun e => by rw [e] at hbare; cases hbare
    rw [typeToString_bare hbare, hargs] at hw
    have hr := ((parse_classified w prior hw hlen).of_bare hbare).1 rfl
    exact hr.trans (Prod.ext rfl hc.symm)
  · obtain ⟨a, ha, hx⟩ := hfields .x
    obtain ⟨b, hb, hy⟩ := hfields .y
    obtain ⟨f, hr, hf⟩ := hfields .feedrate
    have hname : commandParserTypeToString c.type = COMMAND_TEXT_MOVE := by rw [htype]; rfl
    have hargs : commandArgs c = [fieldTag .x ++ signedDecimal a, fieldTag .y ++ signedDecimal b,
        fieldTag .feedrate ++ signedDecimal f] := by
      simp only [commandArgs, if_pos htype, fieldArg, hx, hy, hf,
        Int.mul_ediv_cancel_left _ (show (1000 : Int) ≠ 0 by decide)]
    rw [hname, hargs] at hw
    obtain ⟨c', hok, htype', hx', hy', hf'⟩ := parse_move_fields (w := w) hw hlen (List.Perm.refl _)
      (signedDecimal_denotes a) (signedDecimal_denotes b) (signedDecimal_denotes f) ha hb hr prior
    rw [hok]
    refine Prod.ext rfl (command_ext (htype'.trans htype.symm) fun g => ?_)
    cases g with
    | x => exact hx'.trans hx.symm
    | y => exact hy'.trans hy.symm
    | feedrate => exact hf'.trans hf.symm

end RoundTrip

/-- **Round trip.** The parser hands over the sendable commands and no others, and
whatever line a command came from, its text gives it again, on either width. -/
theorem command_round_trip (c : Command) :
    ((∃ w line prior, commandParserParse w (some line) prior = (.ok, c)) ↔ Sendable c) ∧
    (Sendable c ↔ ∀ w prior, commandParserParse w (some (commandLine c)) prior = (.ok, c)) := by
  refine ⟨⟨?_, fun h => ?_⟩, fun h w prior => parse_commandText h prior, fun h => ?_⟩
  · rintro ⟨w, line, prior, h⟩
    exact sendable_of_ok h
  · exact ⟨.lp64, commandLine c, c, parse_commandText h c⟩
  · exact sendable_of_ok (h .lp64 c)

end MotionFirmware.L1.Parser
