import MotionFirmware.Core.Libc

/-!
# Command parser (`command/command_parser.c`)

One bounded text line to one `command_t`. The parser fills its output in
place: `command` is passed in and returned, so what an error leaves behind is
part of the result. A line is a C string or `NULL`.
-/
namespace MotionFirmware.L1.Parser

open MotionFirmware.Core

/-- mirrors firmware/App/command/command_parser.c:9-11 -/
def COMMAND_PARSER_MM_SCALE : Int := 1000
def COMMAND_PARSER_LINE_BUFFER_SIZE : Nat := 96
def COMMAND_PARSER_TOKEN_DELIMITERS : Text := ascii " \t\r\n"

/-- mirrors firmware/App/command/command_parser.c:13-31 -/
def COMMAND_TEXT_PING : Text := ascii "PING"
def COMMAND_TEXT_STATUS : Text := ascii "STATUS"
def COMMAND_TEXT_MOVE : Text := ascii "MOVE"
def COMMAND_TEXT_STOP : Text := ascii "STOP"
def COMMAND_TEXT_ESTOP : Text := ascii "ESTOP"
def COMMAND_TEXT_CLEAR_FAULT : Text := ascii "CLEAR_FAULT"
def COMMAND_PREFIX_X : Text := ascii "X="
def COMMAND_PREFIX_Y : Text := ascii "Y="
def COMMAND_PREFIX_F : Text := ascii "F="
def COMMAND_PREFIX_LENGTH : Nat := 2
def COMMAND_PARSE_TEXT_OK : Text := ascii "OK"
def COMMAND_PARSE_TEXT_ERR_NULL : Text := ascii "ERR_NULL"
def COMMAND_PARSE_TEXT_ERR_EMPTY : Text := ascii "ERR_EMPTY"
def COMMAND_PARSE_TEXT_ERR_UNKNOWN_COMMAND : Text := ascii "ERR_UNKNOWN_COMMAND"
def COMMAND_PARSE_TEXT_ERR_MISSING_ARGUMENT : Text := ascii "ERR_MISSING_ARGUMENT"
def COMMAND_PARSE_TEXT_ERR_INVALID_ARGUMENT : Text := ascii "ERR_INVALID_ARGUMENT"

/-- mirrors firmware/App/command/command_parser.h:12-20 -/
inductive CommandType where
  | none | ping | status | move | stop | estop | clearFault
  deriving DecidableEq, Repr

/-- mirrors firmware/App/command/command_parser.h:28-35 -/
inductive CommandParseResult where
  | ok | errNull | errEmpty | errUnknownCommand | errMissingArgument | errInvalidArgument
  deriving DecidableEq, Repr

/-- mirrors firmware/App/command/command_parser.h:43-48 -/
structure Command where
  type : CommandType
  xMilliMm : Int32
  yMilliMm : Int32
  feedrateMilliMmPerS : UInt32
  deriving DecidableEq, Repr

/-- mirrors firmware/App/command/command_parser.c:36-45 -/
def commandParserResetCommand (command : Command) : Command :=
  { command with type := .none, xMilliMm := 0, yMilliMm := 0, feedrateMilliMmPerS := 0 }

/-- mirrors firmware/App/command/command_parser.c:50-61 -/
def commandParserIsEmptyLine : Text → Bool
  | [] => true
  | c :: line =>
    if c ≠ 32 ∧ c ≠ 9 ∧ c ≠ 10 ∧ c ≠ 13 then false else commandParserIsEmptyLine line

/-- `none`: the function returns false and `*out_milli_mm` keeps its value.
mirrors firmware/App/command/command_parser.c:66-88 -/
def commandParserParseI32Mm (w : LongWidth) (text : Text) : Option Int32 :=
  if text = [] then none
  else
    let r := strtol w text
    if r.2 ≠ [] then none
    else if r.1 > Int.tdiv 2147483647 COMMAND_PARSER_MM_SCALE ∨
        r.1 < Int.tdiv (-2147483648) COMMAND_PARSER_MM_SCALE then none
    else some (Int32.ofInt (r.1 * COMMAND_PARSER_MM_SCALE))

/-- mirrors firmware/App/command/command_parser.c:93-117 -/
def commandParserParseU32MmPerS (w : LongWidth) (text : Text) : Option UInt32 :=
  if text = [] then none
  else
    let r := strtoul w text
    if r.2 ≠ [] then none
    else if r.1 = 0 then none
    else if r.1 > 4294967295 / 1000 then none
    else some (UInt32.ofNat (r.1 * 1000))

/-- The field loop of `command_parser_parse_move`, on the text `strtok` saved.
mirrors firmware/App/command/command_parser.c:139-164 -/
def commandParserMoveFields (w : LongWidth) (saved : Text) (sawX sawY sawF : Bool)
    (command : Command) : CommandParseResult × Command :=
  match _hs : strtok saved COMMAND_PARSER_TOKEN_DELIMITERS with
  | none =>
    if !sawX || !sawY || !sawF then (.errMissingArgument, command) else (.ok, command)
  | some (token, saved') =>
    if token.take COMMAND_PREFIX_LENGTH = COMMAND_PREFIX_X then
      if sawX then (.errInvalidArgument, command)
      else match commandParserParseI32Mm w (token.drop COMMAND_PREFIX_LENGTH) with
        | none => (.errInvalidArgument, command)
        | some v => commandParserMoveFields w saved' true sawY sawF { command with xMilliMm := v }
    else if token.take COMMAND_PREFIX_LENGTH = COMMAND_PREFIX_Y then
      if sawY then (.errInvalidArgument, command)
      else match commandParserParseI32Mm w (token.drop COMMAND_PREFIX_LENGTH) with
        | none => (.errInvalidArgument, command)
        | some v => commandParserMoveFields w saved' sawX true sawF { command with yMilliMm := v }
    else if token.take COMMAND_PREFIX_LENGTH = COMMAND_PREFIX_F then
      if sawF then (.errInvalidArgument, command)
      else match commandParserParseU32MmPerS w (token.drop COMMAND_PREFIX_LENGTH) with
        | none => (.errInvalidArgument, command)
        | some v =>
          commandParserMoveFields w saved' sawX sawY true { command with feedrateMilliMmPerS := v }
    else (.errInvalidArgument, command)
termination_by saved.length
decreasing_by all_goals exact nextWord_length _hs

/-- mirrors firmware/App/command/command_parser.c:122-165 -/
def commandParserParseMove (w : LongWidth) (line : Text) (command : Command) :
    CommandParseResult × Command :=
  match strtok line COMMAND_PARSER_TOKEN_DELIMITERS with
  | none => (.errUnknownCommand, command)
  | some (token, saved) =>
    if token ≠ COMMAND_TEXT_MOVE then (.errUnknownCommand, command)
    else commandParserMoveFields w saved false false false { command with type := .move }

/-- What the five commands without arguments share: no further token.
mirrors firmware/App/command/command_parser.c:202-208 -/
def commandParserParseBare (saved : Text) (type : CommandType) (command : Command) :
    CommandParseResult × Command :=
  if strtok saved COMMAND_PARSER_TOKEN_DELIMITERS ≠ none then (.errInvalidArgument, command)
  else (.ok, { command with type := type })

/-- `line = none` is a null pointer; `command` is not.
mirrors firmware/App/command/command_parser.c:170-253 -/
def commandParserParse (w : LongWidth) (line : Option CString) (command : Command) :
    CommandParseResult × Command :=
  let command := commandParserResetCommand command
  match line with
  | none => (.errNull, command)
  | some line =>
    if commandParserIsEmptyLine line.bytes then (.errEmpty, command)
    else if line.bytes.length ≥ COMMAND_PARSER_LINE_BUFFER_SIZE then (.errInvalidArgument, command)
    else match strtok line.bytes COMMAND_PARSER_TOKEN_DELIMITERS with
      | none => (.errEmpty, command)
      | some (token, saved) =>
        if token = COMMAND_TEXT_PING then commandParserParseBare saved .ping command
        else if token = COMMAND_TEXT_STATUS then commandParserParseBare saved .status command
        else if token = COMMAND_TEXT_STOP then commandParserParseBare saved .stop command
        else if token = COMMAND_TEXT_ESTOP then commandParserParseBare saved .estop command
        else if token = COMMAND_TEXT_CLEAR_FAULT then
          commandParserParseBare saved .clearFault command
        else if token = COMMAND_TEXT_MOVE then
          -- the second copy of the line, scanned from its start
          let r := commandParserParseMove w line.bytes command
          if r.1 ≠ .ok then (r.1, commandParserResetCommand r.2) else r
        else (.errUnknownCommand, command)

/-- mirrors firmware/App/command/command_parser.c:282-299 -/
def commandParserResultToString : CommandParseResult → Text
  | .ok => COMMAND_PARSE_TEXT_OK
  | .errNull => COMMAND_PARSE_TEXT_ERR_NULL
  | .errEmpty => COMMAND_PARSE_TEXT_ERR_EMPTY
  | .errUnknownCommand => COMMAND_PARSE_TEXT_ERR_UNKNOWN_COMMAND
  | .errMissingArgument => COMMAND_PARSE_TEXT_ERR_MISSING_ARGUMENT
  | .errInvalidArgument => COMMAND_PARSE_TEXT_ERR_INVALID_ARGUMENT

end MotionFirmware.L1.Parser
