import MotionFirmware.Core.CInt
import MotionFirmware.L1Modules.CommandParser
import MotionFirmware.L2Port.RtosPort

/-!
# Messages and event bits (`tasks/app_messages.h`)

What travels through the two queues, as the bytes the queues copy. A command
message is the record `command_t` (four 32-bit fields, little endian, no
padding); a telemetry message is a text buffer of 128 bytes of which only the
part up to the NUL is written.

`decodeCommand_encodeCommand`: a command survives its trip. `eventBits` is a
word of three flags, which the calls on an event group set and clear one by
one (`eventBits_set`, `eventBits_clear`).
-/
namespace MotionFirmware.L3.Messages

open MotionFirmware.Core MotionFirmware.L1.Parser MotionFirmware.L2.Port
open RtosEventGroupApi LawfulRtosEventGroup

/-- mirrors firmware/App/tasks/app_messages.h:10-12 -/
def APP_COMMAND_QUEUE_CAPACITY : Nat := 8
def APP_TELEMETRY_QUEUE_CAPACITY : Nat := 16
def APP_TELEMETRY_MESSAGE_LENGTH : Nat := 128

/-- `sizeof (app_command_message_t)`. -/
def APP_COMMAND_MESSAGE_SIZE : Nat := 16

/-- mirrors firmware/App/tasks/app_messages.h:14-16 -/
def APP_EVENT_MOVING : UInt32 := (1 : UInt32) <<< 0
def APP_EVENT_FAULTED : UInt32 := (1 : UInt32) <<< 1
def APP_EVENT_STOP_REQUESTED : UInt32 := (1 : UInt32) <<< 2

/-! ## Command messages -/

/-- The values of `command_type_t`. -/
def commandTypeValue : CommandType → UInt32
  | .none => 0
  | .ping => 1
  | .status => 2
  | .move => 3
  | .stop => 4
  | .estop => 5
  | .clearFault => 6

/-- The enumerator of a value; the values that name none are dispatched as
`COMMAND_TYPE_NONE` is, by the default case. -/
def commandTypeOfValue (v : UInt32) : CommandType :=
  if v = 1 then .ping
  else if v = 2 then .status
  else if v = 3 then .move
  else if v = 4 then .stop
  else if v = 5 then .estop
  else if v = 6 then .clearFault
  else .none

theorem commandTypeOfValue_value (t : CommandType) : commandTypeOfValue (commandTypeValue t) = t := by
  cases t <;> decide

/-- mirrors firmware/App/tasks/app_messages.h:18-20 -/
def encodeCommand (c : Command) : Text :=
  u32Bytes (commandTypeValue c.type) ++ (u32Bytes c.xMilliMm.toUInt32 ++
    (u32Bytes c.yMilliMm.toUInt32 ++ (u32Bytes c.feedrateMilliMmPerS ++ [])))

def decodeCommand (b : Text) : Command where
  type := commandTypeOfValue (bytesU32 b)
  xMilliMm := (bytesU32 (b.drop 4)).toInt32
  yMilliMm := (bytesU32 (b.drop 8)).toInt32
  feedrateMilliMmPerS := bytesU32 (b.drop 12)

@[simp] theorem encodeCommand_length (c : Command) :
    (encodeCommand c).length = APP_COMMAND_MESSAGE_SIZE := rfl

@[simp] theorem decodeCommand_encodeCommand (c : Command) : decodeCommand (encodeCommand c) = c := by
  have hx : (encodeCommand c).drop 4 = u32Bytes c.xMilliMm.toUInt32 ++
      (u32Bytes c.yMilliMm.toUInt32 ++ (u32Bytes c.feedrateMilliMmPerS ++ [])) := rfl
  have hy : (encodeCommand c).drop 8 = u32Bytes c.yMilliMm.toUInt32 ++
      (u32Bytes c.feedrateMilliMmPerS ++ []) := rfl
  have hf : (encodeCommand c).drop 12 = u32Bytes c.feedrateMilliMmPerS ++ [] := rfl
  unfold decodeCommand
  rw [hx, hy, hf, encodeCommand]
  simp only [bytesU32_u32Bytes, commandTypeOfValue_value, Int32.toInt32_toUInt32]

/-! ## Telemetry messages -/

/-- mirrors firmware/App/tasks/app_messages.h:25-27 -/
structure TelemetryMessage where
  text : Text
  size : text.length = APP_TELEMETRY_MESSAGE_LENGTH

/-- `memcpy (message.text, line, strlen (line) + 1)`: the line, its NUL, and
what the buffer held behind them. -/
def TelemetryMessage.store (message : TelemetryMessage) (line : Text)
    (h : line.length < APP_TELEMETRY_MESSAGE_LENGTH) : TelemetryMessage where
  text := line ++ 0 :: message.text.drop (line.length + 1)
  size := by
    simp only [List.length_append, List.length_cons, List.length_drop, message.size]
    omega

/-- The buffer is read as the line that was stored. -/
theorem TelemetryMessage.cstr_store (message : TelemetryMessage) {line : Text}
    (h : line.length < APP_TELEMETRY_MESSAGE_LENGTH) (hnul : 0 ∉ line) :
    cstr (message.store line h).text = line := cstr_append_nul hnul

theorem TelemetryMessage.nul_mem_store (message : TelemetryMessage) {line : Text}
    (h : line.length < APP_TELEMETRY_MESSAGE_LENGTH) : 0 ∈ (message.store line h).text := by
  simp [TelemetryMessage.store]

/-! ## Event bits -/

/-- The given flags set and no other bit. -/
def eventBits (moving faulted stop : Bool) : UInt32 :=
  (if moving then 1 else 0) ||| (if faulted then 2 else 0) ||| (if stop then 4 else 0)

theorem eventBits_none : eventBits false false false = 0 := by decide

theorem event_moving : APP_EVENT_MOVING = eventBits true false false := by decide
theorem event_faulted : APP_EVENT_FAULTED = eventBits false true false := by decide
theorem event_stop : APP_EVENT_STOP_REQUESTED = eventBits false false true := by decide
theorem event_all : APP_EVENT_FAULTED ||| APP_EVENT_MOVING ||| APP_EVENT_STOP_REQUESTED =
    eventBits true true true := by decide

/-- The flags are among the bits of the callers. -/
theorem eventBits_lt (m f s : Bool) : (eventBits m f s).toNat < 2 ^ 24 := by
  cases m <;> cases f <;> cases s <;> decide

/-- No bit outside the three flags. -/
theorem eventBits_other (m f s : Bool) : eventBits m f s &&&
    ~~~(APP_EVENT_MOVING ||| APP_EVENT_FAULTED ||| APP_EVENT_STOP_REQUESTED) = 0 := by
  cases m <;> cases f <;> cases s <;> decide

section Flags

variable {E : Type} [RtosEventGroupApi E] {e : E} {m f s : Bool}

/-- Whether a bit of the group is set. -/
def HasBit (e : E) (bit : UInt32) : Prop := rtosEventGroupGetBits e &&& bit ≠ 0

instance (e : E) (bit : UInt32) : Decidable (HasBit e bit) :=
  inferInstanceAs (Decidable (_ ≠ _))

variable [LawfulRtosEventGroup E]

theorem eventBits_set (h : Shows e (eventBits m f s)) (m' f' s' : Bool) :
    Shows (rtosEventGroupSetBits e (eventBits m' f' s')).2
      (eventBits (m || m') (f || f') (s || s')) := by
  have hset : eventBits m f s ||| eventBits m' f' s' = eventBits (m || m') (f || f') (s || s') := by
    cases m <;> cases f <;> cases s <;> cases m' <;> cases f' <;> cases s' <;> decide
  rw [← hset]
  exact set_bits _ h (eventBits_lt m' f' s')

theorem eventBits_clear (h : Shows e (eventBits m f s)) (m' f' s' : Bool) :
    Shows (rtosEventGroupClearBits e (eventBits m' f' s')).2
      (eventBits (m && !m') (f && !f') (s && !s')) := by
  have hclear : eventBits m f s &&& ~~~eventBits m' f' s' =
      eventBits (m && !m') (f && !f') (s && !s') := by
    cases m <;> cases f <;> cases s <;> cases m' <;> cases f' <;> cases s' <;> decide
  rw [← hclear]
  exact clear_bits _ h (eventBits_lt m' f' s')

theorem hasBit_moving (h : Shows e (eventBits m f s)) : HasBit e APP_EVENT_MOVING ↔ m = true := by
  rw [HasBit, get_bits h]
  cases m <;> cases f <;> cases s <;> decide

theorem hasBit_faulted (h : Shows e (eventBits m f s)) : HasBit e APP_EVENT_FAULTED ↔ f = true := by
  rw [HasBit, get_bits h]
  cases m <;> cases f <;> cases s <;> decide

theorem hasBit_stop (h : Shows e (eventBits m f s)) :
    HasBit e APP_EVENT_STOP_REQUESTED ↔ s = true := by
  rw [HasBit, get_bits h]
  cases m <;> cases f <;> cases s <;> decide

end Flags

end MotionFirmware.L3.Messages
