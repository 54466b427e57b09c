import MotionFirmware.Core.CInt
import MotionFirmware.Core.Decimal

/-!
# Telemetry (`telemetry/telemetry.c`)

The output path: an optional writer and everything handed to it so far. A
line goes out as two calls of the writer, the text and a newline.
-/
namespace MotionFirmware.L1.Telemetry

open MotionFirmware.Core

/-- mirrors firmware/App/telemetry/telemetry.c:6-7 -/
def TELEMETRY_LINE_BUFFER_SIZE : Nat := 128
def TELEMETRY_POSITION_BUFFER_SIZE : Nat := 24

/-- `state = none` is a null pointer.
mirrors firmware/App/telemetry/telemetry.h:15-21 -/
structure TelemetryStatus where
  uptimeMs : UInt32
  state : Option Text
  xMilliMm : Int32
  yMilliMm : Int32
  faultActive : Bool
  deriving DecidableEq, Repr

/-- `telemetryWriter`: the static pointer is not null. `written`: the texts
the writer was called with, oldest first.
mirrors firmware/App/telemetry/telemetry.c:12 -/
structure TelemetryState where
  telemetryWriter : Bool
  written : List Text
  deriving DecidableEq, Repr

/-- mirrors firmware/App/telemetry/telemetry.c:17-24 -/
def telemetryAbsI32 (value : Int32) : UInt32 := absI32 value

/-- `"%s%lu.%03lu"`, before truncation.
mirrors firmware/App/telemetry/telemetry.c:31-41 -/
def positionText (milliMm : Int32) : Text :=
  let magnitude := telemetryAbsI32 milliMm
  let sign := if milliMm < 0 then ascii "-" else []
  sign ++ decimal (magnitude / 1000).toNat ++ ascii "." ++ decimalPadded 3 (magnitude % 1000).toNat

/-- mirrors firmware/App/telemetry/telemetry.c:29-42 -/
def telemetryFormatMilliMm (milliMm : Int32) (bufferSize : Nat) : Text :=
  snprintf bufferSize (positionText milliMm)

/-- mirrors firmware/App/telemetry/telemetry.c:47-50 -/
def telemetryInit (t : TelemetryState) : TelemetryState := { t with telemetryWriter := false }

/-- mirrors firmware/App/telemetry/telemetry.c:55-58 -/
def telemetrySetWriter (t : TelemetryState) (writer : Bool) : TelemetryState :=
  { t with telemetryWriter := writer }

/-- mirrors firmware/App/telemetry/telemetry.c:63-71 -/
def telemetrySendLine (t : TelemetryState) (line : Text) : TelemetryState :=
  if t.telemetryWriter then { t with written := t.written ++ [line, ascii "\n"] } else t

/-- The boot message.
mirrors firmware/App/telemetry/telemetry.c:76-79 -/
def TELEMETRY_STARTUP_LINE : Text := ascii "OK BOOT RTOS_MOTION_FW_SIM"

/-- mirrors firmware/App/telemetry/telemetry.c:76-79 -/
def telemetrySendStartup (t : TelemetryState) : TelemetryState :=
  telemetrySendLine t TELEMETRY_STARTUP_LINE

/-- `"T ms=%lu state=%s x=%s y=%s fault=%u"`, before truncation.
mirrors firmware/App/telemetry/telemetry.c:94-106 -/
def statusText (status : TelemetryStatus) : Text :=
  let xText := telemetryFormatMilliMm status.xMilliMm TELEMETRY_POSITION_BUFFER_SIZE
  let yText := telemetryFormatMilliMm status.yMilliMm TELEMETRY_POSITION_BUFFER_SIZE
  ascii "T ms=" ++ decimal status.uptimeMs.toNat ++
    ascii " state=" ++ status.state.getD (ascii "UNKNOWN") ++
    ascii " x=" ++ xText ++ ascii " y=" ++ yText ++
    ascii " fault=" ++ decimal (if status.faultActive then 1 else 0)

/-- mirrors firmware/App/telemetry/telemetry.c:84-109 -/
def telemetrySendStatus (t : TelemetryState) (status : TelemetryStatus) : TelemetryState :=
  telemetrySendLine t (snprintf TELEMETRY_LINE_BUFFER_SIZE (statusText status))

end MotionFirmware.L1.Telemetry
