import MotionFirmware.Core.Mealy
import MotionFirmware.L4System.Device

/-!
# The controller as a sequential machine

What a command is answered with depends on the commands before it through one
bit: whether a fault is latched. `session` is the machine with that bit, and
the controller answers as it does (`response_session`, `obey_session`), at
whatever position, in whatever state the stage is.
-/
namespace MotionFirmware.L4

open MotionFirmware.Core MotionFirmware.L1.Motion MotionFirmware.L1.Fault MotionFirmware.L1.Telemetry
open MotionFirmware.L1.Parser MotionFirmware.L2.Port MotionFirmware.L3.Messages MotionFirmware.L3.Tasks

/-- The state is whether a fault is latched. -/
def session : Mealy Bool Command Text where
  next faulted c :=
    match c.type with
    | .move => faulted || !decide (InWorkspace c.xMilliMm c.yMilliMm)
    | .estop => true
    | .clearFault => false
    | .ping | .status | .stop | .none => faulted
  out faulted c :=
    match c.type with
    | .ping => APP_RESPONSE_PONG
    | .status => APP_RESPONSE_STATUS
    | .move =>
      if faulted then APP_ERROR_FAULT_ACTIVE
      else if InWorkspace c.xMilliMm c.yMilliMm then APP_RESPONSE_MOVE_QUEUED
      else APP_ERROR_LIMIT_EXCEEDED
    | .stop => APP_RESPONSE_STOPPED
    | .estop => APP_RESPONSE_ESTOP
    | .clearFault => APP_RESPONSE_FAULT_CLEARED
    | .none => APP_ERROR_UNKNOWN_COMMAND

theorem response_session (d : Device) (c : Command) : d.response c = session.out d.fault.faultActive c := rfl

theorem obey_session (d : Device) (c : Command) :
    (d.obey c).fault.faultActive = session.next d.fault.faultActive c := by
  cases htype : c.type with
  | move =>
    cases hf : d.fault.faultActive with
    | true => simp [Device.obey, session, htype, hf]
    | false =>
      by_cases hin : InWorkspace c.xMilliMm c.yMilliMm <;>
        simp [Device.obey, session, htype, hf, hin, Device.latch, faultManagerSetFault]
  | _ => simp [Device.obey, session, htype, Device.latch, faultManagerSetFault, faultManagerClear]

/-- The commands the lines stand for. -/
def commandsOf (w : LongWidth) (lines : List CString) : List Command :=
  lines.map fun line => (Device.parse w line).2

end MotionFirmware.L4
