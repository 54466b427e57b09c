import MotionFirmware.L1Modules.FaultManager
import MotionFirmware.L1Modules.MotionController
import MotionFirmware.L1Modules.Telemetry
import MotionFirmware.L3Tasks.AppMessages

/-!
# The application tasks (`tasks/app_tasks.c`)

One step of each task, over any backend. `Firmware` is the context
together with the file statics of the three modules it drives. The context
pointer is never null.

A step is given its uninitialised locals (`Locals`), so that nothing can
depend on what they hold. Besides the status the C function returns, the
result of a step names the command it dequeued and the response the
dispatcher gave.
-/
namespace MotionFirmware.L3.Tasks

open MotionFirmware.Core MotionFirmware.L1.Motion MotionFirmware.L1.Fault MotionFirmware.L1.Telemetry
open MotionFirmware.L1.Parser MotionFirmware.L2.Port MotionFirmware.L3.Messages
open RtosQueueApi RtosMutexApi RtosEventGroupApi

/-- mirrors firmware/App/tasks/app_tasks.c:12-21 -/
def APP_RESPONSE_PONG : Text := ascii "OK PONG"
def APP_RESPONSE_STATUS : Text := ascii "OK STATUS"
def APP_RESPONSE_MOVE_QUEUED : Text := ascii "OK MOVE QUEUED"
def APP_RESPONSE_STOPPED : Text := ascii "OK STOPPED"
def APP_RESPONSE_ESTOP : Text := ascii "OK ESTOP"
def APP_RESPONSE_FAULT_CLEARED : Text := ascii "OK FAULT CLEARED"
def APP_ERROR_FAULT_ACTIVE : Text := ascii "ERR FAULT_ACTIVE"
def APP_ERROR_LIMIT_EXCEEDED : Text := ascii "ERR LIMIT_EXCEEDED"
def APP_ERROR_MOVE_REJECTED : Text := ascii "ERR MOVE_REJECTED"
def APP_ERROR_UNKNOWN_COMMAND : Text := ascii "ERR UNKNOWN_COMMAND"

/-- mirrors firmware/App/tasks/app_tasks.h:11-18 -/
inductive AppTaskStatus where
  | ok | noMessage | errorNull | errorParse | errorQueueFull | errorMutex
  deriving DecidableEq, Repr

/-- mirrors firmware/App/tasks/app_tasks.h:20-28 -/
structure AppContext (B : RtosBackend) where
  commandQueue : B.Queue (APP_COMMAND_QUEUE_CAPACITY * APP_COMMAND_MESSAGE_SIZE)
  telemetryQueue : B.Queue (APP_TELEMETRY_QUEUE_CAPACITY * APP_TELEMETRY_MESSAGE_LENGTH)
  stateMutex : B.Mutex
  eventGroup : B.EventGroup
  uptimeMs : UInt32

structure Firmware (B : RtosBackend) where
  context : AppContext B
  motion : MotionController
  fault : FaultManager
  telemetry : TelemetryState

/-- The message buffers on the stack of a step, before anything is written to
them. -/
structure Locals where
  command : Command
  telemetry : TelemetryMessage

structure StepResult where
  status : AppTaskStatus
  dequeued : Option Command
  response : Option Text
  deriving DecidableEq, Repr

variable {B : RtosBackend} [RtosApi B]

/-- mirrors firmware/App/tasks/app_tasks.c:28-48 -/
def appTasksEnqueueTelemetryLine (s : Firmware B) (line : Text) (message : TelemetryMessage) :
    Bool × Firmware B :=
  if h : line.length < APP_TELEMETRY_MESSAGE_LENGTH then
    let r := rtosQueueSend s.context.telemetryQueue (message.store line h).text
    (r.1, { s with context.telemetryQueue := r.2 })
  else (false, s)

/-- mirrors firmware/App/tasks/app_tasks.c:50-60 -/
def appTasksDrainTelemetryQueue (s : Firmware B) (message : Text) : Firmware B :=
  let r := rtosQueueReceive s.context.telemetryQueue message
  if _h : r.1 = true then
    appTasksDrainTelemetryQueue
      { s with
        context.telemetryQueue := r.2.1
        telemetry := telemetrySendLine s.telemetry (cstr r.2.2) } r.2.2
  else { s with context.telemetryQueue := r.2.1 }
termination_by rtosQueueCount s.context.telemetryQueue
decreasing_by exact receive_count _ _ _h

/-- mirrors firmware/App/tasks/app_tasks.c:62-83 -/
def appTasksRefreshMotionEvents (s : Firmware B) : Firmware B :=
  let e := s.context.eventGroup
  let e := if (motionControllerGetStatus s.motion).state = .moving
    then (rtosEventGroupSetBits e APP_EVENT_MOVING).2 else (rtosEventGroupClearBits e APP_EVENT_MOVING).2
  let e := if faultManagerIsFaultActive s.fault
    then (rtosEventGroupSetBits e APP_EVENT_FAULTED).2 else (rtosEventGroupClearBits e APP_EVENT_FAULTED).2
  { s with context.eventGroup := e }

/-- mirrors firmware/App/tasks/app_tasks.c:85-88 -/
def appTasksIsFaultBlockingMove (s : Firmware B) : Bool := faultManagerIsFaultActive s.fault

/-- mirrors firmware/App/tasks/app_tasks.c:90-99 -/
def appTasksHandleLimitFault (s : Firmware B) : Text × Firmware B :=
  let s := { s with
    fault := faultManagerSetFault s.fault .limitExceeded
    motion := motionControllerSetFault s.motion }
  (APP_ERROR_LIMIT_EXCEEDED, appTasksRefreshMotionEvents s)

/-- mirrors firmware/App/tasks/app_tasks.c:101-115 -/
def appTasksHandleEstop (s : Firmware B) : Text × Firmware B :=
  let e := (rtosEventGroupClearBits s.context.eventGroup APP_EVENT_MOVING).2
  (APP_RESPONSE_ESTOP, { s with
    fault := faultManagerTriggerEstop s.fault
    motion := motionControllerSetFault s.motion
    context.eventGroup := (rtosEventGroupSetBits e APP_EVENT_FAULTED).2 })

/-- mirrors firmware/App/tasks/app_tasks.c:117-133 -/
def appTasksHandleClearFault (s : Firmware B) : Text × Firmware B :=
  (APP_RESPONSE_FAULT_CLEARED, { s with
    fault := faultManagerClear
    motion := motionControllerClearFault s.motion
    context.eventGroup := (rtosEventGroupClearBits s.context.eventGroup
      (APP_EVENT_FAULTED ||| APP_EVENT_MOVING ||| APP_EVENT_STOP_REQUESTED)).2 })

/-- mirrors firmware/App/tasks/app_tasks.c:135-186 -/
def appTasksHandleCommand (s : Firmware B) (command : Command) : Text × Firmware B :=
  match command.type with
  | .ping => (APP_RESPONSE_PONG, s)
  | .status => (APP_RESPONSE_STATUS, s)
  | .move =>
    if appTasksIsFaultBlockingMove s then (APP_ERROR_FAULT_ACTIVE, s)
    else if !motionControllerIsTargetInBounds command.xMilliMm command.yMilliMm then
      appTasksHandleLimitFault s
    else
      let s := { s with
        context.eventGroup := (rtosEventGroupClearBits s.context.eventGroup APP_EVENT_STOP_REQUESTED).2 }
      let r := motionControllerStartMove s.motion command.xMilliMm command.yMilliMm
        command.feedrateMilliMmPerS
      let s := { s with motion := r.2 }
      if r.1 then (APP_RESPONSE_MOVE_QUEUED, appTasksRefreshMotionEvents s)
      else (APP_ERROR_MOVE_REJECTED, s)
  | .stop =>
    let s := { s with
      motion := motionControllerStop s.motion
      context.eventGroup := (rtosEventGroupSetBits s.context.eventGroup APP_EVENT_STOP_REQUESTED).2 }
    (APP_RESPONSE_STOPPED, appTasksRefreshMotionEvents s)
  | .estop => appTasksHandleEstop s
  | .clearFault => appTasksHandleClearFault s
  | .none => (APP_ERROR_UNKNOWN_COMMAND, s)

/-- The statics other than the writer, and the context, hold anything before.
mirrors firmware/App/tasks/app_tasks.c:188-227 -/
def appTasksInit (s : Firmware B) (telemetryWriter : Bool) : Bool × Firmware B :=
  let c := rtosQueueInit s.context.commandQueue APP_COMMAND_MESSAGE_SIZE APP_COMMAND_QUEUE_CAPACITY
  let s := { s with context.commandQueue := c.2 }
  if !c.1 then (false, s)
  else
    let t := rtosQueueInit s.context.telemetryQueue APP_TELEMETRY_MESSAGE_LENGTH
      APP_TELEMETRY_QUEUE_CAPACITY
    let s := { s with context.telemetryQueue := t.2 }
    if !t.1 then (false, s)
    else
      let m := rtosMutexInit s.context.stateMutex
      let s := { s with context.stateMutex := m.2 }
      if !m.1 then (false, s)
      else
        let e := rtosEventGroupInit s.context.eventGroup
        let s := { s with context.eventGroup := e.2 }
        if !e.1 then (false, s)
        else (true, { s with
          context.uptimeMs := 0
          telemetry := telemetrySetWriter (telemetryInit s.telemetry) telemetryWriter
          motion := motionControllerInit
          fault := faultManagerInit })

/-- mirrors firmware/App/tasks/app_tasks.c:229-256 -/
def appCommandTaskStep (w : LongWidth) (s : Firmware B) (line : Option CString) (locals : Locals) :
    StepResult × Firmware B :=
  if line.isNone then (⟨.errorNull, none, none⟩, s)
  else
    let p := commandParserParse w line locals.command
    if p.1 ≠ .ok then
      let r := appTasksEnqueueTelemetryLine s (commandParserResultToString p.1) locals.telemetry
      (⟨if r.1 then .errorParse else .errorQueueFull, none, none⟩, r.2)
    else
      let r := rtosQueueSend s.context.commandQueue (encodeCommand p.2)
      (⟨if r.1 then .ok else .errorQueueFull, none, none⟩, { s with context.commandQueue := r.2 })

/-- The half of the command step behind the parser.
mirrors firmware/App/tasks/app_tasks.c:240-255 -/
def appCommandTaskQueue (s : Firmware B) (result : CommandParseResult) (command : Command)
    (message : TelemetryMessage) : StepResult × Firmware B :=
  if result ≠ .ok then
    let r := appTasksEnqueueTelemetryLine s (commandParserResultToString result) message
    (⟨if r.1 then .errorParse else .errorQueueFull, none, none⟩, r.2)
  else
    let r := rtosQueueSend s.context.commandQueue (encodeCommand command)
    (⟨if r.1 then .ok else .errorQueueFull, none, none⟩, { s with context.commandQueue := r.2 })

theorem commandStep_eq (w : LongWidth) (s : Firmware B) (line : CString) (locals : Locals) :
    appCommandTaskStep w s (some line) locals = appCommandTaskQueue s
      (commandParserParse w (some line) locals.command).1
      (commandParserParse w (some line) locals.command).2 locals.telemetry := rfl

/-- The part of the motion step between the lock and the unlock: the command
it takes off the queue, the response to it, and the tick.
mirrors firmware/App/tasks/app_tasks.c:272-280 -/
def appMotionTaskBody (s : Firmware B) (deltaMs : UInt32) (locals : Locals) :
    Option (Command × Text) × Firmware B :=
  let r := rtosQueueReceive s.context.commandQueue (encodeCommand locals.command)
  let s := { s with context.commandQueue := r.2.1 }
  let h := if r.1 then
      let h := appTasksHandleCommand s (decodeCommand r.2.2)
      (some (decodeCommand r.2.2, h.1), h.2)
    else (none, s)
  let s := h.2
  let s := { s with
    motion := motionControllerUpdate s.motion deltaMs
    context.uptimeMs := s.context.uptimeMs + deltaMs }
  (h.1, appTasksRefreshMotionEvents s)

/-- The first half of that: the command off the queue, and the dispatcher.
mirrors firmware/App/tasks/app_tasks.c:272-276 -/
def appMotionTaskDispatch (s : Firmware B) (locals : Locals) : Option (Command × Text) × Firmware B :=
  let r := rtosQueueReceive s.context.commandQueue (encodeCommand locals.command)
  let s := { s with context.commandQueue := r.2.1 }
  if r.1 then
    let h := appTasksHandleCommand s (decodeCommand r.2.2)
    (some (decodeCommand r.2.2, h.1), h.2)
  else (none, s)

/-- The second half: time passes, and the bits are refreshed.
mirrors firmware/App/tasks/app_tasks.c:278-280 -/
def appMotionTaskTick (s : Firmware B) (deltaMs : UInt32) : Firmware B :=
  appTasksRefreshMotionEvents { s with
    motion := motionControllerUpdate s.motion deltaMs
    context.uptimeMs := s.context.uptimeMs + deltaMs }

theorem motionBody_eq (s : Firmware B) (deltaMs : UInt32) (locals : Locals) :
    appMotionTaskBody s deltaMs locals = ((appMotionTaskDispatch s locals).1,
      appMotionTaskTick (appMotionTaskDispatch s locals).2 deltaMs) := rfl

/-- mirrors firmware/App/tasks/app_tasks.c:258-295 -/
def appMotionTaskStep (s : Firmware B) (deltaMs : UInt32) (locals : Locals) :
    StepResult × Firmware B :=
  let l := rtosMutexLock s.context.stateMutex
  if !l.1 then (⟨.errorMutex, none, none⟩, { s with context.stateMutex := l.2 })
  else
    let b := appMotionTaskBody { s with context.stateMutex := l.2 } deltaMs locals
    let s := b.2
    let dequeued := b.1.map (·.1)
    let response := b.1.map (·.2)
    let u := rtosMutexUnlock s.context.stateMutex
    let s := { s with context.stateMutex := u.2 }
    if !u.1 then (⟨.errorMutex, dequeued, response⟩, s)
    else match response with
      | none => (⟨.noMessage, dequeued, response⟩, s)
      | some text =>
        let r := appTasksEnqueueTelemetryLine s text locals.telemetry
        (⟨if r.1 then .ok else .errorQueueFull, dequeued, response⟩, r.2)

/-- The snapshot taken under the lock.
mirrors firmware/App/tasks/app_tasks.c:310-316 -/
def appTelemetrySnapshot (s : Firmware B) : TelemetryStatus :=
  let motionStatus := motionControllerGetStatus s.motion
  { uptimeMs := s.context.uptimeMs
    state := some (motionControllerStateToString motionStatus.state)
    xMilliMm := motionStatus.currentXMilliMm
    yMilliMm := motionStatus.currentYMilliMm
    faultActive := faultManagerIsFaultActive s.fault }

/-- mirrors firmware/App/tasks/app_tasks.c:297-325 -/
def appTelemetryTaskStep (s : Firmware B) (locals : Locals) : StepResult × Firmware B :=
  let l := rtosMutexLock s.context.stateMutex
  if !l.1 then (⟨.errorMutex, none, none⟩, { s with context.stateMutex := l.2 })
  else
    let s := { s with context.stateMutex := l.2 }
    let status := appTelemetrySnapshot s
    let u := rtosMutexUnlock s.context.stateMutex
    let s := { s with context.stateMutex := u.2 }
    if !u.1 then (⟨.errorMutex, none, none⟩, s)
    else
      let s := appTasksDrainTelemetryQueue s locals.telemetry.text
      (⟨.ok, none, none⟩, { s with telemetry := telemetrySendStatus s.telemetry status })

/-- mirrors firmware/App/tasks/app_tasks.c:327-334 -/
def appTasksCommandQueueCount (s : Firmware B) : Nat := rtosQueueCount s.context.commandQueue

/-- mirrors firmware/App/tasks/app_tasks.c:336-343 -/
def appTasksTelemetryQueueCount (s : Firmware B) : Nat := rtosQueueCount s.context.telemetryQueue

/-- mirrors firmware/App/tasks/app_tasks.c:345-352 -/
def appTasksGetEvents (s : Firmware B) : UInt32 := rtosEventGroupGetBits s.context.eventGroup

/-- The command the next receive of a motion step returns, if any. -/
def nextCommand (s : Firmware B) : Option Command :=
  let r := rtosQueueReceive s.context.commandQueue []
  if r.1 then some (decodeCommand r.2.2) else none

/-! ## Steps as labelled actions -/

inductive Act where
  | command (line : Option CString) (locals : Locals)
  | motion (deltaMs : UInt32) (locals : Locals)
  | telemetry (locals : Locals)

/-- A step taken: what was called, and its result. -/
structure Event where
  act : Act
  result : StepResult

def appTaskStep (w : LongWidth) (s : Firmware B) : Act → Event × Firmware B
  | .command line locals =>
    let r := appCommandTaskStep w s line locals
    (⟨.command line locals, r.1⟩, r.2)
  | .motion deltaMs locals =>
    let r := appMotionTaskStep s deltaMs locals
    (⟨.motion deltaMs locals, r.1⟩, r.2)
  | .telemetry locals =>
    let r := appTelemetryTaskStep s locals
    (⟨.telemetry locals, r.1⟩, r.2)

end MotionFirmware.L3.Tasks
