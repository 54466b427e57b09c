import MotionFirmware.L2Port.FreertosPort
import MotionFirmware.L4System.Coherence

/-!
# The scheduler's tasks (`tasks/app_scheduler.c`)

On FreeRTOS the command task (priority 3) and the motion task (priority 4)
preempt the telemetry task (priority 2). So a state is the firmware together
with the point `app_telemetry_task_step` is at, and between any two of its
actions whole activations of the other two may run.

`rtosSystem` takes the size of a telemetry action as a parameter: single calls
(`telemetryAction`, which leaves room for a preemption between the lock and
the unlock), or the blocks lock-snapshot-unlock, receive-write, status write
(`telemetryBlock`). Left alone, a block is a few actions (`alone_block`), and
the actions are `app_telemetry_task_step` (`alone_step`).

`PreemptedDevice` is the same over the abstract controller: each run on a
lawful backend is one of its runs. A motion activation that finds the mutex
held does nothing there either.
-/
namespace MotionFirmware.L5

open MotionFirmware.Core MotionFirmware.L1.Motion MotionFirmware.L1.Fault MotionFirmware.L1.Telemetry
open MotionFirmware.L1.Parser MotionFirmware.L2.Port MotionFirmware.L3.Messages MotionFirmware.L3.Tasks
open MotionFirmware.L4
open MotionFirmware.L2.FreertosPort (targetBackend)
open RtosQueueApi RtosMutexApi

/-- mirrors firmware/App/tasks/app_scheduler.c:14 -/
def APP_SCHEDULER_MOTION_PERIOD_MS : UInt32 := 100

/-- Where the telemetry task is. `idle`: outside `app_telemetry_task_step`;
`locked`: it holds the mutex; `snapped`: it also has its snapshot; `draining`:
in front of a receive; `received`: in front of the write of a response;
`drained`: behind the loop, in front of the status write.
mirrors firmware/App/tasks/app_tasks.c:50-60, 297-325 -/
inductive TelemetryPoint where
  | idle
  | locked
  | snapped (status : TelemetryStatus)
  | draining (status : TelemetryStatus) (message : Text)
  | received (status : TelemetryStatus) (message : Text)
  | drained (status : TelemetryStatus)
  deriving DecidableEq, Repr

namespace TelemetryPoint

/-- The telemetry task is between its lock and its unlock. -/
def holdsMutex : TelemetryPoint → Bool
  | .locked | .snapped _ => true
  | _ => false

/-- The snapshot the task is about to print. -/
def status? : TelemetryPoint → Option TelemetryStatus
  | .idle | .locked => none
  | .snapped status | .draining status _ | .received status _ | .drained status => some status

/-- The response taken off the queue and not written yet. -/
def inFlight : TelemetryPoint → List Text
  | .received _ message => [message]
  | _ => []

end TelemetryPoint

structure Rtos (B : RtosBackend) where
  firmware : Firmware B
  telemetryTask : TelemetryPoint

variable {B : RtosBackend} [RtosApi B]

/-- One action of `app_telemetry_task_step`.
mirrors firmware/App/tasks/app_tasks.c:50-60, 297-325 -/
def telemetryAction (s : Rtos B) (locals : Locals) : Rtos B :=
  match s.telemetryTask with
  | .idle =>
    let l := rtosMutexLock s.firmware.context.stateMutex
    let firmware := { s.firmware with context.stateMutex := l.2 }
    if !l.1 then ⟨firmware, .idle⟩ else ⟨firmware, .locked⟩
  | .locked => ⟨s.firmware, .snapped (appTelemetrySnapshot s.firmware)⟩
  | .snapped status =>
    let u := rtosMutexUnlock s.firmware.context.stateMutex
    let firmware := { s.firmware with context.stateMutex := u.2 }
    if !u.1 then ⟨firmware, .idle⟩
    else ⟨firmware, .draining status locals.telemetry.text⟩
  | .draining status message =>
    let r := rtosQueueReceive s.firmware.context.telemetryQueue message
    let firmware := { s.firmware with context.telemetryQueue := r.2.1 }
    if r.1 then ⟨firmware, .received status r.2.2⟩ else ⟨firmware, .drained status⟩
  | .received status message =>
    ⟨{ s.firmware with telemetry := telemetrySendLine s.firmware.telemetry (cstr message) },
      .draining status message⟩
  | .drained status =>
    ⟨{ s.firmware with telemetry := telemetrySendStatus s.firmware.telemetry status }, .idle⟩

/-- The actions as three blocks: lock, snapshot and unlock; a receive with its
write; the status write. -/
def telemetryBlock (s : Rtos B) (locals : Locals) : Rtos B :=
  let s' := telemetryAction s locals
  match s'.telemetryTask with
  | .locked => telemetryAction (telemetryAction s' locals) locals
  | .received _ _ => telemetryAction s' locals
  | _ => s'

/-! ## Interleavings -/

/-- Who runs next: an activation of the command or of the motion task, or an
action of the telemetry task. -/
inductive Choice where
  | command (line : Option CString) (locals : Locals)
  | motion (locals : Locals)
  | telemetry (locals : Locals)

inductive Label where
  | activation (e : Event)
  | telemetry (locals : Locals)

namespace Label

def event? : Label → Option Event
  | .activation e => some e
  | .telemetry _ => none

/-- An activation of the motion task. -/
def isMotion : Label → Bool
  | .activation ⟨.motion _ _, _⟩ => true
  | _ => false

def choice : Label → Choice
  | .activation ⟨.command line locals, _⟩ => .command line locals
  | .activation ⟨.motion _ locals, _⟩ => .motion locals
  | .activation ⟨.telemetry locals, _⟩ => .telemetry locals
  | .telemetry locals => .telemetry locals

end Label

/-- The status of an activation is discarded, as the task functions do.
mirrors firmware/App/tasks/app_scheduler.c:66-134 -/
def rtosStep (w : LongWidth) (grain : Rtos B → Locals → Rtos B) (s : Rtos B) : Choice → Label × Rtos B
  | .command line locals =>
    let r := appTaskStep w s.firmware (.command line locals)
    (.activation r.1, { s with firmware := r.2 })
  | .motion locals =>
    let r := appTaskStep w s.firmware (.motion APP_SCHEDULER_MOTION_PERIOD_MS locals)
    (.activation r.1, { s with firmware := r.2 })
  | .telemetry locals => (.telemetry locals, grain s locals)

theorem rtosStep_choice (w : LongWidth) (grain : Rtos B → Locals → Rtos B) (s : Rtos B) (c : Choice) :
    (rtosStep w grain s c).1.choice = c := by cases c <;> rfl

/-- All interleavings from `app_tasks_init`. -/
def rtosSystem (B : RtosBackend) [RtosApi B] (w : LongWidth) (writer : Bool)
    (grain : Rtos B → Locals → Rtos B) : LTS (Rtos B) Label :=
  LTS.ofStep (fun s => (firmwareSystem B w writer).init s.firmware ∧ s.telemetryTask = .idle)
    Label.choice (rtosStep w grain)

/-- The target's context and statics as static storage has them. -/
def zeroTarget : Firmware targetBackend where
  context := ⟨⟨none, 0, 0⟩, ⟨none, 0, 0⟩, ⟨none⟩, ⟨none⟩, 0⟩
  motion := motionControllerInit
  fault := faultManagerInit
  telemetry := ⟨false, []⟩

/-- The target after initialisation with a writer. -/
def targetStart : Rtos targetBackend := ⟨(appTasksInit zeroTarget true).2, .idle⟩

theorem targetStart_init (w : LongWidth) (grain : Rtos targetBackend → Locals → Rtos targetBackend) :
    (rtosSystem targetBackend w true grain).init targetStart := ⟨⟨zeroTarget, rfl, rfl⟩, rfl⟩

def telemetryChoice : Choice := .telemetry zeroLocals
def motionChoice : Choice := .motion zeroLocals

section Target

variable (grain : Rtos targetBackend → Locals → Rtos targetBackend)

/-- What a list of choices does. -/
def targetRun (s : Rtos targetBackend) (choices : List Choice) : List Label × Rtos targetBackend :=
  LTS.exec (rtosStep .lp64 grain) s choices

theorem targetRun_run (s : Rtos targetBackend) (choices : List Choice) :
    (rtosSystem targetBackend .lp64 true grain).Run s (targetRun grain s choices).1
      (targetRun grain s choices).2 :=
  LTS.run_exec (rtosStep_choice .lp64 grain) choices s

theorem targetRun_restrict (C : Rtos targetBackend → Label → Bool) (s : Rtos targetBackend)
    (choices : List Choice) (h : LTS.execMeets C (rtosStep .lp64 grain) s choices = true) :
    ((rtosSystem targetBackend .lp64 true grain).restrict fun s l => C s l = true).Run s
      (targetRun grain s choices).1 (targetRun grain s choices).2 :=
  LTS.run_exec_restrict (rtosStep_choice .lp64 grain) choices s h

end Target

/-! ## Without preemption -/

section Alone

variable (w : LongWidth) (writer : Bool) (locals : Locals)

/-- Telemetry actions, one after the other, lead from `s` to `s'`. -/
def Alone (s s' : Rtos B) : Prop :=
  ∃ n, (rtosSystem B w writer telemetryAction).Run s (List.replicate n (.telemetry locals)) s'

variable {w writer locals}

theorem Alone.refl (s : Rtos B) : Alone w writer locals s s := ⟨0, LTS.Run.nil⟩

theorem Alone.cons {s s' : Rtos B} (h : Alone w writer locals (telemetryAction s locals) s') :
    Alone w writer locals s s' := by
  obtain ⟨n, hn⟩ := h
  refine ⟨n + 1, ?_⟩
  rw [List.replicate_succ]
  exact LTS.Run.cons (show rtosStep w telemetryAction s (.telemetry locals) = _ from rfl) hn

theorem Alone.trans {s s' s'' : Rtos B} (h : Alone w writer locals s s')
    (h' : Alone w writer locals s' s'') : Alone w writer locals s s'' := by
  obtain ⟨n, hn⟩ := h
  obtain ⟨m, hm⟩ := h'
  refine ⟨n + m, ?_⟩
  rw [← List.replicate_append_replicate]
  exact hn.append hm

/-- A block is one to three actions. -/
theorem alone_block (s : Rtos B) : Alone w writer locals s (telemetryBlock s locals) := by
  simp only [telemetryBlock]
  split
  · exact (Alone.refl _).cons.cons.cons
  · exact (Alone.refl _).cons.cons
  · exact (Alone.refl _).cons

/-- The drain loop. -/
theorem alone_drain (status : TelemetryStatus) (s : Firmware B) (message : Text) :
    Alone w writer locals ⟨s, .draining status message⟩
      ⟨appTasksDrainTelemetryQueue s message, .drained status⟩ := by
  induction s, message using appTasksDrainTelemetryQueue.induct with
  | case1 s message r h ih =>
    have hr : (rtosQueueReceive s.context.telemetryQueue message).1 = true := h
    have hreceive : telemetryAction ⟨s, .draining status message⟩ locals =
        ⟨{ s with context.telemetryQueue := r.2.1 }, .received status r.2.2⟩ := by
      simp only [telemetryAction, if_pos hr, r]
    rw [appTasksDrainTelemetryQueue, dif_pos h]
    apply Alone.cons
    rw [hreceive]
    exact Alone.cons ih
  | case2 s message r h =>
    have hr : ¬ (rtosQueueReceive s.context.telemetryQueue message).1 = true := h
    have hempty : telemetryAction ⟨s, .draining status message⟩ locals =
        ⟨{ s with context.telemetryQueue := r.2.1 }, .drained status⟩ := by
      simp only [telemetryAction, if_neg hr, r]
    rw [appTasksDrainTelemetryQueue, dif_neg h]
    apply Alone.cons
    rw [hempty]
    exact Alone.refl _

/-- Left alone, the telemetry task does `app_telemetry_task_step`. -/
theorem alone_step (s : Firmware B) :
    Alone w writer locals ⟨s, .idle⟩ ⟨(appTelemetryTaskStep s locals).2, .idle⟩ := by
  unfold appTelemetryTaskStep
  cases hl : (rtosMutexLock s.context.stateMutex).1 with
  | false =>
    have hlock : telemetryAction ⟨s, .idle⟩ locals =
        ⟨{ s with context.stateMutex := (rtosMutexLock s.context.stateMutex).2 }, .idle⟩ := by
      simp only [telemetryAction, hl, Bool.not_false, if_true]
    simp only [hl, Bool.not_false, if_true]
    apply Alone.cons
    rw [hlock]
    exact Alone.refl _
  | true =>
    have hlock : telemetryAction ⟨s, .idle⟩ locals =
        ⟨{ s with context.stateMutex := (rtosMutexLock s.context.stateMutex).2 }, .locked⟩ := by
      simp only [telemetryAction, hl, Bool.not_true, Bool.false_eq_true, if_false]
    simp only [hl, Bool.not_true, Bool.false_eq_true, if_false]
    apply Alone.cons
    rw [hlock]
    refine Alone.cons (Alone.cons ?_)
    generalize (rtosMutexLock s.context.stateMutex).2 = m
    cases hu : (rtosMutexUnlock m).1 with
    | false =>
      simp only [telemetryAction, hu, Bool.not_false, if_true]
      exact Alone.refl _
    | true =>
      simp only [telemetryAction, hu, Bool.not_true, Bool.false_eq_true, if_false]
      exact Alone.trans (alone_drain _ _ _) (Alone.refl _).cons

end Alone

end MotionFirmware.L5
