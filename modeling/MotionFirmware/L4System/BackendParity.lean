import MotionFirmware.L2Port.FreertosPort
import MotionFirmware.L4System.Reinit

/-!
# The host build and the FreeRTOS build

The unit tests run on the host backend, the target on FreeRTOS. Both refine
one controller (`Agree`), so the same calls give the same statuses, event
bits, queue counts and output on either (`backend_parity`): what the tests see
on the host is what the target does over any lawful kernel, one task step at a
time.
-/
namespace MotionFirmware.L4

open MotionFirmware.Core MotionFirmware.L1.Motion MotionFirmware.L1.Fault MotionFirmware.L1.Telemetry
open MotionFirmware.L1.Parser MotionFirmware.L2.Port MotionFirmware.L3.Messages MotionFirmware.L3.Tasks
open MotionFirmware.L2.HostPort (hostBackend)
open MotionFirmware.L2.FreertosPort (KernelObjects KernelApi LawfulKernel freertosBackend targetBackend)

variable {B B' : RtosBackend} [RtosApi B] [LawfulRtos B] [RtosApi B'] [LawfulRtos B']
  {s : Firmware B} {s' : Firmware B'} {before before' : List Text}

/-- Both states refine one controller, on whatever backends, each behind its own
earlier output. -/
def Agree (before before' : List Text) (s : Firmware B) (s' : Firmware B') : Prop :=
  ∃ d : Device, d.Inv ∧ Refines s (d.after before) ∧ Refines s' (d.after before')

theorem agree_init (s : Firmware B) (s' : Firmware B') (writer : Bool) :
    Agree s.telemetry.written s'.telemetry.written (appTasksInit s writer).2 (appTasksInit s' writer).2 := by
  have hstart (before : List Text) :
      (Device.start ⟨writer, []⟩).after before = Device.start ⟨writer, before⟩ := by
    simp [Device.after, Device.start, outputAfter]
  refine ⟨Device.start ⟨writer, []⟩, Device.inv_start _, ?_, ?_⟩
  · rw [hstart]
    exact (refines_init s writer).2
  · rw [hstart]
    exact (refines_init s' writer).2

theorem agree_step (w : LongWidth) (h : Agree before before' s s') {a b : Act} (hab : SameCall a b) :
    (appTaskStep w s a).1.result = (appTaskStep w s' b).1.result ∧
      Agree before before' (appTaskStep w s a).2 (appTaskStep w s' b).2 := by
  obtain ⟨d, hd, h1, h2⟩ := h
  obtain ⟨he1, hs1⟩ := refines_step w h1 (hd.after before) a
  obtain ⟨he2, hs2⟩ := refines_step w h2 (hd.after before') b
  obtain ⟨hr1, hd1⟩ := Device.taskStep_after w before d hab
  obtain ⟨hr2, hd2⟩ := Device.taskStep_after w before' d (SameCall.refl b)
  rw [hd1] at hs1
  rw [hd2] at hs2
  refine ⟨?_, _, Device.inv_taskStep w hd b, hs1, hs2⟩
  rw [he1, he2, hr1, hr2]

/-- **Backend parity.** From any two contexts, and with anything on the stack,
the same calls give the same results on the host and on FreeRTOS, whatever the
kernel makes of its objects. -/
theorem backend_parity {K : KernelObjects} [KernelApi K] [LawfulKernel K] (w : LongWidth)
    (writer : Bool) (s : Firmware hostBackend) (s' : Firmware (freertosBackend K))
    {acts acts' : List Act} (hcalls : List.Forall₂ SameCall acts acts') :
    let r := LTS.exec (appTaskStep w) (appTasksInit s writer).2 acts
    let r' := LTS.exec (appTaskStep w) (appTasksInit s' writer).2 acts'
    List.Forall₂ (fun e e' => e.result = e'.result) r.1 r'.1 ∧
      appTasksGetEvents r.2 = appTasksGetEvents r'.2 ∧
      appTasksCommandQueueCount r.2 = appTasksCommandQueueCount r'.2 ∧
      appTasksTelemetryQueueCount r.2 = appTasksTelemetryQueueCount r'.2 ∧
      r.2.motion = r'.2.motion ∧ r.2.fault = r'.2.fault ∧
      ∃ out, r.2.telemetry.written = s.telemetry.written ++ out ∧
        r'.2.telemetry.written = s'.telemetry.written ++ out := by
  intro r r'
  obtain ⟨hresults, d, -, h1, h2⟩ := LTS.exec_related (f := appTaskStep w) (g := appTaskStep w)
    (R := Agree s.telemetry.written s'.telemetry.written) (O := fun e e' => e.result = e'.result)
    (fun _ _ _ _ h hab => agree_step w h hab) (agree_init s s' writer) hcalls
  refine ⟨hresults, ?_, ?_, ?_, ?_, ?_, d.telemetry.written, ?_, ?_⟩
  · rw [h1.events, h2.events]
    rfl
  · rw [count_commands h1.tracks, count_commands h2.tracks]
    rfl
  · rw [count_replies h1.tracks, count_replies h2.tracks]
    rfl
  · rw [h1.tracks.motion, h2.tracks.motion]
    rfl
  · rw [h1.tracks.fault, h2.tracks.fault]
    rfl
  · rw [h1.tracks.telemetry]
    rfl
  · rw [h2.tracks.telemetry]
    rfl

/-- A target that ended in a fault: null handles, other bits, output written. -/
def usedTarget : Firmware targetBackend where
  context := ⟨⟨none, 7, 3⟩, ⟨none, 1, 1⟩, ⟨some ⟨false⟩⟩, ⟨some ⟨255⟩⟩, 99⟩
  motion := motionControllerSetFault motionControllerInit
  fault := faultManagerTriggerEstop faultManagerInit
  telemetry := ⟨true, [ascii "OK ESTOP", ascii "\n"]⟩

theorem backend_parity_noise :
    ∃ out, (LTS.exec (appTaskStep .lp64) (appTasksInit zeroFirmware true).2
        [.command (some ⟨ascii "NOISE", by decide⟩) zeroLocals, .telemetry zeroLocals]).2.telemetry.written =
          [] ++ out ∧
      (LTS.exec (appTaskStep .lp64) (appTasksInit usedTarget true).2
        [.command (some ⟨ascii "NOISE", by decide⟩) usedLocals, .telemetry usedLocals]).2.telemetry.written =
          [ascii "OK ESTOP", ascii "\n"] ++ out :=
  (backend_parity .lp64 true zeroFirmware usedTarget
    (.cons (.command _ zeroLocals usedLocals) (.cons (.telemetry zeroLocals usedLocals) .nil))).2.2.2.2.2.2

end MotionFirmware.L4
