import MotionFirmware.L4System.Coherence

/-!
# Initialisation erases history

After `app_tasks_init` nothing of what the context, the statics, the queue
storage or the message buffers held before can be observed. Two states that
refine one controller, up to what was written earlier (`SameBut`), are kept so
by any step, whatever the uninitialised locals of the two steps hold; and
`app_tasks_init` makes any two states such.
-/
namespace MotionFirmware.L4

open MotionFirmware.Core MotionFirmware.L1.Motion MotionFirmware.L1.Fault MotionFirmware.L1.Telemetry
open MotionFirmware.L1.Parser MotionFirmware.L2.Port MotionFirmware.L2.HostPort
open MotionFirmware.L3.Messages MotionFirmware.L3.Tasks

/-- The same call; the locals may differ. -/
inductive SameCall : Act → Act → Prop
  | command (line : Option CString) (locals locals' : Locals) :
      SameCall (.command line locals) (.command line locals')
  | motion (deltaMs : UInt32) (locals locals' : Locals) :
      SameCall (.motion deltaMs locals) (.motion deltaMs locals')
  | telemetry (locals locals' : Locals) : SameCall (.telemetry locals) (.telemetry locals')

/-! ## Output written earlier -/

def outputAfter (before : List Text) (t : TelemetryState) : TelemetryState :=
  { t with written := before ++ t.written }

theorem sendLine_after (before : List Text) (t : TelemetryState) (line : Text) :
    telemetrySendLine (outputAfter before t) line = outputAfter before (telemetrySendLine t line) := by
  unfold telemetrySendLine
  cases hw : t.telemetryWriter with
  | false => simp [outputAfter, hw]
  | true => simp [outputAfter, hw]

theorem sendLines_after (before lines : List Text) (t : TelemetryState) :
    lines.foldl telemetrySendLine (outputAfter before t) =
      outputAfter before (lines.foldl telemetrySendLine t) := by
  induction lines generalizing t with
  | nil => rfl
  | cons line lines ih => rw [List.foldl_cons, sendLine_after, ih, List.foldl_cons]

namespace Device

/-- The controller behind earlier output. -/
def after (before : List Text) (d : Device) : Device :=
  { d with telemetry := outputAfter before d.telemetry }

variable {d : Device}

theorem Inv.after (h : d.Inv) (before : List Text) : (d.after before).Inv :=
  ⟨h.safe.frame rfl rfl rfl, h.commands_le, h.replies_le, h.parsed, h.known⟩

theorem reply_after (before : List Text) (d : Device) (line : Text) :
    (d.after before).reply line = ((d.reply line).1, (d.reply line).2.after before) := by
  unfold reply
  show (if d.replies.length < APP_TELEMETRY_QUEUE_CAPACITY then _ else _) = _
  split <;> rfl

theorem obey_after (before : List Text) (d : Device) (c : Command) :
    (d.after before).obey c = (d.obey c).after before := by
  unfold obey
  cases c.type with
  | move =>
    simp only
    show (if d.fault.faultActive = true then _ else _) = _
    split
    · rfl
    · split <;> rfl
  | ping => rfl
  | status => rfl
  | stop => rfl
  | estop => rfl
  | clearFault => rfl
  | none => rfl

theorem commandStep_after (w : LongWidth) (before : List Text) (d : Device) (line : Option CString) :
    (d.after before).commandStep w line =
      ((d.commandStep w line).1, (d.commandStep w line).2.after before) := by
  cases line with
  | none => rfl
  | some line =>
    have hq : (d.after before).commands = d.commands := rfl
    simp only [commandStep, reply_after, hq]
    split
    · rfl
    · split <;> rfl

theorem motionStep_after (before : List Text) (d : Device) (deltaMs : UInt32) :
    (d.after before).motionStep deltaMs =
      ((d.motionStep deltaMs).1, (d.motionStep deltaMs).2.after before) := by
  cases hq : d.commands with
  | nil =>
    have hq' : (d.after before).commands = [] := hq
    simp only [motionStep, hq, hq']
    rfl
  | cons c rest =>
    have hq' : (d.after before).commands = c :: rest := hq
    have hstep : (obey { d.after before with commands := rest } c).tick deltaMs =
        ((obey { d with commands := rest } c).tick deltaMs).after before :=
      congrArg (fun d => d.tick deltaMs) (obey_after before { d with commands := rest } c)
    have hresp : (d.after before).response c = d.response c := rfl
    simp only [motionStep, hq, hq', hstep, hresp, reply_after]

theorem telemetryStep_after (before : List Text) (d : Device) :
    (d.after before).telemetryStep = (d.telemetryStep.1, d.telemetryStep.2.after before) := by
  have hout : d.replies.foldl telemetrySendLine (d.after before).telemetry =
      outputAfter before (d.replies.foldl telemetrySendLine d.telemetry) :=
    sendLines_after before d.replies d.telemetry
  have htelemetry : telemetrySendStatus (d.replies.foldl telemetrySendLine (d.after before).telemetry)
      d.snapshot = outputAfter before (telemetrySendStatus
        (d.replies.foldl telemetrySendLine d.telemetry) d.snapshot) := by
    rw [hout]
    exact sendLine_after before _ _
  exact congrArg (fun t => ((⟨.ok, none, none⟩ : StepResult), { d with replies := [], telemetry := t }))
    htelemetry

/-- Earlier output and the locals change no step. -/
theorem taskStep_after (w : LongWidth) (before : List Text) (d : Device) {a b : Act}
    (h : SameCall a b) :
    (taskStep w (d.after before) a).1.result = (taskStep w d b).1.result ∧
      (taskStep w (d.after before) a).2 = (taskStep w d b).2.after before := by
  cases h with
  | command line locals locals' =>
    simp only [taskStep, commandStep_after]
    exact ⟨trivial, trivial⟩
  | motion deltaMs locals locals' =>
    simp only [taskStep, motionStep_after]
    exact ⟨trivial, trivial⟩
  | telemetry locals locals' =>
    simp only [taskStep, telemetryStep_after]
    exact ⟨trivial, trivial⟩

end Device

/-! ## Two runs -/

/-- Both states refine one controller, each behind its own earlier output. -/
def SameBut (before before' : List Text) (s s' : Firmware hostBackend) : Prop :=
  ∃ d : Device, d.Inv ∧ Refines s (d.after before) ∧ Refines s' (d.after before')

theorem SameCall.refl (a : Act) : SameCall a a := by cases a <;> constructor

variable {before before' : List Text} {s s' : Firmware hostBackend}

theorem sameBut_init (s s' : Firmware hostBackend) (writer : Bool) :
    SameBut s.telemetry.written s'.telemetry.written (appTasksInit s writer).2
      (appTasksInit s' writer).2 := by
  have hstart : ∀ before : List Text, (Device.start ⟨writer, []⟩).after before =
      Device.start ⟨writer, before⟩ := by
    intro before
    simp [Device.after, Device.start, outputAfter]
  refine ⟨Device.start ⟨writer, []⟩, Device.inv_start _, ?_, ?_⟩
  · rw [hstart]; exact (refines_init s writer).2
  · rw [hstart]; exact (refines_init s' writer).2

theorem sameBut_step (w : LongWidth) (h : SameBut before before' s s') {a b : Act}
    (hab : SameCall a b) :
    (appTaskStep w s a).1.result = (appTaskStep w s' b).1.result ∧
      SameBut before before' (appTaskStep w s a).2 (appTaskStep w s' b).2 := by
  obtain ⟨d, hd, h1, h2⟩ := h
  obtain ⟨he1, hs1⟩ := refines_step w h1 (hd.after before) a
  obtain ⟨he2, hs2⟩ := refines_step w h2 (hd.after before') b
  obtain ⟨hr1, hd1⟩ := Device.taskStep_after w before d hab
  obtain ⟨hr2, hd2⟩ := Device.taskStep_after w before' d (SameCall.refl b)
  rw [hd1] at hs1
  rw [hd2] at hs2
  refine ⟨?_, _, Device.inv_taskStep w hd b, hs1, hs2⟩
  rw [he1, he2, hr1, hr2]

/-- What can be seen of two such states is the same. -/
theorem SameBut.observations (h : SameBut before before' s s') :
    appTasksGetEvents s = appTasksGetEvents s' ∧
      appTasksCommandQueueCount s = appTasksCommandQueueCount s' ∧
      appTasksTelemetryQueueCount s = appTasksTelemetryQueueCount s' ∧
      ∃ out, s.telemetry.written = before ++ out ∧ s'.telemetry.written = before' ++ out := by
  obtain ⟨d, -, h1, h2⟩ := h
  refine ⟨?_, ?_, ?_, d.telemetry.written, ?_, ?_⟩
  · rw [appTasksGetEvents, appTasksGetEvents, h1.bits, h2.bits]; rfl
  · rw [count_commands h1.tracks, count_commands h2.tracks]; rfl
  · rw [count_replies h1.tracks, count_replies h2.tracks]; rfl
  · rw [h1.tracks.telemetry]; rfl
  · rw [h2.tracks.telemetry]; rfl

/-- **Initialisation erases history.** -/
theorem reinit_erases_history (w : LongWidth) (writer : Bool) (s s' : Firmware hostBackend)
    {acts acts' : List Act} (hcalls : List.Forall₂ SameCall acts acts') :
    let r := LTS.exec (appTaskStep w) (appTasksInit s writer).2 acts
    let r' := LTS.exec (appTaskStep w) (appTasksInit s' writer).2 acts'
    (appTasksInit s writer).1 = true ∧ (appTasksInit s' writer).1 = true ∧
    List.Forall₂ (fun e e' => e.result = e'.result) r.1 r'.1 ∧
    appTasksGetEvents r.2 = appTasksGetEvents r'.2 ∧
    appTasksCommandQueueCount r.2 = appTasksCommandQueueCount r'.2 ∧
    appTasksTelemetryQueueCount r.2 = appTasksTelemetryQueueCount r'.2 ∧
    ∃ out, r.2.telemetry.written = s.telemetry.written ++ out ∧
      r'.2.telemetry.written = s'.telemetry.written ++ out := by
  intro r r'
  obtain ⟨hresults, hlast⟩ := LTS.exec_related (f := appTaskStep w) (g := appTaskStep w)
    (R := SameBut s.telemetry.written s'.telemetry.written) (O := fun e e' => e.result = e'.result)
    (fun _ _ _ _ h hab => sameBut_step w h hab) (sameBut_init s s' writer) hcalls
  exact ⟨(refines_init s writer).1, (refines_init s' writer).1, hresults, hlast.observations⟩

/-- A state that ended in a fault, with other bytes in its storage and its
buffers. -/
def usedFirmware : Firmware hostBackend where
  context := ⟨⟨fun _ => 170, 7, 3, 2, 1, 2⟩, ⟨fun _ => 85, 1, 1, 1, 1, 1⟩, ⟨true⟩, ⟨255⟩, 99⟩
  motion := motionControllerSetFault motionControllerInit
  fault := faultManagerTriggerEstop faultManagerInit
  telemetry := ⟨true, [ascii "OK ESTOP", ascii "\n"]⟩

def usedLocals : Locals := ⟨⟨.estop, 9, 9, 9⟩, ⟨List.replicate 128 170, List.length_replicate⟩⟩

theorem reinit_erases_history_estop :
    ∃ out, (LTS.exec (appTaskStep .lp64) (appTasksInit zeroFirmware true).2
        [.command (some ⟨ascii "NOISE", by decide⟩) zeroLocals, .telemetry zeroLocals]).2.telemetry.written =
          [] ++ out ∧
      (LTS.exec (appTaskStep .lp64) (appTasksInit usedFirmware true).2
        [.command (some ⟨ascii "NOISE", by decide⟩) usedLocals, .telemetry usedLocals]).2.telemetry.written =
          [ascii "OK ESTOP", ascii "\n"] ++ out :=
  (reinit_erases_history .lp64 true zeroFirmware usedFirmware
    (.cons (.command _ zeroLocals usedLocals) (.cons (.telemetry zeroLocals usedLocals) .nil))).2.2.2.2.2.2

end MotionFirmware.L4
