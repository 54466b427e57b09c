import MotionFirmware.L2Port.HostPort
import MotionFirmware.L4System.Refinement

/-!
# State invariants of the host system

What holds between any two task steps on the host backend, after
`app_tasks_init` of anything and any sequence of steps.

* `workspace_safety`: the stage and its target stay inside the workspace, and
  the interpolation variables describe the move in progress or nothing.
* `coherence`: the fault flag, the fault reason, the `FAULT` state and the
  event bits say the same; the mutex is free; every printed status line agrees
  with itself.
-/
namespace MotionFirmware.L4

open MotionFirmware.Core MotionFirmware.L1.Motion MotionFirmware.L1.Fault MotionFirmware.L1.Telemetry
open MotionFirmware.L1.Parser MotionFirmware.L2.Port MotionFirmware.L2.HostPort
open MotionFirmware.L3.Messages MotionFirmware.L3.Tasks

abbrev hostSystem (w : LongWidth) (writer : Bool) : LTS (Firmware hostBackend) Event :=
  firmwareSystem hostBackend w writer

variable {w : LongWidth} {writer : Bool} {s : Firmware hostBackend}

/-! ## A fresh host -/

/-- The context and the statics as static storage has them. -/
def zeroFirmware : Firmware hostBackend where
  context := ⟨⟨fun _ => 0, 0, 0, 0, 0, 0⟩, ⟨fun _ => 0, 0, 0, 0, 0, 0⟩, ⟨false⟩, ⟨0⟩, 0⟩
  motion := motionControllerInit
  fault := faultManagerInit
  telemetry := ⟨false, []⟩

def zeroLocals : Locals := ⟨⟨.none, 0, 0, 0⟩, ⟨List.replicate 128 0, List.length_replicate⟩⟩

/-- The host after initialisation with a writer. -/
def hostStart : Firmware hostBackend := (appTasksInit zeroFirmware true).2

theorem hostStart_init (w : LongWidth) : (hostSystem w true).init hostStart := ⟨zeroFirmware, rfl, rfl⟩

/-- The state a list of actions leads to. -/
def hostRun (w : LongWidth) (acts : List Act) : List Event × Firmware hostBackend :=
  LTS.exec (appTaskStep w) hostStart acts

theorem taskStep_act {B : RtosBackend} [RtosApi B] (w : LongWidth) (s : Firmware B) (a : Act) :
    (appTaskStep w s a).1.act = a := by cases a <;> rfl

theorem hostRun_run (w : LongWidth) (acts : List Act) :
    (hostSystem w true).Run hostStart (hostRun w acts).1 (hostRun w acts).2 :=
  LTS.run_exec (taskStep_act w) acts hostStart

theorem hostRun_reachable (w : LongWidth) (acts : List Act) :
    (hostSystem w true).Reachable (hostRun w acts).2 :=
  ⟨hostStart, _, hostStart_init w, hostRun_run w acts⟩

/-! ## The stage -/

/-- **Workspace safety.** -/
theorem workspace_safety (hs : (hostSystem w writer).Reachable s) :
    InWorkspace s.motion.status.currentXMilliMm s.motion.status.currentYMilliMm ∧
    InWorkspace s.motion.status.targetXMilliMm s.motion.status.targetYMilliMm ∧
    (s.motion.status.state = .moving →
      s.motion.status.feedrateMilliMmPerS ≠ 0 ∧
      InWorkspace s.motion.startXMilliMm s.motion.startYMilliMm ∧
      s.motion.pathLengthMilliMm.toNat = distance s.motion.startXMilliMm.toInt
        s.motion.startYMilliMm.toInt s.motion.status.targetXMilliMm.toInt
        s.motion.status.targetYMilliMm.toInt ∧
      1 ≤ s.motion.pathLengthMilliMm.toNat ∧
      s.motion.distanceTraveledMilliMm.toNat < s.motion.pathLengthMilliMm.toNat ∧
      s.motion.remainderMilliMmMs.toNat < 1000) ∧
    (s.motion.status.state ≠ .moving →
      s.motion.status.feedrateMilliMmPerS = 0 ∧ s.motion.pathLengthMilliMm = 0 ∧
      s.motion.distanceTraveledMilliMm = 0 ∧ s.motion.remainderMilliMmMs = 0 ∧
      s.motion.status.targetXMilliMm = s.motion.status.currentXMilliMm ∧
      s.motion.status.targetYMilliMm = s.motion.status.currentYMilliMm) := by
  obtain ⟨d, -, h, hd⟩ := reachable_refines hs
  have hinv := hd.safe.motion
  rw [← h.tracks.motion] at hinv
  refine ⟨hinv.current, hinv.target, fun hm => ?_, fun hm => ?_⟩
  · have ht := hinv.moving hm
    have hshort := ht.short
    exact ⟨ht.feedrate, ht.start, ht.length, by omega, hshort, ht.remainder⟩
  · have hr := hinv.rest hm
    exact ⟨hr.feedrate, hr.length, hr.traveled, hr.remainder, hr.x, hr.y⟩

/-- A move under way on the host. -/
theorem workspace_safety_move :
    let s := (hostRun .lp64 [.command (some ⟨ascii "MOVE X=50 Y=20 F=25", by decide⟩) zeroLocals,
      .motion 100 zeroLocals]).2
    1 ≤ s.motion.pathLengthMilliMm.toNat ∧
      s.motion.distanceTraveledMilliMm.toNat < s.motion.pathLengthMilliMm.toNat ∧
      s.motion.remainderMilliMmMs.toNat < 1000 :=
  ((workspace_safety (hostRun_reachable .lp64 _)).2.2.1 (by decide +kernel)).2.2.2

/-! ## Coherence -/

theorem mem_sendLine {t : TelemetryState} {line text : Text}
    (h : text ∈ (telemetrySendLine t line).written) :
    text ∈ t.written ∨ text = line ∨ text = ascii "\n" := by
  unfold telemetrySendLine at h
  split at h
  · simpa using h
  · exact Or.inl h

theorem mem_sendLines {text : Text} (lines : List Text) (t : TelemetryState)
    (h : text ∈ (lines.foldl telemetrySendLine t).written) :
    text ∈ t.written ∨ text ∈ lines ∨ text = ascii "\n" := by
  induction lines generalizing t with
  | nil => exact Or.inl h
  | cons line lines ih =>
    rcases ih _ h with h | h | h
    · rcases mem_sendLine h with h | h | h
      · exact Or.inl h
      · exact Or.inr (Or.inl (by rw [h]; simp))
      · exact Or.inr (Or.inr h)
    · exact Or.inr (Or.inl (List.mem_cons_of_mem _ h))
    · exact Or.inr (Or.inr h)

/-- Every status line so far agrees with itself. -/
def Device.Reports (d : Device) : Prop :=
  ∀ t ∈ d.telemetry.written, IsStatusLine t → (ShowsFault t ↔ ShowsFaultState t)

/-- What a snapshot prints. -/
theorem Device.snapshot_shows (d : Device) (h : d.Safe) :
    (ShowsFault (snprintf TELEMETRY_LINE_BUFFER_SIZE (statusText d.snapshot)) ↔
      d.fault.faultActive = true) ∧
    (ShowsFaultState (snprintf TELEMETRY_LINE_BUFFER_SIZE (statusText d.snapshot)) ↔
      d.fault.faultActive = true) := by
  have hname : ShortName (stateName d.snapshot) := shortName_state d.motion.status.state
  refine ⟨fault_word hname, ?_⟩
  rw [state_word hname, h.latched]
  exact stateToString_fault_iff d.motion.status.state

theorem reports_telemetryStep {d : Device} (hd : d.Inv) (h : d.Reports) : d.telemetryStep.2.Reports := by
  intro t ht hst
  have hnl : ¬ IsStatusLine (ascii "\n") := by decide
  rcases mem_sendLine ht with ht | ht | ht
  · rcases mem_sendLines _ _ ht with ht | ht | ht
    · exact h t ht hst
    · exact absurd hst (responseTexts_spec t (hd.known t ht)).2.2.1
    · rw [ht] at hst; exact absurd hst hnl
  · obtain ⟨h1, h2⟩ := d.snapshot_shows hd.safe
    rw [ht, h1, h2]
  · rw [ht] at hst; exact absurd hst hnl

theorem commandStep_telemetry (w : LongWidth) (d : Device) (line : Option CString) :
    (d.commandStep w line).2.telemetry = d.telemetry := by
  cases line with
  | none => rfl
  | some line =>
    simp only [Device.commandStep]
    split
    · rw [Device.reply_eq]
    · split <;> rfl

theorem motionStep_telemetry (d : Device) (deltaMs : UInt32) :
    (d.motionStep deltaMs).2.telemetry = d.telemetry := by
  unfold Device.motionStep
  split
  · rfl
  · rename_i c rest hq
    obtain ⟨-, -, -, htel⟩ := Device.obey_queues { d with commands := rest } c
    rw [Device.reply_eq]
    exact htel

theorem device_reports (w : LongWidth) (writer : Bool) :
    (deviceSystem w writer).Inductive fun d => d.Inv ∧ d.Reports := by
  refine LTS.inductive_ofStep ?_ ?_
  · intro d hd
    rw [hd]
    exact ⟨Device.inv_start _, fun t ht => by simp [Device.start] at ht⟩
  · intro d a hI
    obtain ⟨hd, h⟩ := hI
    refine ⟨Device.inv_taskStep w hd a, ?_⟩
    cases a with
    | command line locals =>
      have htel := commandStep_telemetry w d line
      show ∀ t ∈ (d.commandStep w line).2.telemetry.written, _
      rw [htel]; exact h
    | motion deltaMs locals =>
      have htel := motionStep_telemetry d deltaMs
      show ∀ t ∈ (d.motionStep deltaMs).2.telemetry.written, _
      rw [htel]; exact h
    | telemetry locals => exact reports_telemetryStep hd h

theorem Device.status_ne_mutex (w : LongWidth) (d : Device) (a : Act) :
    (Device.taskStep w d a).1.result.status ≠ .errorMutex := by
  cases a with
  | command line locals =>
    cases line with
    | none => simp [Device.taskStep, Device.commandStep]
    | some line =>
      simp only [Device.taskStep, Device.commandStep]
      split
      · split <;> simp
      · split <;> simp
  | motion deltaMs locals =>
    simp only [Device.taskStep, Device.motionStep]
    split
    · simp
    · split <;> simp
  | telemetry locals => simp [Device.taskStep, Device.telemetryStep]

/-- **Coherence.** -/
theorem coherence (hs : (hostSystem w writer).Reachable s) :
    (faultManagerIsFaultActive s.fault = true ↔ faultManagerGetReason s.fault ≠ .none) ∧
    (faultManagerIsFaultActive s.fault = true ↔ s.motion.status.state = .fault) ∧
    (faultManagerIsFaultActive s.fault = true ↔ HasBit s.context.eventGroup APP_EVENT_FAULTED) ∧
    (HasBit s.context.eventGroup APP_EVENT_MOVING ↔ s.motion.status.state = .moving) ∧
    (HasBit s.context.eventGroup APP_EVENT_STOP_REQUESTED → s.motion.status.state ≠ .moving) ∧
    appTasksGetEvents s &&&
      ~~~(APP_EVENT_MOVING ||| APP_EVENT_FAULTED ||| APP_EVENT_STOP_REQUESTED) = 0 ∧
    s.context.stateMutex.locked = false ∧
    (∀ a, (appTaskStep w s a).1.result.status ≠ .errorMutex) ∧
    ∀ t ∈ s.telemetry.written, IsStatusLine t → (ShowsFault t ↔ ShowsFaultState t) := by
  obtain ⟨d, hr, h, hd⟩ := reachable_refines hs
  have hreports := ((device_reports w writer).reachable d hr).2
  refine ⟨?_, ?_, ?_, ?_, ?_, ?_, ?_, ?_, ?_⟩
  · rw [h.tracks.fault]; exact hd.safe.reason.1
  · rw [h.fault_active, h.tracks.motion]; exact hd.safe.latched
  · rw [h.fault_active, h.faulted_bit]
  · rw [h.tracks.motion, h.moving_bit]
  · rw [h.tracks.motion, h.stop_bit]; exact hd.safe.stop
  · rw [h.events]; exact eventBits_other _ _ _
  · rw [h.mutex]
  · intro a
    rw [(refines_step w h hd a).1]; exact d.status_ne_mutex w a
  · rw [h.tracks.telemetry]; exact hreports

/-- An `ESTOP` taken on the host, and a status line printed after it. -/
theorem coherence_estop :
    let s := (hostRun .lp64 [.command (some ⟨ascii "ESTOP", by decide⟩) zeroLocals,
      .motion 100 zeroLocals, .telemetry zeroLocals]).2
    faultManagerIsFaultActive s.fault = true ↔ s.motion.status.state = .fault :=
  (coherence (hostRun_reachable .lp64 _)).2.1

end MotionFirmware.L4
