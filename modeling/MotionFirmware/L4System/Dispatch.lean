import MotionFirmware.L4System.FaultLatch

/-!
# The defensive answers of the dispatcher

`app_tasks_handle_command` has two answers for cases its callers exclude:
`ERR MOVE_REJECTED` when `motion_controller_start_move` refuses a move that
passed the fault gate and the bounds check, and `ERR UNKNOWN_COMMAND` for a
message of no known type. Neither is given on any run: the fault manager and
the stage agree on what a fault is (`Device.Safe.latched`), the parser hands
over no feedrate of 0 and no command without a type (`Parsed`), and the queue
delivers what it was given.
-/
namespace MotionFirmware.L4

open MotionFirmware.Core MotionFirmware.L1.Motion MotionFirmware.L1.Fault MotionFirmware.L1.Parser
open MotionFirmware.L2.Port MotionFirmware.L2.HostPort MotionFirmware.L3.Messages MotionFirmware.L3.Tasks

/-! ## On the controller -/

namespace Device

variable {d : Device} {c : Command}

theorem response_expected (d : Device) (hc : Parsed c) :
    d.response c ≠ APP_ERROR_MOVE_REJECTED ∧ d.response c ≠ APP_ERROR_UNKNOWN_COMMAND := by
  unfold response
  cases htype : c.type <;> simp only
  case move =>
    split
    · decide
    · split <;> decide
  case none => exact absurd htype hc.1
  all_goals decide

/-- Only a fault cleared or a move accepted takes a stop request back. -/
theorem obey_stop (hs : d.stopRequested = true) (hn : (d.obey c).stopRequested = false) :
    c.type = .clearFault ∨
      c.type = .move ∧ ¬ d.fault.faultActive = true ∧ InWorkspace c.xMilliMm c.yMilliMm := by
  unfold obey at hn
  cases htype : c.type with
  | clearFault => exact Or.inl rfl
  | move =>
    simp only [htype] at hn
    split at hn
    · rw [hs] at hn; cases hn
    · rename_i hf
      split at hn
      · rename_i hin
        exact Or.inr ⟨rfl, hf, hin⟩
      · have hn : d.stopRequested = false := hn
        rw [hs] at hn; cases hn
  | stop => simp [htype] at hn
  | estop =>
    simp only [htype] at hn
    have hn : d.stopRequested = false := hn
    rw [hs] at hn; cases hn
  | ping => simp [htype, hs] at hn
  | status => simp [htype, hs] at hn
  | none => simp [htype, hs] at hn

/-- A step that dequeues nothing answers nothing and keeps the stop request. -/
theorem taskStep_quiet {w : LongWidth} {a : Act} (h : (taskStep w d a).1.result.dequeued = none) :
    (taskStep w d a).1.result.response = none ∧
      (taskStep w d a).2.stopRequested = d.stopRequested := by
  cases a with
  | telemetry locals => exact ⟨rfl, rfl⟩
  | motion deltaMs locals =>
    simp only [taskStep, motionStep] at h ⊢
    split at h
    · exact ⟨rfl, rfl⟩
    · cases h
  | command line locals =>
    cases line with
    | none => exact ⟨rfl, rfl⟩
    | some line =>
      simp only [taskStep, commandStep]
      split
      · rw [reply_eq]
        exact ⟨rfl, rfl⟩
      · split <;> exact ⟨rfl, rfl⟩

end Device

/-! ## On the host -/

variable {w : LongWidth} {writer : Bool} {s : Firmware hostBackend}

/-- `motion_controller_start_move` accepts the move: the stage is on its way to
the target, or was there already. -/
def Starts (m : MotionController) (c : Command) : Prop :=
  let r := motionControllerStartMove m c.xMilliMm c.yMilliMm c.feedrateMilliMmPerS
  r.1 = true ∧ r.2.status.targetXMilliMm = c.xMilliMm ∧ r.2.status.targetYMilliMm = c.yMilliMm ∧
    (r.2.status.state = .moving ∨ r.2.status.state = .done ∧
      r.2.status.currentXMilliMm = c.xMilliMm ∧ r.2.status.currentYMilliMm = c.yMilliMm)

/-- A `MOVE` past the fault gate and the bounds check starts. -/
theorem start_accepts {d : Device} (h : Refines s d) (hd : d.Inv) {c : Command}
    (hc : c ∈ d.commands) (htype : c.type = .move) (hf : ¬ appTasksIsFaultBlockingMove s = true)
    (hin : motionControllerIsTargetInBounds c.xMilliMm c.yMilliMm = true) : Starts s.motion c := by
  have hgate : ¬ d.fault.faultActive = true := by rw [← h.fault_active]; exact hf
  obtain ⟨m, hstart, -, htx, hty, hx, hy, hstate⟩ := startMove_accepts (hd.safe.unlatched hgate)
    hd.safe.motion.current ((hd.parsed c hc).2 htype) ((isTargetInBounds_iff _ _).mp hin)
  rw [h.tracks.motion, Starts, hstart]
  refine ⟨rfl, htx, hty, ?_⟩
  rcases hstate with ⟨hzero, hdone⟩ | ⟨hstarted, -⟩
  · obtain ⟨ex, ey⟩ := distance_eq_zero.mp hzero
    exact Or.inr ⟨hdone, hx.trans (Int32.toInt_inj.mp ex.symm), hy.trans (Int32.toInt_inj.mp ey.symm)⟩
  · exact Or.inl hstarted.moving

/-- A stop request that the dispatch of `c` took back. -/
theorem stop_withdrawn {d : Device} (h : Refines s d) (hd : d.Inv) {deltaMs : UInt32} {c : Command}
    (hdq : (d.motionStep deltaMs).1.dequeued = some c) (hset : d.stopRequested = true)
    (hclear : (d.motionStep deltaMs).2.stopRequested = false) :
    c.type = .clearFault ∨ c.type = .move ∧ Starts s.motion c := by
  obtain ⟨rest, hq, -, hstep⟩ := Device.motionStep_dequeued hdq
  rw [hstep, Device.reply_eq] at hclear
  have hset : ({ d with commands := rest } : Device).stopRequested = true := hset
  rcases Device.obey_stop hset hclear with htype | ⟨htype, hf, hin⟩
  · exact Or.inl htype
  · have hmem : c ∈ d.commands := by rw [hq]; simp
    have hgate : ¬ appTasksIsFaultBlockingMove s = true := fun hb => hf (h.fault_active.mp hb)
    exact Or.inr ⟨htype, start_accepts h hd hmem htype hgate ((isTargetInBounds_iff _ _).mpr hin)⟩

/-- **The defensive responses are unreachable.** -/
theorem defensive_unreachable (hs : (hostSystem w writer).Reachable s) (a : Act) :
    let r := (appTaskStep w s a).1.result
    let s' := (appTaskStep w s a).2
    r.response ≠ some APP_ERROR_MOVE_REJECTED ∧ r.response ≠ some APP_ERROR_UNKNOWN_COMMAND ∧
    (∀ c, r.dequeued = some c → c.type ≠ .none ∧
      (c.type = .move → ¬ appTasksIsFaultBlockingMove s = true →
        motionControllerIsTargetInBounds c.xMilliMm c.yMilliMm = true →
        Starts s.motion c ∧ r.response = some APP_RESPONSE_MOVE_QUEUED)) ∧
    (HasBit s.context.eventGroup APP_EVENT_STOP_REQUESTED →
      ¬ HasBit s'.context.eventGroup APP_EVENT_STOP_REQUESTED →
      ∃ c, r.dequeued = some c ∧ (c.type = .clearFault ∨ c.type = .move ∧ Starts s.motion c)) := by
  intro r s'
  obtain ⟨d, -, h, hd⟩ := reachable_refines hs
  obtain ⟨hevent, h'⟩ := refines_step w h hd a
  have hr : r = (Device.taskStep w d a).1.result := by
    show (appTaskStep w s a).1.result = _
    rw [hevent]
  rw [hr, h.stop_bit, h'.stop_bit]
  cases hdq : (Device.taskStep w d a).1.result.dequeued with
  | none =>
    obtain ⟨hnone, hkept⟩ := Device.taskStep_quiet hdq
    rw [hnone, hkept]
    exact ⟨by simp, by simp, by simp, fun hset hclear => absurd hset hclear⟩
  | some c =>
    obtain ⟨deltaMs, locals, rfl⟩ := Device.taskStep_dequeued hdq
    obtain ⟨rest, hq, hresp, -⟩ := Device.motionStep_dequeued hdq
    have hmem : c ∈ d.commands := by rw [hq]; simp
    have hc := hd.parsed c hmem
    obtain ⟨hne1, hne2⟩ := d.response_expected hc
    have hresp : (Device.taskStep w d (.motion deltaMs locals)).1.result.response =
        some (d.response c) := hresp
    rw [hresp]
    refine ⟨by simpa using hne1, by simpa using hne2, fun c' hc' => ?_, fun hset hclear => ?_⟩
    · cases hc'
      refine ⟨hc.1, fun htype hf hin => ⟨start_accepts h hd hmem htype hf hin, ?_⟩⟩
      have hgate : ¬ d.fault.faultActive = true := by rw [← h.fault_active]; exact hf
      simp only [Device.response, htype, if_neg hgate, if_pos ((isTargetInBounds_iff _ _).mp hin)]
    · exact ⟨c, rfl, stop_withdrawn h hd hdq hset (Bool.eq_false_iff.mpr hclear)⟩

/-- A move taken off the queue after a stop. -/
theorem defensive_unreachable_restart :
    let s := (hostRun .lp64 [.command (some ⟨ascii "STOP", by decide⟩) zeroLocals, .motion 10 zeroLocals,
      .command (some ⟨ascii "MOVE X=1 Y=2 F=3", by decide⟩) zeroLocals]).2
    ∃ c, (appTaskStep .lp64 s (.motion 10 zeroLocals)).1.result.dequeued = some c ∧
      (c.type = .clearFault ∨ c.type = .move ∧ Starts s.motion c) :=
  (defensive_unreachable (hostRun_reachable .lp64 _) (.motion 10 zeroLocals)).2.2.2
    (by decide +kernel) (by decide +kernel)

end MotionFirmware.L4
