import MotionFirmware.L1Modules.Trajectory
import MotionFirmware.L4System.Coherence

/-!
# How the stage moves

The path of the stage on the host backend, in every state that `app_tasks_init`
and any sequence of task steps lead to.

* `exact_advance_iff`: when a tick advances the move by exactly what the
  feedrate gives; `exact_advance_wraps`: a tick that takes it back instead.
* `axis_speed`: one motion step never moves a coordinate faster than the
  feedrate in force, and the dispatched command never moves it at all.
* `straight_line`: the stage stays within one milli-mm of the line of the move.
-/
namespace MotionFirmware.L4

open MotionFirmware.Core MotionFirmware.L1.Motion MotionFirmware.L1.Parser MotionFirmware.L2.Port
open MotionFirmware.L2.HostPort MotionFirmware.L3.Messages MotionFirmware.L3.Tasks

variable {w : LongWidth} {writer : Bool} {s : Firmware hostBackend}

theorem reachable_motionInv (hs : (hostSystem w writer).Reachable s) : MotionInv s.motion := by
  obtain ⟨d, -, h, hd⟩ := reachable_refines hs
  rw [h.tracks.motion]
  exact hd.safe.motion

/-! ## Exact advance -/

/-- **Exact advance**, exactly where the 32-bit sum does not wrap below the
path length; there a tick never goes back, and a longer one gets at least as far. -/
theorem exact_advance_iff (hs : (hostSystem w writer).Reachable s)
    (hm : s.motion.status.state = .moving) :
    (∀ deltaMs, deltaMs ≠ 0 → (AdvancesExactly s.motion deltaMs ↔ NoWrap s.motion deltaMs)) ∧
    (∀ deltaMs, deltaMs ≠ 0 → NoWrap s.motion deltaMs →
      s.motion.distanceTraveledMilliMm.toNat ≤ reached s.motion deltaMs) ∧
    ∀ deltaMs longer, deltaMs ≠ 0 → deltaMs ≤ longer → NoWrap s.motion deltaMs →
      NoWrap s.motion longer → reached s.motion deltaMs ≤ reached s.motion longer := by
  have ht := (reachable_motionInv hs).moving hm
  refine ⟨fun deltaMs hd => advancesExactly_iff ht hm hd, fun deltaMs hd hfit => ?_, ?_⟩
  · exact ((advancesExactly_iff ht hm hd).mpr hfit).forward ht.short
  · intro deltaMs longer hd hle hfit hfit'
    have hd' : longer ≠ 0 := by
      intro e
      rw [e] at hle
      exact hd (UInt32.le_zero_iff.mp hle)
    exact ((advancesExactly_iff ht hm hd).mpr hfit).mono ((advancesExactly_iff ht hm hd').mpr hfit') hle

/-- One millimetre at 1 mm/s, after the first millisecond. -/
def slowMove : List Act :=
  [.command (some ⟨ascii "MOVE X=1 Y=0 F=1", by decide⟩) zeroLocals, .motion 1 zeroLocals]

theorem exact_advance_second :
    reached (hostRun .lp64 slowMove).2.motion 10 ≤ reached (hostRun .lp64 slowMove).2.motion 1000 :=
  (exact_advance_iff (hostRun_reachable .lp64 slowMove) (by decide +kernel)).2.2 10 1000 (by decide)
    (by decide) (by decide +kernel) (by decide +kernel)

/-- A tick of `2^32 - 1` ms: the sum wraps to 0, and the move is where it
started instead of at its end. -/
theorem exact_advance_wraps :
    (hostSystem .lp64 true).Reachable (hostRun .lp64 slowMove).2 ∧
    (hostRun .lp64 slowMove).2.motion.status.state = .moving ∧
    ¬ AdvancesExactly (hostRun .lp64 slowMove).2.motion 4294967295 ∧
    reached (hostRun .lp64 slowMove).2.motion 4294967295 <
      (hostRun .lp64 slowMove).2.motion.distanceTraveledMilliMm.toNat := by
  refine ⟨hostRun_reachable .lp64 slowMove, by decide +kernel, fun h => ?_, by decide +kernel⟩
  have harrived := (h.arrives.mpr (by decide +kernel)).1
  exact absurd harrived (by decide +kernel)

/-! ## Speed -/

/-- A command leaves the stage where it is. -/
theorem Device.obey_position {d : Device} (h : d.Safe) {c : Command} (hc : Parsed c) :
    (d.obey c).motion.status.currentXMilliMm = d.motion.status.currentXMilliMm ∧
      (d.obey c).motion.status.currentYMilliMm = d.motion.status.currentYMilliMm := by
  unfold Device.obey
  cases htype : c.type with
  | move =>
    simp only
    split
    · exact ⟨rfl, rfl⟩
    · rename_i hf
      split
      · rename_i hin
        obtain ⟨m, he, -, -, hx, hy⟩ := h.move_accepts hc htype hf hin
        rw [he]
        exact ⟨hx, hy⟩
      · exact ⟨rfl, rfl⟩
  | stop =>
    simp only [motionControllerStop]
    split <;> exact ⟨rfl, rfl⟩
  | clearFault =>
    simp only [motionControllerClearFault]
    split <;> exact ⟨rfl, rfl⟩
  | estop => exact ⟨rfl, rfl⟩
  | ping => exact ⟨rfl, rfl⟩
  | status => exact ⟨rfl, rfl⟩
  | none => exact ⟨rfl, rfl⟩

/-- A motion step is its dispatch, then its tick. -/
theorem motionStep_dispatched {d : Device} (h : Refines s d) (hd : d.Inv) (deltaMs : UInt32)
    (locals : Locals) :
    let m := (appMotionTaskDispatch { s with context.stateMutex := ⟨true⟩ } locals).2.motion
    MotionInv m ∧ m.status.currentXMilliMm = s.motion.status.currentXMilliMm ∧
      m.status.currentYMilliMm = s.motion.status.currentYMilliMm ∧
      (appMotionTaskStep s deltaMs locals).2.motion = motionControllerUpdate m deltaMs := by
  intro m
  have hstep := (refines_motion h.tracks hd h.mutex deltaMs locals).2.tracks.motion
  obtain ⟨-, ⟨hq, -, htr⟩ | ⟨c, rest, hq, -, htr⟩⟩ :=
    tracks_dispatch (h.tracks.withMutex ⟨true⟩) hd locals
  · have hm : m = d.motion := htr.motion
    have hdev : (d.motionStep deltaMs).2.motion = motionControllerUpdate d.motion deltaMs := by
      simp only [Device.motionStep, hq, Device.tick]
    rw [hstep, hdev, hm, h.tracks.motion]
    exact ⟨hd.safe.motion, rfl, rfl, rfl⟩
  · have hm : m = (Device.obey { d with commands := rest } c).motion := htr.motion
    have hc : Parsed c := hd.parsed c (by rw [hq]; simp)
    obtain ⟨hx, hy⟩ := Device.obey_position (hd.safe.pop rest) hc
    have hdev : (d.motionStep deltaMs).2.motion =
        motionControllerUpdate (Device.obey { d with commands := rest } c).motion deltaMs := by
      simp only [Device.motionStep, hq, Device.reply_eq, Device.tick]
    rw [hstep, hdev, hm, h.tracks.motion]
    exact ⟨(Device.inv_obey hd hq).safe.motion, hx, hy, rfl⟩

/-- **Axis speed.** The step in force is `floor ((F * delta + r) / 1000)` with
the feedrate and the remainder after the dispatch, and 0 outside `MOVING`. -/
theorem axis_speed (hs : (hostSystem w writer).Reachable s) (deltaMs : UInt32) (locals : Locals) :
    let locked := { s with context.stateMutex := (rtosMutexLock s.context.stateMutex).2 }
    let m := (appMotionTaskDispatch locked locals).2.motion
    let s' := (appMotionTaskStep s deltaMs locals).2
    (m.status.currentXMilliMm = s.motion.status.currentXMilliMm ∧
      m.status.currentYMilliMm = s.motion.status.currentYMilliMm) ∧
    (s'.motion.status.currentXMilliMm.toInt - s.motion.status.currentXMilliMm.toInt).natAbs ≤
      stepInForce m deltaMs ∧
    (s'.motion.status.currentYMilliMm.toInt - s.motion.status.currentYMilliMm.toInt).natAbs ≤
      stepInForce m deltaMs := by
  obtain ⟨d, -, h, hd⟩ := reachable_refines hs
  have hlock : (rtosMutexLock s.context.stateMutex).2 = ⟨true⟩ := by rw [h.mutex]; rfl
  intro locked m s'
  have hlocked : locked = { s with context.stateMutex := ⟨true⟩ } := by
    show { s with context.stateMutex := (rtosMutexLock s.context.stateMutex).2 } = _
    rw [hlock]
  obtain ⟨hinv, hx, hy, hstep⟩ := motionStep_dispatched h hd deltaMs locals
  rw [← hlocked] at hinv hx hy hstep
  have hspeed := update_axis hinv deltaMs
  rw [hx, hy, ← hstep] at hspeed
  exact ⟨⟨hx, hy⟩, hspeed⟩

/-- The last tick of a move, which snaps to the target: 900 ms of it are left,
the tick is ten seconds. -/
theorem axis_speed_last :
    let s := (hostRun .lp64 [.command (some ⟨ascii "MOVE X=1 Y=0 F=1", by decide⟩) zeroLocals,
      .motion 100 zeroLocals]).2
    let s' := (appMotionTaskStep s 10000 zeroLocals).2
    (s'.motion.status.currentXMilliMm.toInt - s.motion.status.currentXMilliMm.toInt).natAbs ≤
      stepInForce (appMotionTaskDispatch { s with
        context.stateMutex := (rtosMutexLock s.context.stateMutex).2 } zeroLocals).2.motion 10000 :=
  (axis_speed (hostRun_reachable .lp64 _) 10000 zeroLocals).2.1

/-! ## Straightness -/

/-- **Straight-line fidelity**: `offLine` is `dx (y - sy) - dy (x - sx)`. -/
theorem straight_line (hs : (hostSystem w writer).Reachable s)
    (hm : s.motion.status.state = .moving) :
    ((min s.motion.startXMilliMm.toInt s.motion.status.targetXMilliMm.toInt ≤
          s.motion.status.currentXMilliMm.toInt ∧
        s.motion.status.currentXMilliMm.toInt ≤
          max s.motion.startXMilliMm.toInt s.motion.status.targetXMilliMm.toInt) ∧
      (min s.motion.startYMilliMm.toInt s.motion.status.targetYMilliMm.toInt ≤
          s.motion.status.currentYMilliMm.toInt ∧
        s.motion.status.currentYMilliMm.toInt ≤
          max s.motion.startYMilliMm.toInt s.motion.status.targetYMilliMm.toInt)) ∧
    (offLine s.motion).natAbs <
      max (s.motion.status.targetXMilliMm.toInt - s.motion.startXMilliMm.toInt).natAbs
        (s.motion.status.targetYMilliMm.toInt - s.motion.startYMilliMm.toInt).natAbs ∧
    offLine s.motion * offLine s.motion <
      (s.motion.status.targetXMilliMm.toInt - s.motion.startXMilliMm.toInt) *
          (s.motion.status.targetXMilliMm.toInt - s.motion.startXMilliMm.toInt) +
        (s.motion.status.targetYMilliMm.toInt - s.motion.startYMilliMm.toInt) *
          (s.motion.status.targetYMilliMm.toInt - s.motion.startYMilliMm.toInt) := by
  have ht := (reachable_motionInv hs).moving hm
  exact ⟨ht.inside, ht.straight, ht.off_line⟩

/-- Back towards the origin along a slope, after a first move out. -/
theorem straight_line_back :
    let s := (hostRun .lp64 [.command (some ⟨ascii "MOVE X=7 Y=3 F=900", by decide⟩) zeroLocals,
      .motion 1000 zeroLocals, .command (some ⟨ascii "MOVE X=0 Y=1 F=2", by decide⟩) zeroLocals,
      .motion 333 zeroLocals]).2
    (offLine s.motion).natAbs <
      max (s.motion.status.targetXMilliMm.toInt - s.motion.startXMilliMm.toInt).natAbs
        (s.motion.status.targetYMilliMm.toInt - s.motion.startYMilliMm.toInt).natAbs :=
  (straight_line (hostRun_reachable .lp64 _) (by decide +kernel)).2.1

end MotionFirmware.L4
