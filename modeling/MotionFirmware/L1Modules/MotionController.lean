import MotionFirmware.Core.CInt
import MotionFirmware.Core.Libc

/-!
# Motion controller (`motion/motion_controller.c`)

The simulated two-axis stage, in integer milli-millimetres. The file statics
(`motion_status` and the five interpolation variables) are one record; each
function takes it and returns the new one.

`uint32_t` / `uint64_t` arithmetic wraps, as in C. `int32_t` differences and
sums are written with `Int32`, which wraps where C leaves the overflow
undefined; inside the workspace none of them overflows (`MotionSpec`).
-/
namespace MotionFirmware.L1.Motion

open MotionFirmware.Core

/-- mirrors firmware/App/motion/motion_controller.h:10-13 -/
def MOTION_MIN_X_MILLI_MM : Int32 := 0
def MOTION_MAX_X_MILLI_MM : Int32 := 100000
def MOTION_MIN_Y_MILLI_MM : Int32 := 0
def MOTION_MAX_Y_MILLI_MM : Int32 := 100000

/-- mirrors firmware/App/motion/motion_controller.h:16-22 -/
inductive MotionState where
  | idle | moving | stopped | done | fault
  deriving DecidableEq, Repr

/-- mirrors firmware/App/motion/motion_controller.h:27-34 -/
structure MotionStatus where
  currentXMilliMm : Int32
  currentYMilliMm : Int32
  targetXMilliMm : Int32
  targetYMilliMm : Int32
  feedrateMilliMmPerS : UInt32
  state : MotionState
  deriving DecidableEq, Repr

/-- The file statics.
mirrors firmware/App/motion/motion_controller.c:5-10 -/
structure MotionController where
  status : MotionStatus
  startXMilliMm : Int32
  startYMilliMm : Int32
  pathLengthMilliMm : UInt32
  distanceTraveledMilliMm : UInt32
  remainderMilliMmMs : UInt32
  deriving DecidableEq, Repr

/-- mirrors firmware/App/motion/motion_controller.c:15-22 -/
def motionAbsI32 (value : Int32) : UInt32 := absI32 value

theorem shiftRight_two_toNat (b : UInt64) : (b >>> 2).toNat = b.toNat / 4 := by
  rw [UInt64.toNat_shiftRight]; simp [Nat.shiftRight_eq_div_pow]

/-- `while (bit > value) bit >>= 2`.
mirrors firmware/App/motion/motion_controller.c:32-34 -/
def motionIsqrtAlign (value bit : UInt64) : UInt64 :=
  if bit > value then motionIsqrtAlign value (bit >>> 2) else bit
termination_by bit.toNat
decreasing_by
  rename_i h
  have : value.toNat < bit.toNat := h
  rw [shiftRight_two_toNat]; omega

/-- `while (bit != 0)`: one root digit per pass.
mirrors firmware/App/motion/motion_controller.c:36-45 -/
def motionIsqrtDigits (value result bit : UInt64) : UInt64 :=
  if bit ≠ 0 then
    if value ≥ result + bit then
      motionIsqrtDigits (value - (result + bit)) ((result >>> 1) + bit) (bit >>> 2)
    else motionIsqrtDigits value (result >>> 1) (bit >>> 2)
  else result
termination_by bit.toNat
decreasing_by
  all_goals
    rename_i h _
    have : bit.toNat ≠ 0 := fun e => h (UInt64.toNat_inj.mp (by simpa using e))
    rw [shiftRight_two_toNat]; omega

/-- mirrors firmware/App/motion/motion_controller.c:27-48 -/
def motionIsqrtU64 (value : UInt64) : UInt32 :=
  (motionIsqrtDigits value 0 (motionIsqrtAlign value ((1 : UInt64) <<< 62))).toUInt32

/-- mirrors firmware/App/motion/motion_controller.c:53-66 -/
def motionCalculatePathLength (startX startY targetX targetY : Int32) : UInt32 :=
  let dx := motionAbsI32 (targetX - startX)
  let dy := motionAbsI32 (targetY - startY)
  let dxSquared := dx.toUInt64 * dx.toUInt64
  let dySquared := dy.toUInt64 * dy.toUInt64
  motionIsqrtU64 (dxSquared + dySquared)

/-- mirrors firmware/App/motion/motion_controller.c:71-86 -/
def motionInterpolatePosition (start target : Int32) (distanceTraveled pathLength : UInt32) : Int32 :=
  let delta := target.toInt64 - start.toInt64
  let scaledDelta := delta * i64OfU32 distanceTraveled
  if pathLength = 0 then target
  else (start.toInt64 + scaledDelta / i64OfU32 pathLength).toInt32

/-- mirrors firmware/App/motion/motion_controller.c:91-100 -/
def motionFinishMove (m : MotionController) : MotionController :=
  { m with
    status := { m.status with
      currentXMilliMm := m.status.targetXMilliMm
      currentYMilliMm := m.status.targetYMilliMm
      feedrateMilliMmPerS := 0
      state := .done }
    pathLengthMilliMm := 0
    distanceTraveledMilliMm := 0
    remainderMilliMmMs := 0 }

/-- mirrors firmware/App/motion/motion_controller.c:105-119 -/
def motionControllerInit : MotionController where
  status := ⟨0, 0, 0, 0, 0, .idle⟩
  startXMilliMm := 0
  startYMilliMm := 0
  pathLengthMilliMm := 0
  distanceTraveledMilliMm := 0
  remainderMilliMmMs := 0

/-- mirrors firmware/App/motion/motion_controller.c:124-155 -/
def motionControllerStartMove (m : MotionController) (targetX targetY : Int32) (feedrate : UInt32) :
    Bool × MotionController :=
  if m.status.state = .fault ∨ feedrate = 0 then (false, m)
  else
    let m := { m with
      startXMilliMm := m.status.currentXMilliMm
      startYMilliMm := m.status.currentYMilliMm
      status := { m.status with
        targetXMilliMm := targetX
        targetYMilliMm := targetY
        feedrateMilliMmPerS := feedrate }
      pathLengthMilliMm := motionCalculatePathLength m.status.currentXMilliMm
        m.status.currentYMilliMm targetX targetY
      distanceTraveledMilliMm := 0
      remainderMilliMmMs := 0 }
    if m.pathLengthMilliMm = 0 then (true, motionFinishMove m)
    else (true, { m with status := { m.status with state := .moving } })

/-- mirrors firmware/App/motion/motion_controller.c:160-197 -/
def motionControllerUpdate (m : MotionController) (deltaMs : UInt32) : MotionController :=
  if m.status.state ≠ .moving ∨ deltaMs = 0 then m
  else
    let distanceNumerator := m.status.feedrateMilliMmPerS.toUInt64 * deltaMs.toUInt64
      + m.remainderMilliMmMs.toUInt64
    let distanceStep := (distanceNumerator / 1000).toUInt32
    let m := { m with remainderMilliMmMs := (distanceNumerator % 1000).toUInt32 }
    if distanceStep = 0 then m
    else if m.distanceTraveledMilliMm + distanceStep ≥ m.pathLengthMilliMm then motionFinishMove m
    else
      let distance := m.distanceTraveledMilliMm + distanceStep
      { m with
        distanceTraveledMilliMm := distance
        status := { m.status with
          currentXMilliMm := motionInterpolatePosition m.startXMilliMm m.status.targetXMilliMm
            distance m.pathLengthMilliMm
          currentYMilliMm := motionInterpolatePosition m.startYMilliMm m.status.targetYMilliMm
            distance m.pathLengthMilliMm } }

/-- What `motion_controller_stop` and `motion_controller_set_fault` share:
the current position becomes the target and the move is forgotten.
mirrors firmware/App/motion/motion_controller.c:208-214,222-228 -/
def haltIn (m : MotionController) (state : MotionState) : MotionController :=
  { m with
    status := { m.status with
      targetXMilliMm := m.status.currentXMilliMm
      targetYMilliMm := m.status.currentYMilliMm
      feedrateMilliMmPerS := 0
      state := state }
    pathLengthMilliMm := 0
    distanceTraveledMilliMm := 0
    remainderMilliMmMs := 0 }

/-- mirrors firmware/App/motion/motion_controller.c:202-215 -/
def motionControllerStop (m : MotionController) : MotionController :=
  if m.status.state = .fault then m else haltIn m .stopped

/-- mirrors firmware/App/motion/motion_controller.c:220-229 -/
def motionControllerSetFault (m : MotionController) : MotionController := haltIn m .fault

/-- mirrors firmware/App/motion/motion_controller.c:234-239 -/
def motionControllerClearFault (m : MotionController) : MotionController :=
  if m.status.state = .fault then { m with status := { m.status with state := .idle } } else m

/-- mirrors firmware/App/motion/motion_controller.c:244-251 -/
def motionControllerGetStatus (m : MotionController) : MotionStatus := m.status

/-- mirrors firmware/App/motion/motion_controller.c:256-272 -/
def motionControllerStateToString : MotionState → Text
  | .idle => ascii "IDLE"
  | .moving => ascii "MOVING"
  | .stopped => ascii "STOPPED"
  | .done => ascii "DONE"
  | .fault => ascii "FAULT"

/-- mirrors firmware/App/motion/motion_controller.c:277-287 -/
def motionControllerIsTargetInBounds (targetX targetY : Int32) : Bool :=
  decide (targetX ≥ MOTION_MIN_X_MILLI_MM) && decide (targetX ≤ MOTION_MAX_X_MILLI_MM) &&
    decide (targetY ≥ MOTION_MIN_Y_MILLI_MM) && decide (targetY ≤ MOTION_MAX_Y_MILLI_MM)

end MotionFirmware.L1.Motion
