import Mathlib.Algebra.Order.Field.Rat

/-!
# PID controller (`pid/pid_controller.c`)

Every `double` is an exact rational: rounding, infinities and NaN are left out.
A pointer that may be null is an `Option`; a call returns its result, and what
the pointers it was given aim at afterwards.
-/
namespace MotionFirmware.L1.Pid

/-- mirrors firmware/App/pid/pid_controller.h:6-14 -/
structure PidConfig where
  kp : ℚ
  ki : ℚ
  kd : ℚ
  outputMin : ℚ
  outputMax : ℚ
  integralMin : ℚ
  integralMax : ℚ
  deriving DecidableEq, Repr

/-- mirrors firmware/App/pid/pid_controller.h:16-21 -/
structure PidController where
  config : PidConfig
  previousError : ℚ
  integral : ℚ
  initialized : Bool
  deriving DecidableEq, Repr

/-- mirrors firmware/App/pid/pid_controller.c:5-8 -/
def pidRangeIsValid (minimum maximum : ℚ) : Bool := minimum ≤ maximum

/-- mirrors firmware/App/pid/pid_controller.c:10-21 -/
def pidClamp (value minimum maximum : ℚ) : ℚ :=
  if value < minimum then minimum else if value > maximum then maximum else value

/-- mirrors firmware/App/pid/pid_controller.c:23-29 -/
def pidConfigIsValid : Option PidConfig → Bool
  | none => false
  | some config => pidRangeIsValid config.outputMin config.outputMax &&
      pidRangeIsValid config.integralMin config.integralMax

/-- mirrors firmware/App/pid/pid_controller.c:31-42 -/
def pidControllerInit (controller : Option PidController) (config : Option PidConfig) :
    Bool × Option PidController :=
  match controller, config with
  | some _, some config =>
    if pidConfigIsValid (some config) then
      (true, some { config, previousError := 0, integral := 0, initialized := true })
    else (false, controller)
  | _, _ => (false, controller)

/-- mirrors firmware/App/pid/pid_controller.c:44-53 -/
def pidControllerReset (controller : Option PidController) : Bool × Option PidController :=
  match controller with
  | none => (false, controller)
  | some c =>
    if c.initialized then (true, some { c with previousError := 0, integral := 0 })
    else (false, controller)

/-- mirrors firmware/App/pid/pid_controller.c:55-103 -/
def pidControllerUpdate (controller : Option PidController) (setpoint measurement dtSeconds : ℚ)
    (output : Option ℚ) : Bool × Option PidController × Option ℚ :=
  match controller, output with
  | some c, some _ =>
    if !c.initialized ∨ dtSeconds ≤ 0 then (false, controller, output)
    else
      let error := setpoint - measurement
      let integral := pidClamp (c.integral + error * dtSeconds) c.config.integralMin
        c.config.integralMax
      let derivative := (error - c.previousError) / dtSeconds
      let proportionalTerm := c.config.kp * error
      let integralTerm := c.config.ki * integral
      let derivativeTerm := c.config.kd * derivative
      let unclampedOutput := proportionalTerm + integralTerm + derivativeTerm
      (true, some { c with previousError := error, integral },
        some (pidClamp unclampedOutput c.config.outputMin c.config.outputMax))
  | _, _ => (false, controller, output)

end MotionFirmware.L1.Pid
