import MotionFirmware.Core.LTS
import MotionFirmware.L1Modules.PidController

/-!
# The response of the PID controller

`pidSystem config`: the controller after `pid_controller_init`, under any
sequence of resets and updates. Outputs and integrals stay within their limits
for any gains (`pid_bounded`). Without a derivative term and with gains that
are not negative, a run with the larger errors has the larger integrals and
outputs (`pi_response`): each update keeps the order of the integrals through
both clamps, whether one of them saturates or not.
-/
namespace MotionFirmware.L1.Pid

open MotionFirmware.Core

/-! ## The clamp -/

section Clamp

variable {value value' minimum maximum : ℚ}

theorem pidClamp_eq (h : minimum ≤ maximum) :
    pidClamp value minimum maximum = max minimum (min value maximum) := by
  unfold pidClamp
  split
  · rename_i hlow
    rw [min_eq_left (hlow.le.trans h), max_eq_left hlow.le]
  · rename_i hlow
    have hlow := not_lt.mp hlow
    split
    · rename_i hhigh
      rw [min_eq_right hhigh.le, max_eq_right h]
    · rename_i hhigh
      rw [min_eq_left (not_lt.mp hhigh), max_eq_right hlow]

theorem pidClamp_mem (h : minimum ≤ maximum) :
    minimum ≤ pidClamp value minimum maximum ∧ pidClamp value minimum maximum ≤ maximum := by
  rw [pidClamp_eq h]
  exact ⟨le_max_left _ _, max_le h (min_le_right _ _)⟩

theorem pidClamp_mono (h : minimum ≤ maximum) (hle : value ≤ value') :
    pidClamp value minimum maximum ≤ pidClamp value' minimum maximum := by
  rw [pidClamp_eq h, pidClamp_eq h]
  exact max_le_max_left _ (min_le_min_right _ hle)

end Clamp

/-! ## Calls -/

/-- A call with valid pointers; `output` is what the caller's object holds. -/
inductive PidCall where
  | reset
  | update (setpoint measurement dtSeconds output : ℚ)
  deriving DecidableEq, Repr

/-- No rejected update. -/
def PidCall.accepted : PidCall → Bool
  | .reset => true
  | .update _ _ dtSeconds _ => 0 < dtSeconds

/-- A call made: its result, the output object of an update after it, and the
integral after it. -/
structure PidEvent where
  call : PidCall
  ok : Bool
  output : Option ℚ
  integral : ℚ
  deriving DecidableEq, Repr

def pidStep (c : PidController) : PidCall → PidEvent × PidController
  | .reset =>
    let r := pidControllerReset (some c)
    let c' := r.2.getD c
    (⟨.reset, r.1, none, c'.integral⟩, c')
  | .update setpoint measurement dtSeconds output =>
    let r := pidControllerUpdate (some c) setpoint measurement dtSeconds (some output)
    let c' := r.2.1.getD c
    (⟨.update setpoint measurement dtSeconds output, r.1, r.2.2, c'.integral⟩, c')

theorem pidStep_call (c : PidController) (call : PidCall) : (pidStep c call).1.call = call := by
  cases call <;> rfl

/-- After `pid_controller_init` of anything, with an accepted configuration. -/
def pidSystem (config : PidConfig) : LTS PidController PidEvent :=
  LTS.ofStep (fun c => ∃ c₀, pidControllerInit (some c₀) (some config) = (true, some c)) PidEvent.call
    pidStep

/-- A configuration that `pid_controller_init` accepted. -/
structure PidConfig.Valid (config : PidConfig) : Prop where
  output : config.outputMin ≤ config.outputMax
  integral : config.integralMin ≤ config.integralMax

/-- The controller runs with this configuration. -/
structure Runs (config : PidConfig) (c : PidController) : Prop where
  config_eq : c.config = config
  initialized : c.initialized = true
  valid : config.Valid

theorem pidConfigIsValid_iff (config : PidConfig) :
    pidConfigIsValid (some config) = true ↔ config.Valid := by
  simp only [pidConfigIsValid, pidRangeIsValid, Bool.and_eq_true, decide_eq_true_eq]
  exact ⟨fun h => ⟨h.1, h.2⟩, fun h => ⟨h.output, h.integral⟩⟩

/-- `pid_controller_init` of a controller. -/
theorem pidControllerInit_ok {c₀ c : PidController} {config : PidConfig}
    (h : pidControllerInit (some c₀) (some config) = (true, some c)) :
    config.Valid ∧ c = ⟨config, 0, 0, true⟩ := by
  unfold pidControllerInit at h
  simp only at h
  split at h
  · rename_i hvalid
    cases h
    exact ⟨(pidConfigIsValid_iff config).mp hvalid, rfl⟩
  · cases h

/-! ## One call -/

/-- The integral after an update. -/
def nextIntegral (c : PidController) (error dtSeconds : ℚ) : ℚ :=
  pidClamp (c.integral + error * dtSeconds) c.config.integralMin c.config.integralMax

/-- The output of an update. -/
def response (c : PidController) (error dtSeconds : ℚ) : ℚ :=
  pidClamp (c.config.kp * error + c.config.ki * nextIntegral c error dtSeconds +
    c.config.kd * ((error - c.previousError) / dtSeconds)) c.config.outputMin c.config.outputMax

/-- An update with `dt <= 0` changes nothing. -/
theorem pidControllerUpdate_rejected {dtSeconds : ℚ} (hdt : dtSeconds ≤ 0)
    (controller : Option PidController) (setpoint measurement : ℚ) (output : Option ℚ) :
    pidControllerUpdate controller setpoint measurement dtSeconds output =
      (false, controller, output) := by
  unfold pidControllerUpdate
  split
  · rw [if_pos (Or.inr hdt)]
  · rfl

section Step

variable {config : PidConfig} {c c' : PidController} {setpoint measurement dtSeconds output : ℚ}

theorem pidStep_rejected {call : PidCall} (c : PidController) (h : call.accepted = false) :
    (pidStep c call).2 = c := by
  cases call with
  | reset => cases h
  | update setpoint measurement dtSeconds output =>
    have hdt : dtSeconds ≤ 0 := not_lt.mp (of_decide_eq_false h)
    simp only [pidStep, pidControllerUpdate_rejected hdt, Option.getD_some]

theorem pidStep_reset (h : c.initialized = true) :
    pidStep c .reset = (⟨.reset, true, none, 0⟩, { c with previousError := 0, integral := 0 }) := by
  simp only [pidStep, pidControllerReset, if_pos h, Option.getD_some]

theorem pidStep_update (h : c.initialized = true) (hdt : 0 < dtSeconds) :
    pidStep c (.update setpoint measurement dtSeconds output) =
      (⟨.update setpoint measurement dtSeconds output, true,
        some (response c (setpoint - measurement) dtSeconds),
        nextIntegral c (setpoint - measurement) dtSeconds⟩,
      { c with
        previousError := setpoint - measurement
        integral := nextIntegral c (setpoint - measurement) dtSeconds }) := by
  have hgo : ¬ ((!c.initialized) = true ∨ dtSeconds ≤ 0) := by
    rw [h]
    simpa using hdt
  simp only [pidStep, pidControllerUpdate, if_neg hgo, Option.getD_some]
  rfl

/-- The call succeeded, and after an update the output and the integral are
within their limits. -/
structure PidEvent.Bounded (config : PidConfig) (e : PidEvent) : Prop where
  ok : e.ok = true
  update : e.call ≠ .reset → ∃ output, e.output = some output ∧
    (config.outputMin ≤ output ∧ output ≤ config.outputMax) ∧
    config.integralMin ≤ e.integral ∧ e.integral ≤ config.integralMax

theorem Runs.start {c₀ : PidController}
    (h : pidControllerInit (some c₀) (some config) = (true, some c)) : Runs config c := by
  obtain ⟨hvalid, rfl⟩ := pidControllerInit_ok h
  exact ⟨rfl, rfl, hvalid⟩

theorem Runs.step (h : Runs config c) (call : PidCall) : Runs config (pidStep c call).2 ∧
    (call.accepted = true → (pidStep c call).1.Bounded config) := by
  cases call with
  | reset =>
    rw [pidStep_reset h.initialized]
    exact ⟨⟨h.config_eq, h.initialized, h.valid⟩, fun _ => ⟨rfl, fun hne => absurd rfl hne⟩⟩
  | update setpoint measurement dtSeconds output =>
    by_cases hdt : 0 < dtSeconds
    · rw [pidStep_update h.initialized hdt]
      refine ⟨⟨h.config_eq, h.initialized, h.valid⟩, fun _ => ⟨rfl, fun _ => ⟨_, rfl, ?_, ?_⟩⟩⟩
      · rw [response, h.config_eq]; exact pidClamp_mem h.valid.output
      · rw [nextIntegral, h.config_eq]; exact pidClamp_mem h.valid.integral
    · have hno : (PidCall.update setpoint measurement dtSeconds output).accepted = false :=
        decide_eq_false hdt
      rw [pidStep_rejected c hno, hno]
      exact ⟨h, fun e => by cases e⟩

/-! ## Two calls -/

/-- Two resets, or two updates over the same time of which the first has the
larger error. -/
inductive PidCall.Above : PidCall → PidCall → Prop
  | reset : Above .reset .reset
  | update {setpoint measurement setpoint' measurement' dtSeconds output output' : ℚ} :
      0 < dtSeconds → setpoint' - measurement' ≤ setpoint - measurement →
      Above (.update setpoint measurement dtSeconds output)
        (.update setpoint' measurement' dtSeconds output')

/-- The first call left the larger integral, and gave the larger output. -/
structure PidEvent.Above (e e' : PidEvent) : Prop where
  integral : e'.integral ≤ e.integral
  update : e.call ≠ .reset → ∃ output output', e.output = some output ∧
    e'.output = some output' ∧ output' ≤ output

theorem nextIntegral_mono {error error' : ℚ} (h : Runs config c) (h' : Runs config c')
    (hle : c'.integral ≤ c.integral) (hdt : 0 < dtSeconds) (herror : error' ≤ error) :
    nextIntegral c' error' dtSeconds ≤ nextIntegral c error dtSeconds := by
  unfold nextIntegral
  rw [h.config_eq, h'.config_eq]
  apply pidClamp_mono h.valid.integral
  exact add_le_add hle (mul_le_mul_of_nonneg_right herror hdt.le)

/-- Without a derivative term the output grows with the error and the integral. -/
theorem response_mono {error error' : ℚ} (h : Runs config c) (h' : Runs config c')
    (hkp : 0 ≤ config.kp) (hki : 0 ≤ config.ki) (hkd : config.kd = 0)
    (hle : c'.integral ≤ c.integral) (hdt : 0 < dtSeconds) (herror : error' ≤ error) :
    response c' error' dtSeconds ≤ response c error dtSeconds := by
  have hintegral := nextIntegral_mono h h' hle hdt herror
  unfold response
  rw [h.config_eq, h'.config_eq, hkd, zero_mul, zero_mul, add_zero, add_zero]
  apply pidClamp_mono h.valid.output
  exact add_le_add (mul_le_mul_of_nonneg_left herror hkp) (mul_le_mul_of_nonneg_left hintegral hki)

/-- One step of each run keeps the order. -/
theorem pidStep_above (h : Runs config c) (h' : Runs config c') (hkp : 0 ≤ config.kp)
    (hki : 0 ≤ config.ki) (hkd : config.kd = 0) (hle : c'.integral ≤ c.integral)
    {call call' : PidCall} (hcall : call.Above call') :
    (pidStep c call).1.Above (pidStep c' call').1 ∧
      (pidStep c' call').2.integral ≤ (pidStep c call).2.integral := by
  cases hcall with
  | reset =>
    rw [pidStep_reset h.initialized, pidStep_reset h'.initialized]
    exact ⟨⟨le_rfl, fun hne => absurd rfl hne⟩, le_rfl⟩
  | update hdt herror =>
    rw [pidStep_update h.initialized hdt, pidStep_update h'.initialized hdt]
    have hintegral := nextIntegral_mono h h' hle hdt herror
    have houtput := response_mono h h' hkp hki hkd hle hdt herror
    exact ⟨⟨hintegral, fun _ => ⟨_, _, rfl, rfl, houtput⟩⟩, hintegral⟩

end Step

/-! ## Runs -/

theorem pid_inductive (config : PidConfig) : (pidSystem config).Inductive (Runs config) := by
  refine LTS.inductive_ofStep ?_ ?_
  · intro c hinit
    obtain ⟨c₀, hinit⟩ := hinit
    exact Runs.start hinit
  · intro c call h
    exact (h.step call).1

/-- Every update of a run that is not rejected succeeds, within the limits,
whatever the gains. -/
theorem pid_bounded {config : PidConfig} {c c' : PidController} {ls : List PidEvent}
    (hc : Runs config c) (hrun : (pidSystem config).Run c ls c') :
    ∀ e ∈ ls, e.call.accepted = true → e.Bounded config := by
  refine (pid_inductive config).forall_steps hc ?_ hrun
  intro c e c' h hst haccepted
  obtain ⟨call, hcall, rfl, -⟩ := LTS.ofStep_step hst
  rw [hcall] at haccepted
  exact (h.step call).2 haccepted

/-- A run and the same run without the rejected updates. -/
theorem pid_run_accepted (c : PidController) (calls : List PidCall) :
    LTS.exec pidStep c (calls.filter PidCall.accepted) =
      ((LTS.exec pidStep c calls).1.filter fun e => e.call.accepted, (LTS.exec pidStep c calls).2) :=
  LTS.exec_filter pidStep_call (fun c _ hno => pidStep_rejected c hno) calls c

/-- **The PI response is bounded and keeps the order of the errors.** Rejected
updates may stand anywhere in either run. -/
theorem pi_response {config : PidConfig} {c c' : PidController} (hc : (pidSystem config).init c)
    (hc' : (pidSystem config).init c') (hkp : 0 ≤ config.kp) (hki : 0 ≤ config.ki)
    (hkd : config.kd = 0) {calls calls' : List PidCall}
    (hcalls : List.Forall₂ PidCall.Above (calls.filter PidCall.accepted)
      (calls'.filter PidCall.accepted)) :
    let r := LTS.exec pidStep c calls
    let r' := LTS.exec pidStep c' calls'
    List.Forall₂ PidEvent.Above (r.1.filter fun e => e.call.accepted)
      (r'.1.filter fun e => e.call.accepted) ∧
    (∀ e ∈ r.1, e.call.accepted = true → e.Bounded config) ∧
    (∀ e ∈ r'.1, e.call.accepted = true → e.Bounded config) ∧
    (LTS.exec pidStep c (calls.filter PidCall.accepted) =
        (r.1.filter fun e => e.call.accepted, r.2) ∧
      LTS.exec pidStep c' (calls'.filter PidCall.accepted) =
        (r'.1.filter fun e => e.call.accepted, r'.2)) ∧
    ∀ controller setpoint measurement dtSeconds output, dtSeconds ≤ 0 →
      pidControllerUpdate controller setpoint measurement dtSeconds output =
        (false, controller, output) := by
  intro r r'
  have hruns := (pid_inductive config).init c hc
  have hruns' := (pid_inductive config).init c' hc'
  have hstart : c'.integral ≤ c.integral := by
    obtain ⟨c₀, hinit⟩ := hc
    obtain ⟨c₀', hinit'⟩ := hc'
    rw [(pidControllerInit_ok hinit).2, (pidControllerInit_ok hinit').2]
  -- the two runs side by side, without the rejected updates
  obtain ⟨hevents, -⟩ := LTS.exec_related (f := pidStep) (g := pidStep)
    (R := fun c c' => Runs config c ∧ Runs config c' ∧ c'.integral ≤ c.integral)
    (O := PidEvent.Above)
    (by
      intro c c' call call' hR hcall
      obtain ⟨h, h', hle⟩ := hR
      obtain ⟨hevent, hnext⟩ := pidStep_above h h' hkp hki hkd hle hcall
      exact ⟨hevent, (h.step call).1, (h'.step call').1, hnext⟩)
    ⟨hruns, hruns', hstart⟩ hcalls
  rw [pid_run_accepted c calls, pid_run_accepted c' calls'] at hevents
  exact ⟨hevents, pid_bounded hruns (LTS.run_exec pidStep_call calls c),
    pid_bounded hruns' (LTS.run_exec pidStep_call calls' c'),
    ⟨pid_run_accepted c calls, pid_run_accepted c' calls'⟩,
    fun controller setpoint measurement _ output hdt =>
      pidControllerUpdate_rejected hdt controller setpoint measurement output⟩

/-- The integral of the first run saturates, the one of the second does not;
one rejected update each, at different places. -/
theorem pi_response_saturated :
    let config : PidConfig := ⟨2, 1, 0, -5, 5, -2, 2⟩
    let c : PidController := ⟨config, 0, 0, true⟩
    List.Forall₂ PidEvent.Above
      ((LTS.exec pidStep c [.update 1 0 (-1) 7, .update 3 0 1 0, .update 1 2 (1 / 2) 0]).1.filter
        fun e => e.call.accepted)
      ((LTS.exec pidStep c [.update 1 0 1 0, .update 0 2 (1 / 2) 0, .update 9 0 0 7]).1.filter
        fun e => e.call.accepted) := by
  intro config c
  have hinit : (pidSystem config).init c := ⟨c, by decide +kernel⟩
  have hcalls : List.Forall₂ PidCall.Above
      (([.update 1 0 (-1) 7, .update 3 0 1 0, .update 1 2 (1 / 2) 0] : List PidCall).filter
        PidCall.accepted)
      (([.update 1 0 1 0, .update 0 2 (1 / 2) 0, .update 9 0 0 7] : List PidCall).filter
        PidCall.accepted) := by
    have h1 : ([.update 1 0 (-1) 7, .update 3 0 1 0, .update 1 2 (1 / 2) 0] : List PidCall).filter
        PidCall.accepted = [.update 3 0 1 0, .update 1 2 (1 / 2) 0] := by decide +kernel
    have h2 : ([.update 1 0 1 0, .update 0 2 (1 / 2) 0, .update 9 0 0 7] : List PidCall).filter
        PidCall.accepted = [.update 1 0 1 0, .update 0 2 (1 / 2) 0] := by decide +kernel
    rw [h1, h2]
    exact .cons (.update (by decide +kernel) (by decide +kernel))
      (.cons (.update (by decide +kernel) (by decide +kernel)) .nil)
  exact (pi_response hinit hinit (by decide +kernel) (by decide +kernel) rfl hcalls).1

end MotionFirmware.L1.Pid
