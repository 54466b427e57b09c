import MotionFirmware.L4System.Coherence

/-!
# The fault latch

An active fault stays active until a `CLEAR_FAULT` is dequeued, whatever else
is queued and however time passes. The stage does not move: no command and no
tick changes the motion record at all (`obey_latched`, `latched_step`). A
`MOVE` is answered `ERR FAULT_ACTIVE`; an `ESTOP` can only replace the reason
`LIMIT_EXCEEDED`.
-/
namespace MotionFirmware.L4

open MotionFirmware.Core MotionFirmware.L1.Motion MotionFirmware.L1.Fault MotionFirmware.L1.Telemetry
open MotionFirmware.L1.Parser MotionFirmware.L2.Port MotionFirmware.L2.HostPort
open MotionFirmware.L3.Messages MotionFirmware.L3.Tasks

/-! ## One step under a fault -/

/-- `d'` is still in the fault of `d`, with the stage as it was. -/
structure Device.Latched (d d' : Device) : Prop where
  active : d'.fault.faultActive = true
  motion : d'.motion = d.motion
  reason : d'.fault.currentReason = d.fault.currentReason ∨ d'.fault.currentReason = .estop

namespace Device

variable {d d' d'' : Device}

theorem Latched.refl (h : d.fault.faultActive = true) : d.Latched d := ⟨h, rfl, Or.inl rfl⟩

theorem Latched.trans (h : d.Latched d') (h' : d'.Latched d'') : d.Latched d'' where
  active := h'.active
  motion := h'.motion.trans h.motion
  reason := by
    rcases h'.reason with e | e
    · rw [e]; exact h.reason
    · exact Or.inr e

/-- Under a fault every command but `CLEAR_FAULT` leaves the stage alone. -/
theorem obey_latched (h : d.Safe) (hf : d.fault.faultActive = true) {c : Command}
    (hc : c.type ≠ .clearFault) : d.Latched (d.obey c) := by
  have hstate := h.latched.mp hf
  have hrest := h.motion.rest (by rw [hstate]; decide)
  unfold obey
  cases htype : c.type with
  | move => simp only [hf, if_true]; exact Latched.refl hf
  | stop =>
    refine ⟨hf, ?_, Or.inl rfl⟩
    simp only [motionControllerStop, if_pos hstate]
  | estop => exact ⟨rfl, hrest.halt hstate, Or.inr rfl⟩
  | clearFault => exact absurd htype hc
  | ping => exact Latched.refl hf
  | status => exact Latched.refl hf
  | none => exact Latched.refl hf

theorem tick_latched (h : d.Safe) (hf : d.fault.faultActive = true) (deltaMs : UInt32) :
    d.Latched (d.tick deltaMs) := by
  have hstate := h.latched.mp hf
  exact ⟨hf, update_idle d.motion deltaMs (Or.inl (by rw [hstate]; decide)), Or.inl rfl⟩

theorem motionStep_latched (hd : d.Inv) (hf : d.fault.faultActive = true) (deltaMs : UInt32)
    (hc : ∀ c, (d.motionStep deltaMs).1.dequeued = some c → c.type ≠ .clearFault) :
    d.Latched (d.motionStep deltaMs).2 := by
  unfold motionStep at hc ⊢
  split
  · exact tick_latched hd.safe hf deltaMs
  · rename_i c rest hq
    rw [hq] at hc
    have hsafe := (inv_obey hd hq).safe
    have hpop := obey_latched (hd.safe.pop rest) hf (hc c rfl)
    have hobey : d.Latched (obey { d with commands := rest } c) :=
      ⟨hpop.active, hpop.motion, hpop.reason⟩
    have htick := hobey.trans (tick_latched hsafe hobey.active deltaMs)
    simp only [reply_eq]
    exact ⟨htick.active, htick.motion, htick.reason⟩

theorem commandStep_latched (w : LongWidth) (hf : d.fault.faultActive = true)
    (line : Option CString) : d.Latched (d.commandStep w line).2 := by
  cases line with
  | none => exact Latched.refl hf
  | some line =>
    simp only [commandStep]
    split
    · rw [reply_eq]; exact ⟨hf, rfl, Or.inl rfl⟩
    · split
      · exact ⟨hf, rfl, Or.inl rfl⟩
      · exact Latched.refl hf

theorem latched_step (w : LongWidth) (hd : d.Inv) (hf : d.fault.faultActive = true) (a : Act)
    (hc : ∀ c, (taskStep w d a).1.result.dequeued = some c → c.type ≠ .clearFault) :
    d.Latched (taskStep w d a).2 := by
  cases a with
  | command line locals => exact commandStep_latched w hf line
  | motion deltaMs locals => exact motionStep_latched hd hf deltaMs hc
  | telemetry locals => exact ⟨hf, rfl, Or.inl rfl⟩

/-- A run without `CLEAR_FAULT`. -/
theorem latched_run {w : LongWidth} {writer : Bool} {ls : List Event} (hd : d.Inv)
    (hf : d.fault.faultActive = true) (hrun : (deviceSystem w writer).Run d ls d')
    (hc : ∀ l ∈ ls, ∀ c, l.result.dequeued = some c → c.type ≠ .clearFault) : d.Latched d' := by
  refine (device_inductive w writer).keeps (P := d.Latched) hd (Latched.refl hf) ?_ hrun hc
  intro e l e' he hl hst hcl
  obtain ⟨a, -, rfl, rfl⟩ := LTS.ofStep_step hst
  exact hl.trans (latched_step w he hl.active a hcl)

/-- What a motion step does when it dequeues `c`. -/
theorem motionStep_dequeued {deltaMs : UInt32} {c : Command}
    (h : (d.motionStep deltaMs).1.dequeued = some c) :
    ∃ rest, d.commands = c :: rest ∧ (d.motionStep deltaMs).1.response = some (d.response c) ∧
      (d.motionStep deltaMs).2 =
        (((obey { d with commands := rest } c).tick deltaMs).reply (d.response c)).2 := by
  unfold motionStep at h ⊢
  split at h
  · cases h
  · rename_i c' rest hq
    simp only [Option.some.injEq] at h
    subst h
    exact ⟨rest, hq, rfl, rfl⟩

/-- Only motion steps dequeue. -/
theorem taskStep_dequeued {w : LongWidth} {a : Act} {c : Command}
    (h : (taskStep w d a).1.result.dequeued = some c) : ∃ deltaMs locals, a = .motion deltaMs locals := by
  cases a with
  | motion deltaMs locals => exact ⟨deltaMs, locals, rfl⟩
  | telemetry locals => cases h
  | command line locals =>
    cases line with
    | none => cases h
    | some line =>
      simp only [taskStep, commandStep] at h
      split at h
      · cases h
      · split at h <;> cases h

/-- A `MOVE` dequeued under a fault. -/
theorem move_blocked (hd : d.Inv) (hf : d.fault.faultActive = true) {deltaMs : UInt32} {c : Command}
    (h : (d.motionStep deltaMs).1.dequeued = some c) (htype : c.type = .move) :
    (d.motionStep deltaMs).1.response = some APP_ERROR_FAULT_ACTIVE ∧
      (d.motionStep deltaMs).2.motion = d.motion ∧ (d.motionStep deltaMs).2.fault = d.fault ∧
      (d.motionStep deltaMs).2.stopRequested = d.stopRequested ∧
      (d.motionStep deltaMs).2.telemetry = d.telemetry := by
  obtain ⟨rest, hq, hresp, hstep⟩ := motionStep_dequeued h
  have hr : d.response c = APP_ERROR_FAULT_ACTIVE := by simp [response, htype, hf]
  have ho : obey { d with commands := rest } c = { d with commands := rest } := by
    simp [obey, htype, hf]
  have hidle := (tick_latched hd.safe hf deltaMs).motion
  rw [hresp, hstep, hr, reply_eq, ho]
  exact ⟨rfl, hidle, rfl, rfl, rfl⟩

/-- A `CLEAR_FAULT` dequeued under a fault. -/
theorem clear_releases (hd : d.Inv) (hf : d.fault.faultActive = true) {deltaMs : UInt32} {c : Command}
    (h : (d.motionStep deltaMs).1.dequeued = some c) (htype : c.type = .clearFault) :
    (d.motionStep deltaMs).2.fault = faultManagerClear ∧
      (d.motionStep deltaMs).2.motion = { d.motion with
        status := { d.motion.status with state := .idle } } ∧
      (d.motionStep deltaMs).2.events = ⟨0⟩ := by
  obtain ⟨rest, hq, -, hstep⟩ := motionStep_dequeued h
  have ho : obey { d with commands := rest } c = { d with
      commands := rest
      fault := faultManagerClear
      motion := { d.motion with status := { d.motion.status with state := .idle } }
      stopRequested := false } := by
    simp only [obey, htype, motionControllerClearFault, if_pos (hd.safe.latched.mp hf)]
  have hidle : motionControllerUpdate { d.motion with
      status := { d.motion.status with state := .idle } } deltaMs =
      { d.motion with status := { d.motion.status with state := .idle } } :=
    update_idle _ deltaMs (Or.inl fun e => by cases e)
  have hmotion : (d.motionStep deltaMs).2.motion = { d.motion with
      status := { d.motion.status with state := .idle } } := by
    rw [hstep, reply_eq, ho]; exact hidle
  have hfault : (d.motionStep deltaMs).2.fault = faultManagerClear := by
    rw [hstep, reply_eq, ho]; rfl
  have hstop : (d.motionStep deltaMs).2.stopRequested = false := by
    rw [hstep, reply_eq, ho]; rfl
  refine ⟨hfault, hmotion, ?_⟩
  rw [events, hmotion, hfault, hstop]
  exact eventBits_none

end Device

/-! ## On the host -/

theorem Refines.frame {s s' : Firmware hostBackend} {d d' : Device} (h : Refines s d)
    (h' : Refines s' d') (hm : d'.motion = d.motion) (hf : d'.fault = d.fault)
    (hs : d'.stopRequested = d.stopRequested) (ht : d'.telemetry = d.telemetry) :
    s' = { s with context := { s.context with
      uptimeMs := s'.context.uptimeMs
      commandQueue := s'.context.commandQueue
      telemetryQueue := s'.context.telemetryQueue } } := by
  have he : s'.context.eventGroup = s.context.eventGroup := by
    rw [h.bits, h'.bits, Device.events, Device.events, hm, hf, hs]
  have hmx := h'.mutex.trans h.mutex.symm
  have hmo := h'.tracks.motion.trans (hm.trans h.tracks.motion.symm)
  have hfa := h'.tracks.fault.trans (hf.trans h.tracks.fault.symm)
  have hte := h'.tracks.telemetry.trans (ht.trans h.tracks.telemetry.symm)
  obtain ⟨⟨_, _, _, _, _⟩, _, _, _⟩ := s
  obtain ⟨⟨_, _, _, _, _⟩, _, _, _⟩ := s'
  simp only at he hmx hmo hfa hte
  simp only [he, hmx, hmo, hfa, hte]

/-- The event of a step, taken over to the controller. -/
theorem host_step {w : LongWidth} {writer : Bool} {s s' : Firmware hostBackend} {d : Device} {l : Event}
    (h : Refines s d) (hd : d.Inv) (hst : (hostSystem w writer).step s l s') :
    (Device.taskStep w d l.act).1 = l ∧ Refines s' (Device.taskStep w d l.act).2 := by
  obtain ⟨a, ha, rfl, rfl⟩ := LTS.ofStep_step hst
  obtain ⟨h1, h2⟩ := refines_step w h hd a
  rw [ha]
  exact ⟨h1.symm, h2⟩

/-- **Fault latch.** -/
theorem fault_latch {w : LongWidth} {writer : Bool} {s s' : Firmware hostBackend} {ls : List Event}
    (hs : (hostSystem w writer).Reachable s) (hf : faultManagerIsFaultActive s.fault = true)
    (hrun : (hostSystem w writer).Run s ls s')
    (hclear : ∀ l ∈ ls, ∀ c ∈ l.result.dequeued, c.type ≠ .clearFault) :
    (faultManagerIsFaultActive s'.fault = true ∧ s'.motion.status.state = .fault ∧
      HasBit s'.context.eventGroup APP_EVENT_FAULTED ∧ ¬ HasBit s'.context.eventGroup APP_EVENT_MOVING) ∧
    (s'.motion.status.currentXMilliMm = s.motion.status.currentXMilliMm ∧
      s'.motion.status.currentYMilliMm = s.motion.status.currentYMilliMm ∧
      s'.motion.status.targetXMilliMm = s.motion.status.targetXMilliMm ∧
      s'.motion.status.targetYMilliMm = s.motion.status.targetYMilliMm) ∧
    (faultManagerGetReason s'.fault = faultManagerGetReason s.fault ∨
      faultManagerGetReason s.fault = .limitExceeded ∧ faultManagerGetReason s'.fault = .estop) ∧
    (∀ before l after t t' c, ls = before ++ l :: after → (hostSystem w writer).Run s before t →
      (hostSystem w writer).step t l t' → l.result.dequeued = some c → c.type = .move →
      l.result.response = some APP_ERROR_FAULT_ACTIVE ∧
      t' = { t with context := { t.context with
        uptimeMs := t'.context.uptimeMs
        commandQueue := t'.context.commandQueue
        telemetryQueue := t'.context.telemetryQueue } }) ∧
    ∀ l t c, (hostSystem w writer).step s' l t → l.result.dequeued = some c → c.type = .clearFault →
      faultManagerIsFaultActive t.fault = false ∧ faultManagerGetReason t.fault = .none ∧
      t.motion.status.state = .idle ∧ appTasksGetEvents t = 0 ∧
      t.motion.status.currentXMilliMm = s'.motion.status.currentXMilliMm ∧
      t.motion.status.currentYMilliMm = s'.motion.status.currentYMilliMm := by
  obtain ⟨d, hr, h, hd⟩ := reachable_refines hs
  have hfd := h.fault_active.mp hf
  have hsim := firmware_simulation (B := hostBackend) w writer
  obtain ⟨d', hrun', h', hd'⟩ := hsim.run ⟨h, hd⟩ hrun
  have hl := Device.latched_run hd hfd hrun' hclear
  have hmotion : s'.motion = s.motion := by rw [h'.tracks.motion, hl.motion, h.tracks.motion]
  refine ⟨⟨?_, ?_, ?_, ?_⟩, ?_, ?_, ?_, ?_⟩
  · exact h'.fault_active.mpr hl.active
  · rw [h'.tracks.motion]; exact hd'.safe.latched.mp hl.active
  · exact h'.faulted_bit.mpr hl.active
  · rw [h'.moving_bit, hd'.safe.latched.mp hl.active]; decide
  · rw [hmotion]; exact ⟨rfl, rfl, rfl, rfl⟩
  · -- the reasons a device can latch are `ESTOP` and `LIMIT_EXCEEDED`
    have hne : d.fault.currentReason ≠ .none := hd.safe.reason.1.mp hfd
    have hni := hd.safe.reason.2
    simp only [faultManagerGetReason, h.tracks.fault, h'.tracks.fault]
    rcases hl.reason with e | e
    · exact Or.inl e
    · cases hreason : d.fault.currentReason with
      | none => exact absurd hreason hne
      | invalidCommand => exact absurd hreason hni
      | estop => exact Or.inl e
      | limitExceeded => exact Or.inr ⟨rfl, e⟩
  · intro before l after t t' c hls hbefore hst hc htype
    obtain ⟨e, hrune, he, hed⟩ := hsim.run ⟨h, hd⟩ hbefore
    have hle := Device.latched_run hd hfd hrune fun l' hl' =>
      hclear l' (by rw [hls]; exact List.mem_append_left _ hl')
    obtain ⟨hdev, he'⟩ := host_step he hed hst
    have hdq : (Device.taskStep w e l.act).1.result.dequeued = some c := by rw [hdev]; exact hc
    obtain ⟨deltaMs, locals, hact⟩ := Device.taskStep_dequeued hdq
    rw [hact] at hdev hdq he'
    obtain ⟨hresp, hm, hfa, hsr, hte⟩ := Device.move_blocked hed hle.active hdq htype
    refine ⟨?_, he.frame he' hm hfa hsr hte⟩
    rw [← hdev]; exact hresp
  · intro l t c hst hc htype
    obtain ⟨hdev, ht⟩ := host_step h' hd' hst
    have hdq : (Device.taskStep w d' l.act).1.result.dequeued = some c := by rw [hdev]; exact hc
    obtain ⟨deltaMs, locals, hact⟩ := Device.taskStep_dequeued hdq
    rw [hact] at hdq ht
    obtain ⟨hfa, hm, hev⟩ := Device.clear_releases hd' hl.active hdq htype
    have htf : t.fault = faultManagerClear := ht.tracks.fault.trans hfa
    have htm := ht.tracks.motion.trans hm
    have htb : appTasksGetEvents t = 0 := ht.events.trans hev
    rw [htf, htm, h'.tracks.motion]
    exact ⟨rfl, rfl, rfl, htb, rfl, rfl⟩

/-- The host after an `ESTOP`. -/
def estopTaken : Firmware hostBackend :=
  (hostRun .lp64 [.command (some ⟨ascii "ESTOP", by decide⟩) zeroLocals, .motion 0 zeroLocals]).2

/-- A `MOVE` and time. -/
def moveAndWait : List Act :=
  [.command (some ⟨ascii "MOVE X=1 Y=2 F=3", by decide⟩) zeroLocals, .motion 100 zeroLocals,
    .motion 100 zeroLocals]

theorem fault_latch_move :
    (LTS.exec (appTaskStep .lp64) estopTaken moveAndWait).2.motion.status.state = .fault :=
  (fault_latch (hostRun_reachable .lp64 _) (by decide +kernel)
    (LTS.run_exec (taskStep_act .lp64) moveAndWait estopTaken) (by decide +kernel)).1.2.1

end MotionFirmware.L4
