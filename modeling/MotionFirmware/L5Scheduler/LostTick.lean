import MotionFirmware.L1Modules.TickSplit
import MotionFirmware.L4System.FaultLatch
import MotionFirmware.L5Scheduler.PreemptedDevice

/-!
# Motion ticks under preemption

`app_motion_task_step` takes the state mutex without waiting, and its task
discards the status. An activation that preempts the telemetry task between
its lock and its unlock returns `ERROR_MUTEX` and is lost: no command is
dequeued, the stage does not move, the uptime stands still (`lost_tick`).

When every motion activation finds the mutex free, no tick is lost
(`keeps_time`): the uptime counts the activations, and a move nothing
interrupts is where tick splitting says it is after all of them. No weaker
restriction of the interleavings does (`keepsTime_mutexFree`).
-/
namespace MotionFirmware.L5

open MotionFirmware.Core MotionFirmware.L1.Motion MotionFirmware.L1.Fault MotionFirmware.L1.Telemetry
open MotionFirmware.L1.Parser MotionFirmware.L2.Port MotionFirmware.L3.Messages MotionFirmware.L3.Tasks
open MotionFirmware.L4
open MotionFirmware.L2.FreertosPort (targetBackend)

/-- The time of the motion activations in a trace. -/
def motionMs (ls : List Label) : Nat := APP_SCHEDULER_MOTION_PERIOD_MS.toNat * ls.countP Label.isMotion

/-- Nothing dequeued that starts, stops or replaces a move. -/
def Label.Continues (l : Label) : Prop :=
  ∀ e ∈ l.event?, ∀ c ∈ e.result.dequeued, c.type ≠ .move ∧ c.type ≠ .stop ∧ c.type ≠ .estop

/-! ## One step of the controller -/

theorem commandStep_time (w : LongWidth) (d : Device) (line : Option CString) :
    (d.commandStep w line).2.motion = d.motion ∧ (d.commandStep w line).2.uptimeMs = d.uptimeMs := by
  cases line with
  | none => exact ⟨rfl, rfl⟩
  | some line =>
    simp only [Device.commandStep]
    split
    · rw [Device.reply_eq]; exact ⟨rfl, rfl⟩
    · split <;> exact ⟨rfl, rfl⟩

theorem motionStep_uptime (d : Device) (deltaMs : UInt32) :
    (d.motionStep deltaMs).2.uptimeMs = d.uptimeMs + deltaMs := by
  unfold Device.motionStep
  split
  · rfl
  · rename_i c rest hq
    obtain ⟨-, -, hup, -⟩ := Device.obey_queues { d with commands := rest } c
    rw [Device.reply_eq]
    show (Device.obey { d with commands := rest } c).uptimeMs + deltaMs = _
    rw [hup]

/-- A motion step that takes `c` moves the stage as `c` and the tick do. -/
theorem motionStep_motion {d : Device} {deltaMs : UInt32} {c : Command}
    (h : (d.motionStep deltaMs).1.dequeued = some c) :
    (d.motionStep deltaMs).2.motion = motionControllerUpdate (d.obey c).motion deltaMs := by
  obtain ⟨rest, -, -, he⟩ := Device.motionStep_dequeued h
  rw [he, Device.reply_eq]
  show motionControllerUpdate (Device.obey { d with commands := rest } c).motion deltaMs = _
  congr 1
  unfold Device.obey
  cases c.type <;> simp only
  case move => split <;> [rfl; (split <;> rfl)]
  all_goals rfl

/-- A tick during a move that nothing taken interrupts. -/
theorem motionStep_continues {d : Device} (hstate : d.motion.status.state ≠ .fault) (deltaMs : UInt32)
    (hc : ∀ c ∈ (d.motionStep deltaMs).1.dequeued,
      c.type ≠ .move ∧ c.type ≠ .stop ∧ c.type ≠ .estop) :
    (d.motionStep deltaMs).2.motion = motionControllerUpdate d.motion deltaMs := by
  cases hdq : (d.motionStep deltaMs).1.dequeued with
  | none =>
    unfold Device.motionStep at hdq ⊢
    split at hdq
    · rfl
    · cases hdq
  | some c =>
    obtain ⟨hmove, hstop, hestop⟩ := hc c hdq
    have hobey : (d.obey c).motion = d.motion := by
      unfold Device.obey
      cases htype : c.type with
      | clearFault => simp only [motionControllerClearFault, if_neg hstate]
      | move => exact absurd htype hmove
      | stop => exact absurd htype hstop
      | estop => exact absurd htype hestop
      | ping => rfl
      | status => rfl
      | none => rfl
    rw [motionStep_motion hdq, hobey]

/-! ## One step under preemption -/

/-- A motion activation finds the mutex free. -/
def OnTime (p : Preempted) (l : Label) : Prop :=
  l.isMotion = true → p.telemetryTask.holdsMutex = false

theorem action_time (p : Preempted) : p.action.device.motion = p.device.motion ∧
    p.action.device.uptimeMs = p.device.uptimeMs := by
  obtain ⟨d, point⟩ := p
  cases point with
  | draining status message => cases hq : d.replies <;> simp [Preempted.action, hq]
  | idle => exact ⟨rfl, rfl⟩
  | locked => exact ⟨rfl, rfl⟩
  | snapped status => exact ⟨rfl, rfl⟩
  | received status line => exact ⟨rfl, rfl⟩
  | drained status => exact ⟨rfl, rfl⟩

/-- What a step on time does to the clock and to an uninterrupted stage. -/
theorem step_time {w : LongWidth} {p p' : Preempted} {l : Label}
    (hst : Preempted.step w Preempted.action p l.choice = (l, p')) (hfree : OnTime p l) :
    p'.device.uptimeMs = p.device.uptimeMs + (if l.isMotion then APP_SCHEDULER_MOTION_PERIOD_MS else 0) ∧
      (l.Continues → p.device.motion.status.state ≠ .fault → p'.device.motion =
        if l.isMotion then motionControllerUpdate p.device.motion APP_SCHEDULER_MOTION_PERIOD_MS
        else p.device.motion) := by
  rcases Preempted.step_cases w Preempted.action p l.choice with
    ⟨locals, he⟩ | ⟨locals, hm, he⟩ | ⟨a, ⟨line, locals, rfl⟩ | ⟨deltaMs, locals, rfl⟩, hdelta, he⟩
  all_goals
    rw [he] at hst
    cases hst
  · obtain ⟨h1, h2⟩ := action_time p
    simp [h1, h2, Label.isMotion]
  · exact absurd (hfree rfl) (by rw [hm]; decide)
  · obtain ⟨h1, h2⟩ := commandStep_time w p.device line
    simp [Device.taskStep, h1, h2, Label.isMotion]
  · obtain ⟨rfl, -⟩ := hdelta deltaMs locals rfl
    exact ⟨motionStep_uptime p.device _, fun hc hstate => motionStep_continues hstate _ (hc _ rfl)⟩

/-! ## Runs -/

theorem motionMs_snoc (ls : List Label) (l : Label) :
    motionMs (ls ++ [l]) = motionMs ls + if l.isMotion then 100 else 0 := by
  rw [motionMs, motionMs, List.countP_append, List.countP_singleton]
  split <;> simp [Nat.mul_add, APP_SCHEDULER_MOTION_PERIOD_MS]

/-- The uptime counts the motion activations. -/
theorem uptime_run {w : LongWidth} {writer : Bool} {p₀ p : Preempted} {ls : List Label}
    (h0 : (preemptedSystem w writer Preempted.action).init p₀)
    (hrun : ((preemptedSystem w writer Preempted.action).restrict OnTime).Run p₀ ls p) :
    p.device.uptimeMs.toNat = motionMs ls % 2 ^ 32 := by
  have hinv := (preempted_inductive w writer ofActions_action).restrict OnTime
  refine hinv.history (P := fun ls p => p.device.uptimeMs.toNat = motionMs ls % 2 ^ 32)
    (hinv.init p₀ h0) ?_ ?_ hrun
  · obtain ⟨hd, -⟩ := h0
    have hd : p₀.device = Device.start ⟨writer, []⟩ := hd
    rw [hd]
    rfl
  · intro ls q l q' _ hq hst
    obtain ⟨hst, hfree⟩ := hst
    rw [(step_time hst hfree).1, motionMs_snoc, UInt32.toNat_add, hq]
    split
    · simp [APP_SCHEDULER_MOTION_PERIOD_MS]
    · simp

theorem foldl_update_state {m : MotionController} (h : m.status.state ≠ .fault) :
    ∀ ticks : List UInt32, (ticks.foldl motionControllerUpdate m).status.state ≠ .fault := by
  intro ticks
  induction ticks generalizing m with
  | nil => exact h
  | cons d ticks ih =>
    apply ih
    rcases update_state m d with he | ⟨-, he⟩
    · rw [he]; exact h
    · rw [he]; decide

/-- The stage after `n` motion activations. -/
def afterTicks (m : MotionController) (n : Nat) : MotionController :=
  (List.replicate n APP_SCHEDULER_MOTION_PERIOD_MS).foldl motionControllerUpdate m

theorem afterTicks_succ (m : MotionController) (n : Nat) : afterTicks m (n + 1) =
    motionControllerUpdate (afterTicks m n) APP_SCHEDULER_MOTION_PERIOD_MS := by
  rw [afterTicks, List.replicate_succ', List.foldl_append]
  rfl

/-- An uninterrupted stage gets every tick. -/
theorem move_run {w : LongWidth} {writer : Bool} {p p' : Preempted} {ls : List Label}
    {m : MotionController} {n : Nat} (hp : p.Inv) (hm : p.device.motion = afterTicks m n)
    (hstate : m.status.state ≠ .fault)
    (hrun : ((preemptedSystem w writer Preempted.action).restrict OnTime).Run p ls p')
    (hc : ∀ l ∈ ls, l.Continues) : p'.device.motion = afterTicks m (n + ls.countP Label.isMotion) := by
  have hinv := (preempted_inductive w writer ofActions_action).restrict OnTime
  refine hinv.history_where
    (P := fun ls p => p.device.motion = afterTicks m (n + ls.countP Label.isMotion)) hp hm ?_ hrun hc
  intro ls q l q' _ hq hst hl
  obtain ⟨hst, hfree⟩ := hst
  have hrun : q.device.motion.status.state ≠ .fault := by
    rw [hq]; exact foldl_update_state hstate _
  rw [(step_time hst hfree).2 hl hrun, hq, List.countP_append, List.countP_singleton]
  split
  · rw [← Nat.add_assoc, afterTicks_succ]
  · rfl

/-! ## The move taken off the queue -/

/-- `OK MOVE QUEUED` is the answer to an in-bounds `MOVE` without a fault. -/
theorem response_move_queued {d : Device} {c : Command} (htype : c.type = .move)
    (h : d.response c = APP_RESPONSE_MOVE_QUEUED) :
    ¬ d.fault.faultActive = true ∧ InWorkspace c.xMilliMm c.yMilliMm := by
  have hfault : APP_ERROR_FAULT_ACTIVE ≠ APP_RESPONSE_MOVE_QUEUED := by decide
  have hlimit : APP_ERROR_LIMIT_EXCEEDED ≠ APP_RESPONSE_MOVE_QUEUED := by decide
  simp only [Device.response, htype] at h
  split at h
  · exact absurd h hfault
  · rename_i hf
    split at h
    · rename_i hin; exact ⟨hf, hin⟩
    · exact absurd h hlimit

/-- The activation that takes the move also gives it its first tick. -/
theorem move_step {w : LongWidth} {p p' : Preempted} {ch : Choice} {e : Event} {c : Command}
    (hp : p.Inv) (hst : Preempted.step w Preempted.action p ch = (.activation e, p'))
    (hdq : e.result.dequeued = some c) (htype : c.type = .move)
    (hresp : e.result.response = some APP_RESPONSE_MOVE_QUEUED) :
    (Label.activation e).isMotion = true ∧ ¬ p.device.fault.faultActive = true ∧ Parsed c ∧
      InWorkspace c.xMilliMm c.yMilliMm ∧
      p'.device.motion = afterTicks (motionControllerStartMove p.device.motion c.xMilliMm c.yMilliMm
        c.feedrateMilliMmPerS).2 1 := by
  rcases Preempted.step_cases w Preempted.action p ch with
    ⟨locals, he⟩ | ⟨locals, -, he⟩ | ⟨a, -, hdelta, he⟩
  · rw [he] at hst; cases hst
  · rw [he] at hst; cases hst; cases hdq
  rw [he] at hst
  cases hst
  obtain ⟨deltaMs, locals, rfl⟩ := Device.taskStep_dequeued hdq
  obtain ⟨rfl, -⟩ := hdelta deltaMs locals rfl
  obtain ⟨rest, hq, hr, -⟩ := Device.motionStep_dequeued hdq
  have hqueued : p.device.response c = APP_RESPONSE_MOVE_QUEUED :=
    Option.some.inj (hr.symm.trans hresp)
  obtain ⟨hf, hin⟩ := response_move_queued htype hqueued
  refine ⟨rfl, hf, hp.device.parsed c (by rw [hq]; simp), hin, ?_⟩
  have hm := motionStep_motion hdq
  have hobey : (p.device.obey c).motion = (motionControllerStartMove p.device.motion c.xMilliMm
      c.yMilliMm c.feedrateMilliMmPerS).2 := by
    simp only [Device.obey, htype, hf, Bool.false_eq_true, if_false, if_pos hin]
  rw [hobey] at hm
  exact hm

/-! ## On every backend -/

theorem totalMs_replicate (n : Nat) (d : UInt32) : totalMs (List.replicate n d) = d.toNat * n := by
  simp [totalMs, Nat.mul_comm]

section Backend

variable {B : RtosBackend} [RtosApi B]

/-- No motion activation between the lock and the unlock of the telemetry
task. -/
def mutexFree (s : Rtos B) (l : Label) : Bool := !(l.isMotion && s.telemetryTask.holdsMutex)

/-- In the runs of `M` the motion activations are the clock: of the uptime,
and of a move nothing dequeued later interrupts. -/
structure KeepsTime (M : LTS (Rtos B) Label) : Prop where
  uptime : ∀ (s₀ s : Rtos B) (ls : List Label), M.init s₀ → M.Run s₀ ls s →
    s.firmware.context.uptimeMs.toNat = motionMs ls % 2 ^ 32
  move : ∀ (s₀ s₁ s₂ s : Rtos B) (before after : List Label) (e : Event) (c : Command),
    M.init s₀ → M.Run s₀ before s₁ → M.step s₁ (.activation e) s₂ →
    e.result.dequeued = some c → c.type = .move →
    e.result.response = some APP_RESPONSE_MOVE_QUEUED →
    M.Run s₂ after s → (∀ l ∈ after, l.Continues) →
    MoveOutcome s₁.firmware.motion c.xMilliMm c.yMilliMm c.feedrateMilliMmPerS
      (motionMs (.activation e :: after)) s.firmware.motion

variable [LawfulRtos B]

variable (B) in
/-- **No lost tick.** -/
theorem keeps_time (w : LongWidth) (writer : Bool) : KeepsTime
    ((rtosSystem B w writer telemetryAction).restrict fun s l => mutexFree s l = true) := by
  have hsim := (rtos_simulation (B := B) w writer (fun _ _ locals h => follows_action h locals)
    ofActions_action).restrict (C := fun s l => mutexFree s l = true) (D := OnTime) (by
      intro s p l hR hC hmotion
      rw [hR.1.holdsMutex]
      simpa [mutexFree, hmotion] using hC)
  refine ⟨?_, ?_⟩
  · intro s₀ s ls h0 hrun
    obtain ⟨p₀, hp0, h⟩ := hsim.init s₀ h0
    obtain ⟨p, hrun', h, -⟩ := hsim.run h hrun
    rw [h.tracks.uptime]
    exact uptime_run hp0 hrun'
  · intro s₀ s₁ s₂ s before after e c h0 hbefore hst hdq htype hresp hafter hc
    obtain ⟨p₀, hp0, h⟩ := hsim.init s₀ h0
    obtain ⟨p₁, -, h₁, hi₁⟩ := hsim.run h hbefore
    obtain ⟨p₂, hst₂, h₂⟩ := hsim.step s₁ p₁ _ s₂ ⟨h₁, hi₁⟩ hst
    obtain ⟨p, hrun, h, -⟩ := hsim.run h₂ hafter
    obtain ⟨hmotion, hf, hparsed, hin, hfirst⟩ := move_step hi₁ hst₂.1 hdq htype hresp
    obtain ⟨m, he, -, hm, -⟩ := hi₁.device.safe.move_accepts hparsed htype hf hin
    have hall := move_run h₂.2 hfirst (by rw [he]; exact hm) hrun hc
    have hms : motionMs (.activation e :: after) = totalMs (List.replicate
        (1 + after.countP Label.isMotion) APP_SCHEDULER_MOTION_PERIOD_MS) := by
      rw [totalMs_replicate, motionMs, List.countP_cons_of_pos hmotion, Nat.add_comm]
    rw [h₁.tracks.motion, h.tracks.motion, hall, hms]
    exact move_outcome (hi₁.device.safe.unlatched hf) hi₁.device.safe.motion.current hin
      (hparsed.2 htype) _ (by simp [APP_SCHEDULER_MOTION_PERIOD_MS])

/-- An activation that finds the mutex held leaves the clock alone. -/
theorem locked_step_uptime {w : LongWidth} {writer : Bool} {s s' : Rtos B} {l : Label}
    (hs : (rtosSystem B w writer telemetryAction).Reachable s)
    (hst : (rtosSystem B w writer telemetryAction).step s l s') (hmotion : l.isMotion = true)
    (hlocked : s.telemetryTask.holdsMutex = true) :
    s'.firmware.context.uptimeMs = s.firmware.context.uptimeMs := by
  obtain ⟨p, -, h, -⟩ := (rtos_simulation w writer (fun _ _ locals h => follows_action h locals)
    ofActions_action).reachable hs
  obtain ⟨c, -, rfl, rfl⟩ := LTS.ofStep_step hst
  cases c with
  | command line locals => cases hmotion
  | telemetry locals => cases hmotion
  | motion locals =>
    have hstep := motion_locked (hlocked ▸ h.mutex) APP_SCHEDULER_MOTION_PERIOD_MS locals
    simp only [rtosStep, appTaskStep, hstep]

/-- The condition is exact: whatever else restricts the interleavings, once
they keep time no activation starts inside the critical section. -/
theorem keepsTime_mutexFree {w : LongWidth} {writer : Bool} {C : Rtos B → Label → Prop}
    (h : KeepsTime ((rtosSystem B w writer telemetryAction).restrict C))
    {s s' : Rtos B} {l : Label}
    (hs : ((rtosSystem B w writer telemetryAction).restrict C).Reachable s)
    (hst : ((rtosSystem B w writer telemetryAction).restrict C).step s l s') :
    mutexFree s l = true := by
  by_contra hlost
  simp only [mutexFree, Bool.not_eq_true', Bool.not_eq_false, Bool.and_eq_true] at hlost
  obtain ⟨hmotion, hlocked⟩ := hlost
  obtain ⟨s₀, ls, h0, hrun⟩ := hs
  have hbefore := h.uptime s₀ s ls h0 hrun
  have hafter := h.uptime s₀ s' (ls ++ [l]) h0 (hrun.snoc hst)
  rw [locked_step_uptime ⟨s₀, ls, h0, hrun.of_restrict⟩ hst.1 hmotion hlocked, motionMs_snoc,
    if_pos hmotion] at hafter
  omega

end Backend

/-- Two activations around a critical section. -/
theorem keeps_time_twice :
    (targetRun telemetryAction targetStart [motionChoice, telemetryChoice, telemetryChoice,
      telemetryChoice, motionChoice]).2.firmware.context.uptimeMs.toNat = 200 :=
  ((keeps_time targetBackend .lp64 true).uptime targetStart _ _ (targetStart_init .lp64 telemetryAction)
    (targetRun_restrict telemetryAction mutexFree _ _ (by decide +kernel))).trans (by decide +kernel)

/-- One activation inside a critical section. -/
theorem lost_tick : ¬ KeepsTime (rtosSystem targetBackend .lp64 true telemetryAction) := by
  intro h
  have hup := h.uptime targetStart _ _ (targetStart_init .lp64 telemetryAction)
    (targetRun_run telemetryAction targetStart [telemetryChoice, motionChoice])
  exact absurd hup (by decide +kernel)

end MotionFirmware.L5
