import MotionFirmware.L4System.Conservation
import MotionFirmware.L5Scheduler.Preemption

/-!
# The controller under preemption

The abstract machine for `Preemption`: the controller and the point its
telemetry task is at. A telemetry action changes the replies and the output
only, and a motion activation inside the critical section does nothing.

`rtos_simulation`: each run of the tasks on a lawful backend is a run of
this machine. Its invariant (`Preempted.Inv`) adds to the controller's one
that a status to be printed is the snapshot of a safe state;
`preempted_conservation` counts the responses: written, in flight or queued.
-/
namespace MotionFirmware.L5

open MotionFirmware.Core MotionFirmware.L1.Motion MotionFirmware.L1.Fault MotionFirmware.L1.Telemetry
open MotionFirmware.L1.Parser MotionFirmware.L2.Port MotionFirmware.L3.Messages MotionFirmware.L3.Tasks
open MotionFirmware.L4
open RtosQueueApi RtosMutexApi LawfulRtosQueue LawfulRtosMutex LawfulRtosEventGroup

structure Preempted where
  device : Device
  telemetryTask : TelemetryPoint

namespace Preempted

/-- One telemetry action; a message stands for the line it holds. -/
def action (p : Preempted) : Preempted :=
  match p.telemetryTask with
  | .idle => { p with telemetryTask := .locked }
  | .locked => { p with telemetryTask := .snapped p.device.snapshot }
  | .snapped status => { p with telemetryTask := .draining status [] }
  | .draining status _ =>
    match p.device.replies with
    | [] => { p with telemetryTask := .drained status }
    | line :: rest => ⟨{ p.device with replies := rest }, .received status line⟩
  | .received status line =>
    ⟨{ p.device with telemetry := telemetrySendLine p.device.telemetry line }, .draining status []⟩
  | .drained status =>
    ⟨{ p.device with telemetry := telemetrySendStatus p.device.telemetry status }, .idle⟩

def block (p : Preempted) : Preempted :=
  match p.action.telemetryTask with
  | .locked => p.action.action.action
  | .received _ _ => p.action.action
  | _ => p.action

def step (w : LongWidth) (grain : Preempted → Preempted) (p : Preempted) : Choice → Label × Preempted
  | .command line locals =>
    let r := Device.taskStep w p.device (.command line locals)
    (.activation r.1, { p with device := r.2 })
  | .motion locals =>
    if p.telemetryTask.holdsMutex then
      (.activation ⟨.motion APP_SCHEDULER_MOTION_PERIOD_MS locals, ⟨.errorMutex, none, none⟩⟩, p)
    else
      let r := Device.taskStep w p.device (.motion APP_SCHEDULER_MOTION_PERIOD_MS locals)
      (.activation r.1, { p with device := r.2 })
  | .telemetry locals => (.telemetry locals, grain p)

/-- A step is a telemetry action, a motion activation inside the critical
section, or a step of the controller. -/
theorem step_cases (w : LongWidth) (grain : Preempted → Preempted) (p : Preempted) (c : Choice) :
    (∃ locals, step w grain p c = (.telemetry locals, grain p)) ∨
    (∃ locals, p.telemetryTask.holdsMutex = true ∧ step w grain p c = (.activation
      ⟨.motion APP_SCHEDULER_MOTION_PERIOD_MS locals, ⟨.errorMutex, none, none⟩⟩, p)) ∨
    ∃ a, ((∃ line locals, a = .command line locals) ∨ ∃ deltaMs locals, a = .motion deltaMs locals) ∧
      (∀ deltaMs locals, a = .motion deltaMs locals →
        deltaMs = APP_SCHEDULER_MOTION_PERIOD_MS ∧ p.telemetryTask.holdsMutex = false) ∧
      step w grain p c = (.activation (Device.taskStep w p.device a).1,
        { p with device := (Device.taskStep w p.device a).2 }) := by
  cases c with
  | command line locals =>
    exact Or.inr (Or.inr ⟨.command line locals, Or.inl ⟨line, locals, rfl⟩, by simp, rfl⟩)
  | telemetry locals => exact Or.inl ⟨locals, rfl⟩
  | motion locals =>
    cases hm : p.telemetryTask.holdsMutex with
    | true => exact Or.inr (Or.inl ⟨locals, rfl, by simp only [step, hm, if_true]⟩)
    | false =>
      refine Or.inr (Or.inr ⟨.motion APP_SCHEDULER_MOTION_PERIOD_MS locals, Or.inr ⟨_, _, rfl⟩, ?_, ?_⟩)
      · intro deltaMs locals' h
        cases h
        exact ⟨rfl, rfl⟩
      · simp only [step, hm, Bool.false_eq_true, if_false]

end Preempted

def preemptedSystem (w : LongWidth) (writer : Bool) (grain : Preempted → Preempted) :
    LTS Preempted Label :=
  LTS.ofStep (fun p => (deviceSystem w writer).init p.device ∧ p.telemetryTask = .idle)
    Label.choice (Preempted.step w grain)

/-! ## Refinement -/

/-- The point, with messages read as lines. -/
def TelemetryPoint.read : TelemetryPoint → TelemetryPoint
  | .draining status _ => .draining status []
  | .received status message => .received status (cstr message)
  | point => point

variable {B : RtosBackend} [RtosApi B] [LawfulRtos B]

structure Follows (s : Rtos B) (p : Preempted) : Prop where
  tracks : Tracks s.firmware p.device
  mutex : Held s.firmware.context.stateMutex s.telemetryTask.holdsMutex
  bits : Shows s.firmware.context.eventGroup p.device.events
  point : s.telemetryTask.read = p.telemetryTask

variable {s : Rtos B} {p : Preempted}

theorem Follows.holdsMutex (h : Follows s p) :
    p.telemetryTask.holdsMutex = s.telemetryTask.holdsMutex := by
  rw [← h.point]; cases s.telemetryTask <;> rfl

theorem follows_action (h : Follows s p) (locals : Locals) :
    Follows (telemetryAction s locals) p.action := by
  obtain ⟨firmware, point⟩ := s
  obtain ⟨d, point'⟩ := p
  obtain ⟨ht, hmx, hb, rfl⟩ := h
  simp only at ht hmx hb
  cases point with
  | idle =>
    obtain ⟨hl, hheld⟩ := lock hmx
    simp only [telemetryAction, hl, Bool.not_true, Bool.false_eq_true, if_false]
    exact ⟨ht.withMutex _, hheld, hb, rfl⟩
  | locked =>
    simp only [telemetryAction, tracks_snapshot ht]
    exact ⟨ht, hmx, hb, rfl⟩
  | snapped status =>
    obtain ⟨hu, hfree⟩ := unlock hmx
    simp only [telemetryAction, hu, Bool.not_true, Bool.false_eq_true, if_false]
    exact ⟨ht.withMutex _, hfree, hb, rfl⟩
  | draining status message =>
    rcases tracks_receive ht message with ⟨hempty, hr, htr⟩ | ⟨rest, hreplies, hr, htr⟩
    · simp only [telemetryAction, hr, Preempted.action, TelemetryPoint.read, hempty, Bool.false_eq_true,
        if_false]
      exact ⟨htr, hmx, hb, rfl⟩
    · simp only [telemetryAction, hr, Preempted.action, TelemetryPoint.read, hreplies, if_true]
      exact ⟨htr, hmx, hb, rfl⟩
  | received status message => exact ⟨ht.print (telemetrySendLine · (cstr message)), hmx, hb, rfl⟩
  | drained status => exact ⟨ht.print (telemetrySendStatus · status), hmx, hb, rfl⟩

theorem follows_block (h : Follows s p) (locals : Locals) :
    Follows (telemetryBlock s locals) p.block := by
  have h1 := follows_action h locals
  have h2 := follows_action h1 locals
  have hp := h1.point
  simp only [telemetryBlock, Preempted.block, ← hp]
  cases hs : (telemetryAction s locals).telemetryTask with
  | locked => exact follows_action h2 locals
  | received status message => exact h2
  | idle => exact h1
  | snapped status => exact h1
  | draining status message => exact h1
  | drained status => exact h1

/-- Actions of the code that are actions of the abstract telemetry task. -/
def Refined (grain : Rtos B → Locals → Rtos B) (grain' : Preempted → Preempted) : Prop :=
  ∀ s p locals, Follows s p → Follows (grain s locals) (grain' p)

theorem follows_step (w : LongWidth) {grain : Rtos B → Locals → Rtos B} {grain' : Preempted → Preempted}
    (hg : Refined grain grain') (h : Follows s p)
    (hp : p.device.Inv) (c : Choice) :
    (rtosStep w grain s c).1 = (Preempted.step w grain' p c).1 ∧
      Follows (rtosStep w grain s c).2 (Preempted.step w grain' p c).2 := by
  cases c with
  | telemetry locals => exact ⟨rfl, hg s p locals h⟩
  | command line locals =>
    obtain ⟨h1, h2, h3, h4⟩ := tracks_command w h.tracks line locals
    have hev := p.device.commandStep_events w line
    have hmx := h.mutex
    have hbits := h.bits
    rw [← h3] at hmx
    rw [← h4, ← hev] at hbits
    exact ⟨by simp only [rtosStep, Preempted.step, appTaskStep, Device.taskStep, h1], h2, hmx, hbits, h.point⟩
  | motion locals =>
    have hhold := h.holdsMutex
    cases hm : s.telemetryTask.holdsMutex with
    | true =>
      have hstep := motion_locked (hm ▸ h.mutex) APP_SCHEDULER_MOTION_PERIOD_MS locals
      simp only [rtosStep, Preempted.step, appTaskStep, hstep, hhold, hm, if_true]
      exact ⟨trivial, h⟩
    | false =>
      obtain ⟨h1, h2⟩ := refines_motion h.tracks hp (hm ▸ h.mutex) APP_SCHEDULER_MOTION_PERIOD_MS
        locals
      simp only [rtosStep, Preempted.step, appTaskStep, Device.taskStep, hhold, hm, Bool.false_eq_true,
        if_false, h1, true_and]
      exact ⟨h2.tracks, by rw [hm]; exact h2.mutex, h2.bits, h.point⟩

/-! ## Invariant -/

/-- A status that a safe controller had. -/
def IsSnapshot (status : TelemetryStatus) : Prop := ∃ d : Device, d.Safe ∧ status = d.snapshot

structure Preempted.Inv (p : Preempted) : Prop where
  device : p.device.Inv
  status : ∀ status, p.telemetryTask.status? = some status → IsSnapshot status
  inFlight : ∀ line ∈ p.telemetryTask.inFlight, line ∈ responseTexts

/-- The telemetry task does nothing but actions. -/
def OfActions (grain : Preempted → Preempted) : Prop :=
  ∀ P : Preempted → Prop, (∀ p, P p → P p.action) → ∀ p, P p → P (grain p)

theorem ofActions_action : OfActions Preempted.action := fun _ h => h

theorem ofActions_block : OfActions Preempted.block := by
  intro P h p hp
  have h1 := h p hp
  have h2 := h _ h1
  unfold Preempted.block
  split
  · exact h _ h2
  · exact h2
  · exact h1

/-- Without a snapshot there is nothing to say about it. -/
theorem inv_outside {p : Preempted} (h : p.device.Inv)
    (hp : p.telemetryTask = .idle ∨ p.telemetryTask = .locked) : p.Inv := by
  refine ⟨h, ?_, ?_⟩ <;> rcases hp with hp | hp <;>
    simp [hp, TelemetryPoint.status?, TelemetryPoint.inFlight]

theorem inv_action {p : Preempted} (h : p.Inv) : p.action.Inv := by
  obtain ⟨d, point⟩ := p
  obtain ⟨hd, hst, hfl⟩ := h
  cases point with
  | idle => exact inv_outside hd (Or.inr rfl)
  | locked =>
    refine ⟨hd, fun status e => ?_, fun _ e => by cases e⟩
    exact ⟨d, hd.safe, (Option.some.inj e).symm⟩
  | snapped status => exact ⟨hd, hst, hfl⟩
  | draining status message =>
    obtain ⟨hsafe, hc, hr, hpar, hknown⟩ := hd
    simp only at hr hknown
    cases hq : d.replies with
    | nil =>
      simp only [Preempted.action, hq]
      exact ⟨⟨hsafe, hc, hr, hpar, hknown⟩, hst, fun _ e => by cases e⟩
    | cons line rest =>
      rw [hq] at hr hknown
      simp only [Preempted.action, hq]
      refine ⟨⟨hsafe.frame rfl rfl rfl, hc, ?_, hpar, ?_⟩, hst, ?_⟩
      · simp only [List.length_cons] at hr; show rest.length ≤ _; omega
      · exact fun t ht => hknown t (List.mem_cons_of_mem _ ht)
      · intro t ht
        rw [List.mem_singleton.mp ht]; exact hknown line (by simp)
  | received status line =>
    exact ⟨⟨hd.safe.frame rfl rfl rfl, hd.commands_le, hd.replies_le, hd.parsed, hd.known⟩, hst,
      fun _ e => by cases e⟩
  | drained status =>
    exact inv_outside ⟨hd.safe.frame rfl rfl rfl, hd.commands_le, hd.replies_le, hd.parsed, hd.known⟩
      (Or.inl rfl)

theorem inv_step {p : Preempted} (w : LongWidth) {grain : Preempted → Preempted} (hg : OfActions grain)
    (h : p.Inv) (c : Choice) : (Preempted.step w grain p c).2.Inv := by
  rcases Preempted.step_cases w grain p c with ⟨locals, he⟩ | ⟨locals, -, he⟩ | ⟨a, -, -, he⟩
  · rw [he]; exact hg Preempted.Inv (fun _ => inv_action) p h
  · rw [he]; exact h
  · rw [he]; exact ⟨Device.inv_taskStep w h.device a, h.status, h.inFlight⟩

theorem preempted_inductive (w : LongWidth) (writer : Bool) {grain : Preempted → Preempted}
    (hg : OfActions grain) : (preemptedSystem w writer grain).Inductive Preempted.Inv := by
  refine LTS.inductive_ofStep ?_ fun p c h => inv_step w hg h c
  intro p hinit
  obtain ⟨hd, hp⟩ := hinit
  exact inv_outside ((device_inductive w writer).init p.device hd) (Or.inl hp)

/-! ## Simulation -/

/-- **Refinement under preemption.** -/
theorem rtos_simulation (w : LongWidth) (writer : Bool) {grain : Rtos B → Locals → Rtos B}
    {grain' : Preempted → Preempted} (hr : Refined grain grain') (hg : OfActions grain') :
    (rtosSystem B w writer grain).Simulation (preemptedSystem w writer grain')
      fun s p => Follows s p ∧ p.Inv where
  init := by
    intro s hs
    obtain ⟨firmware, point⟩ := s
    obtain ⟨hinit, hp⟩ := hs
    simp only at hinit hp
    subst hp
    obtain ⟨d, hd, h, -⟩ := (firmware_simulation w writer).init firmware hinit
    exact ⟨⟨d, .idle⟩, ⟨hd, rfl⟩, ⟨h.tracks, h.mutex, h.bits, rfl⟩,
      (preempted_inductive w writer hg).init ⟨d, .idle⟩ ⟨hd, rfl⟩⟩
  step := by
    intro s p l s' hR hst
    obtain ⟨h, hp⟩ := hR
    obtain ⟨c, hc, rfl, rfl⟩ := LTS.ofStep_step hst
    obtain ⟨hl, hs'⟩ := follows_step w hr h hp.device c
    have hpst : Preempted.step w grain' p (rtosStep w grain s c).1.choice =
        ((rtosStep w grain s c).1, (Preempted.step w grain' p c).2) := by rw [hc, hl]
    exact ⟨_, hpst, hs', inv_step w hg hp c⟩

/-! ## Responses -/

/-- Every response sent so far: written, in flight, or queued. -/
def Preempted.responses (p : Preempted) : List Text :=
  responseLines p.device.telemetry.written ++ p.telemetryTask.inFlight ++ p.device.replies

/-- The response an activation sent to the output. -/
def Label.sent (w : LongWidth) (l : Label) : Option Text := l.event?.bind (sentReply w)

theorem IsSnapshot.shortName {status : TelemetryStatus} (h : IsSnapshot status) :
    ShortName (stateName status) := by
  obtain ⟨d, -, rfl⟩ := h
  exact shortName_state d.motion.status.state

theorem responses_action {p : Preempted} (h : p.Inv) (hw : p.device.telemetry.telemetryWriter = true) :
    p.action.device.telemetry.telemetryWriter = true ∧ p.action.responses = p.responses := by
  obtain ⟨d, point⟩ := p
  simp only at hw
  cases point with
  | idle => exact ⟨hw, rfl⟩
  | locked => exact ⟨hw, rfl⟩
  | snapped status => exact ⟨hw, rfl⟩
  | draining status message =>
    cases hq : d.replies with
    | nil => simp [Preempted.action, Preempted.responses, TelemetryPoint.inFlight, hq, hw]
    | cons line rest => simp [Preempted.action, Preempted.responses, TelemetryPoint.inFlight, hq, hw]
  | received status line =>
    obtain ⟨hw', hline⟩ := sendLine_responses hw line
    rw [isResponseLine_known (h.inFlight line (by simp [TelemetryPoint.inFlight])), if_pos rfl] at hline
    refine ⟨hw', ?_⟩
    simp only [Preempted.action, Preempted.responses, TelemetryPoint.inFlight, hline, List.append_nil]
  | drained status =>
    obtain ⟨hw', hsent⟩ := sendStatus_responses hw (h.status status rfl).shortName
    refine ⟨hw', ?_⟩
    simp only [Preempted.action, Preempted.responses, TelemetryPoint.inFlight, hsent]

/-- Only the telemetry task writes. -/
theorem activation_telemetry (w : LongWidth) (d : Device) {a : Act}
    (ha : (∃ line locals, a = .command line locals) ∨ ∃ deltaMs locals, a = .motion deltaMs locals) :
    (Device.taskStep w d a).2.telemetry = d.telemetry := by
  rcases ha with ⟨line, locals, rfl⟩ | ⟨deltaMs, locals, rfl⟩
  · exact commandStep_telemetry w d line
  · exact motionStep_telemetry d deltaMs

theorem activation_replies (w : LongWidth) {d : Device} (hd : d.Inv)
    (hw : d.telemetry.telemetryWriter = true) {a : Act}
    (ha : (∃ line locals, a = .command line locals) ∨ ∃ deltaMs locals, a = .motion deltaMs locals) :
    (Device.taskStep w d a).2.replies = d.replies ++ (sentReply w (Device.taskStep w d a).1).toList := by
  have hr := (step_accounts w hd hw a).replies
  rw [activation_telemetry w d ha, List.append_assoc] at hr
  exact List.append_cancel_left hr

theorem responses_step {p : Preempted} (w : LongWidth) {grain : Preempted → Preempted}
    (hg : OfActions grain) (h : p.Inv) (hw : p.device.telemetry.telemetryWriter = true) (c : Choice) :
    (Preempted.step w grain p c).2.device.telemetry.telemetryWriter = true ∧
      (Preempted.step w grain p c).2.responses =
        p.responses ++ ((Preempted.step w grain p c).1.sent w).toList := by
  rcases Preempted.step_cases w grain p c with ⟨locals, he⟩ | ⟨locals, -, he⟩ | ⟨a, hact, -, he⟩
  · obtain ⟨-, h1, h2⟩ := hg (fun q => q.Inv ∧ q.device.telemetry.telemetryWriter = true ∧
      q.responses = p.responses) (fun q ⟨hq, hqw, hqr⟩ =>
        ⟨inv_action hq, (responses_action hq hqw).1, (responses_action hq hqw).2.trans hqr⟩) p ⟨h, hw, rfl⟩
    rw [he]
    exact ⟨h1, by simpa [Label.sent, Label.event?] using h2⟩
  · rw [he]
    refine ⟨hw, ?_⟩
    simp [Label.sent, Label.event?, sentReply, parseErrorReply, motionReply]
  · have h1 := activation_telemetry w p.device hact
    have h2 := activation_replies w h.device hw hact
    rw [he]
    refine ⟨by simp only [h1, hw], ?_⟩
    simp only [Preempted.responses, h1, h2, Label.sent, Label.event?, Option.bind_some, List.append_assoc]

/-- Under preemption too, every response sent is written once, in order, or
still on its way. -/
theorem preempted_conservation {w : LongWidth} {grain : Preempted → Preempted} (hg : OfActions grain)
    {p₀ p : Preempted} {ls : List Label} (h0 : (preemptedSystem w true grain).init p₀)
    (hrun : (preemptedSystem w true grain).Run p₀ ls p) :
    p.device.telemetry.telemetryWriter = true ∧ p.responses = ls.filterMap (Label.sent w) := by
  refine (preempted_inductive w true hg).history
    (P := fun ls p => p.device.telemetry.telemetryWriter = true ∧
      p.responses = ls.filterMap (Label.sent w))
    ((preempted_inductive w true hg).init p₀ h0) ?_ ?_ hrun
  · obtain ⟨d, point⟩ := p₀
    obtain ⟨hd, hp⟩ := h0
    simp only at hd hp
    have hd : d = Device.start ⟨true, []⟩ := hd
    rw [hd, hp]
    exact ⟨rfl, rfl⟩
  · intro ls p l p' hp hP hst
    obtain ⟨hw, hr⟩ := hP
    obtain ⟨c, -, rfl, rfl⟩ := LTS.ofStep_step hst
    obtain ⟨h1, h2⟩ := responses_step w hg hp hw c
    exact ⟨h1, by rw [LTS.filterMap_snoc, h2, hr]⟩

end MotionFirmware.L5
