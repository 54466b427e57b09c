import MotionFirmware.L4System.Estop
import MotionFirmware.L5Scheduler.PreemptedDevice

/-!
# Status lines after a reported `ESTOP`

The telemetry task takes its snapshot first, drains the responses after the
unlock, and prints the snapshot last. A motion activation in between can
dequeue an `ESTOP`: its response goes out with this drain, and the status line
behind it still shows the old state (`stale_report`).

This is the only way. When no `ESTOP` is dequeued while the loop drains behind
a snapshot without a fault, a status line after the response `OK ESTOP` shows
the fault until a `CLEAR_FAULT` is dequeued (`reports_estop`); and from each
such activation a stale report follows (`reportsEstop_outsideDrain`). The
invariant is `Guarded`: behind the `ESTOP` the fault is latched, and a snapshot
still without it belongs to a loop that ended before the response was queued.
-/
namespace MotionFirmware.L5

open MotionFirmware.Core MotionFirmware.L1.Motion MotionFirmware.L1.Fault MotionFirmware.L1.Telemetry
open MotionFirmware.L1.Parser MotionFirmware.L2.Port MotionFirmware.L3.Messages MotionFirmware.L3.Tasks
open MotionFirmware.L4
open MotionFirmware.L2.FreertosPort (targetBackend)
open LawfulRtosQueue

/-- The loop drains behind a snapshot without a fault. -/
def TelemetryPoint.drainsStale : TelemetryPoint → Bool
  | .draining status _ | .received status _ => !status.faultActive
  | _ => false

/-- The activation dequeued no `CLEAR_FAULT`. -/
def Label.Spares (l : Label) : Prop := ∀ e ∈ l.event?, ∀ c ∈ e.result.dequeued, c.type ≠ .clearFault

instance (l : Label) : Decidable l.Spares :=
  inferInstanceAs (Decidable (∀ e ∈ l.event?, ∀ c ∈ e.result.dequeued, c.type ≠ .clearFault))

/-! ## The invariant behind an `ESTOP` -/

/-- The fault is latched, and what is about to be printed shows it, unless the
drain loop ended with at most `n` responses written. -/
def Guarded (n : Nat) (p : Preempted) : Prop :=
  p.device.fault.faultActive = true ∧
    ∀ status, p.telemetryTask.status? = some status → status.faultActive = true ∨
      p.telemetryTask = .drained status ∧ (responseLines p.device.telemetry.written).length ≤ n

theorem guarded_action {n : Nat} {p : Preempted} (h : Guarded n p) : Guarded n p.action := by
  obtain ⟨d, point⟩ := p
  obtain ⟨hf, hst⟩ := h
  simp only at hf hst
  -- outside `drained` the snapshot has the fault
  have hshows : ∀ status, point.status? = some status → (∀ st, point ≠ .drained st) →
      status.faultActive = true := by
    intro status hs hne
    rcases hst status hs with h | ⟨h, -⟩
    · exact h
    · exact absurd h (hne status)
  cases point with
  | idle => exact ⟨hf, fun _ e => by cases e⟩
  | locked =>
    refine ⟨hf, fun status e => Or.inl ?_⟩
    rw [← Option.some.inj e]; exact hf
  | snapped status =>
    refine ⟨hf, fun status' e => Or.inl ?_⟩
    rw [← Option.some.inj e]; exact hshows status rfl (by simp)
  | draining status message =>
    have hs := hshows status rfl (by simp)
    cases hq : d.replies with
    | nil =>
      simp only [Preempted.action, hq]
      exact ⟨hf, fun status' e => Or.inl (by rw [← Option.some.inj e]; exact hs)⟩
    | cons line rest =>
      simp only [Preempted.action, hq]
      exact ⟨hf, fun status' e => Or.inl (by rw [← Option.some.inj e]; exact hs)⟩
  | received status line =>
    refine ⟨hf, fun status' e => Or.inl ?_⟩
    rw [← Option.some.inj e]; exact hshows status rfl (by simp)
  | drained status => exact ⟨hf, fun _ e => by cases e⟩

theorem guarded_step {n : Nat} {p : Preempted} (w : LongWidth) {grain : Preempted → Preempted}
    (hg : OfActions grain) (hp : p.Inv) (h : Guarded n p) (c : Choice)
    (hclear : (Preempted.step w grain p c).1.Spares) : Guarded n (Preempted.step w grain p c).2 := by
  rcases Preempted.step_cases w grain p c with ⟨locals, he⟩ | ⟨locals, -, he⟩ | ⟨a, hact, -, he⟩
  · rw [he]; exact hg (Guarded n) (fun _ => guarded_action) p h
  · rw [he]; exact h
  · rw [he] at hclear ⊢
    have htel := activation_telemetry w p.device hact
    have hl := Device.latched_step w hp.device h.1 a (hclear _ rfl)
    exact ⟨hl.active, by rw [htel]; exact h.2⟩

theorem guarded_run {n : Nat} {w : LongWidth} {writer : Bool} {grain : Preempted → Preempted}
    (hg : OfActions grain) {p p' : Preempted} {ls : List Label} (hp : p.Inv) (h : Guarded n p)
    (hrun : (preemptedSystem w writer grain).Run p ls p') (hclear : ∀ l ∈ ls, l.Spares) :
    Guarded n p' := by
  refine (preempted_inductive w writer hg).keeps hp h ?_ hrun hclear
  intro q l q' hq hgq hst hspares
  obtain ⟨c, -, rfl, rfl⟩ := LTS.ofStep_step hst
  exact guarded_step w hg hq hgq c hspares

/-! ## The `ESTOP` -/

/-- A motion step that returns `OK` found room for its response. -/
theorem motionStep_ok {d : Device} {deltaMs : UInt32}
    (hok : (d.motionStep deltaMs).1.status = .ok) :
    d.replies.length < APP_TELEMETRY_QUEUE_CAPACITY := by
  unfold Device.motionStep at hok
  split at hok
  · cases hok
  · rename_i c rest hq
    obtain ⟨-, hrep, -⟩ := Device.obey_queues { d with commands := rest } c
    by_contra hfull
    have hno : ((Device.obey { d with commands := rest } c).tick deltaMs).reply (d.response c) =
        (false, (Device.obey { d with commands := rest } c).tick deltaMs) := by
      unfold Device.reply
      rw [if_neg (by rw [Device.tick, hrep]; exact hfull)]
    rw [hno] at hok
    cases hok

/-- The `ESTOP` activation: what it needed, what it queued, and the invariant
after it. -/
theorem estop_step {w : LongWidth} {grain : Preempted → Preempted} {p p' : Preempted} {ch : Choice}
    {e : Event} {c : Command} (hp : p.Inv) (hw : p.device.telemetry.telemetryWriter = true)
    (hst : Preempted.step w grain p ch = (.activation e, p')) (hdq : e.result.dequeued = some c)
    (hc : c.type = .estop) (hok : e.result.status = .ok) :
    (Label.activation e).isMotion = true ∧ p.device.commands.head? = some c ∧
      p.device.replies.length < APP_TELEMETRY_QUEUE_CAPACITY ∧
      (p.telemetryTask.drainsStale = false → Guarded p.responses.length p') := by
  rcases Preempted.step_cases w grain p ch with ⟨locals, he⟩ | ⟨locals, -, he⟩ | ⟨a, -, hfree, he⟩
  · rw [he] at hst; cases hst
  · rw [he] at hst; cases hst; cases hdq
  rw [he] at hst
  cases hst
  obtain ⟨deltaMs, locals, rfl⟩ := Device.taskStep_dequeued hdq
  have hfree := (hfree deltaMs locals rfl).2
  have htel := motionStep_telemetry p.device deltaMs
  obtain ⟨rest, hq, -⟩ := Device.motionStep_dequeued hdq
  have hstop := (Device.motionStep_stopped_iff hp.device deltaMs hq).mpr (Or.inl hc)
  refine ⟨rfl, by rw [hq, List.head?_cons], motionStep_ok hok, fun hfresh => ⟨hstop.1, ?_⟩⟩
  intro status hstatus
  obtain ⟨d, point⟩ := p
  simp only at hfresh hfree hstatus
  cases point with
  | idle => cases hstatus
  | locked => cases hstatus
  | snapped st => cases hfree
  | draining st message =>
    rw [← Option.some.inj hstatus]
    exact Or.inl (by simpa [TelemetryPoint.drainsStale] using hfresh)
  | received st message =>
    rw [← Option.some.inj hstatus]
    exact Or.inl (by simpa [TelemetryPoint.drainsStale] using hfresh)
  | drained st =>
    -- the loop has ended: the response is behind everything written
    refine Or.inr ⟨by rw [Option.some.inj hstatus], ?_⟩
    show (responseLines (Device.motionStep d deltaMs).2.telemetry.written).length ≤ _
    rw [htel, Preempted.responses]
    simp only [List.length_append]
    omega

/-! ## The status line -/

/-- What a snapshot prints. -/
theorem IsSnapshot.line {status : TelemetryStatus} (h : IsSnapshot status) :
    (ShowsFault (snprintf TELEMETRY_LINE_BUFFER_SIZE (statusText status)) ↔
        status.faultActive = true) ∧
      (ShowsFaultState (snprintf TELEMETRY_LINE_BUFFER_SIZE (statusText status)) ↔
        status.faultActive = true) := by
  obtain ⟨d, hd, rfl⟩ := h
  exact d.snapshot_shows hd

/-- A block that writes a status line writes the snapshot of a finished drain. -/
theorem block_status_line {p : Preempted} {line : Text} (hp : p.Inv)
    (hw : p.device.telemetry.telemetryWriter = true) (hline : IsStatusLine line)
    (h : p.block.device.telemetry.written = p.device.telemetry.written ++ [line, ascii "\n"]) :
    ∃ status, p.telemetryTask = .drained status ∧ IsSnapshot status ∧
      line = snprintf TELEMETRY_LINE_BUFFER_SIZE (statusText status) := by
  obtain ⟨d, point⟩ := p
  simp only at hw h
  have hsame : d.telemetry.written ≠ d.telemetry.written ++ [line, ascii "\n"] := by simp
  have hsent : ∀ text, text ∈ responseTexts →
      (telemetrySendLine d.telemetry text).written ≠ d.telemetry.written ++ [line, ascii "\n"] := by
    intro text ht e
    rw [sendLine_written hw] at e
    obtain ⟨rfl, -⟩ := List.cons.inj (List.append_cancel_left e)
    exact (responseTexts_spec text ht).2.2.1 hline
  cases point with
  | idle => exact absurd h hsame
  | locked => exact absurd h hsame
  | snapped status => exact absurd h hsame
  | draining status message =>
    cases hq : d.replies with
    | nil =>
      simp only [Preempted.block, Preempted.action, hq] at h
      exact absurd h hsame
    | cons text rest =>
      simp only [Preempted.block, Preempted.action, hq] at h
      exact absurd h (hsent text (hp.device.known text (by simp [hq])))
  | received status text =>
    exact absurd h (hsent text (hp.inFlight text (by simp [TelemetryPoint.inFlight])))
  | drained status =>
    refine ⟨status, rfl, hp.status status rfl, ?_⟩
    simp only [Preempted.block, Preempted.action, telemetrySendStatus, sendLine_written hw] at h
    exact (List.cons.inj (List.append_cancel_left h)).1.symm

theorem step_status_line {w : LongWidth} {p p' : Preempted} {c : Choice} {l : Label} {line : Text}
    (hp : p.Inv) (hw : p.device.telemetry.telemetryWriter = true)
    (hst : Preempted.step w Preempted.block p c = (l, p')) (hline : IsStatusLine line)
    (h : p'.device.telemetry.written = p.device.telemetry.written ++ [line, ascii "\n"]) :
    ∃ status, p.telemetryTask = .drained status ∧ IsSnapshot status ∧
      line = snprintf TELEMETRY_LINE_BUFFER_SIZE (statusText status) := by
  have hsame : p.device.telemetry.written ≠ p.device.telemetry.written ++ [line, ascii "\n"] := by simp
  rcases Preempted.step_cases w Preempted.block p c with ⟨locals, he⟩ | ⟨locals, -, he⟩ | ⟨a, hact, -, he⟩
  · rw [he] at hst; cases hst
    exact block_status_line hp hw hline h
  · rw [he] at hst; cases hst
    exact absurd h hsame
  · rw [he] at hst; cases hst
    rw [activation_telemetry w p.device hact] at h
    exact absurd h hsame

/-! ## On every backend -/

variable {B : RtosBackend} [RtosApi B]

/-- The next motion activation takes an `ESTOP`, and its response fits. -/
def estopDue (s : Firmware B) : Bool :=
  (nextCommand s).any (fun c => decide (c.type = .estop)) &&
    decide (appTasksTelemetryQueueCount s < APP_TELEMETRY_QUEUE_CAPACITY)

/-- The step does not dequeue an `ESTOP` while the loop drains behind a
snapshot without a fault. -/
def estopOutsideDrain (s : Rtos B) (l : Label) : Bool :=
  !(l.isMotion && estopDue s.firmware && s.telemetryTask.drainsStale)

theorem drainsStale_read (point : TelemetryPoint) : point.read.drainsStale = point.drainsStale := by
  cases point <;> rfl

/-- In the runs of `M`: after the response to an `ESTOP` (the one behind all
responses sent before it) is in the output, and without a `CLEAR_FAULT`
dequeued since, a status line that is written shows the fault. -/
def ReportsEstop (w : LongWidth) (M : LTS (Rtos B) Label) : Prop :=
  ∀ (s₀ s₁ s₂ s s' : Rtos B) (before between : List Label) (e : Event) (c : Command)
    (l : Label) (line : Text), M.init s₀ → M.Run s₀ before s₁ →
    M.step s₁ (.activation e) s₂ → e.result.dequeued = some c → c.type = .estop →
    e.result.status = .ok → M.Run s₂ between s → (∀ l ∈ between, l.Spares) →
    (responseLines s.firmware.telemetry.written)[(before.filterMap (Label.sent w)).length]? =
      some APP_RESPONSE_ESTOP →
    M.step s l s' →
    s'.firmware.telemetry.written = s.firmware.telemetry.written ++ [line, ascii "\n"] →
    IsStatusLine line → ShowsFault line ∧ ShowsFaultState line

variable [LawfulRtos B]

variable (B) in
/-- **No stale report.** -/
theorem reports_estop (w : LongWidth) : ReportsEstop w
    ((rtosSystem B w true telemetryBlock).restrict fun s l => estopOutsideDrain s l = true) := by
  intro s₀ s₁ s₂ s s' before between e c l line h0 hbefore hst hdq hc hok hbetween hclear hout hlast hwritten
    hline
  have hsim := rtos_simulation (B := B) w true (fun _ _ locals h => follows_block h locals)
    ofActions_block
  have hind := preempted_inductive w true ofActions_block
  obtain ⟨p₀, hp0, h⟩ := hsim.init s₀ h0
  obtain ⟨p₁, hrun₁, h₁, hi₁⟩ := hsim.run h hbefore.of_restrict
  obtain ⟨p₂, hst₂, h₂, hi₂⟩ := hsim.step s₁ p₁ _ s₂ ⟨h₁, hi₁⟩ hst.1
  obtain ⟨p, hrun, h, hi⟩ := hsim.run ⟨h₂, hi₂⟩ hbetween.of_restrict
  obtain ⟨p', hst', h', -⟩ := hsim.step s p l s' ⟨h, hi⟩ hlast.1
  obtain ⟨hw₁, hr₁⟩ := preempted_conservation ofActions_block hp0 hrun₁
  obtain ⟨hw, -⟩ := preempted_conservation ofActions_block hp0 ((hrun₁.snoc hst₂).append hrun)
  -- the `ESTOP` was dequeued outside a stale drain
  obtain ⟨hmotion, hhead, hroom, hguard⟩ := estop_step hi₁ hw₁ hst₂ hdq hc hok
  have hcount := count_replies h₁.tracks
  have hdue : estopDue s₁.firmware = true := by
    simp only [estopDue, nextCommand_eq h₁.tracks, hhead, Option.any_some, hc, decide_true, hcount,
      hroom, Bool.and_self]
  have hfresh : p₁.telemetryTask.drainsStale = false := by
    have hC : estopOutsideDrain s₁ (.activation e) = true := hst.2
    rw [estopOutsideDrain, hmotion, hdue] at hC
    rw [← h₁.point, drainsStale_read]
    simpa using hC
  have hg := guarded_run ofActions_block hi₂ (hguard hfresh) hrun hclear
  -- a line that shows the old state would be in front of the response
  rw [h.tracks.telemetry, h'.tracks.telemetry] at hwritten
  obtain ⟨status, hpoint, hsnap, rfl⟩ := step_status_line hi hw hst' hline hwritten
  obtain ⟨hfault, hstate⟩ := hsnap.line
  have hactive : status.faultActive = true := by
    rcases hg.2 status (by rw [hpoint]; rfl) with hs | ⟨-, hle⟩
    · exact hs
    · rw [h.tracks.telemetry, ← hr₁] at hout
      obtain ⟨hlt, -⟩ := List.getElem?_eq_some_iff.mp hout
      omega
  exact ⟨hfault.mpr hactive, hstate.mpr hactive⟩

/-! ## Exactness -/

/-- An `ESTOP` at the head is answered if its response fits. -/
theorem motionStep_estop {d : Device} {c : Command} {rest : List Command} (hq : d.commands = c :: rest)
    (hc : c.type = .estop) (hroom : d.replies.length < APP_TELEMETRY_QUEUE_CAPACITY)
    (deltaMs : UInt32) :
    (d.motionStep deltaMs).1 = ⟨.ok, some c, some APP_RESPONSE_ESTOP⟩ := by
  obtain ⟨-, hrep, -⟩ := Device.obey_queues { d with commands := rest } c
  have hresp : d.response c = APP_RESPONSE_ESTOP := by simp only [Device.response, hc]
  have hsent : (((Device.obey { d with commands := rest } c).tick deltaMs).reply
      APP_RESPONSE_ESTOP).1 = true := by
    unfold Device.reply
    rw [if_pos (by rw [Device.tick, hrep]; exact hroom)]
  simp only [Device.motionStep, hq, hresp, hsent, if_true]

/-- A motion activation takes an `ESTOP` in a stale drain: the response is
sent, and the drain goes on. -/
theorem estop_taken {w : LongWidth} {grain : Preempted → Preempted} {p p' : Preempted} {ch : Choice}
    {l : Label} {c : Command} {rest : List Command} (hst : Preempted.step w grain p ch = (l, p'))
    (hmotion : l.isMotion = true) (hstale : p.telemetryTask.drainsStale = true)
    (hq : p.device.commands = c :: rest) (hc : c.type = .estop)
    (hroom : p.device.replies.length < APP_TELEMETRY_QUEUE_CAPACITY) :
    (∃ e, l = .activation e ∧ e.result = ⟨.ok, some c, some APP_RESPONSE_ESTOP⟩) ∧
      l.sent w = some APP_RESPONSE_ESTOP ∧ p'.telemetryTask = p.telemetryTask := by
  have hfree : p.telemetryTask.holdsMutex = false := by
    cases hp : p.telemetryTask <;> rw [hp] at hstale <;> first | rfl | cases hstale
  rcases Preempted.step_cases w grain p ch with
    ⟨locals, he⟩ | ⟨locals, hheld, -⟩ | ⟨a, ⟨line, locals, rfl⟩ | ⟨deltaMs, locals, rfl⟩, -, he⟩
  · rw [he] at hst; cases hst; cases hmotion
  · rw [hheld] at hfree; cases hfree
  · rw [he] at hst; cases hst; cases hmotion
  · rw [he] at hst
    cases hst
    have hresult := motionStep_estop hq hc hroom deltaMs
    refine ⟨⟨_, rfl, hresult⟩, ?_, rfl⟩
    simp only [Label.sent, Label.event?, Option.bind_some, Device.taskStep, hresult, sentReply,
      parseErrorReply, motionReply, if_true]

/-- The drain loop ends with its snapshot, and with nothing left to write. -/
theorem drain_ends {status : TelemetryStatus} : ∀ (replies : List Text) (p : Preempted) (message : Text),
    p.telemetryTask = .draining status message → p.device.replies = replies →
    ∃ n, (Preempted.block^[n] p).telemetryTask = .drained status ∧
      (Preempted.block^[n] p).device.replies = []
  | [], p, message, hp, hr => by
    have hblock : p.block = { p with telemetryTask := .drained status } := by
      simp only [Preempted.block, Preempted.action, hp, hr]
    refine ⟨1, ?_, ?_⟩
    · rw [Function.iterate_one, hblock]
    · rw [Function.iterate_one, hblock]; exact hr
  | line :: rest, p, message, hp, hr => by
    have hblock : p.block = ⟨{ p.device with
        replies := rest
        telemetry := telemetrySendLine p.device.telemetry line }, .draining status []⟩ := by
      simp only [Preempted.block, Preempted.action, hp, hr]
    obtain ⟨n, hn⟩ := drain_ends rest p.block [] (by rw [hblock]) (by rw [hblock])
    exact ⟨n + 1, hn⟩

theorem stale_drain_ends {p : Preempted} (h : p.telemetryTask.drainsStale = true) :
    ∃ status n, status.faultActive = false ∧
      (Preempted.block^[n] p).telemetryTask = .drained status ∧
      (Preempted.block^[n] p).device.replies = [] := by
  cases hp : p.telemetryTask with
  | draining status message =>
    rw [hp] at h
    obtain ⟨n, hn⟩ := drain_ends _ p message hp rfl
    exact ⟨status, n, by simpa [TelemetryPoint.drainsStale] using h, hn⟩
  | received status line =>
    rw [hp] at h
    have hpoint : p.block.telemetryTask = .draining status [] := by
      simp only [Preempted.block, Preempted.action, hp]
    obtain ⟨n, hn⟩ := drain_ends _ p.block [] hpoint rfl
    exact ⟨status, n + 1, by simpa [TelemetryPoint.drainsStale] using h, hn⟩
  | idle => rw [hp] at h; cases h
  | locked => rw [hp] at h; cases h
  | snapped status => rw [hp] at h; cases h
  | drained status => rw [hp] at h; cases h

section Exactness

variable {w : LongWidth} {C : Rtos B → Label → Prop}

omit [LawfulRtos B] in
theorem telemetry_step (htel : ∀ s locals, C s (.telemetry locals)) (s : Rtos B) :
    ((rtosSystem B w true telemetryBlock).restrict C).step s (.telemetry zeroLocals)
      (telemetryBlock s zeroLocals) := ⟨rfl, htel s zeroLocals⟩

/-- The telemetry task runs for `n` blocks. -/
theorem blocks_run (htel : ∀ s locals, C s (.telemetry locals)) {s : Rtos B} {p : Preempted}
    (h : Follows s p) (hp : p.Inv) (hw : p.device.telemetry.telemetryWriter = true) (n : Nat) :
    let q := Preempted.block^[n] p
    ∃ ls s', ((rtosSystem B w true telemetryBlock).restrict C).Run s ls s' ∧
      (∀ l ∈ ls, l.Spares) ∧ Follows s' q ∧ q.Inv ∧ q.device.telemetry.telemetryWriter = true ∧
      q.responses = p.responses := by
  induction n with
  | zero => exact ⟨[], s, LTS.Run.nil, by simp, h, hp, hw, rfl⟩
  | succ n ih =>
    obtain ⟨ls, s', hrun, hls, h', hp', hw', hr'⟩ := ih
    obtain ⟨hw'', hr''⟩ := responses_step w ofActions_block hp' hw' (.telemetry zeroLocals)
    rw [Function.iterate_succ_apply']
    refine ⟨ls ++ [.telemetry zeroLocals], telemetryBlock s' zeroLocals,
      hrun.snoc (telemetry_step htel s'), ?_, follows_block h' zeroLocals, inv_step w ofActions_block hp' (.telemetry zeroLocals), hw'', ?_⟩
    · intro l hl
      rcases List.mem_append.mp hl with hl | hl
      · exact hls l hl
      · rw [List.mem_singleton.mp hl]
        intro e he
        cases he
    · rw [← hr']
      simpa [Preempted.step, Label.sent, Label.event?] using hr''

/-- The condition is exact: whatever else restricts the activations, once
every status line is right none of them takes an `ESTOP` in a stale drain. -/
theorem reportsEstop_outsideDrain (htel : ∀ s locals, C s (.telemetry locals))
    (h : ReportsEstop w ((rtosSystem B w true telemetryBlock).restrict C))
    {s s' : Rtos B} {l : Label}
    (hs : ((rtosSystem B w true telemetryBlock).restrict C).Reachable s)
    (hst : ((rtosSystem B w true telemetryBlock).restrict C).step s l s') :
    estopOutsideDrain s l = true := by
  by_contra hin
  simp only [estopOutsideDrain, estopDue, Bool.not_eq_true', Bool.not_eq_false, Bool.and_eq_true,
    decide_eq_true_eq] at hin
  obtain ⟨⟨hmotion, hhead, hroom⟩, hstale⟩ := hin
  obtain ⟨s₀, before, h0, hbefore⟩ := hs
  have hsim := rtos_simulation (B := B) w true (fun _ _ locals h => follows_block h locals)
    ofActions_block
  obtain ⟨p₀, hp0, hR⟩ := hsim.init s₀ h0
  obtain ⟨p₁, hrun₁, h₁, hi₁⟩ := hsim.run hR hbefore.of_restrict
  obtain ⟨hw₁, hr₁⟩ := preempted_conservation ofActions_block hp0 hrun₁
  obtain ⟨p₂, hst₂, h₂, hi₂⟩ := hsim.step s p₁ l s' ⟨h₁, hi₁⟩ hst.1
  have hst₂ : Preempted.step w Preempted.block p₁ l.choice = (l, p₂) := hst₂
  -- the `ESTOP` is taken, its response queued
  rw [nextCommand_eq h₁.tracks, Option.any_eq_true] at hhead
  obtain ⟨c, hc, hestop⟩ := hhead
  obtain ⟨rest, hq⟩ := List.head?_eq_some_iff.mp hc
  rw [count_replies h₁.tracks] at hroom
  rw [← drainsStale_read, h₁.point] at hstale
  obtain ⟨⟨e, rfl, hresult⟩, hsent, hpoint⟩ := estop_taken hst₂ hmotion hstale hq
    (of_decide_eq_true hestop) hroom
  obtain ⟨hw₂, hr₂⟩ := responses_step w ofActions_block hi₁ hw₁ (Label.activation e).choice
  rw [hst₂, hr₁, hsent] at hr₂
  rw [hst₂] at hw₂
  -- the drain goes on to its status line
  rw [← hpoint] at hstale
  obtain ⟨status, n, hold, hdrained, hempty⟩ := stale_drain_ends hstale
  obtain ⟨between, t, hbetween, hspares, ht, hit, hwt, hrt⟩ := blocks_run (w := w) htel h₂ hi₂ hw₂ n
  have hsnap : IsSnapshot status := hit.status status (by rw [hdrained]; rfl)
  have hout : (responseLines t.firmware.telemetry.written)[(before.filterMap (Label.sent w)).length]? =
      some APP_RESPONSE_ESTOP := by
    rw [hr₂, Preempted.responses, hdrained, hempty] at hrt
    rw [ht.tracks.telemetry]
    simp only [TelemetryPoint.inFlight, List.append_nil] at hrt
    rw [hrt]
    simp
  have hwritten : (telemetryBlock t zeroLocals).firmware.telemetry.written =
      t.firmware.telemetry.written ++
        [snprintf TELEMETRY_LINE_BUFFER_SIZE (statusText status), ascii "\n"] := by
    rw [(follows_block ht zeroLocals).tracks.telemetry, ht.tracks.telemetry]
    simp only [Preempted.block, Preempted.action, hdrained, telemetrySendStatus, sendLine_written hwt]
  obtain ⟨hshows, -⟩ := h s₀ s s' t (telemetryBlock t zeroLocals) before between e c
    (.telemetry zeroLocals) _ h0 hbefore hst (by rw [hresult]) (of_decide_eq_true hestop) (by rw [hresult])
    hbetween hspares hout (telemetry_step htel t) hwritten (statusText_isStatusLine hsnap.shortName)
  rw [hsnap.line.1, hold] at hshows
  cases hshows

end Exactness

def estopChoice : Choice := .command (some ESTOP_LINE) zeroLocals

/-- An `ESTOP`, dequeued; a snapshot after it, its response, the drain's end. -/
def reportedBefore : Rtos targetBackend := (targetRun telemetryBlock targetStart [estopChoice]).2
def reportedTaken : Rtos targetBackend := (targetRun telemetryBlock reportedBefore [motionChoice]).2
def reportedDrained : Rtos targetBackend :=
  (targetRun telemetryBlock reportedTaken [telemetryChoice, telemetryChoice, telemetryChoice]).2

theorem reports_estop_reported :
    ShowsFault (ascii "T ms=100 state=FAULT x=0.000 y=0.000 fault=1") ∧
      ShowsFaultState (ascii "T ms=100 state=FAULT x=0.000 y=0.000 fault=1") :=
  reports_estop targetBackend .lp64 targetStart reportedBefore reportedTaken reportedDrained
    (telemetryBlock reportedDrained zeroLocals) _ _
    (appTaskStep .lp64 reportedBefore.firmware (.motion APP_SCHEDULER_MOTION_PERIOD_MS zeroLocals)).1
    ⟨.estop, 0, 0, 0⟩ (.telemetry zeroLocals) _ (targetStart_init .lp64 telemetryBlock)
    (targetRun_restrict telemetryBlock estopOutsideDrain _ _ (by decide +kernel))
    ⟨rfl, by decide +kernel⟩ (by decide +kernel) rfl (by decide +kernel)
    (targetRun_restrict telemetryBlock estopOutsideDrain _ _ (by decide +kernel)) (by decide +kernel)
    (by decide +kernel) ⟨rfl, by decide +kernel⟩ (by decide +kernel) (by decide)

/-- A snapshot, then an `ESTOP`, dequeued; its response and the drain's end. -/
def staleBefore : Rtos targetBackend :=
  (targetRun telemetryBlock targetStart [telemetryChoice, estopChoice]).2
def staleTaken : Rtos targetBackend := (targetRun telemetryBlock staleBefore [motionChoice]).2
def staleDrained : Rtos targetBackend :=
  (targetRun telemetryBlock staleTaken [telemetryChoice, telemetryChoice]).2

/-- An `ESTOP` in the middle of a drain behind an old snapshot. -/
theorem stale_report : ¬ ReportsEstop .lp64 (rtosSystem targetBackend .lp64 true telemetryBlock) := by
  intro h
  have hstale := h targetStart staleBefore staleTaken staleDrained (telemetryBlock staleDrained zeroLocals)
    _ _ (appTaskStep .lp64 staleBefore.firmware (.motion APP_SCHEDULER_MOTION_PERIOD_MS zeroLocals)).1
    ⟨.estop, 0, 0, 0⟩ (.telemetry zeroLocals) (ascii "T ms=0 state=IDLE x=0.000 y=0.000 fault=0")
    (targetStart_init .lp64 telemetryBlock) (targetRun_run telemetryBlock _ _) rfl (by decide +kernel) rfl
    (by decide +kernel) (targetRun_run telemetryBlock _ _) (by decide +kernel) (by decide +kernel) rfl
    (by decide +kernel) (by decide)
  have hold : ¬ ShowsFault (ascii "T ms=0 state=IDLE x=0.000 y=0.000 fault=0") := by
    unfold ShowsFault
    decide +kernel
  exact hold hstale.1

end MotionFirmware.L5
