import MotionFirmware.L4System.FaultLatch

/-!
# When `ESTOP` takes effect

`ESTOP` travels through the command queue like any other command, and a motion
step takes one command. So the motion step after it stops the stage with
reason `ESTOP` exactly when the command at the head of the queue is an `ESTOP`
(the new one, if nothing waited), or the reason was `ESTOP` already and the
head does not clear it (`estop_at_once_iff`). Behind a waiting `PING` it does
nothing yet (`estop_behind_ping`).
-/
namespace MotionFirmware.L4

open MotionFirmware.Core MotionFirmware.L1.Motion MotionFirmware.L1.Fault MotionFirmware.L1.Telemetry
open MotionFirmware.L1.Parser MotionFirmware.L2.Port MotionFirmware.L2.HostPort
open MotionFirmware.L3.Messages MotionFirmware.L3.Tasks
open RtosQueueApi LawfulRtosQueue

theorem estop_nul_free : 0 ∉ ascii "ESTOP" := by decide

def ESTOP_LINE : CString := ⟨ascii "ESTOP", estop_nul_free⟩

theorem parse_estop (w : LongWidth) : Device.parse w ESTOP_LINE = (.ok, ⟨.estop, 0, 0, 0⟩) := by
  cases w <;> decide +kernel

theorem nextCommand_eq {B : RtosBackend} [RtosApi B] [LawfulRtos B] {s : Firmware B}
    {d : Device} (h : Tracks s d) : nextCommand s = d.commands.head? := by
  have hq := h.commands
  unfold nextCommand
  cases hc : d.commands with
  | nil =>
    rw [hc, List.map_nil] at hq
    simp only [receive_empty [] hq, Bool.false_eq_true, if_false, List.head?_nil]
  | cons c rest =>
    rw [hc, List.map_cons] at hq
    obtain ⟨h1, h2, -⟩ := receive [] hq
    simp only [h1, if_true, h2, decodeCommand_encodeCommand, List.head?_cons]

/-! ## One command -/

namespace Device

variable {d : Device}

/-- The stage is stopped where `d` had it, with reason `ESTOP`. -/
def Stopped (d d' : Device) : Prop :=
  d'.fault.faultActive = true ∧ d'.fault.currentReason = .estop ∧ d'.motion.status.state = .fault ∧
    d'.motion.status.currentXMilliMm = d.motion.status.currentXMilliMm ∧
    d'.motion.status.currentYMilliMm = d.motion.status.currentYMilliMm

theorem obey_estop {c : Command} (h : c.type = .estop) : d.Stopped (d.obey c) := by
  unfold obey
  rw [h]
  exact ⟨rfl, rfl, rfl, rfl, rfl⟩

/-- Only an `ESTOP`, or nothing that clears it, leaves the reason at `ESTOP`. -/
theorem obey_reason {c : Command} (h : (d.obey c).fault.faultActive = true)
    (hr : (d.obey c).fault.currentReason = .estop) :
    c.type = .estop ∨ d.fault.currentReason = .estop ∧ c.type ≠ .clearFault := by
  unfold obey at h hr
  cases htype : c.type with
  | estop => exact Or.inl rfl
  | clearFault => rw [htype] at h; cases h
  | move =>
    simp only [htype] at hr
    split at hr
    · exact Or.inr ⟨hr, by decide⟩
    · split at hr
      · exact Or.inr ⟨hr, by decide⟩
      · simp [latch, faultManagerSetFault] at hr
  | ping => rw [htype] at hr; exact Or.inr ⟨hr, by decide⟩
  | status => rw [htype] at hr; exact Or.inr ⟨hr, by decide⟩
  | stop => rw [htype] at hr; exact Or.inr ⟨hr, by decide⟩
  | none => rw [htype] at hr; exact Or.inr ⟨hr, by decide⟩

/-- The tick after it moves nothing. -/
theorem Stopped.tick {d' : Device} (h : d.Stopped d') (deltaMs : UInt32) : d.Stopped (d'.tick deltaMs) := by
  have hidle : motionControllerUpdate d'.motion deltaMs = d'.motion :=
    update_idle _ _ (Or.inl (by rw [h.2.2.1]; decide))
  obtain ⟨h1, h2, h3, h4, h5⟩ := h
  simp only [Stopped, Device.tick, hidle]
  exact ⟨h1, h2, h3, h4, h5⟩

/-- A motion step that takes `c` stops the stage in `ESTOP` iff `c` does or
`ESTOP` was the reason already. -/
theorem motionStep_stopped_iff (hd : d.Inv) (deltaMs : UInt32) {c : Command} {rest : List Command}
    (hq : d.commands = c :: rest) : d.Stopped (d.motionStep deltaMs).2 ↔
      c.type = .estop ∨ d.fault.currentReason = .estop ∧ c.type ≠ .clearFault := by
  have hstep : (d.motionStep deltaMs).2 =
      (((obey { d with commands := rest } c).tick deltaMs).reply (d.response c)).2 := by
    simp only [motionStep, hq]
  have hreply : d.Stopped (d.motionStep deltaMs).2 ↔
      d.Stopped ((obey { d with commands := rest } c).tick deltaMs) := by
    rw [hstep, reply_eq]; exact Iff.rfl
  rw [hreply]
  constructor
  · intro h
    obtain ⟨h1, h2, -⟩ := h
    exact obey_reason (d := { d with commands := rest }) h1 h2
  · intro h
    rcases h with h | ⟨hr, hc⟩
    · exact Stopped.tick (d := d) (obey_estop (d := { d with commands := rest }) h) deltaMs
    · have hf : d.fault.faultActive = true := hd.safe.reason.1.mpr (by rw [hr]; decide)
      have hl := obey_latched (hd.safe.pop rest) hf hc
      refine Stopped.tick ⟨hl.active, ?_, ?_, ?_, ?_⟩ deltaMs
      · rcases hl.reason with e | e
        · exact e.trans hr
        · exact e
      · rw [hl.motion]; exact hd.safe.latched.mp hf
      · rw [hl.motion]
      · rw [hl.motion]

/-- Submitting `ESTOP` adds it behind what waits, or changes nothing. -/
theorem submit_estop (w : LongWidth) (d : Device) :
    ∃ q, (d.commandStep w (some ESTOP_LINE)).2 = { d with commands := q } ∧
      q.head? = if d.commands = [] then some ⟨.estop, 0, 0, 0⟩ else d.commands.head? := by
  simp only [commandStep, parse_estop, ne_eq, not_true_eq_false, if_false]
  split
  · refine ⟨_, rfl, ?_⟩
    cases d.commands <;> simp
  · rename_i hfull
    refine ⟨d.commands, rfl, ?_⟩
    cases hq : d.commands with
    | nil => rw [hq] at hfull; exact absurd (by decide) hfull
    | cons c rest => simp

end Device

/-! ## On the host -/

/-- `ESTOP` is submitted, and the motion step right after it stops the stage
where it is. -/
def EstopTakesEffect (w : LongWidth) (s : Firmware hostBackend) (deltaMs : UInt32) (l l' : Locals) :
    Prop :=
  let s₁ := (appCommandTaskStep w s (some ESTOP_LINE) l).2
  let s₂ := (appMotionTaskStep s₁ deltaMs l').2
  faultManagerIsFaultActive s₂.fault = true ∧ faultManagerGetReason s₂.fault = .estop ∧
    s₂.motion.status.state = .fault ∧ HasBit s₂.context.eventGroup APP_EVENT_FAULTED ∧
    s₂.motion.status.currentXMilliMm = s₁.motion.status.currentXMilliMm ∧
    s₂.motion.status.currentYMilliMm = s₁.motion.status.currentYMilliMm

/-- **When `ESTOP` takes effect at once.** -/
theorem estop_at_once_iff {w : LongWidth} {writer : Bool} {s : Firmware hostBackend}
    (hs : (hostSystem w writer).Reachable s) (deltaMs : UInt32) (l l' : Locals) :
    EstopTakesEffect w s deltaMs l l' ↔
      nextCommand s = none ∨
      ∃ c, nextCommand s = some c ∧
        (c.type = .estop ∨ faultManagerGetReason s.fault = .estop ∧ c.type ≠ .clearFault) := by
  obtain ⟨d, -, h, hd⟩ := reachable_refines hs
  obtain ⟨-, h₁, hmx, -⟩ := tracks_command w h.tracks (some ESTOP_LINE) l
  have hd₁ := Device.inv_commandStep w hd (some ESTOP_LINE)
  obtain ⟨q, hq, hhead⟩ := Device.submit_estop w d
  rw [hq] at h₁ hd₁
  obtain ⟨-, h₂⟩ := refines_motion h₁ hd₁ (by rw [hmx]; exact h.mutex) deltaMs l'
  have hholds : EstopTakesEffect w s deltaMs l l' ↔
      Device.Stopped { d with commands := q } (Device.motionStep { d with commands := q } deltaMs).2 := by
    simp only [EstopTakesEffect, Device.Stopped, faultManagerIsFaultActive, faultManagerGetReason,
      h₂.tracks.fault, h₂.tracks.motion, h₁.motion, h₂.faulted_bit]
    tauto
  rw [hholds, nextCommand_eq h.tracks, faultManagerGetReason, h.tracks.fault]
  cases hc : d.commands with
  | nil =>
    rw [hc, if_pos rfl] at hhead
    obtain ⟨rest, hrest⟩ := List.head?_eq_some_iff.mp hhead
    have := (Device.motionStep_stopped_iff hd₁ deltaMs hrest).mpr (Or.inl rfl)
    simp [this]
  | cons c rest =>
    rw [hc, if_neg (by simp), List.head?_cons] at hhead
    obtain ⟨rest', hrest⟩ := List.head?_eq_some_iff.mp hhead
    rw [Device.motionStep_stopped_iff hd₁ deltaMs hrest]
    simp

/-- On a fresh host it does. -/
theorem estop_at_once_start : EstopTakesEffect .lp64 hostStart 100 zeroLocals zeroLocals :=
  (estop_at_once_iff (LTS.Reachable.of_init (hostStart_init .lp64)) 100 zeroLocals zeroLocals).mpr
    (Or.inl (by decide +kernel))

/-- Behind a `PING` it does not: no fault is active after the motion step. -/
theorem estop_behind_ping :
    let s := (hostRun .lp64 [.command (some ⟨ascii "PING", by decide⟩) zeroLocals]).2
    (hostSystem .lp64 true).Reachable s ∧ ¬ EstopTakesEffect .lp64 s 100 zeroLocals zeroLocals :=
  ⟨hostRun_reachable .lp64 _, fun h => absurd h.1 (by decide +kernel)⟩

end MotionFirmware.L4
