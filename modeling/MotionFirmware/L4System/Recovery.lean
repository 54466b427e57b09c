import MotionFirmware.L1Modules.CommandText
import MotionFirmware.L4System.EndToEnd
import MotionFirmware.L4System.Reinit

/-!
# No state is a dead end

Whatever happened to a controller, one fixed list of calls (`recoveryActs`)
brings it to any target it can be sent: as many rounds of the motion and the
telemetry task as the command queue has slots, a `CLEAR_FAULT`, the `MOVE` as
its own text, and ticks for the length of the path. Full queues, a latched fault,
a requested stop and a move under way do not matter (`recovery`).
-/
namespace MotionFirmware.L4

open MotionFirmware.Core MotionFirmware.L1.Motion MotionFirmware.L1.Fault MotionFirmware.L1.Telemetry
open MotionFirmware.L1.Parser MotionFirmware.L2.Port MotionFirmware.L3.Messages MotionFirmware.L3.Tasks

/-- One round of the motion and the telemetry task. -/
def roundActs (periodMs : UInt32) : List Act := [.motion periodMs zeroLocals, .telemetry zeroLocals]

/-- A command sent as text, and one round. -/
def lineActs (periodMs : UInt32) (c : Command) : List Act :=
  .command (some (commandLine c)) zeroLocals :: roundActs periodMs

/-- The queues run empty, the fault is cleared, the command is sent, and `n` more
ticks pass. -/
def recoveryActs (periodMs : UInt32) (c : Command) (n : Nat) : List Act :=
  (List.replicate APP_COMMAND_QUEUE_CAPACITY (roundActs periodMs)).flatten ++
    (lineActs periodMs ⟨.clearFault, 0, 0, 0⟩ ++
      (lineActs periodMs c ++ List.replicate n (.motion periodMs zeroLocals)))

namespace Device

/-- Nothing waits in a queue. -/
structure Quiet (d : Device) : Prop where
  inv : d.Inv
  commands : d.commands = []
  replies : d.replies = []

/-- The state the calls lead to. -/
def perform (w : LongWidth) (d : Device) (acts : List Act) : Device := (LTS.exec (taskStep w) d acts).2

variable {w : LongWidth} {d : Device} {c : Command} {periodMs : UInt32}

theorem perform_append (acts acts' : List Act) (d : Device) :
    d.perform w (acts ++ acts') = (d.perform w acts).perform w acts' := by
  induction acts generalizing d with
  | nil => rfl
  | cons a acts ih => exact ih (taskStep w d a).2

/-! ## The rounds -/

/-- A round takes one command and writes all that waits. -/
theorem Inv.round (h : d.Inv) (periodMs : UInt32) :
    (d.perform w (roundActs periodMs)).Inv ∧ (d.perform w (roundActs periodMs)).replies = [] ∧
      (d.perform w (roundActs periodMs)).commands = d.commands.tail := by
  refine ⟨inv_telemetryStep (inv_motionStep h periodMs), rfl, ?_⟩
  show (d.motionStep periodMs).2.commands = d.commands.tail
  unfold motionStep
  cases hq : d.commands with
  | nil => exact hq
  | cons c rest =>
    simp only [reply_eq, tick]
    exact (obey_queues { d with commands := rest } c).1

/-- As many rounds as commands. -/
theorem Inv.rounds (periodMs : UInt32) : ∀ (n : Nat) {d : Device}, d.Inv → d.commands.length ≤ n + 1 →
    (d.perform w (List.replicate (n + 1) (roundActs periodMs)).flatten).Quiet
  | 0, d, h, hn => by
    obtain ⟨hinv, hreplies, hcommands⟩ := h.round (w := w) periodMs
    have hempty : d.commands.tail = [] := List.eq_nil_of_length_eq_zero (by rw [List.length_tail]; omega)
    exact ⟨hinv, hcommands.trans hempty, hreplies⟩
  | n + 1, d, h, hn => by
    obtain ⟨hinv, -, hcommands⟩ := h.round (w := w) periodMs
    rw [List.replicate_succ, List.flatten_cons, perform_append]
    exact Inv.rounds periodMs n hinv (by rw [hcommands, List.length_tail]; omega)

/-! ## The two lines -/

/-- A command sent to a quiet controller is obeyed in its round. -/
theorem Quiet.line (h : d.Quiet) (hc : Sendable c) (periodMs : UInt32) :
    (d.perform w (lineActs periodMs c)).Quiet ∧
      (d.perform w (lineActs periodMs c)).motion = ((d.obey c).tick periodMs).motion ∧
      (d.perform w (lineActs periodMs c)).fault = (d.obey c).fault ∧
      (d.perform w (lineActs periodMs c)).stopRequested = (d.obey c).stopRequested := by
  have hparse : parse w (commandLine c) = (.ok, c) := parse_commandText hc _
  have hstep := commandStep_move h.commands hparse
  have hinv := inv_commandStep w h.inv (some (commandLine c))
  have hround := hinv.round (w := w) periodMs
  have hlast : d.perform w (lineActs periodMs c) =
      (d.commandStep w (some (commandLine c))).2.perform w (roundActs periodMs) := rfl
  rw [hlast, hstep] at *
  obtain ⟨hinv', hreplies, hcommands⟩ := hround
  refine ⟨⟨hinv', hcommands, hreplies⟩, ?_⟩
  have hd : { d with commands := [] } = d := by rw [← h.commands]
  show (motionStep { d with commands := [c] } periodMs).2.motion = _ ∧
    (motionStep { d with commands := [c] } periodMs).2.fault = _ ∧
    (motionStep { d with commands := [c] } periodMs).2.stopRequested = _
  simp only [motionStep, reply_eq, hd, tick, and_self]

/-- A `CLEAR_FAULT` leaves neither a fault nor a stop. -/
theorem Quiet.cleared (h : d.Quiet) (periodMs : UInt32) :
    let d' := d.perform w (lineActs periodMs ⟨.clearFault, 0, 0, 0⟩)
    d'.Quiet ∧ ¬ d'.fault.faultActive = true := by
  intro d'
  obtain ⟨hquiet, -, hfault, -⟩ :=
    h.line (w := w) (c := ⟨.clearFault, 0, 0, 0⟩) (Or.inl ⟨_, rfl, rfl⟩) periodMs
  refine ⟨hquiet, ?_⟩
  rw [hfault]
  exact fun e => by cases e

/-- Ticks of a quiet controller. -/
theorem Quiet.ticks (h : d.Quiet) (periodMs : UInt32) : ∀ n : Nat,
    let d' := d.perform w (List.replicate n (.motion periodMs zeroLocals))
    d'.Quiet ∧ d'.motion = (List.replicate n periodMs).foldl motionControllerUpdate d.motion ∧
      d'.fault = d.fault ∧ d'.stopRequested = d.stopRequested := by
  intro n
  induction n generalizing d with
  | zero => exact ⟨h, rfl, rfl, rfl⟩
  | succ n ih =>
    have hstep : (d.motionStep periodMs).2 = d.tick periodMs := by
      simp only [motionStep, h.commands]
    have hquiet : (d.tick periodMs).Quiet := ⟨inv_tick h.inv periodMs, h.commands, h.replies⟩
    have hrest : d.perform w (List.replicate (n + 1) (.motion periodMs zeroLocals)) =
        (d.tick periodMs).perform w (List.replicate n (.motion periodMs zeroLocals)) :=
      congrArg (perform w · _) hstep
    rw [hrest, List.replicate_succ, List.foldl_cons]
    exact ih hquiet

/-! ## The whole list -/

/-- The diagonal of the workspace, rounded down. -/
theorem distance_le_diagonal {sx sy tx ty : Int32} (hs : InWorkspace sx sy) (ht : InWorkspace tx ty) :
    distance sx.toInt sy.toInt tx.toInt ty.toInt ≤ 141421 := by
  obtain ⟨⟨_, _⟩, ⟨_, _⟩⟩ := hs
  obtain ⟨⟨_, _⟩, ⟨_, _⟩⟩ := ht
  have hx : (tx.toInt - sx.toInt).natAbs ≤ 100000 := by omega
  have hy : (ty.toInt - sy.toInt).natAbs ≤ 100000 := by omega
  have := Nat.mul_le_mul hx hx
  have := Nat.mul_le_mul hy hy
  exact Nat.le_of_lt_succ (Nat.sqrt_lt.mpr (by omega))

/-- A `MOVE` that can be sent has a feedrate. -/
theorem feedrate_of_sendable (hc : Sendable c) (htype : c.type = .move) : c.feedrateMilliMmPerS ≠ 0 := by
  rcases hc with ⟨t, hbare, -⟩ | ⟨-, hfields⟩
  · rw [htype] at hbare
    cases hbare
  · obtain ⟨v, ⟨hlow, -⟩, hv⟩ := hfields .feedrate
    have hv : (c.feedrateMilliMmPerS.toNat : Int) = 1000 * v := hv
    rintro hz
    rw [hz] at hv
    simp only [UInt32.toNat_zero] at hv
    omega

theorem Inv.recovers (h : d.Inv) (hc : Sendable c) (htype : c.type = .move)
    (hin : InWorkspace c.xMilliMm c.yMilliMm) (hp : periodMs ≤ 100) {n : Nat}
    (hn : 141421 ≤ c.feedrateMilliMmPerS.toNat * (periodMs.toNat * (n + 1)) / 1000) :
    let d' := d.perform w (recoveryActs periodMs c n)
    d'.Quiet ∧ d'.motion.status.state = .done ∧ d'.motion.status.currentXMilliMm = c.xMilliMm ∧
      d'.motion.status.currentYMilliMm = c.yMilliMm ∧ ¬ d'.fault.faultActive = true ∧
      d'.stopRequested = false := by
  intro d'
  have hflushed := Inv.rounds (w := w) periodMs 7 h h.commands_le
  generalize hd1 : d.perform w (List.replicate (7 + 1) (roundActs periodMs)).flatten = d1 at hflushed
  obtain ⟨hquiet2, hclear⟩ := hflushed.cleared (w := w) periodMs
  generalize hd2 : d1.perform w (lineActs periodMs ⟨.clearFault, 0, 0, 0⟩) = d2 at hquiet2 hclear
  obtain ⟨hquiet3, hmotion3, hfault3, hstop3⟩ := hquiet2.line (w := w) hc periodMs
  generalize hd3 : d2.perform w (lineActs periodMs c) = d3 at hquiet3 hmotion3 hfault3 hstop3
  obtain ⟨hquiet4, hmotion4, hfault4, hstop4⟩ := hquiet3.ticks (w := w) periodMs n
  have hlast : d' = d3.perform w (List.replicate n (.motion periodMs zeroLocals)) := by
    rw [← hd3, ← hd2, ← hd1, ← perform_append, ← perform_append, ← perform_append]
    rfl
  rw [← hlast] at hquiet4 hmotion4 hfault4 hstop4
  have hobey : d2.obey c = { d2 with
      motion := (motionControllerStartMove d2.motion c.xMilliMm c.yMilliMm c.feedrateMilliMmPerS).2
      stopRequested := false } := by
    simp only [obey, htype, if_neg hclear, if_pos hin]
  rw [hobey] at hmotion3 hfault3 hstop3
  have hmoves : d'.motion = (List.replicate (n + 1) periodMs).foldl motionControllerUpdate
      (motionControllerStartMove d2.motion c.xMilliMm c.yMilliMm c.feedrateMilliMmPerS).2 := by
    rw [hmotion4, hmotion3, List.replicate_succ, List.foldl_cons]
    rfl
  have htotal : totalMs (List.replicate (n + 1) periodMs) = periodMs.toNat * (n + 1) := by
    rw [totalMs, List.map_replicate, List.sum_replicate_nat, Nat.mul_comm]
  have hsafe := hquiet2.inv.safe
  have hout := move_outcome (hsafe.unlatched hclear) hsafe.motion.current hin
    (feedrate_of_sendable hc htype) (List.replicate (n + 1) periodMs)
    (fun t ht => by rw [List.eq_of_mem_replicate ht]; exact hp)
  rw [← hmoves, htotal] at hout
  have hshort := distance_le_diagonal hsafe.motion.current hin
  obtain ⟨hdone, hx, hy, -⟩ := hout.1 (Or.inl (le_trans hshort hn))
  exact ⟨hquiet4, hdone, hx, hy, by rw [hfault4, hfault3]; exact hclear, hstop4.trans hstop3⟩

theorem taskStep_sameCall (w : LongWidth) (d : Device) {a b : Act} (h : SameCall a b) :
    (taskStep w d a).2 = (taskStep w d b).2 := by cases h <;> rfl

end Device

/-! ## The firmware -/

variable {B : RtosBackend} [RtosApi B] [LawfulRtos B] {w : LongWidth} {writer : Bool}
  {s : Firmware B}

/-- **Recovery.** In every reachable state, on every lawful backend and with
anything on the stack, the calls of `recoveryActs` end with the stage at the
target, no fault, no event bit and nothing queued, once the ticks, of at most
100 ms each, give the feedrate the time for the diagonal of the workspace. -/
theorem recovery (hs : (firmwareSystem B w writer).Reachable s) {c : Command} (hc : Sendable c)
    (htype : c.type = .move) (hin : InWorkspace c.xMilliMm c.yMilliMm) {periodMs : UInt32}
    (hp : periodMs ≤ 100) {n : Nat}
    (hn : 141421 ≤ c.feedrateMilliMmPerS.toNat * (periodMs.toNat * (n + 1)) / 1000) {acts : List Act}
    (hacts : List.Forall₂ SameCall acts (recoveryActs periodMs c n)) :
    let s' := (LTS.exec (appTaskStep w) s acts).2
    s'.motion.status.state = .done ∧ s'.motion.status.currentXMilliMm = c.xMilliMm ∧
      s'.motion.status.currentYMilliMm = c.yMilliMm ∧ s'.fault.faultActive = false ∧
      appTasksGetEvents s' = 0 ∧ appTasksCommandQueueCount s' = 0 ∧
      appTasksTelemetryQueueCount s' = 0 := by
  intro s'
  obtain ⟨d, -, h, hd⟩ := reachable_refines hs
  obtain ⟨-, h', -⟩ := LTS.exec_related (f := appTaskStep w) (g := Device.taskStep w)
    (R := fun s d => Refines s d ∧ d.Inv) (E := SameCall) (O := fun _ _ => True)
    (fun s d a b hR hab => by
      obtain ⟨-, hstep⟩ := refines_step w hR.1 hR.2 a
      have hinv := Device.inv_taskStep w hR.2 a
      rw [Device.taskStep_sameCall w d hab] at hstep hinv
      exact ⟨trivial, hstep, hinv⟩)
    ⟨h, hd⟩ hacts
  obtain ⟨hquiet, hdone, hx, hy, hfault, hstop⟩ := hd.recovers (w := w) hc htype hin hp hn
  refine ⟨?_, ?_, ?_, ?_, ?_, ?_, ?_⟩
  · rw [h'.tracks.motion]
    exact hdone
  · rw [h'.tracks.motion]
    exact hx
  · rw [h'.tracks.motion]
    exact hy
  · rw [h'.tracks.fault]
    exact Bool.eq_false_iff.mpr hfault
  · rw [h'.events]
    show Device.events (d.perform w (recoveryActs periodMs c n)) = 0
    rw [Device.events, hdone, hstop, Bool.eq_false_iff.mpr hfault]
    decide
  · rw [count_commands h'.tracks]
    exact congrArg List.length hquiet.commands
  · rw [count_replies h'.tracks]
    exact congrArg List.length hquiet.replies

def estopActs : List Act :=
  [.command (some (commandLine ⟨.estop, 0, 0, 0⟩)) zeroLocals, .motion 100 zeroLocals]

/-- After an emergency stop, a move to the middle of the workspace at 100 mm/s. -/
theorem recovery_estop : (LTS.exec (appTaskStep .lp64) (hostRun .lp64 estopActs).2
    (recoveryActs 100 ⟨.move, 50000, 50000, 100000⟩ 14)).2.motion.status.state = .done := by
  have hsend : Sendable ⟨.move, 50000, 50000, 100000⟩ := by
    refine Or.inr ⟨rfl, fun f => ?_⟩
    cases f with
    | x => exact ⟨50, by simp [InRange], rfl⟩
    | y => exact ⟨50, by simp [InRange], rfl⟩
    | feedrate => exact ⟨100, by simp [InRange], rfl⟩
  have hin : InWorkspace 50000 50000 := by decide
  have hlong : 141421 ≤ (100000 : UInt32).toNat * ((100 : UInt32).toNat * (14 + 1)) / 1000 := by
    decide +kernel
  have hsame : List.Forall₂ SameCall (recoveryActs 100 ⟨.move, 50000, 50000, 100000⟩ 14)
      (recoveryActs 100 ⟨.move, 50000, 50000, 100000⟩ 14) :=
    List.forall₂_same.mpr fun a _ => SameCall.refl a
  obtain ⟨hdone, -⟩ := recovery (hostRun_reachable .lp64 estopActs) hsend rfl hin (by decide) hlong hsame
  exact hdone

end MotionFirmware.L4
