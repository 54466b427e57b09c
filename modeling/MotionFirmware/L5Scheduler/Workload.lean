import MotionFirmware.L5Scheduler.Releases
import MotionFirmware.L5Scheduler.SchedulerRefinement

/-!
# The tasks always catch up

However late the tasks are, they are done after finitely many actions: the
processor is idle again, or the demo has ended (`catches_up`). `work` bounds
what is left. Every action takes from it, and a tick adds no more than one
activation of each task (`demand_bound`).

The telemetry task is what makes this more than a count of activations: its
drain loop goes on while responses come in, and each response is paid for by
the activation that sends it.
-/
namespace MotionFirmware.L5

open MotionFirmware.Core MotionFirmware.L1.Motion MotionFirmware.L1.Fault MotionFirmware.L1.Telemetry
open MotionFirmware.L1.Parser MotionFirmware.L2.Port MotionFirmware.L3.Messages MotionFirmware.L3.Tasks
open MotionFirmware.L4
open AppScheduler
open MotionFirmware.L2.FreertosPort (targetBackend)
open MotionFirmware.L2.TaskKernel
open TaskApi (pdMsToTicks)

/-! ## Activations owed -/

section Tick

variable {B : RtosBackend} {w : LongWidth} {s : IdealScheduler B} {p : Periodic}

/-- The ticks since the last wake time of a loop. -/
def late (p : Periodic) (s : IdealScheduler B) : Nat :=
  (s.kernel.lateness (s.loops p).lastWakeTime).toNat

/-- The activations of a task that are in progress or due; behind the loop,
its next delay. -/
def owed (p : Periodic) (s : IdealScheduler B) : Nat :=
  match (s.loops p).point with
  | .entry => 1
  | .check => if s.kernel.wake (.loop p) ≤ s.kernel.ticks
    then late p s / p.periodTicks + 1 else 0
  | .body => late p s / p.periodTicks + 1
  | .delay => late p s / p.periodTicks
  | .parked => if s.kernel.wake (.loop p) ≤ s.kernel.ticks then 1 else 0

/-- A task that waits in front of its test waits for the time it counts from. -/
def Punctual (p : Periodic) (s : IdealScheduler B) : Prop :=
  (s.loops p).point = .check → s.kernel.ticks < s.kernel.wake (.loop p) →
    (s.loops p).lastWakeTime = UInt32.ofNat (s.kernel.wake (.loop p))

/-- A tick makes at most one more activation due. -/
theorem owed_tick (h : Punctual p s) : owed p { s with kernel := s.kernel.tick } ≤ owed p s + 1 := by
  have hnext : late p { s with kernel := s.kernel.tick } / p.periodTicks ≤ late p s / p.periodTicks + 1 := by
    refine (Nat.div_le_div_right (c := p.periodTicks) ?_).trans
      (Nat.add_div_right (late p s) p.periodTicks_pos).le
    have hle : late p { s with kernel := s.kernel.tick } ≤ late p s + 1 :=
      TaskView.lateness_tick_le s.kernel (s.loops p).lastWakeTime
    have := p.periodTicks_pos
    omega
  have hticks : s.kernel.tick.ticks = s.kernel.ticks + 1 := rfl
  have hwakes : s.kernel.tick.wake = s.kernel.wake := rfl
  cases hpoint : (s.loops p).point with
  | check =>
    simp only [owed, hpoint, hticks, hwakes]
    split
    · split
      · omega
      · rename_i hready hwaits
        have hnow : s.kernel.tick.ticks = s.kernel.wake (.loop p) := by omega
        have hzero : late p { s with kernel := s.kernel.tick } = 0 := by
          rw [late, h hpoint (Nat.lt_of_not_le hwaits), TaskView.lateness_wake hnow]
          rfl
        rw [hzero, Nat.zero_div]
    · exact Nat.zero_le _
  | parked =>
    simp only [owed, hpoint, hticks, hwakes]
    split <;> split <;> omega
  | entry => simp only [owed, hpoint, Nat.le_add_right]
  | body => simpa only [owed, hpoint] using Nat.add_le_add_right hnext 1
  | delay => simpa only [owed, hpoint] using hnext

/-- Nothing is owed by a task that waits. -/
theorem owed_waiting (h : s.Inv) {t : Task} (hrun : s.taskToRun = some t)
    (hlt : t.priority < (Task.loop p).priority) : owed p s = 0 := by
  have hrest := h.waiting hrun hlt
  have hwake := h.waits hrun hlt
  cases hpoint : (s.loops p).point with
  | check => simp only [owed, hpoint, if_neg (Nat.not_le.mpr hwake)]
  | parked => simp only [owed, hpoint, if_neg (Nat.not_le.mpr hwake)]
  | _ => rw [hpoint] at hrest; cases hrest

/-! ## The work that is left -/

/-- The actions left of a telemetry step on an empty queue. -/
def TelemetryPoint.work : TelemetryPoint → Nat
  | .idle => 5
  | .locked => 4
  | .snapped _ => 3
  | .draining _ _ => 2
  | .received _ _ => 3
  | .drained _ => 1

theorem TelemetryPoint.work_read (point : TelemetryPoint) : point.read.work = point.work := by
  cases point <;> rfl

theorem TelemetryPoint.read_idle (point : TelemetryPoint) : point.read = .idle ↔ point = .idle := by
  cases point <;> simp [TelemetryPoint.read]

/-- The actions left of a step, and two more for the response it may send. -/
def bodyWork (p : Periodic) (s : IdealScheduler B) : Nat :=
  match p with
  | .command =>
    match s.commandTask with
    | .idle => 4
    | .parsed _ _ _ _ => 3
  | .motion => 3
  | .telemetry => s.rtos.telemetryTask.work

/-- An activation from its test to its delay, with its response. -/
def activationWork : Periodic → Nat
  | .command => 6
  | .motion => 5
  | .telemetry => 7

def loopWork (p : Periodic) (s : IdealScheduler B) : Nat :=
  match (s.loops p).point with
  | .entry => activationWork p + 1
  | .check => activationWork p * owed p s
  | .body => activationWork p * (owed p s - 1) + bodyWork p s + 1
  | .delay => activationWork p * owed p s + 1
  | .parked => owed p s

theorem loopWork_body (hpoint : (s.loops p).point = .body) :
    loopWork p s = activationWork p * (owed p s - 1) + bodyWork p s + 1 := by
  simp only [loopWork, hpoint]

/-- An activation that begins has its body in front of it, and its end. -/
theorem bodyWork_began (h : s.Inv) (hpoint : (s.loops p).point ≠ .body) :
    bodyWork p (s.goto p .body) + 2 = activationWork p := by
  obtain ⟨htel, hcmd⟩ := h.outside hpoint
  cases p with
  | command => simp only [bodyWork, goto, hcmd rfl, activationWork]
  | motion => rfl
  | telemetry => simp only [bodyWork, goto, htel rfl, TelemetryPoint.work, activationWork]

theorem loopWork_tick (h : Punctual p s) :
    loopWork p { s with kernel := s.kernel.tick } ≤ loopWork p s + activationWork p := by
  have howed := owed_tick h
  have hpos : 0 < activationWork p := by cases p <;> decide
  have hbody : bodyWork p { s with kernel := s.kernel.tick } = bodyWork p s := by cases p <;> rfl
  have hmul := Nat.mul_le_mul_left (activationWork p) howed
  cases hpoint : (s.loops p).point with
  | entry => simp only [loopWork, hpoint]; omega
  | check => simpa only [loopWork, hpoint, Nat.mul_succ] using hmul
  | body =>
    simp only [loopWork, hpoint, hbody]
    have hmul := Nat.mul_le_mul_left (activationWork p)
      (show owed p { s with kernel := s.kernel.tick } - 1 ≤ owed p s - 1 + 1 by
        simp only [owed, hpoint] at howed ⊢
        omega)
    rw [Nat.mul_succ] at hmul
    omega
  | delay =>
    simp only [loopWork, hpoint]
    rw [Nat.mul_succ] at hmul
    omega
  | parked =>
    simp only [loopWork, hpoint]
    omega

end Tick

variable {B : RtosBackend} [RtosApi B] {w : LongWidth} {script : List CString} {s : IdealScheduler B}
  {p : Periodic}

/-- A task pays for an activation when it is over. -/
theorem owed_own (w : LongWidth) (script : List CString) (hrun : s.taskToRun = some (.loop p))
    (locals : Locals) :
    owed p (loopAction w script s p locals).2 +
      (if (s.loops p).point = .body ∧ (bodyAction w script s p locals).2.1 = true then 1 else 0) ≤
        owed p s := by
  have hready := ready_of_run hrun
  cases hpoint : (s.loops p).point with
  | entry => simp [owed, late, TaskView.lateness, loopAction, hpoint, hready]
  | check =>
    cases hstop : s.stopRequested <;> simp [owed, late, loopAction, hpoint, hstop, goto, hready]
  | body =>
    have hframe := bodyAction_frame w script s locals p
    cases hover : (bodyAction w script s p locals).2.1 with
    | true =>
      simp only [loopAction, hpoint, hover, if_true]
      rw [hframe]
      simp [owed, late, goto, hpoint]
    | false =>
      simp only [loopAction, hpoint, hover, Bool.false_eq_true, if_false]
      rw [hframe]
      simp [owed, late, hpoint]
  | delay =>
    simp only [loopAction, hpoint, delayUntil_ideal, TaskView.delayUntil_eq, reduceCtorEq, false_and,
      if_false, Nat.add_zero]
    simp only [owed, late, hpoint, Function.update_self, TaskView.wakeAt_wake, TaskView.wakeAt_ticks,
      TaskView.lateness_wakeAt]
    by_cases hlate : s.kernel.lateness (s.loops p).lastWakeTime < pdMsToTicks (TaskView Task) p.periodMs
    · rw [if_neg (Nat.not_le.mpr (TaskView.lt_nextWake _ _ hlate))]
      exact Nat.zero_le _
    · have hsub := TaskView.lateness_add (UInt32.not_lt.mp hlate)
      rw [UInt32.lt_iff_toNat_lt, period_toNat] at hlate
      rw [period_toNat] at hsub
      split
      · rw [hsub, ← Nat.add_div_right _ p.periodTicks_pos, Nat.sub_add_cancel (Nat.le_of_not_lt hlate)]
      · exact Nat.zero_le _
  | parked =>
    have hgrace : (pdMsToTicks (TaskView Task) APP_SCHEDULER_SHUTDOWN_GRACE_MS).toNat = 100 := by decide
    simp [owed, loopAction, hpoint, TaskView.delay, hgrace]

/-! ## One activation -/

/-- The responses that wait for the telemetry task. -/
def repliesWaiting (s : Rtos B) : Nat := appTasksTelemetryQueueCount s.firmware

theorem reply_count (d : Device) (line : Text) :
    (d.reply line).2.replies.length ≤ d.replies.length + 1 ∧ (d.reply line).2.commands = d.commands := by
  rcases d.reply_cases line with h | h <;> rw [h] <;> simp

/-- A step sends one response at most. -/
theorem replies_step_le (w : LongWidth) (p : Preempted) (c : Choice) :
    (Preempted.step w Preempted.action p c).2.device.replies.length ≤ p.device.replies.length + 1 := by
  rcases Preempted.step_cases w Preempted.action p c with
    ⟨locals, he⟩ | ⟨locals, -, he⟩ | ⟨a, ⟨line, locals, rfl⟩ | ⟨deltaMs, locals, rfl⟩, -, he⟩ <;> rw [he]
  · obtain ⟨d, point⟩ := p
    cases point with
    | draining status message =>
      cases hq : d.replies <;> simp only [Preempted.action, hq, List.length_cons] <;> omega
    | _ => simp [Preempted.action]
  · exact Nat.le_succ _
  · cases line with
    | none => exact Nat.le_succ _
    | some line =>
      simp only [Device.taskStep, Device.commandStep]
      split
      · exact (reply_count _ _).1
      · split <;> simp
  · simp only [Device.taskStep, Device.motionStep]
    split
    · simp [Device.tick]
    · refine (reply_count _ _).1.trans ?_
      simp [Device.tick]

/-- A telemetry action takes from what is left of the step. -/
theorem action_pays (p : Preempted) :
    if p.action.telemetryTask = .idle then
      2 * p.action.device.replies.length + 1 ≤ 2 * p.device.replies.length + p.telemetryTask.work
    else 2 * p.action.device.replies.length + p.action.telemetryTask.work + 1 ≤
      2 * p.device.replies.length + p.telemetryTask.work := by
  obtain ⟨d, point⟩ := p
  cases point with
  | draining status message =>
    cases hq : d.replies <;> simp [Preempted.action, hq, TelemetryPoint.work]
    omega
  | _ => simp [Preempted.action, TelemetryPoint.work]

/-- What a step of the firmware makes of the responses that wait. -/
theorem replies_follow [LawfulRtos B] {t : Rtos B} {p : Preempted} (h : Follows t p) (hp : p.Inv)
    (before : List Text) (c : Choice) :
    repliesWaiting (t.behind before) = p.device.replies.length ∧
      repliesWaiting (rtosStep w telemetryAction (t.behind before) c).2 =
        (Preempted.step w Preempted.action p c).2.device.replies.length := by
  have hstep := (follows_step w (fun _ _ locals h => follows_action h locals) h hp.device c).2
  have hbehind (t : Rtos B) : repliesWaiting (t.behind before) = repliesWaiting t := rfl
  rw [rtosStep_behind, hbehind, hbehind]
  exact ⟨count_replies h.tracks, count_replies hstep.tracks⟩

/-- Every action of an activation takes from what is left of it. -/
theorem body_pays [LawfulRtos B] {writer : Bool}
    (hs : (idealSystem B w script writer).Reachable s) (p : Periodic) (locals : Locals) :
    let r := bodyAction w script s p locals
    2 * repliesWaiting r.2.2.rtos + (if r.2.1 then 0 else bodyWork p r.2.2) + 1 ≤
      2 * repliesWaiting s.rtos + bodyWork p s := by
  intro r
  obtain ⟨t, q, hsame, h, hq⟩ := scheduler_follows hs
  have hstep (c : Choice) : repliesWaiting (rtosStep w telemetryAction s.rtos c).2 ≤
      repliesWaiting s.rtos + 1 := by
    obtain ⟨h1, h2⟩ := replies_follow (w := w) h hq (startupLines writer) c
    rw [hsame, h1, h2]
    exact replies_step_le w q c
  cases p with
  | motion =>
    have hle := hstep (.motion locals)
    simp only [r, bodyAction, motionAction, bodyWork, if_true]
    omega
  | command =>
    rcases commandAction_cases w script s locals with ⟨htask, -, he⟩ | ⟨line, result, c, htask, -, -, he⟩ |
      ⟨line, locals', result, c, r', htask, hr, he⟩
    · simp [r, bodyAction, he, htask, bodyWork]
    · simp [r, bodyAction, he, htask, bodyWork]
    · have hle := hstep (.command (some line) locals')
      have hqueue := commandStep_eq w s.rtos.firmware line locals'
      rw [parsed_reachable hs line locals' result c htask, hr] at hqueue
      simp only [rtosStep, appTaskStep, hqueue] at hle
      simp only [r, bodyAction, he, htask, bodyWork, if_true]
      omega
  | telemetry =>
    obtain ⟨h1, h2⟩ := replies_follow (w := w) h hq (startupLines writer) (.telemetry locals)
    have hact : (Preempted.step w Preempted.action q (.telemetry locals)).2 = q.action := rfl
    rw [← hsame] at h1 h2
    rw [hact] at h2
    have hpays := action_pays q
    have hread : (rtosStep w telemetryAction s.rtos (.telemetry locals)).2.telemetryTask.read =
        q.action.telemetryTask := by
      rw [hsame, rtosStep_behind]
      exact (follows_action h locals).point
    have hbefore : s.rtos.telemetryTask.work = q.telemetryTask.work := by
      rw [hsame, ← h.point, TelemetryPoint.work_read]
      rfl
    have hafter := TelemetryPoint.work_read
      (rtosStep w telemetryAction s.rtos (.telemetry locals)).2.telemetryTask
    have hover := TelemetryPoint.read_idle
      (rtosStep w telemetryAction s.rtos (.telemetry locals)).2.telemetryTask
    rw [hread] at hafter hover
    simp only [r, bodyAction, telemetryTaskAction, bodyWork, hbefore, h1, h2, ← hover, ← hafter,
      decide_eq_true_eq]
    by_cases hidle : q.action.telemetryTask = .idle
    · simpa only [hidle, if_true] using hpays
    · simpa only [hidle, if_false] using hpays

/-! ## All the tasks -/

def SupervisorPoint.work : SupervisorPoint → Nat
  | .entry => 4
  | .requestStop => 3
  | .grace => 2
  | .endScheduler => 1
  | .ended => 0

/-- A bound on the actions that are left before nothing is ready. -/
def work (s : IdealScheduler B) : Nat :=
  loopWork .command s + loopWork .motion s + loopWork .telemetry s + 2 * repliesWaiting s.rtos +
    s.supervisorTask.work

/-- Another task's action leaves the loop alone. -/
theorem loopWork_other (w : LongWidth) (script : List CString) (s : IdealScheduler B) {q : Periodic}
    (hq : q ≠ p) (locals : Locals) :
    loopWork q (loopAction w script s p locals).2 = loopWork q s := by
  obtain ⟨hloop, hwake⟩ := loopAction_other w script s hq locals
  have htick := loopAction_ticks w script s p locals
  have howed : owed q (loopAction w script s p locals).2 = owed q s := by
    simp only [owed, late, TaskView.lateness, hloop, hwake, htick]
  have hbody : bodyWork q (loopAction w script s p locals).2 = bodyWork q s := by
    have hc := fun h => bodyAction_commandTask w script s locals (p := p) h
    have ht := fun h => bodyAction_telemetryTask w script s locals (p := p) h
    cases hpoint : (s.loops p).point with
    | check =>
      simp only [loopAction, hpoint]
      split <;> cases q <;> rfl
    | body =>
      simp only [loopAction, hpoint]
      cases q with
      | command => split <;> simp only [bodyWork, goto, hc (Ne.symm hq)]
      | motion => rfl
      | telemetry => split <;> simp only [bodyWork, goto, ht (Ne.symm hq)]
    | _ => simp only [loopAction, hpoint]; cases q <;> rfl
  simp only [loopWork, hloop, howed, hbody]

/-- A task's own action takes from its work. -/
theorem loop_pays [LawfulRtos B] {writer : Bool}
    (hs : (idealSystem B w script writer).Reachable s) (hrun : s.taskToRun = some (.loop p))
    (locals : Locals) :
    let s' := (loopAction w script s p locals).2
    2 * repliesWaiting s'.rtos + loopWork p s' + 1 ≤ 2 * repliesWaiting s.rtos + loopWork p s := by
  have hinv := (scheduler_inductive w script writer).reachable s hs
  have hready := ready_of_run hrun
  have hpaid := owed_own w script hrun locals
  have hactivation : 2 ≤ activationWork p := by cases p <;> decide
  have hmul {m n : Nat} (h : m ≤ n) := Nat.mul_le_mul_left (activationWork p) h
  cases hpoint : (s.loops p).point with
  | entry =>
    have howed : owed p s = 1 := by simp only [owed, hpoint]
    have hle := hmul ((Nat.le_add_right _ _).trans (hpaid.trans howed.le))
    simp only [loopAction, hpoint] at hle ⊢
    simp only [loopWork, hpoint, Function.update_self]
    omega
  | check =>
    have howed : 1 ≤ owed p s := by simp [owed, hpoint, hready]
    cases hstop : s.stopRequested with
    | true =>
      have hle := (Nat.le_add_right _ _).trans hpaid
      have hmul := Nat.mul_le_mul_right (owed p s) hactivation
      simp only [loopAction, hpoint, hstop, if_true] at hle ⊢
      simp only [loopWork, hpoint, goto, Function.update_self] at hle ⊢
      omega
    | false =>
      have hle := (Nat.le_add_right _ _).trans hpaid
      have hbody := bodyWork_began hinv (p := p) (by rw [hpoint]; decide)
      simp only [loopAction, hpoint, hstop, Bool.false_eq_true, if_false] at hle ⊢
      have hle := hmul (Nat.sub_le_sub_right hle 1)
      have hsplit : activationWork p * owed p s = activationWork p * (owed p s - 1) + activationWork p := by
        rw [← Nat.mul_succ, Nat.succ_eq_add_one, Nat.sub_add_cancel howed]
      have hafter := loopWork_body (s := s.goto p .body) (p := p) (by simp only [goto, Function.update_self])
      have hkeep : repliesWaiting (s.goto p .body).rtos = repliesWaiting s.rtos := rfl
      rw [hafter, hkeep]
      simp only [loopWork, hpoint]
      omega
  | body =>
    have hpays := body_pays hs p locals
    have hbefore := loopWork_body hpoint
    cases hover : (bodyAction w script s p locals).2.1 with
    | true =>
      simp only [hpoint, hover, and_self, if_true, loopAction] at hpaid hpays ⊢
      have hle := hmul (Nat.le_sub_of_add_le hpaid)
      have hafter (s' : IdealScheduler B) : loopWork p (s'.goto p .delay) =
          activationWork p * owed p (s'.goto p .delay) + 1 := by
        simp only [loopWork, goto, Function.update_self]
      have hkeep (s' : IdealScheduler B) : (s'.goto p .delay).rtos = s'.rtos := rfl
      rw [hafter, hkeep, hbefore]
      omega
    | false =>
      have hpoint' : ((bodyAction w script s p locals).2.2.loops p).point = .body := by
        rw [bodyAction_frame]
        exact hpoint
      simp only [hpoint, hover, Bool.false_eq_true, and_false, if_false, Nat.add_zero, loopAction] at hpaid hpays ⊢
      have hle := hmul (Nat.sub_le_sub_right hpaid 1)
      rw [hbefore, loopWork_body hpoint']
      omega
  | delay =>
    have hle := hmul ((Nat.le_add_right _ _).trans hpaid)
    simp only [loopAction, hpoint] at hle ⊢
    simp only [loopWork, hpoint, Function.update_self]
    omega
  | parked =>
    have hgrace : (pdMsToTicks (TaskView Task) APP_SCHEDULER_SHUTDOWN_GRACE_MS).toNat = 100 := by decide
    simp [loopWork, owed, loopAction, hpoint, TaskView.delay, hgrace, hready]

/-- The loops keep their work while the supervisor acts. -/
theorem supervisor_pays (hinv : s.Inv) (hrun : s.taskToRun = some .supervisor) :
    work s.supervisorAction + 1 ≤ work s := by
  have hended := hinv.not_ended hrun
  have hloop (p : Periodic) : loopWork p s.supervisorAction = loopWork p s := by
    obtain ⟨hloop, hwake, htick⟩ := supervisorAction_frame s p
    have hbody : bodyWork p s.supervisorAction = bodyWork p s := by
      unfold supervisorAction
      cases s.supervisorTask <;> cases p <;> rfl
    simp only [loopWork, owed, late, TaskView.lateness, hloop, hwake, htick, hbody]
  have hkeep : repliesWaiting s.supervisorAction.rtos = repliesWaiting s.rtos := by
    unfold supervisorAction
    cases s.supervisorTask <;> rfl
  have hpoint : s.supervisorAction.supervisorTask.work + 1 = s.supervisorTask.work := by
    cases hsup : s.supervisorTask with
    | ended => exact absurd hsup hended
    | _ => simp only [supervisorAction, hsup, SupervisorPoint.work]
  simp only [work, hloop, hkeep]
  omega

/-- A tick adds one activation of each task. -/
theorem work_tick (h : ∀ p, Punctual p s) :
    work { s with kernel := s.kernel.tick } ≤ work s + 18 := by
  have h1 := loopWork_tick (h .command)
  have h2 := loopWork_tick (h .motion)
  have h3 := loopWork_tick (h .telemetry)
  simp only [activationWork] at h1 h2 h3
  simp only [work]
  omega

/-- No loop tells the supervisor anything. -/
theorem loopAction_supervision (w : LongWidth) (script : List CString) (s : IdealScheduler B) (p : Periodic)
    (locals : Locals) :
    let s' := (loopAction w script s p locals).2
    s'.supervisorTask = s.supervisorTask ∧ s'.stopRequested = s.stopRequested ∧
      s'.kernel.wake .supervisor = s.kernel.wake .supervisor := by
  have hframe := bodyAction_frame w script s locals p
  cases hpoint : (s.loops p).point with
  | body =>
    simp only [loopAction, hpoint]
    split
    · rw [hframe]
      simp [goto]
    · rw [hframe]
      simp
  | check =>
    simp only [loopAction, hpoint]
    split <;> simp [goto]
  | _ => simp [loopAction, hpoint, TaskView.delay, TaskView.delayUntil_eq, TaskView.wakeAt_wake_of_ne]

/-- Every action takes from the work. -/
theorem work_run [LawfulRtos B] {writer : Bool}
    (hs : (idealSystem B w script writer).Reachable s) (hrun : s.taskToRun ≠ none)
    (locals : Locals) :
    work (AppScheduler.step w script s (.run locals)).2 + 1 ≤ work s := by
  rcases step_cases w script s (.run locals) with ⟨hc, -⟩ | ⟨_, -, hnone, -⟩ | ⟨l, p, -, hp, he⟩ |
    ⟨_, -, hsup, he⟩
  · cases hc
  · exact absurd hnone hrun
  · have hpays := loop_pays hs hp l
    have hother := fun q hq => loopWork_other w script s (p := p) (q := q) hq l
    have hsup : (loopAction w script s p l).2.supervisorTask = s.supervisorTask :=
      (loopAction_supervision w script s p l).1
    rw [he]
    simp only [work, hsup]
    cases p with
    | command =>
      rw [hother .motion (by decide), hother .telemetry (by decide)]
      omega
    | motion =>
      rw [hother .command (by decide), hother .telemetry (by decide)]
      omega
    | telemetry =>
      rw [hother .command (by decide), hother .motion (by decide)]
      omega
  · rw [he]
    exact supervisor_pays ((scheduler_inductive w script writer).reachable s hs) hsup

/-! ## Every run -/

/-- Time passed, or nothing was ready. -/
def SchedLabel.isBusy (l : SchedLabel) : Bool :=
  match l.event with
  | .tick _ | .idle => false
  | _ => true

/-- The actions of the tasks in a trace. -/
def busy (ls : List SchedLabel) : Nat := ls.countP SchedLabel.isBusy

/-- A step is a tick, an action, or nothing at all. -/
theorem step_busy (script : List CString) (s : IdealScheduler B) (c : SchedChoice) :
    ((AppScheduler.step w script s c).2 = { s with kernel := s.kernel.tick } ∧
      (AppScheduler.step w script s c).1.isBusy = false) ∨
    ((AppScheduler.step w script s c).2 = s ∧ (AppScheduler.step w script s c).1.isBusy = false) ∨
    (s.taskToRun ≠ none ∧ (AppScheduler.step w script s c).2.kernel.ticks = s.kernel.ticks ∧
      ∃ locals, c = .run locals) := by
  rcases step_cases w script s c with ⟨-, he⟩ | ⟨locals, -, -, he⟩ | ⟨locals, p, hc, hrun, he⟩ |
    ⟨locals, hc, hrun, he⟩ <;> rw [he]
  · exact Or.inl ⟨rfl, rfl⟩
  · exact Or.inr (Or.inl ⟨rfl, rfl⟩)
  · exact Or.inr (Or.inr ⟨by rw [hrun]; simp, loopAction_ticks w script s p locals, locals, hc⟩)
  · exact Or.inr (Or.inr ⟨by rw [hrun]; simp, (supervisorAction_frame s .motion).2.2, locals, hc⟩)

variable {s₀ : IdealScheduler B} {ls : List SchedLabel} {writer : Bool}

/-- A task's own action. -/
theorem punctual_own (w : LongWidth) (script : List CString) (hrun : s.taskToRun = some (.loop p))
    (locals : Locals) : Punctual p (loopAction w script s p locals).2 := by
  have hready := ready_of_run hrun
  intro hpoint' hwaits
  have hframe := bodyAction_frame w script s locals p
  cases hpoint : (s.loops p).point with
  | entry =>
    simp only [loopAction, hpoint] at hwaits
    omega
  | check =>
    cases hstop : s.stopRequested <;> simp [loopAction, hpoint, hstop, goto] at hpoint'
  | body =>
    simp only [loopAction, hpoint] at hpoint'
    split at hpoint'
    · simp [goto] at hpoint'
    · rw [hframe] at hpoint'
      simp [hpoint] at hpoint'
  | delay =>
    simp only [loopAction, hpoint, delayUntil_ideal, TaskView.delayUntil_eq, TaskView.wakeAt_wake,
      TaskView.wakeAt_ticks, Function.update_self] at hwaits ⊢
    by_cases hlate : s.kernel.lateness (s.loops p).lastWakeTime < pdMsToTicks (TaskView Task) p.periodMs
    · exact (TaskView.ofNat_nextWake _ _ hlate).symm
    · rw [TaskView.nextWake, if_neg hlate] at hwaits
      omega
  | parked => simp [loopAction, hpoint] at hpoint'

theorem punctual_step (script : List CString) (h : ∀ p, Punctual p s) (c : SchedChoice)
    (p : Periodic) : Punctual p (AppScheduler.step w script s c).2 := by
  rcases step_cases w script s c with ⟨-, he⟩ | ⟨locals, -, -, he⟩ | ⟨locals, q, -, hrun, he⟩ |
    ⟨locals, -, -, he⟩ <;> rw [he]
  · exact fun hpoint hwaits => h p hpoint (Nat.lt_of_succ_lt hwaits)
  · exact h p
  · by_cases hqp : p = q
    · subst hqp
      exact punctual_own w script hrun locals
    · obtain ⟨hloop, hwake⟩ := loopAction_other w script s hqp locals
      have hticks := loopAction_ticks w script s q locals
      simp only [Punctual, hloop, hwake, hticks]
      exact h p
  · obtain ⟨hloop, hwake, hticks⟩ := supervisorAction_frame s p
    simp only [Punctual, hloop, hwake, hticks]
    exact h p

theorem reachable_punctual (hs : (idealSystem B w script writer).Reachable s) :
    ∀ p, Punctual p s := by
  obtain ⟨s₀, ls, h0, hrun⟩ := hs
  refine (scheduler_inductive w script writer).history (P := fun _ s => ∀ p, Punctual p s)
    ((scheduler_inductive w script writer).init s₀ h0) ?_ ?_ hrun
  · obtain ⟨s₀', -, hstart⟩ := h0
    rw [(start_eq hstart).2.2]
    exact fun p hpoint _ => by cases hpoint
  · intro ls s l s' _ h hst
    obtain ⟨c, -, rfl, rfl⟩ := LTS.ofStep_step hst
    exact punctual_step script h c

/-- At the start every loop owes one activation. -/
theorem work_start [LawfulRtos B] (h0 : (idealSystem B w script writer).init s) :
    work s = 25 := by
  obtain ⟨s₀', -, hstart⟩ := h0
  have hreplies : repliesWaiting s.rtos = 0 := by
    rw [(start_eq hstart).2.2]
    exact count_replies (refines_init s₀' writer).2.tracks
  rw [work, hreplies, (start_eq hstart).2.2]
  rfl

/-- **Bounded demand.** All that the tasks have done and all that is left of
it is bounded by the time that has passed. -/
theorem demand_bound [LawfulRtos B] (h0 : (idealSystem B w script writer).init s₀)
    (hrun : (idealSystem B w script writer).Run s₀ ls s) :
    busy ls + work s ≤ 25 + 18 * s.kernel.ticks := by
  refine LTS.inductive_reachable.history (P := fun ls s => busy ls + work s ≤ 25 + 18 * s.kernel.ticks)
    (LTS.Reachable.of_init h0) ?_ ?_ hrun
  · rw [work_start h0]
    exact Nat.le_add_right _ _
  · intro ls s l s' hs hP hst
    obtain ⟨c, -, rfl, rfl⟩ := LTS.ofStep_step hst
    have hbusy : busy (ls ++ [(AppScheduler.step w script s c).1]) = busy ls +
        if (AppScheduler.step w script s c).1.isBusy then 1 else 0 := by
      rw [busy, List.countP_append, List.countP_singleton]
      rfl
    rw [hbusy]
    rcases step_busy (w := w) script s c with ⟨he, hidle⟩ | ⟨he, hidle⟩ | ⟨hne, htick, locals, rfl⟩
    · have htick := work_tick (s := s) (reachable_punctual hs)
      rw [he, hidle]
      simp only [Bool.false_eq_true, if_false, TaskView.tick_ticks]
      omega
    · rw [he, hidle]
      exact hP
    · have hstep := work_run hs hne locals
      rw [htick]
      split <;> omega

/-- Without a tick, the work that is left is enough. -/
theorem idle_after [LawfulRtos B] : ∀ (locals : List Locals) {s : IdealScheduler B},
    (idealSystem B w script writer).Reachable s →
    s.taskToRun = none ∨ work s ≤ locals.length →
    (LTS.exec (AppScheduler.step w script) s (locals.map .run)).2.taskToRun = none := by
  intro locals
  induction locals with
  | nil =>
    intro s hs h
    rcases h with h | hle
    · exact h
    · by_contra hne
      have hstep := work_run hs hne zeroLocals
      rw [List.length_nil] at hle
      omega
  | cons l locals ih =>
    intro s hs h
    refine ih (hs.snoc (LTS.step_of_act (step_choice w script) s (.run l))) ?_
    by_cases hne : s.taskToRun = none
    · have he : (AppScheduler.step w script s (.run l)).2 = s := by
        simp only [AppScheduler.step, hne]
      exact Or.inl (by rw [he]; exact hne)
    · have hstep := work_run hs hne l
      rw [List.length_cons] at h
      rcases h with h | hle
      · exact absurd h hne
      · exact Or.inr (by omega)

/-- **The tasks catch up.** In every run, however late the tasks are, a
bounded number of further actions leaves nothing ready. -/
theorem catches_up [LawfulRtos B] {K : Type} [TaskApi Task K] [LawfulTasks Task K] {s₀ s : AppScheduler B K}
    (h0 : (schedulerSystem B K w script writer).init s₀)
    (hrun : (schedulerSystem B K w script writer).Run s₀ ls s) (locals : List Locals)
    (hlen : 25 + 18 * elapsed ls ≤ busy ls + locals.length) :
    (LTS.exec (AppScheduler.step w script) s (locals.map .run)).2.taskToRun = none := by
  obtain ⟨u₀, u, hu₀, hu, hshown⟩ := ideal_run h0 hrun
  have hbound := demand_bound hu₀ hu
  rw [elapsed_run hu₀ hu] at hbound
  rw [(exec_shown hshown (locals.map .run)).2.taskToRun]
  exact idle_after locals ⟨u₀, ls, hu₀, hu⟩ (Or.inr (by omega))

theorem catches_up_demo : (LTS.exec (AppScheduler.step .lp64 APP_SCHEDULER_DEMO_SCRIPT)
    (demoRun (demoChoices 12 10)).2 ((List.replicate 193 zeroLocals).map .run)).2.taskToRun = none :=
  catches_up (schedulerStart_init .lp64 APP_SCHEDULER_DEMO_SCRIPT) (demoRun_run (demoChoices 12 10))
    (List.replicate 193 zeroLocals) (by decide +kernel)

end MotionFirmware.L5
