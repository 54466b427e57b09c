import MotionFirmware.L5Scheduler.InTime
import MotionFirmware.L5Scheduler.ScriptFlow

/-!
# What the demo answers

Without overload a line takes its way through the three tasks in 500 ms: the
motion task is above the command task, so it finds the command 100 ms later,
and the telemetry task writes the response with its next report (`Flows`). The
demo runs for 3500 ms. So when it stops, exactly the first seven lines of the
script have been answered; an eighth is left in the queue (`demo_answers`).
-/
namespace MotionFirmware.L5

open MotionFirmware.Core MotionFirmware.L1.Motion MotionFirmware.L1.Fault MotionFirmware.L1.Telemetry
open MotionFirmware.L1.Parser MotionFirmware.L2.Port MotionFirmware.L3.Messages MotionFirmware.L3.Tasks
open MotionFirmware.L4
open AppScheduler
open MotionFirmware.L2.FreertosPort (targetBackend)
open MotionFirmware.L2.TaskKernel

/-! ## Under way -/

section Counts

variable {w : LongWidth} {p : Preempted}

/-- The responses not written yet. -/
def Preempted.unwritten (p : Preempted) : Nat :=
  p.device.replies.length + p.telemetryTask.inFlight.length

/-- A telemetry action writes what there is, and finds none before it is
drained. -/
theorem unwritten_action (p : Preempted) : p.action.unwritten ≤ p.unwritten ∧
    (∀ status, p.action.telemetryTask = .drained status → p.action.unwritten = 0) ∧
    (p.action.telemetryTask = .idle → ∃ status, p.telemetryTask = .drained status) := by
  obtain ⟨d, point⟩ := p
  cases point with
  | draining status message =>
    cases hq : d.replies <;> simp [Preempted.action, Preempted.unwritten, TelemetryPoint.inFlight, hq]
  | _ => simp [Preempted.action, Preempted.unwritten, TelemetryPoint.inFlight]

/-- A motion step takes the first command, if any, and answers only that. -/
theorem unwritten_motion (h : p.telemetryTask = .idle) (locals : Locals) :
    let p' := (Preempted.step w Preempted.action p (.motion locals)).2
    p'.telemetryTask = .idle ∧ p'.device.commands.length = p.device.commands.length - 1 ∧
      (p.device.commands.length = 0 → p'.unwritten = p.unwritten) := by
  obtain ⟨d, point⟩ := p
  simp only at h
  subst h
  simp only [Preempted.step, TelemetryPoint.holdsMutex, Bool.false_eq_true, if_false, Preempted.unwritten,
    TelemetryPoint.inFlight, Device.taskStep, Device.motionStep, true_and]
  cases hq : d.commands with
  | nil => simp [Device.tick, hq]
  | cons c rest =>
    obtain ⟨hc, -⟩ := Device.obey_queues { d with commands := rest } c
    obtain ⟨-, hkeep⟩ := reply_count ((Device.obey { d with commands := rest } c).tick
      APP_SCHEDULER_MOTION_PERIOD_MS) (d.response c)
    simp [hkeep.trans hc]

/-- A line that parses is queued. -/
theorem unwritten_command (hroom : p.device.commands.length < APP_COMMAND_QUEUE_CAPACITY)
    {line : CString} (hparse : (Device.parse w line).1 = .ok) (locals : Locals) :
    let p' := (Preempted.step w Preempted.action p (.command (some line) locals)).2
    p'.telemetryTask = p.telemetryTask ∧
      p'.device.commands.length = p.device.commands.length + 1 ∧ p'.unwritten = p.unwritten := by
  simp [Preempted.step, Device.taskStep, Device.commandStep, hparse, hroom, Preempted.unwritten]

end Counts

variable {B : RtosBackend} {w : LongWidth} {script : List CString} {s s' s₀ : IdealScheduler B}
  {ls : List SchedLabel} {p q : Periodic} {writer : Bool}

/-! ## On time -/

/-- What is above the task that runs has finished all that was due. -/
theorem OnTick.above_finished (h : OnTick ls s) (hinv : s.Inv) (hstop : s.stopRequested = false) {t : Task}
    (hrun : s.taskToRun = some t) (hlt : t.priority < (Task.loop p).priority) :
    finished p ls s = due 0 p.periodTicks s.kernel.ticks := by
  have hpoint := hinv.check_of_above hstop hrun hlt
  rw [finished, hpoint, if_neg (by decide), Nat.sub_zero]
  exact (h.history (by rw [hpoint]; decide)).due hpoint (hinv.waits hrun hlt)

/-- While another task is in its body, the telemetry task is outside its own. -/
theorem OnTick.telemetry_idle (h : OnTick ls s) (hinv : s.Inv) (hrun : s.taskToRun = some (.loop p))
    (hp : p ≠ .telemetry) : s.rtos.telemetryTask = .idle := by
  refine (hinv.outside (p := .telemetry) fun e => ?_).1 rfl
  exact hp (h.alone hinv hrun (by rw [e]; rfl)).symm

/-- That is time for eight lines. -/
theorem Runtime.line_mem (h : Runtime s) (hinv : s.Inv) (hscript : Scripted script ls s) (hon : OnTick ls s)
    (hstop : s.stopRequested = false) (hpoint : (s.loops .command).point = .body) {line : CString}
    (hline : script[s.commandIndex]? = some line) : line ∈ script.take 8 := by
  have hnow : s.kernel.ticks ≤ 3500 := h.ticks_le hinv hstop
  have hcount : (starts .command ls).length ≤ s.kernel.ticks / 500 + 1 := hon.count_le .command
  have hindex := hscript.index
  rw [finished, if_pos hpoint] at hindex
  obtain ⟨hlt, hget⟩ := List.getElem?_eq_some_iff.mp hline
  rw [List.mem_take_iff_getElem]
  exact ⟨s.commandIndex, by omega, hget⟩

variable [RtosApi B]

/-! ## On the target -/

def commandsWaiting (s : Rtos B) : Nat := appTasksCommandQueueCount s.firmware

def unwritten (s : Rtos B) : Nat := repliesWaiting s + s.telemetryTask.inFlight.length

/-- The same counts, at the same point. -/
structure Counts (s : Rtos B) (p : Preempted) : Prop where
  commands : commandsWaiting s = p.device.commands.length
  unwritten : L5.unwritten s = p.unwritten
  point : s.telemetryTask.read = p.telemetryTask

theorem Counts.drained {s : Rtos B} {p : Preempted} (h : Counts s p) (status : TelemetryStatus) :
    s.telemetryTask = .drained status ↔ p.telemetryTask = .drained status := by
  rw [← h.point]
  cases s.telemetryTask <;> simp [TelemetryPoint.read]

theorem Counts.idle {s : Rtos B} {p : Preempted} (h : Counts s p) :
    s.telemetryTask = .idle ↔ p.telemetryTask = .idle := by
  rw [← h.point]
  exact (TelemetryPoint.read_idle _).symm

theorem counts_follow [LawfulRtos B] {t : Rtos B} {p : Preempted} (h : Follows t p)
    (before : List Text) : Counts (t.behind before) p where
  commands := by
    have hbehind : commandsWaiting (t.behind before) = commandsWaiting t := rfl
    exact hbehind.trans (count_commands h.tracks)
  unwritten := by
    have hbehind : repliesWaiting (t.behind before) = repliesWaiting t := rfl
    have hflight : t.telemetryTask.inFlight.length = p.telemetryTask.inFlight.length := by
      rw [← h.point]
      cases t.telemetryTask <;> rfl
    have hreplies := hbehind.trans (count_replies h.tracks)
    rw [L5.unwritten, Preempted.unwritten, hreplies, ← hflight]
    rfl
  point := h.point

/-- What is under way, before and after a step of the firmware. -/
theorem counts_step [LawfulRtos B] (hs : (idealSystem B w script writer).Reachable s) :
    ∃ p, Counts s.rtos p ∧ ∀ c, Counts (rtosStep w telemetryAction s.rtos c).2
      (Preempted.step w Preempted.action p c).2 := by
  obtain ⟨t, p, hsame, h, hp⟩ := scheduler_follows hs
  refine ⟨p, by rw [hsame]; exact counts_follow h _, fun c => ?_⟩
  rw [hsame, rtosStep_behind]
  exact counts_follow (follows_step w (fun _ _ locals h => follows_action h locals) h hp.device c).2 _

/-! ## The way of a line -/

/-- While a command waits, the motion task has not run since; while a response
waits, the telemetry task has not. -/
structure Flows (ls : List SchedLabel) (s : IdealScheduler B) : Prop where
  commands : (commandsWaiting s.rtos = 0 ∧
      (s.commandIndex = 0 ∨ 5 * (s.commandIndex - 1) + 1 < finished .motion ls s)) ∨
    (commandsWaiting s.rtos = 1 ∧ 0 < s.commandIndex ∧
      finished .motion ls s = 5 * (s.commandIndex - 1) + 1)
  unwritten : unwritten s.rtos ≠ 0 →
    finished .telemetry ls s + commandsWaiting s.rtos ≤ s.commandIndex
  drained : ∀ status, s.rtos.telemetryTask = .drained status → L5.unwritten s.rtos = 0

/-- Nothing done, nothing finished. -/
theorem Flows.frame (h : Flows ls s) {ls' : List SchedLabel} (hrtos : s'.rtos = s.rtos)
    (hindex : s'.commandIndex = s.commandIndex)
    (hmotion : finished .motion ls' s' = finished .motion ls s)
    (htelemetry : finished .telemetry ls' s' = finished .telemetry ls s) : Flows ls' s' := by
  obtain ⟨h1, h2, h3⟩ := h
  refine ⟨?_, ?_, ?_⟩
  · rw [hrtos, hindex, hmotion]
    exact h1
  · rw [hrtos, hindex, htelemetry]
    exact h2
  · rw [hrtos]
    exact h3

section Body

variable [LawfulRtos B]

/-- The motion task obeys a line 100 ms after its release. -/
theorem flows_motion (hs : (idealSystem B w script writer).Reachable s) (h : Flows ls s)
    (hon : OnTick ls s) (hrun : s.taskToRun = some (.loop .motion))
    (hpoint : (s.loops .motion).point = .body) (locals : Locals) (c : SchedChoice) :
    Flows (ls ++ [⟨c, (loopAction w script s .motion locals).1⟩])
      (loopAction w script s .motion locals).2 := by
  have hinv := (scheduler_inductive w script writer).reachable s hs
  obtain ⟨h1, h2, h3⟩ := h
  obtain ⟨u, hu, hstep⟩ := counts_step hs
  obtain ⟨hidle, hcommands, hkeep⟩ := unwritten_motion (w := w)
    (hu.idle.mp (hon.telemetry_idle hinv hrun (by decide))) locals
  have hu' := hstep (.motion locals)
  have hmine := finished_own w script (hon.timed .motion) locals c
  have hother := finished_other w script s ls (p := .motion) (q := .telemetry) (by decide) locals c
  have hrtos : (loopAction w script s .motion locals).2.rtos =
      (rtosStep w telemetryAction s.rtos (.motion locals)).2 := by
    simp [loopAction, hpoint, bodyAction, motionAction, goto]
  have hindex : (loopAction w script s .motion locals).2.commandIndex = s.commandIndex := by
    simp [loopAction, hpoint, bodyAction, motionAction, goto]
  rw [hpoint, if_pos ⟨rfl, rfl⟩] at hmine
  rw [← hrtos] at hu'
  rw [← hu.commands, ← hu'.commands] at hcommands
  rw [← hu.commands, ← hu.unwritten, ← hu'.unwritten] at hkeep
  rw [← hu'.idle] at hidle
  -- it runs at `100 * k`, after `k` activations
  obtain ⟨hne, hnow⟩ := hon.active .motion (by rw [hpoint]; rfl)
  have hcount : finished .motion ls s = (starts .motion ls).length - 1 := by rw [finished, if_pos hpoint]
  have hlate : finished .telemetry ls s ≤ due 0 500 s.kernel.ticks :=
    (Nat.sub_le _ _).trans (hon.count_le .telemetry)
  have hperiod : Periodic.motion.periodTicks = 100 := by decide
  rw [hperiod, release, ← hcount] at hnow
  rw [due] at hlate
  refine ⟨Or.inl ⟨by omega, by omega⟩, fun hne => ?_, fun status e => ?_⟩
  · rw [hother, hindex]
    rcases h1 with ⟨hnone, -⟩ | ⟨hone, hpos, heq⟩
    · rw [hkeep hnone] at hne
      have := h2 hne
      omega
    · omega
  · rw [hidle] at e
    cases e

/-- The command task runs behind the motion task, so nothing waits for that. -/
theorem flows_command (hs : (idealSystem B w script writer).Reachable s) (h : Flows ls s)
    (hon : OnTick ls s) (hsub : Submits script ls s) (hscript : Scripted script ls s)
    (hrun : s.taskToRun = some (.loop .command)) (hstop : s.stopRequested = false)
    (hpoint : (s.loops .command).point = .body)
    (hparse : ∀ line, script[s.commandIndex]? = some line → (Device.parse w line).1 = .ok)
    (locals : Locals) (c : SchedChoice) :
    Flows (ls ++ [⟨c, (loopAction w script s .command locals).1⟩])
      (loopAction w script s .command locals).2 := by
  have hinv := (scheduler_inductive w script writer).reachable s hs
  have hmotion := finished_other w script s ls (p := .command) (q := .motion) (by decide) locals c
  have htelemetry := finished_other w script s ls (p := .command) (q := .telemetry) (by decide) locals c
  obtain ⟨-, -, hrtos, hindex, -⟩ := (loopAction_firmware w script s .command locals c).resolve_left
    fun e => e.1 hpoint
  rcases commandAction_cases w script s locals with ⟨-, -, he⟩ | ⟨line, result, command, -, -, -, he⟩ |
    ⟨line, locals', result, command, r, htask, hr, he⟩ <;> simp only [bodyAction, he] at hrtos hindex
  · exact h.frame hrtos hindex hmotion htelemetry
  · exact h.frame hrtos hindex hmotion htelemetry
  · have hline := hsub.line line locals' result command htask
    have hrtos' : (loopAction w script s .command locals).2.rtos =
        (rtosStep w telemetryAction s.rtos (.command (some line) locals')).2 := by
      have hqueue := commandStep_eq w s.rtos.firmware line locals'
      rw [parsed_reachable hs line locals' result command htask, hr] at hqueue
      simp [hrtos, rtosStep, appTaskStep, hqueue]
    -- the command task runs at `500 * k`, after `k` activations of its own and `5 * k + 1` of the motion task
    obtain ⟨hne, hnow⟩ := hon.active .command (by rw [hpoint]; rfl)
    have hbefore := hon.above_finished hinv hstop hrun (p := .motion) (by decide)
    have hown := hscript.index
    obtain ⟨hlt, -⟩ := List.getElem?_eq_some_iff.mp hline
    have hpos := List.length_pos_of_ne_nil hne
    have hperiod : Periodic.command.periodTicks = 500 := by decide
    have hperiod' : Periodic.motion.periodTicks = 100 := by decide
    rw [finished, if_pos hpoint] at hown
    rw [hperiod, release] at hnow
    rw [hperiod', due] at hbefore
    obtain ⟨h1, h2, h3⟩ := h
    have hnone : commandsWaiting s.rtos = 0 := by omega
    obtain ⟨u, hu, hstep⟩ := counts_step hs
    have hu' := hstep (.command (some line) locals')
    obtain ⟨hkeep, hcommands, hwritten⟩ := unwritten_command (w := w) (p := u)
      (by rw [← hu.commands, hnone]; decide) (hparse line hline) locals'
    rw [← hrtos'] at hu'
    rw [← hu.commands, ← hu'.commands] at hcommands
    rw [← hu.unwritten, ← hu'.unwritten] at hwritten
    refine ⟨Or.inr ⟨by omega, by omega, by omega⟩, fun hne => ?_, fun status e => ?_⟩
    · rw [htelemetry, hindex]
      have := h2 (by omega)
      omega
    · rw [hwritten]
      exact h3 status ((hu.drained status).mpr (hkeep ▸ (hu'.drained status).mp e))

/-- The telemetry task writes all there is. -/
theorem flows_telemetry (hs : (idealSystem B w script writer).Reachable s) (h : Flows ls s)
    (hon : OnTick ls s) (hpoint : (s.loops .telemetry).point = .body) (locals : Locals)
    (c : SchedChoice) :
    Flows (ls ++ [⟨c, (loopAction w script s .telemetry locals).1⟩])
      (loopAction w script s .telemetry locals).2 := by
  obtain ⟨h1, h2, h3⟩ := h
  obtain ⟨u, hu, hstep⟩ := counts_step hs
  obtain ⟨hle, hdrained, hidle⟩ := unwritten_action u
  have hcommands := (action_commands u).1
  have hmine := finished_own w script (hon.timed .telemetry) locals c
  have hother := finished_other w script s ls (p := .telemetry) (q := .motion) (by decide) locals c
  obtain ⟨-, -, hrtos, hindex, -⟩ := (loopAction_firmware w script s .telemetry locals c).resolve_left
    fun e => e.1 hpoint
  have hrtos' : (loopAction w script s .telemetry locals).2.rtos =
      (rtosStep w telemetryAction s.rtos (.telemetry locals)).2 := hrtos
  have hindex' : (loopAction w script s .telemetry locals).2.commandIndex = s.commandIndex := hindex
  have hu' : Counts (loopAction w script s .telemetry locals).2.rtos u.action := by
    rw [hrtos']
    exact hstep (.telemetry locals)
  have hsame : commandsWaiting (loopAction w script s .telemetry locals).2.rtos = commandsWaiting s.rtos := by
    rw [hu'.commands, hu.commands, hcommands]
  rw [← hu.unwritten, ← hu'.unwritten] at hle
  refine ⟨?_, fun hne => ?_, fun status e => ?_⟩
  · rw [hsame, hindex', hother]
    exact h1
  · rw [hmine, hsame, hindex', hpoint]
    have hlate := h2 (by omega)
    by_cases hover : (bodyAction w script s .telemetry locals).2.1 = true
    · -- it is over only when nothing is left
      have hafter : u.action.telemetryTask = .idle := by
        rw [← hu'.idle, hrtos']
        exact of_decide_eq_true hover
      obtain ⟨status, hbefore⟩ := hidle hafter
      have hzero := h3 status ((hu.drained status).mpr hbefore)
      omega
    · rw [if_neg fun e => hover e.2]
      exact hlate
  · rw [hu'.unwritten]
    exact hdrained status ((hu'.drained status).mp e)

/-- What a step of a loop makes of the way of a line. -/
theorem flows_own (hs : (idealSystem B w script writer).Reachable s) (h : Flows ls s)
    (hon : OnTick ls s) (hsub : Submits script ls s) (hscript : Scripted script ls s)
    (hrun : s.taskToRun = some (.loop p)) (hstop : s.stopRequested = false)
    (hparse : ∀ line, (s.loops .command).point = .body → script[s.commandIndex]? = some line →
      (Device.parse w line).1 = .ok) (locals : Locals) (c : SchedChoice) :
    Flows (ls ++ [⟨c, (loopAction w script s p locals).1⟩])
      (loopAction w script s p locals).2 := by
  by_cases hpoint : (s.loops p).point = .body
  · cases p with
    | command =>
      exact flows_command hs h hon hsub hscript hrun hstop hpoint (fun line => hparse line hpoint) locals c
    | motion => exact flows_motion hs h hon hrun hpoint locals c
    | telemetry => exact flows_telemetry hs h hon hpoint locals c
  · obtain ⟨-, -, hrtos, hindex, -⟩ := (loopAction_firmware w script s p locals c).resolve_right
      fun e => hpoint e.1
    have hfinished (q : Periodic) : finished q (ls ++ [⟨c, (loopAction w script s p locals).1⟩])
        (loopAction w script s p locals).2 = finished q ls s := by
      by_cases hq : q = p
      · subst hq
        rw [finished_own w script (hon.timed q) locals c, if_neg fun e => hpoint e.1, Nat.add_zero]
      · exact finished_other w script s ls hq locals c
    exact h.frame hrtos hindex (hfinished .motion) (hfinished .telemetry)

end Body

/-! ## The whole demo -/

/-- Seven lines have been answered, and an eighth waits, if there is one. -/
structure Settled (script : List CString) (s : IdealScheduler B) : Prop where
  written : unwritten s.rtos = 0
  left : (commandsWaiting s.rtos = 0 ∧ s.commandIndex = script.length ∧ script.length ≤ 7) ∨
    (commandsWaiting s.rtos = 1 ∧ s.commandIndex = 8 ∧ 8 ≤ script.length)

/-- When the supervisor wakes, all tasks have had their activations. -/
theorem settled_stop (h : Flows ls s) (hon : OnTick ls s) (hscript : Scripted script ls s) (hinv : s.Inv)
    (hrun : s.taskToRun = some .supervisor) (hstop : s.stopRequested = false)
    (hnow : s.kernel.ticks = inTicks APP_SCHEDULER_DEMO_RUNTIME_MS) : Settled script s := by
  have hcount (p : Periodic) := hon.above_finished hinv hstop hrun (p := p) (by cases p <;> decide)
  have hindex : s.commandIndex = min (finished .command ls s) script.length := hscript.index
  have hcommand : finished .command ls s = 8 := by rw [hcount, hnow]; decide
  have hmotion : finished .motion ls s = 36 := by rw [hcount, hnow]; decide
  have htelemetry : finished .telemetry ls s = 8 := by rw [hcount, hnow]; decide
  obtain ⟨h1, h2, -⟩ := h
  rw [hmotion] at h1
  rw [htelemetry] at h2
  rw [hcommand] at hindex
  refine ⟨?_, ?_⟩
  · by_contra hne
    have := h2 hne
    omega
  · omega

/-- And then nothing moves any more. -/
theorem settled_step (h : Settled script s) (hinv : s.Inv) (hstop : s.stopRequested = true)
    (c : SchedChoice) : Settled script (AppScheduler.step w script s c).2 := by
  have hkeep := (quiet_step (w := w) script hinv hstop c).1
  have hindex : (AppScheduler.step w script s c).2.commandIndex = s.commandIndex := by
    rcases step_cases w script s c with ⟨-, he⟩ | ⟨locals, -, -, he⟩ | ⟨locals, p, -, -, he⟩ |
      ⟨locals, -, -, he⟩ <;> rw [he]
    · refine ((loopAction_firmware w script s p locals (.run locals)).resolve_right fun e => ?_).2.2.2.1
      have hrest := hinv.stopped hstop p
      rw [e.1] at hrest
      cases hrest
    · unfold supervisorAction
      cases s.supervisorTask <;> rfl
  exact ⟨by rw [hkeep]; exact h.written, by rw [hkeep, hindex]; exact h.left⟩

/-- The way of every line, and where it has got when the demo stops. -/
theorem flows_run [LawfulRtos B] (h0 : (idealSystem B w script writer).init s₀)
    (hrun : ((idealSystem B w script writer).restrict InTime).Run s₀ ls s)
    (hparse : ∀ line ∈ script.take 8, (Device.parse w line).1 = .ok) :
    (s.stopRequested = false → Flows ls s) ∧ (s.stopRequested = true → Settled script s) := by
  induction hrun with
  | nil =>
    obtain ⟨s₀', -, hstart⟩ := h0
    have htracks := (refines_init s₀' writer).2.tracks
    rw [(start_eq hstart).2.2]
    refine ⟨fun _ => ⟨Or.inl ⟨count_commands htracks, Or.inl rfl⟩, fun hne => ?_, fun _ e => by cases e⟩,
      fun e => by cases e⟩
    exact absurd (count_replies htracks) hne
  | @snoc ls s s' l hrun hst ih =>
    have hreach : (idealSystem B w script writer).Reachable s := ⟨s₀, ls, h0, hrun.of_restrict⟩
    have hinv := (scheduler_inductive w script writer).reachable s hreach
    have hsub := submits_run h0 hrun.of_restrict
    obtain ⟨hruntime, hontick⟩ := onTick_run h0 hrun
    obtain ⟨hst, -⟩ := hst
    obtain ⟨c, -, rfl, rfl⟩ := LTS.ofStep_step hst
    cases hstop : s.stopRequested with
    | true =>
      refine ⟨fun e => ?_, fun _ => settled_step (ih.2 hstop) hinv hstop c⟩
      rw [(quiet_step script hinv hstop c).2] at e
      cases e
    | false =>
      have hflows := ih.1 hstop
      have hon := hontick hstop
      have hscript := scripted_run h0 hrun.of_restrict (by
        have hnow := hruntime.ticks_le hinv hstop
        have hlong : inTicks APP_SCHEDULER_DEMO_RUNTIME_MS < 2 ^ 32 := by decide
        rw [elapsed_run h0 hrun.of_restrict] at hnow
        omega)
      rcases step_cases w script s c with ⟨-, he⟩ | ⟨locals, -, -, he⟩ | ⟨locals, p, -, hrun', he⟩ |
        ⟨locals, -, hrun', he⟩ <;> rw [he]
      · refine ⟨fun _ => hflows.frame rfl rfl ?_ ?_, fun e => ?_⟩
        · simp [finished, starts_snoc, SchedEvent.begins]
        · simp [finished, starts_snoc, SchedEvent.begins]
        · rw [hstop] at e
          cases e
      · refine ⟨fun _ => hflows.frame rfl rfl ?_ ?_, fun e => ?_⟩
        · simp [finished, starts_snoc, SchedEvent.begins]
        · simp [finished, starts_snoc, SchedEvent.begins]
        · rw [hstop] at e
          cases e
      · refine ⟨fun _ => flows_own hreach hflows hon hsub hscript hrun' hstop
          (fun line hpoint hline => ?_) locals _, fun e => ?_⟩
        · exact hparse line (hruntime.line_mem hinv hscript hon hstop hpoint hline)
        · rw [(loopAction_supervision w script s p locals).2.1, hstop] at e
          cases e
      · rcases hinv.supervisor.mp hstop with hsup | hsup
        · refine ⟨fun _ => ?_, fun e => ?_⟩
          · simp only [supervisorAction, hsup]
            refine hflows.frame rfl rfl ?_ ?_ <;> simp [finished, starts_snoc, SchedEvent.begins]
          · simp [supervisorAction, hsup, hstop] at e
        · obtain ⟨hle, hwake⟩ := hruntime.runtime hsup
          have hready := ready_of_run hrun'
          have hsettled := settled_stop hflows hon hscript hinv hrun' hstop (by omega)
          refine ⟨fun e => ?_, fun _ => ?_⟩
          · simp [supervisorAction, hsup] at e
          · simp only [supervisorAction, hsup]
            exact ⟨hsettled.written, hsettled.left⟩

/-- What is written by then. -/
theorem settled_answers [LawfulRtos B] (h0 : (idealSystem B w script true).init s₀)
    (hrun : ((idealSystem B w script true).restrict InTime).Run s₀ ls s)
    (hparse : ∀ line ∈ script.take 8, (Device.parse w line).1 = .ok) (hstop : s.stopRequested = true) :
    responseLines s.rtos.firmware.telemetry.written =
      TELEMETRY_STARTUP_LINE :: session.outputs false (commandsOf w (script.take 7)) := by
  obtain ⟨hwritten, hleft⟩ := (flows_run h0 hrun hparse).2 hstop
  have hsub := submits_run h0 hrun.of_restrict
  have hlines : (ls.filterMap SchedLabel.did).filterMap Label.line? = script.take s.commandIndex :=
    hsub.lines
  obtain ⟨p₀, p, t, hp₀, hp, hsame, h, -⟩ := scheduler_preempted h0 hrun.of_restrict
  have hindex : s.commandIndex ≤ 8 := by omega
  have hdel := short_delivers ofActions_action hp₀ hp
    (by rw [hlines, List.length_take]; exact (Nat.min_le_left _ _).trans hindex)
    fun line hline => hparse line (List.take_subset_take_left _ hindex (hlines ▸ hline))
  obtain ⟨served, haccepted, hanswered⟩ := preempted_served ofActions_action hp₀ hp hdel
  have hcounts := counts_follow h (startupLines true)
  rw [← hsame] at hcounts
  rw [hcounts.unwritten, Preempted.unwritten, Nat.add_eq_zero_iff, List.length_eq_zero_iff,
    List.length_eq_zero_iff] at hwritten
  rw [hcounts.commands] at hleft
  rw [hlines] at haccepted
  rw [Preempted.responses, hwritten.1, hwritten.2, List.append_nil, List.append_nil] at hanswered
  have hserved : served = commandsOf w (script.take 7) := by
    rcases hleft with ⟨hnone, hall, hshort⟩ | ⟨hone, hall, hlong⟩
    · rw [List.length_eq_zero_iff.mp hnone, List.append_nil, hall, List.take_length] at haccepted
      rw [haccepted, List.take_of_length_le hshort]
    · have hlen : served.length = 7 := by
        have := congrArg List.length haccepted
        rw [List.length_append, hone, hall, commandsOf, List.length_map, List.length_take] at this
        omega
      rw [hall] at haccepted
      have hfirst := congrArg (List.take 7) haccepted
      rw [List.take_left' hlen, commandsOf, ← List.map_take, List.take_take] at hfirst
      exact hfirst
  rw [written_behind hsame h, hanswered, hserved]

/-- **What the demo answers.** Without overload the response lines of the demo
are the boot message and the answers to the first seven lines of the script. -/
theorem demo_answers [LawfulRtos B] {K : Type} [TaskApi Task K] [LawfulTasks Task K] {k₀ k : AppScheduler B K}
    (h0 : (schedulerSystem B K w script true).init k₀)
    (hrun : ((schedulerSystem B K w script true).restrict InTime).Run k₀ ls k)
    (hparse : ∀ line ∈ script.take 8, (Device.parse w line).1 = .ok) (hstop : k.stopRequested = true) :
    responseLines k.rtos.firmware.telemetry.written =
      TELEMETRY_STARTUP_LINE :: session.outputs false (commandsOf w (script.take 7)) := by
  obtain ⟨u₀, u, hu₀, hu, hshown⟩ := ideal_run_inTime h0 hrun
  rw [hshown.rtos]
  exact settled_answers hu₀ hu hparse (hshown.stopRequested.symm.trans hstop)

theorem demo_answers_demo : ∃ s : IdealScheduler targetBackend, s.stopRequested = true ∧
    responseLines s.rtos.firmware.telemetry.written = TELEMETRY_STARTUP_LINE ::
      [APP_RESPONSE_PONG, APP_RESPONSE_MOVE_QUEUED, APP_RESPONSE_ESTOP, APP_RESPONSE_FAULT_CLEARED,
        APP_RESPONSE_STATUS] := by
  obtain ⟨ls, s, hrun, hstop⟩ := demo_stops
  refine ⟨s, hstop, (demo_answers (schedulerStart_init .lp64 APP_SCHEDULER_DEMO_SCRIPT) hrun
    (by decide +kernel) hstop).trans ?_⟩
  decide +kernel

end MotionFirmware.L5
