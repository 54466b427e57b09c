import MotionFirmware.L2Port.TaskKernel
import MotionFirmware.L5Scheduler.Preemption

/-!
# The scheduler (`tasks/app_scheduler.c`)

The four task functions, on a kernel. `Preemption` lets any task run at any
time; here the kernel says which one runs, the command lines come from the
script, and the supervisor ends it all.

A `SchedChoice` is a tick of the clock, which may fall anywhere, or the next
action of the task that runs. An action is what a task does between two points
at which a tick can preempt it with an effect on shared state:

* the first reading of the tick count, the test of a loop, a delay;
* for the command task the parser, then the queue;
* for the telemetry task the actions of `Preemption`;
* for the motion task the whole step, as nothing runs above it.

The kernel is a parameter (`TaskApi`). What is proved needs its laws
(`LawfulTasks`) where it says so; what is computed is computed on the ideal
kernel (`TaskView`). A take with a zero timeout raises no priority, so the
mutex does not concern the kernel.
-/
namespace MotionFirmware.L5

open MotionFirmware.Core MotionFirmware.L1.Motion MotionFirmware.L1.Fault MotionFirmware.L1.Telemetry
open MotionFirmware.L1.Parser MotionFirmware.L2.Port MotionFirmware.L3.Messages MotionFirmware.L3.Tasks
open MotionFirmware.L4
open MotionFirmware.L2.FreertosPort (targetBackend)
open MotionFirmware.L2.TaskKernel
open TaskApi (xTaskCreateStatic vTaskStartScheduler vTaskEndScheduler xTaskGetTickCount vTaskDelay
  vTaskDelayUntil pdMsToTicks)

/-- mirrors firmware/App/tasks/app_scheduler.c:14-18 -/
def APP_SCHEDULER_COMMAND_PERIOD_MS : UInt32 := 500
def APP_SCHEDULER_TELEMETRY_PERIOD_MS : UInt32 := 500
def APP_SCHEDULER_DEMO_RUNTIME_MS : UInt32 := 3500
def APP_SCHEDULER_SHUTDOWN_GRACE_MS : UInt32 := 100

/-- mirrors firmware/App/tasks/app_scheduler.c:23-26 -/
def APP_SCHEDULER_COMMAND_TASK_PRIORITY : Nat := 3
def APP_SCHEDULER_MOTION_TASK_PRIORITY : Nat := 4
def APP_SCHEDULER_TELEMETRY_TASK_PRIORITY : Nat := 2
def APP_SCHEDULER_SUPERVISOR_TASK_PRIORITY : Nat := 1

def demoTexts : List Text :=
  [ascii "PING", ascii "MOVE X=50 Y=20 F=25", ascii "ESTOP", ascii "CLEAR_FAULT", ascii "STATUS"]

theorem demoTexts_nul_free : ∀ text ∈ demoTexts, 0 ∉ text := by decide

/-- mirrors firmware/App/tasks/app_scheduler.c:36-42 -/
def APP_SCHEDULER_DEMO_SCRIPT : List CString := demoTexts.pmap CString.mk demoTexts_nul_free

/-! ## Tasks -/

/-- The tasks with a periodic loop. -/
inductive Periodic where
  | command | motion | telemetry
  deriving DecidableEq, Repr

inductive Task where
  | loop (p : Periodic)
  | supervisor
  deriving DecidableEq, Repr

/-- mirrors firmware/App/tasks/app_scheduler.c:81-84, 103-106, 125-128 -/
def Periodic.periodMs : Periodic → UInt32
  | .command => APP_SCHEDULER_COMMAND_PERIOD_MS
  | .motion => APP_SCHEDULER_MOTION_PERIOD_MS
  | .telemetry => APP_SCHEDULER_TELEMETRY_PERIOD_MS

/-- A time in ticks. -/
def inTicks (ms : UInt32) : Nat := ms.toNat * configTICK_RATE_HZ / 1000

def Periodic.periodTicks (p : Periodic) : Nat := inTicks p.periodMs

/-- mirrors firmware/App/tasks/app_scheduler.c:174-217 -/
def Task.priority : Task → Nat
  | .loop .command => APP_SCHEDULER_COMMAND_TASK_PRIORITY
  | .loop .motion => APP_SCHEDULER_MOTION_TASK_PRIORITY
  | .loop .telemetry => APP_SCHEDULER_TELEMETRY_TASK_PRIORITY
  | .supervisor => APP_SCHEDULER_SUPERVISOR_TASK_PRIORITY

/-- The tasks, in the order in which they are created.
mirrors firmware/App/tasks/app_scheduler.c:174-217 -/
def Task.all : List Task := [.loop .command, .loop .motion, .loop .telemetry, .supervisor]

theorem Task.mem_all (t : Task) : t ∈ Task.all := by
  cases t with
  | loop p => cases p <;> decide
  | supervisor => decide

theorem Periodic.periodTicks_pos (p : Periodic) : 0 < p.periodTicks := by cases p <;> decide

/-- Where a loop is. `entry`: nothing done yet; `check`: in front of the test
of the stop flag; `body`: in its step; `delay`: in front of `vTaskDelayUntil`;
`parked`: in the loop behind it.
mirrors firmware/App/tasks/app_scheduler.c:66-134 -/
inductive LoopPoint where
  | entry | check | body | delay | parked
  deriving DecidableEq, Repr

structure TaskLoop where
  point : LoopPoint
  lastWakeTime : UInt32
  deriving DecidableEq, Repr

/-- Where `app_command_task_step` is: outside, or between the parser and the
queue, with what the parser made of the line.
mirrors firmware/App/tasks/app_tasks.c:229-256 -/
inductive CommandPoint where
  | idle
  | parsed (line : CString) (locals : Locals) (result : CommandParseResult) (command : Command)

/-- In front of the first delay, of the store, of the second delay, of
`vTaskEndScheduler`; `ended`: the scheduler has stopped.
mirrors firmware/App/tasks/app_scheduler.c:139-150 -/
inductive SupervisorPoint where
  | entry | requestStop | grace | endScheduler | ended
  deriving DecidableEq, Repr

structure AppScheduler (B : RtosBackend) (K : Type) where
  rtos : Rtos B
  kernel : K
  stopRequested : Bool
  loops : Periodic → TaskLoop
  supervisorTask : SupervisorPoint
  commandIndex : Nat
  commandTask : CommandPoint

inductive SchedChoice where
  | tick
  | run (locals : Locals)

/-- What happened: time passed (`critical`: while the telemetry task held the
mutex), nothing was ready, a task first ran, an activation began, a loop was
left, an activation took an action (`did` is the step of `Preemption` it is,
if it is one), a task delayed itself, the supervisor acted. -/
inductive SchedEvent where
  | tick (critical : Bool)
  | idle
  | entered (p : Periodic)
  | began (p : Periodic)
  | left (p : Periodic)
  | acted (p : Periodic) (did : Option Label)
  | delayed (p : Periodic)
  | parked (p : Periodic)
  | supervised (point : SupervisorPoint)

structure SchedLabel where
  choice : SchedChoice
  event : SchedEvent

def SchedChoice.isTick : SchedChoice → Bool
  | .tick => true
  | .run _ => false

def SchedLabel.isTick (l : SchedLabel) : Bool := l.choice.isTick

/-- The ticks that have passed. -/
def elapsed (ls : List SchedLabel) : Nat := ls.countP SchedLabel.isTick

namespace AppScheduler

variable {B : RtosBackend} {K : Type}

def goto (s : AppScheduler B K) (p : Periodic) (point : LoopPoint) : AppScheduler B K :=
  { s with loops := Function.update s.loops p { s.loops p with point } }

/-- The tasks as they start. -/
def create (firmware : Firmware B) (kernel : K) : AppScheduler B K where
  rtos := ⟨firmware, .idle⟩
  kernel := kernel
  stopRequested := false
  loops := fun _ => ⟨.entry, 0⟩
  supervisorTask := .entry
  commandIndex := 0
  commandTask := .idle

section Kernel

variable [TaskApi Task K]

/-- The task the kernel runs. -/
def taskToRun (s : AppScheduler B K) : Option Task := TaskApi.taskToRun s.kernel

/-! ## Steps -/

/-- mirrors firmware/App/tasks/app_scheduler.c:139-150 -/
def supervisorAction (s : AppScheduler B K) : AppScheduler B K :=
  match s.supervisorTask with
  | .entry => { s with
      supervisorTask := .requestStop
      kernel := vTaskDelay s.kernel .supervisor (pdMsToTicks K APP_SCHEDULER_DEMO_RUNTIME_MS) }
  | .requestStop => { s with supervisorTask := .grace, stopRequested := true }
  | .grace => { s with
      supervisorTask := .endScheduler
      kernel := vTaskDelay s.kernel .supervisor (pdMsToTicks K APP_SCHEDULER_SHUTDOWN_GRACE_MS) }
  | .endScheduler => { s with supervisorTask := .ended, kernel := vTaskEndScheduler s.kernel }
  | .ended => s

/-! ## Creation -/

/-- mirrors firmware/App/tasks/app_scheduler.c:152-172 -/
def appSchedulerCreateTask (kernel : K) (task : Task) (priority : Nat) : Bool × K :=
  xTaskCreateStatic kernel task priority

/-- mirrors firmware/App/tasks/app_scheduler.c:174-217 -/
def appSchedulerCreateTasks (kernel : K) : Bool × K :=
  let r₁ := appSchedulerCreateTask kernel (.loop .command) APP_SCHEDULER_COMMAND_TASK_PRIORITY
  if !r₁.1 then (false, r₁.2)
  else
    let r₂ := appSchedulerCreateTask r₁.2 (.loop .motion) APP_SCHEDULER_MOTION_TASK_PRIORITY
    if !r₂.1 then (false, r₂.2)
    else
      let r₃ := appSchedulerCreateTask r₂.2 (.loop .telemetry) APP_SCHEDULER_TELEMETRY_TASK_PRIORITY
      if !r₃.1 then (false, r₃.2)
      else
        let r₄ := appSchedulerCreateTask r₃.2 .supervisor APP_SCHEDULER_SUPERVISOR_TASK_PRIORITY
        if !r₄.1 then (false, r₄.2) else (true, r₄.2)

end Kernel

variable [RtosApi B]

/-- An action of an activation: the step of `Preemption` it is, if any, and
whether the activation is over.
mirrors firmware/App/tasks/app_scheduler.c:73-79, app_tasks.c:229-256 -/
def commandAction (w : LongWidth) (script : List CString) (s : AppScheduler B K) (locals : Locals) :
    Option Label × Bool × AppScheduler B K :=
  match s.commandTask with
  | .idle =>
    match script[s.commandIndex]? with
    | none => (none, true, s)
    | some line =>
      let p := commandParserParse w (some line) locals.command
      (none, false, { s with commandTask := .parsed line locals p.1 p.2 })
  | .parsed line locals result command =>
    let r := appCommandTaskQueue s.rtos.firmware result command locals.telemetry
    (some (.activation ⟨.command (some line) locals, r.1⟩), true, { s with
      rtos := { s.rtos with firmware := r.2 }
      commandTask := .idle
      commandIndex := s.commandIndex + 1 })

/-- mirrors firmware/App/tasks/app_scheduler.c:101 -/
def motionAction (w : LongWidth) (s : AppScheduler B K) (locals : Locals) :
    Option Label × Bool × AppScheduler B K :=
  let r := rtosStep w telemetryAction s.rtos (.motion locals)
  (some r.1, true, { s with rtos := r.2 })

/-- mirrors firmware/App/tasks/app_scheduler.c:123 -/
def telemetryTaskAction (w : LongWidth) (s : AppScheduler B K) (locals : Locals) :
    Option Label × Bool × AppScheduler B K :=
  let r := rtosStep w telemetryAction s.rtos (.telemetry locals)
  (some r.1, decide (r.2.telemetryTask = .idle), { s with rtos := r.2 })

def bodyAction (w : LongWidth) (script : List CString) (s : AppScheduler B K) (p : Periodic)
    (locals : Locals) : Option Label × Bool × AppScheduler B K :=
  match p with
  | .command => commandAction w script s locals
  | .motion => motionAction w s locals
  | .telemetry => telemetryTaskAction w s locals

/-- The next action of a periodic task.
mirrors firmware/App/tasks/app_scheduler.c:66-134 -/
def loopAction [TaskApi Task K] (w : LongWidth) (script : List CString) (s : AppScheduler B K) (p : Periodic)
    (locals : Locals) : SchedEvent × AppScheduler B K :=
  match (s.loops p).point with
  | .entry => (.entered p, { s with
      loops := Function.update s.loops p ⟨.check, xTaskGetTickCount s.kernel⟩ })
  | .check => if s.stopRequested then (.left p, s.goto p .parked) else (.began p, s.goto p .body)
  | .body =>
    let r := bodyAction w script s p locals
    (.acted p r.1, if r.2.1 then r.2.2.goto p .delay else r.2.2)
  | .delay =>
    let r := vTaskDelayUntil s.kernel (.loop p) (s.loops p).lastWakeTime (pdMsToTicks K p.periodMs)
    (.delayed p, { s with loops := Function.update s.loops p ⟨.check, r.1⟩, kernel := r.2 })
  | .parked => (.parked p, { s with
      kernel := vTaskDelay s.kernel (.loop p) (pdMsToTicks K APP_SCHEDULER_SHUTDOWN_GRACE_MS) })

/-- A tick, or the next action of the task that runs. -/
def step [TaskApi Task K] (w : LongWidth) (script : List CString) (s : AppScheduler B K) :
    SchedChoice → SchedLabel × AppScheduler B K
  | .tick => (⟨.tick, .tick s.rtos.telemetryTask.holdsMutex⟩, { s with kernel := TaskApi.tick s.kernel })
  | .run locals =>
    match s.taskToRun with
    | none => (⟨.run locals, .idle⟩, s)
    | some (.loop p) =>
      let r := loopAction w script s p locals
      (⟨.run locals, r.1⟩, r.2)
    | some .supervisor => (⟨.run locals, .supervised s.supervisorTask⟩, s.supervisorAction)

/-- `none`: the function returns false.
mirrors firmware/App/tasks/app_scheduler.c:219-238 -/
def appSchedulerStart [TaskApi Task K] (s₀ : Firmware B) (telemetryWriter : Bool) :
    Option (AppScheduler B K) :=
  let r := appTasksInit s₀ telemetryWriter
  if !r.1 then none
  else
    let tasks := appSchedulerCreateTasks (TaskApi.reset : K)
    if !tasks.1 then none
    else some (create { r.2 with telemetry := telemetrySendStartup r.2.telemetry }
      (vTaskStartScheduler tasks.2))

/-! ## What a step does -/

/-- A tick, or nothing is ready, or the next action of the task that runs. -/
theorem step_cases [TaskApi Task K] (w : LongWidth) (script : List CString) (s : AppScheduler B K)
    (c : SchedChoice) :
    (c = .tick ∧ step w script s c = (⟨.tick, .tick s.rtos.telemetryTask.holdsMutex⟩,
      { s with kernel := TaskApi.tick s.kernel })) ∨
    (∃ locals, c = .run locals ∧ s.taskToRun = none ∧
      step w script s c = (⟨.run locals, .idle⟩, s)) ∨
    (∃ locals p, c = .run locals ∧ s.taskToRun = some (.loop p) ∧ step w script s c =
      (⟨.run locals, (loopAction w script s p locals).1⟩,
        (loopAction w script s p locals).2)) ∨
    ∃ locals, c = .run locals ∧ s.taskToRun = some .supervisor ∧ step w script s c =
      (⟨.run locals, .supervised s.supervisorTask⟩, s.supervisorAction) := by
  cases c with
  | tick => exact Or.inl ⟨rfl, rfl⟩
  | run locals =>
    cases ht : s.taskToRun with
    | none => exact Or.inr (Or.inl ⟨locals, rfl, rfl, by simp only [step, ht]⟩)
    | some t =>
      cases t with
      | loop p => exact Or.inr (Or.inr (Or.inl ⟨locals, p, rfl, rfl, by simp only [step, ht]⟩))
      | supervisor => exact Or.inr (Or.inr (Or.inr ⟨locals, rfl, rfl, by simp only [step, ht]⟩))

section Body

variable {p : Periodic} (w : LongWidth) (script : List CString) (s : AppScheduler B K) (locals : Locals)

/-- The script is at its end, or the parser runs on a line, or what it made of
the line goes to the queue. -/
theorem commandAction_cases :
    (s.commandTask = .idle ∧ script[s.commandIndex]? = none ∧
      commandAction w script s locals = (none, true, s)) ∨
    (∃ line result c, s.commandTask = .idle ∧ script[s.commandIndex]? = some line ∧
      commandParserParse w (some line) locals.command = (result, c) ∧
      commandAction w script s locals =
        (none, false, { s with commandTask := .parsed line locals result c })) ∨
    ∃ line locals' result c r, s.commandTask = .parsed line locals' result c ∧
      appCommandTaskQueue s.rtos.firmware result c locals'.telemetry = r ∧
      commandAction w script s locals =
        (some (.activation ⟨.command (some line) locals', r.1⟩), true, { s with
          rtos := { s.rtos with firmware := r.2 }
          commandTask := .idle
          commandIndex := s.commandIndex + 1 }) := by
  cases htask : s.commandTask with
  | idle =>
    cases hline : script[s.commandIndex]? with
    | none => exact Or.inl ⟨rfl, rfl, by simp only [commandAction, htask, hline]⟩
    | some line =>
      refine Or.inr (Or.inl ⟨line, (commandParserParse w (some line) locals.command).1,
        (commandParserParse w (some line) locals.command).2, rfl, rfl, rfl, ?_⟩)
      simp only [commandAction, htask, hline]
  | parsed line locals' result c =>
    refine Or.inr (Or.inr ⟨line, locals', result, c,
      appCommandTaskQueue s.rtos.firmware result c locals'.telemetry, rfl, rfl, ?_⟩)
    simp only [commandAction, htask]

/-- An action of an activation changes the firmware, its own progress and the
place in the script, and nothing the kernel looks at. -/
theorem bodyAction_frame (p : Periodic) : (bodyAction w script s p locals).2.2 = { s with
      rtos := (bodyAction w script s p locals).2.2.rtos
      commandIndex := (bodyAction w script s p locals).2.2.commandIndex
      commandTask := (bodyAction w script s p locals).2.2.commandTask } := by
  cases p with
  | command =>
    rcases commandAction_cases w script s locals with ⟨-, -, he⟩ | ⟨line, result, c, -, -, -, he⟩ |
      ⟨line, locals', result, c, r, -, -, he⟩ <;> simp only [bodyAction, he]
  | motion => rfl
  | telemetry => rfl

/-- Only the telemetry task moves its own point. -/
theorem bodyAction_telemetryTask (hp : p ≠ .telemetry) :
    (bodyAction w script s p locals).2.2.rtos.telemetryTask = s.rtos.telemetryTask := by
  cases p with
  | command =>
    rcases commandAction_cases w script s locals with ⟨-, -, he⟩ | ⟨line, result, c, -, -, -, he⟩ |
      ⟨line, locals', result, c, r, -, -, he⟩ <;> simp only [bodyAction, he]
  | motion => rfl
  | telemetry => exact absurd rfl hp

theorem bodyAction_commandTask (hp : p ≠ .command) :
    (bodyAction w script s p locals).2.2.commandTask = s.commandTask := by
  cases p with
  | command => exact absurd rfl hp
  | motion => rfl
  | telemetry => rfl

/-- What the command task holds is what the parser made of the line. -/
theorem bodyAction_parsed {line : CString} {locals' : Locals} {result : CommandParseResult} {c : Command}
    (h : (bodyAction w script s p locals).2.2.commandTask = .parsed line locals' result c) :
    s.commandTask = .parsed line locals' result c ∨
      commandParserParse w (some line) locals'.command = (result, c) := by
  by_cases hp : p = .command
  · subst hp
    rcases commandAction_cases w script s locals with ⟨-, -, he⟩ | ⟨line', result', c', -, -, hparse, he⟩ |
      ⟨_, _, _, _, r, -, -, he⟩ <;> simp only [bodyAction, he] at h
    · exact Or.inl h
    · cases h
      exact Or.inr hparse
    · cases h
  · rw [bodyAction_commandTask w script s locals hp] at h
    exact Or.inl h

/-- A step that is over is no longer in progress. -/
theorem bodyAction_finished (h : (bodyAction w script s p locals).2.1 = true) :
    (p = .telemetry → (bodyAction w script s p locals).2.2.rtos.telemetryTask = .idle) ∧
      (p = .command → (bodyAction w script s p locals).2.2.commandTask = .idle) := by
  cases p with
  | command =>
    refine ⟨fun e => (by cases e), fun _ => ?_⟩
    rcases commandAction_cases w script s locals with ⟨hidle, -, he⟩ | ⟨line, result, c, -, -, -, he⟩ |
      ⟨line, locals', result, c, r, -, -, he⟩ <;> simp only [bodyAction, he] at h ⊢
    · exact hidle
    · cases h
  | motion => exact ⟨fun e => (by cases e), fun e => (by cases e)⟩
  | telemetry => exact ⟨fun _ => of_decide_eq_true h, fun e => (by cases e)⟩

end Body

end AppScheduler

open AppScheduler

/-- All runs of the scheduler on a script. -/
def schedulerSystem (B : RtosBackend) [RtosApi B] (K : Type) [TaskApi Task K] (w : LongWidth)
    (script : List CString) (writer : Bool) : LTS (AppScheduler B K) SchedLabel :=
  LTS.ofStep (fun s => ∃ s₀ : Firmware B, s₀.telemetry.written = [] ∧
      appSchedulerStart s₀ writer = some s)
    SchedLabel.choice (AppScheduler.step w script)

variable {B : RtosBackend} [RtosApi B] {K : Type} [TaskApi Task K]

/-- A started scheduler: what `app_tasks_init` left, and the boot message. -/
theorem start_eq {s₀ : Firmware B} {writer : Bool} {s : AppScheduler B K}
    (h : appSchedulerStart s₀ writer = some s) :
    (appTasksInit s₀ writer).1 = true ∧ (appSchedulerCreateTasks (TaskApi.reset : K)).1 = true ∧
      s = create { (appTasksInit s₀ writer).2 with
        telemetry := telemetrySendStartup (appTasksInit s₀ writer).2.telemetry }
        (vTaskStartScheduler (appSchedulerCreateTasks TaskApi.reset).2) := by
  simp only [appSchedulerStart] at h
  split at h
  · cases h
  · rename_i hinit
    split at h
    · cases h
    · rename_i hcreate
      exact ⟨by simpa using hinit, by simpa using hcreate, (Option.some.inj h).symm⟩

theorem step_choice (w : LongWidth) (script : List CString) (s : AppScheduler B K) (c : SchedChoice) :
    (AppScheduler.step w script s c).1.choice = c := by
  cases c with
  | tick => rfl
  | run locals =>
    simp only [AppScheduler.step]
    split <;> rfl

/-! ## The demo -/

/-- The target's scheduler on the ideal kernel, started with a writer. -/
def schedulerStart : AppScheduler targetBackend (TaskView Task) :=
  let firmware := (appTasksInit zeroTarget true).2
  create { firmware with telemetry := telemetrySendStartup firmware.telemetry }
    (vTaskStartScheduler (appSchedulerCreateTasks (TaskApi.reset : TaskView Task)).2)

theorem schedulerStart_init (w : LongWidth) (script : List CString) :
    (schedulerSystem targetBackend (TaskView Task) w script true).init schedulerStart :=
  ⟨zeroTarget, rfl, rfl⟩

/-- What a list of choices makes of the demo. -/
def demoRun (choices : List SchedChoice) : List SchedLabel × AppScheduler targetBackend (TaskView Task) :=
  LTS.exec (AppScheduler.step .lp64 APP_SCHEDULER_DEMO_SCRIPT) schedulerStart choices

theorem demoRun_run (choices : List SchedChoice) :
    (schedulerSystem targetBackend (TaskView Task) .lp64 APP_SCHEDULER_DEMO_SCRIPT true).Run schedulerStart
      (demoRun choices).1 (demoRun choices).2 :=
  LTS.run_exec (step_choice .lp64 APP_SCHEDULER_DEMO_SCRIPT) choices schedulerStart

/-- `n` actions of the tasks, then `m` ticks. -/
def demoChoices (n m : Nat) : List SchedChoice :=
  List.replicate n (.run zeroLocals) ++ List.replicate m .tick

end MotionFirmware.L5
