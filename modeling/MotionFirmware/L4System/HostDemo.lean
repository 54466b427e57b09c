import MotionFirmware.L2Port.HostPort
import MotionFirmware.L4System.Conservation
import MotionFirmware.L4System.Session

/-!
# The host program (`Core/main.c`)

The host has no scheduler: `main` calls the three task steps itself, a line at
a time, and lets two seconds pass behind the second line. So nothing ever
waits, and each line is answered before the next (`refines_runCommand`).

The program stops at the first line that does not parse. Its exit status tells
(`host_demo`), its output does not: the error text is queued by then, and
nobody drains the queue.
-/
namespace MotionFirmware.L4

open MotionFirmware.Core MotionFirmware.L1.Motion MotionFirmware.L1.Fault MotionFirmware.L1.Telemetry
open MotionFirmware.L1.Parser MotionFirmware.L2.Port MotionFirmware.L3.Messages MotionFirmware.L3.Tasks
open MotionFirmware.L2.HostPort (hostBackend)

/-- mirrors firmware/Core/main.c:8-9 -/
def MAIN_TICK_MS : UInt32 := 100
def MAIN_SIMULATION_STEPS : Nat := 20

def mainDemoTexts : List Text :=
  [ascii "PING", ascii "MOVE X=50 Y=20 F=25", ascii "ESTOP", ascii "CLEAR_FAULT", ascii "STATUS"]

theorem mainDemoTexts_nul_free : ∀ text ∈ mainDemoTexts, 0 ∉ text := by decide

/-- mirrors firmware/Core/main.c:11-17 -/
def MAIN_DEMO_SCRIPT : List CString := mainDemoTexts.pmap CString.mk mainDemoTexts_nul_free

variable {B : RtosBackend} [RtosApi B]

/-- `locals n` is what the stack holds at the `n`-th call.
mirrors firmware/Core/main.c:34-45 -/
def mainRunCommand (w : LongWidth) (s : Firmware B) (line : CString) (deltaMs : UInt32)
    (locals : Nat → Locals) : Bool × Firmware B :=
  let c := appCommandTaskStep w s (some line) (locals 0)
  if c.1.status ≠ .ok then (false, c.2)
  else
    let m := appMotionTaskStep c.2 deltaMs (locals 1)
    if m.1.status ≠ .ok then (false, m.2)
    else
      let t := appTelemetryTaskStep m.2 (locals 2)
      (decide (t.1.status = .ok), t.2)

/-- mirrors firmware/Core/main.c:50-57 -/
def mainRunMotionTick (s : Firmware B) (locals : Locals) : Bool × Firmware B :=
  let m := appMotionTaskStep s MAIN_TICK_MS locals
  (decide (m.1.status = .ok) || decide (m.1.status = .noMessage), m.2)

/-- The inner loop, `n` steps of it.
mirrors firmware/Core/main.c:80-88 -/
def mainSimulate (locals : Nat → Locals) : Nat → Firmware B → Bool × Firmware B
  | 0, s => (true, s)
  | n + 1, s =>
    let m := mainRunMotionTick s (locals (2 * n))
    if !m.1 then (false, m.2)
    else
      let t := appTelemetryTaskStep m.2 (locals (2 * n + 1))
      if t.1.status ≠ .ok then (false, t.2) else mainSimulate locals n t.2

/-- The outer loop, from `step` on.
mirrors firmware/Core/main.c:72-91 -/
def mainRunScript (w : LongWidth) (locals : Nat → Nat → Locals) :
    Nat → List CString → Firmware B → Bool × Firmware B
  | _, [], s => (true, s)
  | step, line :: script, s =>
    let c := mainRunCommand w s line 0 (locals step)
    if !c.1 then (false, c.2)
    else if step = 1 then
      let r := mainSimulate (fun n => locals step (n + 3)) MAIN_SIMULATION_STEPS c.2
      if !r.1 then r else mainRunScript w locals (step + 1) script r.2
    else mainRunScript w locals (step + 1) script c.2

/-- Whether the exit status is 0, and what the firmware is left with.
mirrors firmware/Core/main.c:62-94 -/
def hostMain (w : LongWidth) (script : List CString) (locals : Nat → Nat → Locals) (s₀ : Firmware B) :
    Bool × Firmware B :=
  let i := appTasksInit s₀ true
  if !i.1 then i
  else mainRunScript w locals 0 script { i.2 with telemetry := telemetrySendStartup i.2.telemetry }

/-! ## One line at a time -/

/-- Nothing waits in a queue. -/
structure Device.Idle (d : Device) : Prop where
  inv : d.Inv
  commands : d.commands = []
  replies : d.replies = []
  writer : d.telemetry.telemetryWriter = true

def parses (w : LongWidth) (line : CString) : Bool := decide ((Device.parse w line).1 = .ok)

/-- What one line does to the controller. -/
def Device.runCommand (w : LongWidth) (d : Device) (line : CString) : Device :=
  ((d.commandStep w (some line)).2.motionStep 0).2.telemetryStep.2

/-- Time passes, with a report for each tick. -/
def Device.simulate : Nat → Device → Device
  | 0, d => d
  | n + 1, d => simulate n (d.motionStep MAIN_TICK_MS).2.telemetryStep.2

section Device

variable {w : LongWidth} {d : Device} {line : CString}

/-- A report writes no response, and nothing waits behind it. -/
theorem Device.Inv.report (h : d.Inv) (hcommands : d.commands = [])
    (hwriter : d.telemetry.telemetryWriter = true) : d.telemetryStep.2.Idle ∧
      d.telemetryStep.2.fault = d.fault ∧ d.telemetryStep.2.uptimeMs = d.uptimeMs ∧
      responseLines d.telemetryStep.2.telemetry.written =
        responseLines d.telemetry.written ++ d.replies := by
  obtain ⟨hw, hlines⟩ := responseLines_telemetryStep h hwriter
  exact ⟨⟨Device.inv_telemetryStep h, hcommands, rfl, hw⟩, rfl, rfl, hlines⟩

/-- A line that parses is answered at once. -/
theorem Device.Idle.runCommand (h : d.Idle) (hparse : parses w line = true) :
    let d' := d.runCommand w line
    (d.commandStep w (some line)).1.status = .ok ∧
      ((d.commandStep w (some line)).2.motionStep 0).1.status = .ok ∧ d'.Idle ∧
      d'.fault.faultActive = session.next d.fault.faultActive (Device.parse w line).2 ∧
      d'.uptimeMs = d.uptimeMs ∧ responseLines d'.telemetry.written =
        responseLines d.telemetry.written ++ [session.out d.fault.faultActive (Device.parse w line).2] := by
  intro d'
  have hok : (Device.parse w line).1 = .ok := of_decide_eq_true hparse
  have hstep : d.commandStep w (some line) =
      (⟨.ok, none, none⟩, { d with commands := [(Device.parse w line).2] }) := by
    simp [Device.commandStep, hok, h.commands, APP_COMMAND_QUEUE_CAPACITY]
  obtain ⟨hc, hr, hu, ht⟩ := Device.obey_queues { d with commands := [] } (Device.parse w line).2
  have hfault := obey_session { d with commands := [] } (Device.parse w line).2
  have hmotion : (d.commandStep w (some line)).2.motionStep 0 =
      (⟨.ok, some (Device.parse w line).2, some (d.response (Device.parse w line).2)⟩,
        { (Device.obey { d with commands := [] } (Device.parse w line).2).tick 0 with
          replies := [d.response (Device.parse w line).2] }) := by
    have hroom : ((Device.obey { d with commands := [] } (Device.parse w line).2).tick 0).replies = [] :=
      hr.trans h.replies
    rw [hstep]
    simp [Device.motionStep, Device.reply, hroom, APP_TELEMETRY_QUEUE_CAPACITY, Device.response]
  have hinv := Device.inv_motionStep (Device.inv_commandStep w h.inv (some line)) 0
  have hd' : d' = ((d.commandStep w (some line)).2.motionStep 0).2.telemetryStep.2 := rfl
  rw [hmotion] at hinv hd' ⊢
  obtain ⟨hidle, hf, hup, hout⟩ := hinv.report hc (by rw [← h.writer]; exact congrArg _ ht)
  rw [← hd'] at hidle hf hup hout
  refine ⟨by rw [hstep], rfl, hidle, ?_, ?_, ?_⟩
  · rw [hf]
    exact hfault
  · rw [hup]
    exact (UInt32.add_zero _).trans hu
  · rw [hout]
    exact congrArg (fun t : TelemetryState => responseLines t.written ++ _) ht

/-- The other lines leave an error text behind. -/
theorem Device.Idle.rejected (h : d.Idle) (hparse : parses w line = false) :
    d.commandStep w (some line) = (⟨.errorParse, none, none⟩,
      { d with replies := [commandParserResultToString (Device.parse w line).1] }) := by
  have hbad : (Device.parse w line).1 ≠ .ok := of_decide_eq_false hparse
  simp [Device.commandStep, hbad, Device.reply, h.replies, APP_TELEMETRY_QUEUE_CAPACITY]

/-- A tick of the simulation. -/
theorem Device.Idle.simulate : ∀ (n : Nat) {d : Device}, d.Idle →
    let d' := Device.simulate n d
    d'.Idle ∧ d'.fault = d.fault ∧ d'.uptimeMs = d.uptimeMs + UInt32.ofNat (100 * n) ∧
      responseLines d'.telemetry.written = responseLines d.telemetry.written
  | 0, d, h => ⟨h, rfl, (UInt32.add_zero _).symm, rfl⟩
  | n + 1, d, h => by
    have hstep : d.motionStep MAIN_TICK_MS = (⟨.noMessage, none, none⟩, d.tick MAIN_TICK_MS) := by
      simp [Device.motionStep, h.commands]
    have hinv := Device.inv_motionStep h.inv MAIN_TICK_MS
    rw [hstep] at hinv
    obtain ⟨hidle, hf, hup, hout⟩ := hinv.report h.commands h.writer
    obtain ⟨h1, h2, h3, h4⟩ := Device.Idle.simulate n hidle
    simp only [Device.simulate, hstep]
    refine ⟨h1, h2.trans hf, ?_, ?_⟩
    · rw [h3, hup, Nat.mul_succ, UInt32.ofNat_add, UInt32.add_comm (UInt32.ofNat (100 * n)),
        ← UInt32.add_assoc]
      rfl
    · rw [h4, hout]
      have hnone : (d.tick MAIN_TICK_MS).replies = [] := h.replies
      rw [hnone, List.append_nil]
      rfl

end Device

/-! ## The program -/

section Program

variable [LawfulRtos B] {w : LongWidth} {s : Firmware B} {d : Device} {line : CString}

theorem refines_runCommand (h : Refines s d) (hd : d.Idle) (hparse : parses w line = true)
    (locals : Nat → Locals) : (mainRunCommand w s line 0 locals).1 = true ∧
      Refines (mainRunCommand w s line 0 locals).2 (d.runCommand w line) := by
  obtain ⟨hcommand, hmotion, -⟩ := hd.runCommand hparse
  have hinv := Device.inv_commandStep w hd.inv (some line)
  obtain ⟨he, h1⟩ := refines_step w h hd.inv (.command (some line) (locals 0))
  obtain ⟨he', h2⟩ := refines_step w h1 hinv (.motion 0 (locals 1))
  obtain ⟨he'', h3⟩ := refines_step w h2 (Device.inv_motionStep hinv 0) (.telemetry (locals 2))
  have hc : (appCommandTaskStep w s (some line) (locals 0)).1.status = .ok :=
    (congrArg (·.result.status) he).trans hcommand
  have hm : (appMotionTaskStep (appCommandTaskStep w s (some line) (locals 0)).2 0 (locals 1)).1.status =
      .ok := (congrArg (·.result.status) he').trans hmotion
  have ht : (appTelemetryTaskStep (appMotionTaskStep (appCommandTaskStep w s (some line)
      (locals 0)).2 0 (locals 1)).2 (locals 2)).1.status = .ok := congrArg (·.result.status) he''
  simp only [mainRunCommand, hc, hm, ht, ne_eq, not_true_eq_false, if_false, decide_true, true_and]
  exact h3

/-- The loop is left with the error text in the queue. -/
theorem rejects_runCommand (h : Refines s d) (hd : d.Idle) (hparse : parses w line = false)
    (locals : Nat → Locals) : (mainRunCommand w s line 0 locals).1 = false ∧
      Refines (mainRunCommand w s line 0 locals).2
        { d with replies := [commandParserResultToString (Device.parse w line).1] } := by
  have hrejected := hd.rejected hparse
  obtain ⟨he, h1⟩ := refines_step w h hd.inv (.command (some line) (locals 0))
  simp only [appTaskStep, Device.taskStep, hrejected] at he h1
  have hc : (appCommandTaskStep w s (some line) (locals 0)).1.status = .errorParse :=
    congrArg (·.result.status) he
  simp only [mainRunCommand, hc, ne_eq, reduceCtorEq, not_false_eq_true, if_true, true_and]
  exact h1

theorem refines_simulate (locals : Nat → Locals) : ∀ (n : Nat) {s : Firmware B} {d : Device},
    Refines s d → d.Idle → (mainSimulate locals n s).1 = true ∧
      Refines (mainSimulate locals n s).2 (Device.simulate n d)
  | 0, s, d, h, _ => ⟨rfl, h⟩
  | n + 1, s, d, h, hd => by
    have hinv := Device.inv_motionStep hd.inv MAIN_TICK_MS
    obtain ⟨he, h1⟩ := refines_step .lp64 h hd.inv (.motion MAIN_TICK_MS (locals (2 * n)))
    obtain ⟨he', h2⟩ := refines_step .lp64 h1 hinv (.telemetry (locals (2 * n + 1)))
    have hm : (appMotionTaskStep s MAIN_TICK_MS (locals (2 * n))).1.status = .noMessage := by
      refine (congrArg (·.result.status) he).trans ?_
      simp [Device.taskStep, Device.motionStep, hd.commands]
    have ht : (appTelemetryTaskStep (appMotionTaskStep s MAIN_TICK_MS (locals (2 * n))).2
      (locals (2 * n + 1))).1.status = .ok := congrArg (·.result.status) he'
    have hidle : (d.motionStep MAIN_TICK_MS).2.telemetryStep.2.Idle := (hd.simulate 1).1
    have hnext := refines_simulate locals n h2 hidle
    simp only [mainSimulate, mainRunMotionTick, hm, ht, reduceCtorEq, decide_true, decide_false,
      Bool.or_true, Bool.not_true, Bool.false_eq_true, if_false, ne_eq, not_true_eq_false]
    exact hnext

/-- One round of the loop. -/
theorem runs_line (w : LongWidth) (locals : Nat → Nat → Locals) (script : List CString) (step : Nat)
    (h : Refines s d) (hd : d.Idle) (hparse : parses w line = true) : ∃ s' d',
      mainRunScript w locals step (line :: script) s = mainRunScript w locals (step + 1) script s' ∧
      Refines s' d' ∧ d'.Idle ∧
      d'.fault.faultActive = session.next d.fault.faultActive (Device.parse w line).2 ∧
      d'.uptimeMs = d.uptimeMs + (if step = 1 then 2000 else 0) ∧
      responseLines d'.telemetry.written = responseLines d.telemetry.written ++
        [session.out d.fault.faultActive (Device.parse w line).2] := by
  obtain ⟨-, -, hidle, hfault, hup, hout⟩ := hd.runCommand hparse
  obtain ⟨hexit, h1⟩ := refines_runCommand h hd hparse (locals step)
  by_cases hstep : step = 1
  · obtain ⟨hexit', h2⟩ := refines_simulate (fun n => locals step (n + 3)) MAIN_SIMULATION_STEPS h1 hidle
    obtain ⟨hidle', hfault', hup', hout'⟩ := hidle.simulate MAIN_SIMULATION_STEPS
    refine ⟨_, _, ?_, h2, hidle', by rw [hfault', hfault], ?_, by rw [hout', hout]⟩
    · simp only [mainRunScript, hexit, hexit', Bool.not_true, Bool.false_eq_true, if_false, if_pos hstep]
    · rw [hup', hup, if_pos hstep]
      rfl
  · refine ⟨_, _, ?_, h1, hidle, hfault, ?_, hout⟩
    · simp only [mainRunScript, hexit, Bool.not_true, Bool.false_eq_true, if_false, if_neg hstep]
    · rw [hup, if_neg hstep, UInt32.add_zero]

/-- What the program makes of the lines from `step` on, up to the first that
does not parse. -/
structure RunsScript (w : LongWidth) (d : Device) (step : Nat) (script : List CString) (exit : Bool)
    (d' : Device) : Prop where
  exit : exit = script.all (parses w)
  commands : d'.commands = []
  replies : d'.replies = ((script.dropWhile (parses w)).head?.map fun line =>
    commandParserResultToString (Device.parse w line).1).toList
  uptime : d'.uptimeMs = d.uptimeMs +
    if step ≤ 1 ∧ 1 < step + (script.takeWhile (parses w)).length then 2000 else 0
  written : responseLines d'.telemetry.written = responseLines d.telemetry.written ++
    session.outputs d.fault.faultActive (commandsOf w (script.takeWhile (parses w)))

theorem runs_script (w : LongWidth) (locals : Nat → Nat → Locals) : ∀ (script : List CString) (step : Nat)
    {s : Firmware B} {d : Device}, Refines s d → d.Idle → ∃ d',
      Refines (mainRunScript w locals step script s).2 d' ∧
        RunsScript w d step script (mainRunScript w locals step script s).1 d'
  | [], step, s, d, h, hd => by
    refine ⟨d, h, rfl, hd.commands, hd.replies, ?_, ?_⟩
    · rw [if_neg (by simp only [List.takeWhile_nil, List.length_nil]; omega)]
      exact (UInt32.add_zero _).symm
    · exact (List.append_nil _).symm
  | line :: script, step, s, d, h, hd => by
    cases hparse : parses w line with
    | false =>
      obtain ⟨hexit, h1⟩ := rejects_runCommand h hd hparse (locals step)
      have he : mainRunScript w locals step (line :: script) s =
          (false, (mainRunCommand w s line 0 (locals step)).2) := by
        simp only [mainRunScript, hexit, Bool.not_false, if_true]
      rw [he]
      refine ⟨_, h1, by simp [hparse], hd.commands, by simp [hparse], ?_, ?_⟩
      · rw [if_neg (by simp only [List.takeWhile_cons, hparse, Bool.false_eq_true, if_false,
          List.length_nil]; omega)]
        exact (UInt32.add_zero _).symm
      · simp [hparse, commandsOf, Mealy.outputs]
    | true =>
      obtain ⟨s₁, d₁, he, h1, hd1, hfault, hup, hout⟩ := runs_line w locals script step h hd hparse
      obtain ⟨d', h', hexit, hcommands, hreplies, hup', hout'⟩ :=
        runs_script w locals script (step + 1) h1 hd1
      rw [he]
      refine ⟨d', h', ?_, hcommands, ?_, ?_, ?_⟩
      · rw [hexit, List.all_cons, hparse, Bool.true_and]
      · rw [hreplies, List.dropWhile_cons_of_pos hparse]
      · rw [hup', hup, List.takeWhile_cons_of_pos hparse, List.length_cons, UInt32.add_assoc]
        congr 1
        split_ifs <;> first | rfl | omega
      · rw [hout', hout, hfault, List.takeWhile_cons_of_pos hparse, List.append_assoc]
        rfl

end Program

/-- **The host program.** For every script, whatever the stack and the statics
held before: the exit status is 0 iff every line parses. The lines before the
first that does not are answered in order; its error text is queued and never
written. -/
theorem host_demo (w : LongWidth) (script : List CString) (locals : Nat → Nat → Locals)
    (s₀ : Firmware hostBackend) (h0 : s₀.telemetry.written = []) :
    let r := hostMain w script locals s₀
    let answered := script.takeWhile (parses w)
    (r.1 = true ↔ ∀ line ∈ script, (Device.parse w line).1 = .ok) ∧
      responseLines r.2.telemetry.written =
        TELEMETRY_STARTUP_LINE :: session.outputs false (commandsOf w answered) ∧
      queuedCommands r.2 = [] ∧
      queuedReplies r.2 = ((script.dropWhile (parses w)).head?.map fun line =>
        commandParserResultToString (Device.parse w line).1).toList ∧
      r.2.context.uptimeMs = if 2 ≤ answered.length then 2000 else 0 := by
  intro r answered
  obtain ⟨hok, hstart⟩ := refines_init s₀ true
  have hprint := hstart.tracks.print telemetrySendStartup
  rw [h0] at hprint
  obtain ⟨d, h, hrun⟩ := runs_script w locals script 0
    (s := { (appTasksInit s₀ true).2 with
      telemetry := telemetrySendStartup (appTasksInit s₀ true).2.telemetry })
    ⟨hprint, hstart.mutex, hstart.bits⟩ ⟨Device.inv_start _, rfl, rfl, rfl⟩
  have hr : r = mainRunScript w locals 0 script { (appTasksInit s₀ true).2 with
      telemetry := telemetrySendStartup (appTasksInit s₀ true).2.telemetry } := by
    simp only [r, hostMain, hok, Bool.not_true, Bool.false_eq_true, if_false]
  rw [← hr] at h hrun
  obtain ⟨hexit, hcommands, hreplies, hup, hout⟩ := hrun
  refine ⟨?_, ?_, ?_, ?_, ?_⟩
  · rw [hexit, List.all_eq_true]
    exact forall₂_congr fun line _ => decide_eq_true_iff
  · rw [h.tracks.telemetry, hout]
    rfl
  · rw [queuedCommands_eq h.tracks, hcommands]
  · rw [(queuedReplies_eq h.tracks).1, hreplies]
  · rw [h.tracks.uptime, hup]
    simp only [Nat.zero_le, true_and, Nat.zero_add]
    exact UInt32.zero_add _

/-- The demo script, from zeroed statics. -/
theorem host_demo_script :
    let r := hostMain .lp64 MAIN_DEMO_SCRIPT (fun _ _ => zeroLocals) zeroFirmware
    r.1 = true ∧ responseLines r.2.telemetry.written = TELEMETRY_STARTUP_LINE ::
      [APP_RESPONSE_PONG, APP_RESPONSE_MOVE_QUEUED, APP_RESPONSE_ESTOP, APP_RESPONSE_FAULT_CLEARED,
        APP_RESPONSE_STATUS] := by
  obtain ⟨hexit, hout, -⟩ := host_demo .lp64 MAIN_DEMO_SCRIPT (fun _ _ => zeroLocals) zeroFirmware rfl
  exact ⟨hexit.mpr (by decide +kernel), hout.trans (by decide +kernel)⟩

end MotionFirmware.L4
