import MotionFirmware.L5Scheduler.InTime

/-!
# The end of the demo

The supervisor sets a flag and waits; nobody is told to finish. It works
because of the priorities. When the flag is set every other task waits in
front of its test, so no step is cut off and the firmware never changes again
(`stopped_quiet`). And the command task has been due eight times by then, so
the first eight lines of any script have been submitted, each once and in
order (`script_submitted`, as long as the tick count has not wrapped).

That the lines are submitted in order is the command task's own doing, on any
kernel (`submits_run`); that it gets so far is the kernel's.
-/
namespace MotionFirmware.L5

open MotionFirmware.Core MotionFirmware.L1.Motion MotionFirmware.L1.Fault MotionFirmware.L1.Telemetry
open MotionFirmware.L1.Parser MotionFirmware.L2.Port MotionFirmware.L3.Messages MotionFirmware.L3.Tasks
open MotionFirmware.L4
open AppScheduler
open MotionFirmware.L2.FreertosPort (targetBackend)
open MotionFirmware.L2.TaskKernel
open LawfulRtosMutex (Held)

/-! ## The lines submitted -/

/-- The line a command step took. -/
def Label.line? : Label → Option CString
  | .activation ⟨.command (some line) _, _⟩ => some line
  | _ => none

/-- The lines the command task has submitted. -/
def submitted (ls : List SchedLabel) : List CString :=
  (ls.filterMap SchedLabel.did).filterMap Label.line?

theorem submitted_snoc (ls : List SchedLabel) (l : SchedLabel) :
    submitted (ls ++ [l]) = submitted ls ++ (l.did.bind Label.line?).toList := by
  rw [submitted, LTS.filterMap_snoc, List.filterMap_append]
  cases h : l.did with
  | none => simp [submitted]
  | some l' => cases h' : l'.line? <;> simp [submitted, h']

variable {B : RtosBackend} {K : Type} {w : LongWidth} {script : List CString} {ls : List SchedLabel}
  {writer : Bool}

/-- How far the command task is in its script. -/
structure Submits (script : List CString) (ls : List SchedLabel) (s : AppScheduler B K) : Prop where
  lines : submitted ls = script.take s.commandIndex
  line : ∀ line locals result c, s.commandTask = .parsed line locals result c →
    script[s.commandIndex]? = some line

section AnyKernel

variable [RtosApi B] [TaskApi Task K] {s s₀ : AppScheduler B K}

/-- Another task's action leaves the command task where it is. -/
theorem loopAction_command (w : LongWidth) (script : List CString) (s : AppScheduler B K) {p : Periodic}
    (hp : p ≠ .command) (locals : Locals) (c : SchedChoice) :
    (loopAction w script s p locals).2.commandIndex = s.commandIndex ∧
      (loopAction w script s p locals).2.commandTask = s.commandTask ∧
      (SchedLabel.did ⟨c, (loopAction w script s p locals).1⟩).bind Label.line? = none := by
  rcases loopAction_firmware w script s p locals c with ⟨-, hdid, -, hindex, htask⟩ |
    ⟨-, hdid, -, hindex, htask⟩
  · exact ⟨hindex, htask, by rw [hdid]; rfl⟩
  · rw [hdid, hindex, htask]
    cases p with
    | command => exact absurd rfl hp
    | motion => exact ⟨rfl, rfl, rfl⟩
    | telemetry => exact ⟨rfl, rfl, rfl⟩

/-- An action of the command task submits the line its index moves past. -/
theorem command_submits (h : Submits script ls s) (locals : Locals) (c : SchedChoice) :
    Submits script (ls ++ [⟨c, (loopAction w script s .command locals).1⟩])
      (loopAction w script s .command locals).2 := by
  have hlines := submitted_snoc ls ⟨c, (loopAction w script s .command locals).1⟩
  rw [h.lines] at hlines
  rcases loopAction_firmware w script s .command locals c with ⟨hpoint, hdid, -, hindex, htask⟩ |
    ⟨hpoint, hdid, -, hindex, htask⟩
  · exact ⟨by simp [hlines, hdid, hindex], by rw [hindex, htask]; exact h.line⟩
  rcases commandAction_cases w script s locals with ⟨hidle, -, he⟩ | ⟨line, result, command, -, hline, -, he⟩ |
    ⟨line, locals', result, command, r, hparsed, -, he⟩ <;>
    simp only [bodyAction, he] at hdid hindex htask
  · -- the script is at its end
    refine ⟨by simp [hlines, hdid, hindex], ?_⟩
    rw [htask, hidle]
    exact fun _ _ _ _ e => by cases e
  · refine ⟨by simp [hlines, hdid, hindex], ?_⟩
    rw [htask, hindex]
    intro _ _ _ _ e
    cases e
    exact hline
  · refine ⟨?_, ?_⟩
    · rw [hlines, hdid, hindex, List.take_add_one, h.line line locals' result command hparsed]
      rfl
    · rw [htask]
      exact fun _ _ _ _ e => by cases e

theorem submits_step (h : Submits script ls s) (c : SchedChoice) :
    Submits script (ls ++ [(AppScheduler.step w script s c).1]) (AppScheduler.step w script s c).2 := by
  have hframe {s' : AppScheduler B K} {l : SchedLabel} (hd : l.did.bind Label.line? = none)
      (hindex : s'.commandIndex = s.commandIndex) (htask : s'.commandTask = s.commandTask) :
      Submits script (ls ++ [l]) s' := by
    refine ⟨?_, by rw [htask, hindex]; exact h.line⟩
    rw [submitted_snoc, hd, hindex]
    simpa using h.lines
  rcases step_cases w script s c with ⟨-, he⟩ | ⟨locals, -, -, he⟩ | ⟨locals, p, -, -, he⟩ |
    ⟨locals, -, -, he⟩ <;> rw [he]
  · exact hframe rfl rfl rfl
  · exact hframe rfl rfl rfl
  · by_cases hp : p = .command
    · subst hp
      exact command_submits h locals _
    · obtain ⟨hindex, htask, hline⟩ := loopAction_command w script s hp locals (.run locals)
      exact hframe hline hindex htask
  · refine hframe rfl ?_ ?_ <;> unfold supervisorAction <;> cases s.supervisorTask <;> rfl

/-- **In order.** What has been submitted is the beginning of the script, up
to the place of the command task. -/
theorem submits_run (h0 : (schedulerSystem B K w script writer).init s₀)
    (hrun : (schedulerSystem B K w script writer).Run s₀ ls s) : Submits script ls s := by
  refine LTS.inductive_reachable.history (P := fun ls s => Submits script ls s) (LTS.Reachable.of_init h0)
    ?_ ?_ hrun
  · obtain ⟨s₀', -, hstart⟩ := h0
    rw [(start_eq hstart).2.2]
    exact ⟨rfl, fun _ _ _ _ e => by cases e⟩
  · intro ls s l s' _ h hst
    obtain ⟨c, -, rfl, rfl⟩ := LTS.ofStep_step hst
    exact submits_step h c

end AnyKernel

/-! ## After the stop -/

section Stop

variable [RtosApi B] {s : IdealScheduler B}

/-- Once no loop is in its body, no task has a step to take. -/
theorem quiet_step (script : List CString) (h : s.Inv) (hstop : s.stopRequested = true)
    (c : SchedChoice) : (AppScheduler.step w script s c).2.rtos = s.rtos ∧
      (AppScheduler.step w script s c).2.stopRequested = true := by
  rcases step_cases w script s c with ⟨-, he⟩ | ⟨locals, -, -, he⟩ | ⟨locals, p, -, -, he⟩ |
    ⟨locals, -, -, he⟩ <;> rw [he]
  · exact ⟨rfl, hstop⟩
  · exact ⟨rfl, hstop⟩
  · have hrest := h.stopped hstop p
    cases hpoint : (s.loops p).point with
    | check => simp [loopAction, hpoint, hstop, goto]
    | parked => simp [loopAction, hpoint, hstop]
    | _ => rw [hpoint] at hrest; cases hrest
  · unfold supervisorAction
    cases s.supervisorTask <;> simp [hstop]

theorem quiet_run {s' : IdealScheduler B} (h : s.Inv) (hstop : s.stopRequested = true)
    (hrun : (idealSystem B w script writer).Run s ls s') : s'.rtos = s.rtos := by
  refine ((scheduler_inductive w script writer).history (P := fun _ s' => s'.rtos = s.rtos ∧
    s'.stopRequested = true) h ⟨rfl, hstop⟩ ?_ hrun).1
  intro ls s l s' hinv h hst
  obtain ⟨c, -, rfl, rfl⟩ := LTS.ofStep_step hst
  obtain ⟨hkeep, hstill⟩ := quiet_step script hinv h.2 c
  exact ⟨hkeep.trans h.1, hstill⟩

omit [RtosApi B] in
/-- Nobody is inside a step. -/
theorem outside_stopped (h : s.Inv) (hstop : s.stopRequested = true) :
    s.rtos.telemetryTask = .idle ∧ s.commandTask = .idle := by
  have hrest (p : Periodic) : (s.loops p).point ≠ .body := by
    intro e
    have := h.stopped hstop p
    rw [e] at this
    cases this
  exact ⟨(h.outside (hrest .telemetry)).1 rfl, (h.outside (hrest .command)).2 rfl⟩

/-- **A clean stop.** When the stop is requested no task is inside a step,
nobody holds the mutex, and the firmware stays as it is. -/
theorem stopped_quiet [LawfulRtos B] [TaskApi Task K] [LawfulTasks Task K] {k : AppScheduler B K}
    (hk : (schedulerSystem B K w script writer).Reachable k) (hstop : k.stopRequested = true) :
    k.rtos.telemetryTask = .idle ∧ (∀ line locals result c, k.commandTask ≠ .parsed line locals result c) ∧
      Held k.rtos.firmware.context.stateMutex false ∧
      ∀ ls k', (schedulerSystem B K w script writer).Run k ls k' → k'.rtos = k.rtos := by
  have hsim := kernel_simulation (B := B) (K := K) w script writer
  obtain ⟨u, hu, hshown⟩ := hsim.reachable hk
  have hinv := (scheduler_inductive w script writer).reachable u hu
  have hustop : u.stopRequested = true := hshown.stopRequested.symm.trans hstop
  obtain ⟨htel, hcmd⟩ := outside_stopped hinv hustop
  rw [← hshown.rtos] at htel
  refine ⟨htel, fun line locals result c e => ?_, ?_, fun ls k' hrun => ?_⟩
  · rw [hshown.commandTask, hcmd] at e
    cases e
  · obtain ⟨t, p, hsame, h, -⟩ := scheduler_follows hk
    have htask : t.telemetryTask = .idle := by
      rw [hsame] at htel
      exact htel
    have hmutex := h.mutex
    rw [htask] at hmutex
    rw [hsame]
    exact hmutex
  · obtain ⟨u', hu', hshown'⟩ := hsim.run hshown hrun
    rw [hshown'.rtos, hshown.rtos]
    exact quiet_run hinv hustop hu'

theorem stopped_quiet_demo : ∃ s : IdealScheduler targetBackend, s.stopRequested = true ∧
    s.rtos.telemetryTask = .idle ∧ Held s.rtos.firmware.context.stateMutex false := by
  obtain ⟨ls, s, hrun, hstop⟩ := demo_stops
  obtain ⟨htel, -, hmutex, -⟩ := stopped_quiet
    ⟨schedulerStart, ls, schedulerStart_init .lp64 APP_SCHEDULER_DEMO_SCRIPT, hrun.of_restrict⟩ hstop
  exact ⟨s, hstop, htel, hmutex⟩

end Stop

/-! ## Eight lines -/

section OnTime

variable {s s' s₀ : IdealScheduler B}

/-- How far the command task is by its activations, and what the supervisor
gives it. -/
structure Scripted (script : List CString) (ls : List SchedLabel) (s : IdealScheduler B) : Prop where
  timed : Timed .command ls s
  index : s.commandIndex = min (finished .command ls s) script.length
  runtime : s.supervisorTask = .requestStop → ∃ base, entries .command ls = [base] ∧
    base + inTicks APP_SCHEDULER_DEMO_RUNTIME_MS ≤ s.kernel.wake .supervisor
  stopped : s.stopRequested = true → 8 ≤ (starts .command ls).length

/-- A step that is neither the command task's nor the supervisor's. -/
theorem Scripted.frame {l : SchedLabel} (h : Scripted script ls s) (htimed : Timed .command (ls ++ [l]) s')
    (he : l.event.enters .command = false) (hs : l.event.begins .command = false)
    (hloop : s'.loops .command = s.loops .command) (hindex : s'.commandIndex = s.commandIndex)
    (hsup : s'.supervisorTask = s.supervisorTask) (hstop : s'.stopRequested = s.stopRequested)
    (hwake : s'.kernel.wake .supervisor = s.kernel.wake .supervisor) : Scripted script (ls ++ [l]) s' := by
  have hentries : entries .command (ls ++ [l]) = entries .command ls := by simp [entries_snoc, he]
  have hstarts : starts .command (ls ++ [l]) = starts .command ls := by simp [starts_snoc, hs]
  refine ⟨htimed, ?_, ?_, ?_⟩
  · rw [finished, hstarts, hloop, hindex]
    exact h.index
  · rw [hsup, hentries, hwake]
    exact h.runtime
  · rw [hstop, hstarts]
    exact h.stopped

/-- The supervisor gives the command task time for eight activations. -/
theorem scripted_supervisor (h : Scripted script ls s) (hinv : s.Inv)
    (hrun : s.taskToRun = some .supervisor) {l : SchedLabel} (hl : l.event = .supervised s.supervisorTask) :
    Scripted script (ls ++ [l]) s.supervisorAction := by
  have hentries : entries .command (ls ++ [l]) = entries .command ls := by
    simp [entries_snoc, SchedEvent.enters, hl]
  have hstarts : starts .command (ls ++ [l]) = starts .command ls := by
    simp [starts_snoc, SchedEvent.begins, hl]
  obtain ⟨hloop, hwake, htick⟩ := supervisorAction_frame s .command
  have hkeep : s.supervisorAction.commandIndex = s.commandIndex := by
    unfold supervisorAction
    cases s.supervisorTask <;> rfl
  have htimed : Timed .command (ls ++ [l]) s.supervisorAction :=
    h.timed.frame hentries hstarts hloop hwake htick.ge
  have hrest := hinv.waiting hrun (p := .command) (by decide)
  have hwaits := hinv.waits hrun (u := .loop .command) (by decide)
  refine ⟨htimed, by rw [finished, hstarts, hloop, hkeep]; exact h.index, ?_, ?_⟩
  · rw [hentries]
    intro e
    have hsup : s.supervisorTask = .entry := by
      cases hsup : s.supervisorTask <;> simp [supervisorAction, hsup] at e
      rfl
    have hdemo : (TaskApi.pdMsToTicks (TaskView Task) APP_SCHEDULER_DEMO_RUNTIME_MS).toNat =
        inTicks APP_SCHEDULER_DEMO_RUNTIME_MS := pdMsToTicks_toNat (by decide)
    have hwake : s.supervisorAction.kernel.wake .supervisor =
        s.kernel.ticks + inTicks APP_SCHEDULER_DEMO_RUNTIME_MS := by
      simp [supervisorAction, hsup, TaskView.delay, hdemo]
    rcases h.timed with ⟨he, -⟩ | ⟨-, base, hist⟩
    · rw [he] at hrest
      cases hrest
    · refine ⟨base, hist.entered, ?_⟩
      rw [hwake]
      exact Nat.add_le_add_right hist.base_le _
  · rw [hstarts]
    intro e
    by_cases hstop : s.stopRequested = true
    · exact h.stopped hstop
    -- this is the step that requests the stop
    have hsup : s.supervisorTask = .requestStop := by
      cases hsup : s.supervisorTask <;> simp [supervisorAction, hsup, hstop] at e
      rfl
    obtain ⟨base, hbase, hle⟩ := h.runtime hsup
    have hready := ready_of_run hrun
    have hpoint : (s.loops .command).point = .check :=
      hinv.check_of_above (by simpa using hstop) hrun (by decide)
    rcases h.timed with ⟨he, -⟩ | ⟨-, base', hist⟩
    · rw [hpoint] at he
      cases he
    · have hsame : base' = base := by
        have := hist.entered
        rw [hbase] at this
        exact (List.cons.inj this).1.symm
      have hperiod : Periodic.command.periodTicks = 500 := by decide
      have hlong : inTicks APP_SCHEDULER_DEMO_RUNTIME_MS = 3500 := by decide
      rw [hist.due hpoint hwaits, hsame, hperiod, due]
      omega

variable [RtosApi B]

/-- The place in the script moves with the activations that are over. -/
theorem index_own (hsub : Submits script ls s) (h : Scripted script ls s) (locals : Locals)
    (c : SchedChoice) :
    (loopAction w script s .command locals).2.commandIndex =
      min (finished .command (ls ++ [⟨c, (loopAction w script s .command locals).1⟩])
        (loopAction w script s .command locals).2) script.length := by
  have hbefore := h.index
  rw [finished_own w script h.timed locals c]
  rcases loopAction_firmware w script s .command locals c with ⟨hpoint, -, -, hindex, -⟩ |
    ⟨hpoint, -, -, hindex, -⟩
  · rw [if_neg fun e => hpoint e.1, Nat.add_zero, hindex]
    exact hbefore
  rcases commandAction_cases w script s locals with ⟨-, hend, he⟩ | ⟨line, result, command, -, hline, -, he⟩ |
    ⟨line, locals', result, command, r, hparsed, -, he⟩ <;>
    simp only [bodyAction, he] at hindex ⊢ <;> rw [hindex]
  · -- the script is at its end
    have hlen := List.getElem?_eq_none_iff.mp hend
    rw [if_pos ⟨hpoint, trivial⟩]
    omega
  · simpa using hbefore
  · obtain ⟨hlt, -⟩ := List.getElem?_eq_some_iff.mp (hsub.line line locals' result command hparsed)
    rw [if_pos ⟨hpoint, trivial⟩]
    omega

/-- The command task's own action. -/
theorem scripted_own (hsub : Submits script ls s) (h : Scripted script ls s)
    (hrun : s.taskToRun = some (.loop .command)) (htime : s.kernel.ticks = elapsed ls)
    (hbound : s.kernel.ticks < 2 ^ 32) (locals : Locals) (c : SchedChoice) :
    Scripted script (ls ++ [⟨c, (loopAction w script s .command locals).1⟩])
      (loopAction w script s .command locals).2 := by
  obtain ⟨henters, hbegins⟩ := loopAction_marks w script s .command .command locals
  obtain ⟨hsup, hstop, hwake⟩ := loopAction_supervision w script s .command locals
  refine ⟨timed_own w script h.timed hrun htime hbound locals c, index_own hsub h locals c, ?_, ?_⟩
  · rw [hsup, hwake, entries_snoc, henters]
    intro e
    obtain ⟨base, hbase, hle⟩ := h.runtime e
    refine ⟨base, ?_, hle⟩
    rcases h.timed with ⟨-, hnone, -⟩ | ⟨hne, -⟩
    · rw [hnone] at hbase
      cases hbase
    · simpa [hne] using hbase
  · rw [hstop, starts_snoc, List.length_append]
    exact fun e => (h.stopped e).trans (Nat.le_add_right _ _)

theorem scripted_step (hinv : s.Inv) (hsub : Submits script ls s) (h : Scripted script ls s)
    (htime : s.kernel.ticks = elapsed ls) (hbound : s.kernel.ticks < 2 ^ 32) (c : SchedChoice) :
    Scripted script (ls ++ [(AppScheduler.step w script s c).1]) (AppScheduler.step w script s c).2 := by
  have htimed := timed_step (w := w) script h.timed htime hbound c
  rcases step_cases w script s c with ⟨-, he⟩ | ⟨locals, -, -, he⟩ | ⟨locals, p, -, hrun, he⟩ |
    ⟨locals, -, hrun, he⟩ <;> rw [he] at htimed ⊢
  · exact h.frame htimed rfl rfl rfl rfl rfl rfl rfl
  · exact h.frame htimed rfl rfl rfl rfl rfl rfl rfl
  · by_cases hp : p = .command
    · subst hp
      exact scripted_own hsub h hrun htime hbound locals _
    · obtain ⟨henters, hbegins⟩ := loopAction_marks w script s p .command locals
      obtain ⟨hindex, -, -⟩ := loopAction_command w script s hp locals (.run locals)
      obtain ⟨hsup, hstop, hwake⟩ := loopAction_supervision w script s p locals
      refine h.frame htimed (by rw [henters]; simp [hp]) (by rw [hbegins]; simp [hp]) ?_ hindex hsup hstop
        hwake
      exact (loopAction_other w script s (fun e => hp e.symm) locals).1
  · exact scripted_supervisor h hinv hrun rfl

theorem scripted_run (h0 : (idealSystem B w script writer).init s₀)
    (hrun : (idealSystem B w script writer).Run s₀ ls s) (hbound : elapsed ls < 2 ^ 32) :
    Scripted script ls s := by
  have hind := scheduler_inductive (B := B) w script writer
  refine (hind.history (P := fun ls s => s.kernel.ticks = elapsed ls ∧ Submits script ls s ∧
    (elapsed ls < 2 ^ 32 → Scripted script ls s)) (hind.init s₀ h0) ?_ ?_ hrun).2.2 hbound
  · have hsub := submits_run h0 LTS.Run.nil
    obtain ⟨s₀', -, hstart⟩ := h0
    rw [(start_eq hstart).2.2] at hsub ⊢
    exact ⟨rfl, hsub, fun _ => ⟨Or.inl ⟨rfl, rfl, rfl⟩, (Nat.zero_min _).symm, fun e => (by cases e),
      fun e => by cases e⟩⟩
  · intro ls s l s' hinv h hst
    obtain ⟨c, -, rfl, rfl⟩ := LTS.ofStep_step hst
    obtain ⟨htime, hsub, h⟩ := h
    refine ⟨ticks_step script htime c, submits_step hsub c, fun hlt => ?_⟩
    have hlt := (elapsed_le_snoc ls _).trans_lt hlt
    exact scripted_step hinv hsub (h hlt) htime (htime.trans_lt hlt) c

/-- **The script is submitted.** When the stop is requested, the lines that
have been submitted are the script's first ones, and at least the first eight. -/
theorem script_submitted [TaskApi Task K] [LawfulTasks Task K] {k₀ k : AppScheduler B K}
    (h0 : (schedulerSystem B K w script writer).init k₀)
    (hrun : (schedulerSystem B K w script writer).Run k₀ ls k) (hbound : elapsed ls < 2 ^ 32)
    (hstop : k.stopRequested = true) :
    submitted ls <+: script ∧ script.take 8 <+: submitted ls := by
  obtain ⟨u₀, u, hu₀, hu, hshown⟩ := ideal_run h0 hrun
  have h := scripted_run hu₀ hu hbound
  have hinv := (scheduler_inductive w script writer).run hu
    ((scheduler_inductive w script writer).init u₀ hu₀)
  have hustop : u.stopRequested = true := hshown.stopRequested.symm.trans hstop
  have houtside : (u.loops .command).point ≠ .body := by
    intro e
    have := hinv.stopped hustop .command
    rw [e] at this
    cases this
  have hindex := h.index
  have height := h.stopped hustop
  rw [finished, if_neg houtside, Nat.sub_zero] at hindex
  rw [(submits_run hu₀ hu).lines]
  refine ⟨List.take_prefix _ _, ?_⟩
  by_cases hlen : script.length ≤ 8
  · have hall : u.commandIndex = script.length := by omega
    have hsame : script.take 8 = script.take u.commandIndex := by
      rw [hall, List.take_of_length_le hlen, List.take_length]
    exact ⟨[], by rw [List.append_nil, hsame]⟩
  · exact List.take_prefix_take_left (by omega)

/-- Every task has begun, and then nothing runs for as long as the demo lasts. -/
def lateChoices : List SchedChoice := demoChoices 30 3500 ++ demoChoices 250 0

theorem script_submitted_demo : submitted (demoRun lateChoices).1 = APP_SCHEDULER_DEMO_SCRIPT := by
  have hbound : elapsed (demoRun lateChoices).1 < 2 ^ 32 := by
    rw [elapsed_demoRun, lateChoices, List.countP_append, demoChoices_ticks, demoChoices_ticks]
    decide
  obtain ⟨hle, hge⟩ := script_submitted (schedulerStart_init .lp64 APP_SCHEDULER_DEMO_SCRIPT)
    (demoRun_run lateChoices) hbound (by decide +kernel)
  exact hle.eq_of_length_le hge.length_le

end OnTime

end MotionFirmware.L5
