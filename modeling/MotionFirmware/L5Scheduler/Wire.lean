import MotionFirmware.Core.Framing
import MotionFirmware.L1Modules.StatusDecoder
import MotionFirmware.L5Scheduler.SchedulerRefinement

/-!
# What the host can read off the wire

All the host has is the byte stream, from the start to wherever it was cut.
`readLog` splits it at the newlines and decodes the status lines. Under any
interleaving of the tasks that gives back what was sent: the boot message, the
responses in the order they were sent, and states that the controller really
was in, at later and later moments of the run (`wire_log`). The stream of the
scheduler is one of these (`scheduler_wire`).

`Logged` is the invariant. It holds of the lines written and of the snapshot
the telemetry task still has in its hands.
-/
namespace MotionFirmware.L5

open MotionFirmware.Core MotionFirmware.L1.Motion MotionFirmware.L1.Fault MotionFirmware.L1.Telemetry
open MotionFirmware.L1.Parser MotionFirmware.L2.Port MotionFirmware.L3.Messages MotionFirmware.L3.Tasks
open MotionFirmware.L4
open MotionFirmware.L2.FreertosPort (targetBackend)
open MotionFirmware.L2.TaskKernel

/-! ## Entries -/

/-- What a line of the output says. -/
inductive Entry where
  | response (text : Text)
  | status (status : TelemetryStatus)
  deriving DecidableEq

namespace Entry

def line : Entry → Text
  | .response text => text
  | .status report => snprintf TELEMETRY_LINE_BUFFER_SIZE (statusText report)

def response? : Entry → Option Text
  | .response text => some text
  | .status _ => none

def status? : Entry → Option TelemetryStatus
  | .response _ => none
  | .status report => some report

/-- The boot message, a response of the tasks, or the snapshot of a safe
state. -/
def Known : Entry → Prop
  | .response text => text = TELEMETRY_STARTUP_LINE ∨ text ∈ responseTexts
  | .status report => IsSnapshot report

end Entry

def readEntry (line : Text) : Option Entry :=
  if IsStatusLine line then (decodeStatus line).map .status else some (.response line)

/-- The entries of a byte stream. -/
def readLog (bytes : Text) : Option (List Entry) := (completeLines 10 bytes).mapM readEntry

/-- What stands in the log when the task loops start. -/
def bootLog (boot : Bool) : List Entry := if boot then [.response TELEMETRY_STARTUP_LINE] else []

section Entries

variable {status : TelemetryStatus} {e : Entry} {log : List Entry}

theorem isdigit_not_newline {c : UInt8} (h : isdigit c = true) : c ≠ 10 := by
  intro e
  rw [e] at h
  cases h

theorem positionText_newline (v : Int32) : 10 ∉ positionText v := by
  intro h
  have hminus : 10 ∉ ascii "-" := by decide
  rw [positionText_eq, List.mem_append, List.mem_append, List.mem_cons] at h
  rcases h with h | h | h | h
  · split at h
    · exact hminus h
    · cases h
  · exact isdigit_not_newline (decimal_isdigit _ _ h) rfl
  · cases h
  · exact isdigit_not_newline (decimalPadded_isdigit _ _ _ h) rfl

theorem statusText_newline (h : 10 ∉ stateName status) : 10 ∉ statusText status := by
  have hdecimal (n : Nat) : 10 ∉ decimal n := fun h => isdigit_not_newline (decimal_isdigit n _ h) rfl
  have hnames : ∀ name ∈ [ascii "T", ascii "ms=", ascii "state=", ascii "x=", ascii "y=", ascii "fault="],
      10 ∉ name := by decide
  have hfield {name value : Text} (hn : 10 ∉ name) (hv : 10 ∉ value) : 10 ∉ name ++ value := by
    simp [hn, hv]
  intro hmem
  have hmem : 10 ∈ (statusFields status).flatMap (32 :: ·) := by
    rw [← statusText_fields]
    exact List.mem_cons_of_mem _ hmem
  obtain ⟨field, hfield', hin⟩ := List.mem_flatMap.mp hmem
  have hin : 10 ∈ field := by simpa using hin
  simp only [statusFields, List.mem_cons, List.not_mem_nil, or_false] at hfield'
  rcases hfield' with rfl | rfl | rfl | rfl | rfl | rfl
  · exact hnames _ (by simp) hin
  · exact hfield (hnames _ (by simp)) (hdecimal _) hin
  · exact hfield (hnames _ (by simp)) h hin
  · exact hfield (hnames _ (by simp)) (positionText_newline _) hin
  · exact hfield (hnames _ (by simp)) (positionText_newline _) hin
  · exact hfield (hnames _ (by simp)) (hdecimal _) hin

/-- An entry is one line, and the line says it. -/
theorem Entry.Known.read (h : e.Known) : 10 ∉ e.line ∧ readEntry e.line = some e := by
  cases e with
  | response text =>
    rcases h with rfl | h
    · exact ⟨by decide, by rw [readEntry, Entry.line, if_neg (by decide)]⟩
    · have hspec := (responseTexts_spec text h).2.2.1
      have hnewline : ∀ t ∈ responseTexts, 10 ∉ t := by decide
      exact ⟨hnewline text h, by rw [readEntry, Entry.line, if_neg hspec]⟩
  | status status =>
    obtain ⟨d, hsafe, rfl⟩ := h
    have hname : ShortName (stateName d.snapshot) := shortName_state d.motion.status.state
    have hnewline : 10 ∉ stateName d.snapshot := by
      show 10 ∉ motionControllerStateToString d.motion.status.state
      cases d.motion.status.state <;> decide
    refine ⟨?_, ?_⟩
    · rw [Entry.line, statusLine_eq hname]
      exact statusText_newline hnewline
    · rw [readEntry, Entry.line, if_pos (statusText_isStatusLine hname), decodeStatus_line hname]
      rfl

theorem Entry.Known.isResponseLine (h : e.Known) : IsResponseLine e.line = e.response?.isSome := by
  cases e with
  | response text =>
    rcases h with rfl | h
    · decide
    · exact isResponseLine_known h
  | status status =>
    obtain ⟨d, -, rfl⟩ := h
    have hname : ShortName (stateName d.snapshot) := shortName_state d.motion.status.state
    have hstatus := statusText_isStatusLine hname
    simp [IsResponseLine, Entry.line, Entry.response?, hstatus]

/-- The responses among the lines written are those of the log. -/
theorem responseLines_log (h : ∀ e ∈ log, e.Known) :
    responseLines (log.flatMap fun e => [e.line, ascii "\n"]) = log.filterMap Entry.response? := by
  have hnewline : IsResponseLine (ascii "\n") = false := by decide
  induction log with
  | nil => rfl
  | cons e log ih =>
    have hhead := (h e (by simp)).isResponseLine
    have htail := ih fun e' he' => h e' (List.mem_cons_of_mem _ he')
    rw [responseLines] at htail ⊢
    rw [List.flatMap_cons, List.filter_append, htail]
    cases e with
    | response text =>
      have hhead : IsResponseLine text = true := hhead
      simp [Entry.line, hhead, hnewline, Entry.response?]
    | status status => simp [hhead, hnewline, Entry.response?, List.filterMap_cons]

theorem mapM_readEntry (h : ∀ e ∈ log, e.Known) : (log.map Entry.line).mapM readEntry = some log := by
  induction log with
  | nil => rfl
  | cons e log ih =>
    simp [(h e (by simp)).read.2, ih fun e' he' => h e' (List.mem_cons_of_mem _ he')]

/-- The writer is called with each line and with its newline. -/
theorem flatten_lines (log : List Entry) :
    (log.flatMap fun e => [e.line, ascii "\n"]).flatten = frame 10 (log.map Entry.line) := by
  have hnewline : ascii "\n" = [10] := by decide
  induction log with
  | nil => rfl
  | cons e log ih => simpa [hnewline] using ih

/-- A stream of known entries reads as their log, and a part of it as a part. -/
theorem readLog_prefix (h : ∀ e ∈ log, e.Known) {bytes : Text}
    (hb : bytes <+: frame 10 (log.map Entry.line)) : ∃ log', log' <+: log ∧ readLog bytes = some log' := by
  have hknown : ∀ line ∈ log.map Entry.line, 10 ∉ line := by
    intro line hline
    obtain ⟨e, he, rfl⟩ := List.mem_map.mp hline
    exact (h e he).read.1
  have hlines := completeLines_prefix hknown hb
  refine ⟨log.take (completeLines 10 bytes).length, List.take_prefix _ _, ?_⟩
  have htake := List.prefix_iff_eq_take.mp hlines
  rw [← List.map_take] at htake
  rw [readLog]
  conv_lhs => rw [htake]
  exact mapM_readEntry fun e he => h e (List.mem_of_mem_take he)

end Entries

/-! ## The log of a run -/

variable {B : RtosBackend} [RtosApi B] {w : LongWidth} {s₀ s : Rtos B} {ls : List Label}

/-- The firmware was in that state after the first `n` steps. -/
def TakenAt (w : LongWidth) (s₀ : Rtos B) (ls : List Label) (n : Nat) (status : TelemetryStatus) : Prop :=
  n < ls.length ∧ ∃ q, (rtosSystem B w true telemetryAction).Run s₀ (ls.take n) q ∧
    appTelemetrySnapshot q.firmware = status

theorem TakenAt.snoc {n : Nat} {status : TelemetryStatus} (h : TakenAt w s₀ ls n status) (l : Label) :
    TakenAt w s₀ (ls ++ [l]) n status := by
  obtain ⟨hn, q, hrun, hsnap⟩ := h
  refine ⟨?_, q, ?_, hsnap⟩
  · rw [List.length_append]
    exact Nat.lt_add_right _ hn
  · rw [List.take_append_of_le_length hn.le]
    exact hrun

/-- What has been written is `log`; its statuses were taken at `moments`. -/
structure Logged (w : LongWidth) (s₀ : Rtos B) (ls : List Label) (p : Preempted) (log : List Entry)
    (moments : List Nat) : Prop where
  written : p.device.telemetry.written = log.flatMap fun e => [e.line, ascii "\n"]
  known : ∀ e ∈ log, e.Known
  taken : List.Forall₂ (TakenAt w s₀ ls) moments (log.filterMap Entry.status?)
  sorted : moments.Pairwise (· < ·)
  past : ∀ m ∈ moments, m < ls.length
  held : ∀ status, p.telemetryTask.status? = some status →
    ∃ n, TakenAt w s₀ ls n status ∧ ∀ m ∈ moments, m < n

variable {p : Preempted} {log : List Entry} {moments : List Nat}

/-- Nothing written. -/
theorem Logged.frame (h : Logged w s₀ ls p log moments) (p' : Preempted) (l : Label)
    (hout : p'.device.telemetry = p.device.telemetry)
    (hheld : ∀ status, p'.telemetryTask.status? = some status →
      ∃ n, TakenAt w s₀ (ls ++ [l]) n status ∧ ∀ m ∈ moments, m < n) :
    Logged w s₀ (ls ++ [l]) p' log moments := by
  obtain ⟨h1, h2, h3, h4, h5, -⟩ := h
  refine ⟨by rw [hout]; exact h1, h2, h3.imp fun m status ht => ht.snoc l, h4, fun m hm => ?_, hheld⟩
  rw [List.length_append]
  exact Nat.lt_add_right _ (h5 m hm)

/-- The same snapshot, or none. -/
theorem Logged.keep (h : Logged w s₀ ls p log moments) (p' : Preempted) (l : Label)
    (hstatus : ∀ status, p'.telemetryTask.status? = some status → p.telemetryTask.status? = some status) :
    ∀ status, p'.telemetryTask.status? = some status →
      ∃ n, TakenAt w s₀ (ls ++ [l]) n status ∧ ∀ m ∈ moments, m < n := by
  intro status hs
  obtain ⟨n, ht, hlt⟩ := h.held status (hstatus status hs)
  exact ⟨n, ht.snoc l, hlt⟩

/-- A telemetry action takes a snapshot, writes a line, or does neither. -/
theorem logged_action (h : Logged w s₀ ls p log moments) (hp : p.Inv)
    (hw : p.device.telemetry.telemetryWriter = true) (l : Label)
    (hnow : TakenAt w s₀ (ls ++ [l]) ls.length p.device.snapshot) :
    ∃ log' moments', Logged w s₀ (ls ++ [l]) p.action log' moments' := by
  obtain ⟨d, point⟩ := p
  cases point with
  | idle =>
    exact ⟨log, moments, h.frame _ l rfl (fun _ e => by cases e)⟩
  | locked =>
    refine ⟨log, moments, h.frame _ l rfl fun status e => ?_⟩
    cases e
    exact ⟨ls.length, hnow, h.past⟩
  | snapped status =>
    exact ⟨log, moments, h.frame _ l rfl (h.keep _ l fun _ e => e)⟩
  | draining status message =>
    refine ⟨log, moments, ?_⟩
    cases hq : d.replies with
    | nil =>
      simp only [Preempted.action, hq]
      exact h.frame _ l rfl (h.keep _ l fun _ e => e)
    | cons line rest =>
      simp only [Preempted.action, hq]
      exact h.frame _ l rfl (h.keep _ l fun _ e => e)
  | received status line =>
    have hline := sendLine_written hw line
    have hheld := h.keep ⟨d, .draining status []⟩ l fun _ e => e
    obtain ⟨h1, h2, h3, h4, h5, -⟩ := h.frame _ l rfl hheld
    refine ⟨log ++ [.response line], moments, ?_, ?_, ?_, h4, h5, hheld⟩
    · simp only [Preempted.action, hline]
      rw [h1, List.flatMap_append]
      rfl
    · intro e he
      rcases List.mem_append.mp he with he | he
      · exact h2 e he
      · rw [List.mem_singleton.mp he]
        exact Or.inr (hp.inFlight line (by simp [TelemetryPoint.inFlight]))
    · have hnone : [Entry.response line].filterMap Entry.status? = [] := rfl
      rw [List.filterMap_append, hnone, List.append_nil]
      exact h3
  | drained status =>
    have hline := sendLine_written hw (snprintf TELEMETRY_LINE_BUFFER_SIZE (statusText status))
    obtain ⟨n, ht, hlt⟩ := h.keep ⟨d, .drained status⟩ l (fun _ e => e) status rfl
    obtain ⟨h1, h2, h3, h4, h5, -⟩ := h.frame ⟨d, .idle⟩ l rfl (fun _ e => by cases e)
    refine ⟨log ++ [.status status], moments ++ [n], ?_, ?_, ?_, ?_, ?_, fun _ e => by cases e⟩
    · simp only [Preempted.action, telemetrySendStatus, hline]
      rw [h1, List.flatMap_append]
      rfl
    · intro e he
      rcases List.mem_append.mp he with he | he
      · exact h2 e he
      · rw [List.mem_singleton.mp he]
        exact hp.status status rfl
    · rw [List.filterMap_append]
      exact List.rel_append h3 (.cons ht .nil)
    · rw [List.pairwise_append]
      refine ⟨h4, List.pairwise_singleton _ _, fun m hm k hk => ?_⟩
      rw [List.mem_singleton.mp hk]
      exact hlt m hm
    · intro m hm
      rcases List.mem_append.mp hm with hm | hm
      · exact h5 m hm
      · rw [List.mem_singleton.mp hm]
        exact ht.1

/-- The log of every run. -/
theorem logged_run [LawfulRtos B] (h0 : (rtosSystem B w true telemetryAction).init s₀)
    (hrun : (rtosSystem B w true telemetryAction).Run s₀ ls s) :
    ∃ p log moments, Follows s p ∧ p.Inv ∧ p.device.telemetry.telemetryWriter = true ∧
      p.responses = ls.filterMap (Label.sent w) ∧ Logged w s₀ ls p log moments := by
  have hsim := rtos_simulation (B := B) w true (fun _ _ locals h => follows_action h locals)
    ofActions_action
  induction hrun with
  | nil =>
    obtain ⟨p, hp, h, hinv⟩ := hsim.init s₀ h0
    obtain ⟨d, point⟩ := p
    obtain ⟨hd, hpoint⟩ := hp
    have hd : d = Device.start ⟨true, []⟩ := hd
    simp only at hpoint
    subst hd hpoint
    exact ⟨_, [], [], h, hinv, rfl, rfl, rfl, (fun _ e => by cases e), .nil, .nil,
      (fun _ e => by cases e), fun _ e => by cases e⟩
  | @snoc ls s s' l hrun hst ih =>
    obtain ⟨p, log, moments, h, hinv, hw, hsent, hlog⟩ := ih
    obtain ⟨c, -, rfl, rfl⟩ := LTS.ofStep_step hst
    obtain ⟨hl, h'⟩ := follows_step w (fun _ _ locals h => follows_action h locals) h hinv.device c
    have hinv' := inv_step w ofActions_action hinv c
    obtain ⟨hw', hsent'⟩ := responses_step w ofActions_action hinv hw c
    have hnow : TakenAt w s₀ (ls ++ [(rtosStep w telemetryAction s c).1]) ls.length p.device.snapshot := by
      refine ⟨by simp, s, ?_, tracks_snapshot h.tracks⟩
      rw [List.take_left]
      exact hrun
    have hlogged : ∃ log' moments', Logged w s₀ (ls ++ [(rtosStep w telemetryAction s c).1])
        (Preempted.step w Preempted.action p c).2 log' moments' := by
      rcases Preempted.step_cases w Preempted.action p c with ⟨locals, he⟩ | ⟨locals, -, he⟩ |
        ⟨a, hact, -, he⟩
      · rw [he]
        exact logged_action hlog hinv hw _ hnow
      · rw [he]
        exact ⟨log, moments, hlog.frame _ _ rfl (hlog.keep _ _ fun _ e => e)⟩
      · rw [he]
        exact ⟨log, moments, hlog.frame _ _ (activation_telemetry w p.device hact)
          (hlog.keep _ _ fun _ e => e)⟩
    obtain ⟨log', moments', hlog'⟩ := hlogged
    exact ⟨_, log', moments', h', hinv', hw', by rw [LTS.filterMap_snoc, hl, hsent', hsent], hlog'⟩

/-- What `bytes` tell the host about a run: a log whose responses are those
sent in the run, in order, behind the boot message, and whose statuses are the
states of the firmware at `moments`. -/
structure Tells (w : LongWidth) (s₀ : Rtos B) (ls : List Label) (boot : Bool) (bytes : Text)
    (log : List Entry) (moments : List Nat) : Prop where
  read : readLog bytes = some log
  responses : log.filterMap Entry.response? <+:
    (if boot then [TELEMETRY_STARTUP_LINE] else []) ++ ls.filterMap (Label.sent w)
  statuses : List.Forall₂ (TakenAt w s₀ ls) moments (log.filterMap Entry.status?)
  sorted : moments.Pairwise (· < ·)

theorem startupLines_log (boot : Bool) :
    startupLines boot = (bootLog boot).flatMap fun e => [e.line, ascii "\n"] := by cases boot <;> rfl

theorem bootLog_known (boot : Bool) : ∀ e ∈ bootLog boot, e.Known := by
  intro e he
  cases boot with
  | false => cases he
  | true => rw [List.mem_singleton.mp he]; exact Or.inl rfl

theorem cut_tells [LawfulRtos B] {boot : Bool} (h0 : (rtosSystem B w true telemetryAction).init s₀)
    (hrun : (rtosSystem B w true telemetryAction).Run s₀ ls s) {bytes : Text}
    (hcut : bytes <+: (s.behind (startupLines boot)).firmware.telemetry.written.flatten) :
    ∃ log moments, Tells w s₀ ls boot bytes log moments := by
  obtain ⟨p, rest, moments, h, -, -, hsent, hlog⟩ := logged_run h0 hrun
  have hknown : ∀ e ∈ bootLog boot ++ rest, e.Known := by
    intro e he
    rcases List.mem_append.mp he with he | he
    · exact bootLog_known boot e he
    · exact hlog.known e he
  have hframe : (s.behind (startupLines boot)).firmware.telemetry.written.flatten =
      frame 10 ((bootLog boot ++ rest).map Entry.line) := by
    rw [← flatten_lines, List.flatMap_append, ← startupLines_log, ← hlog.written, ← h.tracks.telemetry]
    rfl
  rw [hframe] at hcut
  obtain ⟨log, hpart, hread⟩ := readLog_prefix hknown hcut
  refine ⟨log, moments.take (log.filterMap Entry.status?).length, hread, ?_, ?_,
    hlog.sorted.sublist (List.take_sublist _ _)⟩
  · -- what is written comes before what is in flight or queued
    have hwritten : rest.filterMap Entry.response? <+: ls.filterMap (Label.sent w) := by
      rw [← hsent, ← responseLines_log hlog.known, ← hlog.written, Preempted.responses,
        List.append_assoc]
      exact List.prefix_append _ _
    have hboot : (bootLog boot).filterMap Entry.response? =
        if boot then [TELEMETRY_STARTUP_LINE] else [] := by cases boot <;> rfl
    refine (hpart.filterMap Entry.response?).trans ?_
    rw [List.filterMap_append, hboot]
    exact (List.prefix_append_right_inj _).mpr hwritten
  · have hboot : (bootLog boot).filterMap Entry.status? = [] := by cases boot <;> rfl
    obtain ⟨more, hmore⟩ := hpart.filterMap Entry.status?
    have htaken := hlog.taken
    rw [List.filterMap_append, hboot, List.nil_append] at hmore
    rw [← hmore] at htaken
    exact List.forall₂_take_append _ _ _ htaken

/-- **The wire can be trusted.** Under every interleaving, a part of the output
from its start, cut anywhere, reads as a log: its responses are the first of
those sent, and each of its statuses is the state of the firmware at some
moment before, in the order of these moments. With `boot` the output starts
with the boot message. -/
theorem wire_log [LawfulRtos B] {boot : Bool} (h0 : (rtosSystem B w true telemetryAction).init s₀)
    (hrun : (rtosSystem B w true telemetryAction).Run s₀ ls s) {bytes : Text}
    (hcut : bytes <+: (s.behind (startupLines boot)).firmware.telemetry.written.flatten) :
    ∃ log moments, Tells w s₀ ls boot bytes log moments :=
  cut_tells h0 hrun hcut

/-- Forty bytes of a report and the next. -/
theorem wire_log_report :
    let r := targetRun telemetryAction targetStart (List.replicate 10 telemetryChoice)
    ∃ log moments, Tells .lp64 targetStart r.1 true
      ((r.2.behind (startupLines true)).firmware.telemetry.written.flatten.take 40) log moments :=
  wire_log (targetStart_init .lp64 telemetryAction)
    (targetRun_run telemetryAction targetStart (List.replicate 10 telemetryChoice)) (List.take_prefix 40 _)

/-- The same of the stream of the scheduler, whose boot message comes first,
under every kernel. -/
theorem scheduler_wire [LawfulRtos B] {K : Type} [TaskApi Task K] {script : List CString}
    {k₀ k : AppScheduler B K} {steps : List SchedLabel}
    (h0 : (schedulerSystem B K w script true).init k₀)
    (hrun : (schedulerSystem B K w script true).Run k₀ steps k) {bytes : Text}
    (hcut : bytes <+: k.rtos.firmware.telemetry.written.flatten) :
    ∃ t₀ log moments, (rtosSystem B w true telemetryAction).init t₀ ∧
      Tells w t₀ (steps.filterMap SchedLabel.did) true bytes log moments := by
  have hstut := scheduler_stuttering (B := B) (K := K) w script true
  obtain ⟨t₀, ht₀, hR⟩ := hstut.init k₀ h0
  obtain ⟨t, hrun', -, hsame⟩ := hstut.run hR hrun
  rw [hsame] at hcut
  obtain ⟨log, moments, h⟩ := cut_tells ht₀ hrun' hcut
  exact ⟨t₀, log, moments, ht₀, h⟩

end MotionFirmware.L5
