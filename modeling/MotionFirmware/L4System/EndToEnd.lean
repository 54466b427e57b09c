import MotionFirmware.L1Modules.FieldText
import MotionFirmware.L1Modules.StatusDecoder
import MotionFirmware.L1Modules.TickSplit
import MotionFirmware.L4System.Conservation

/-!
# A `MOVE` from the line to the status line

One command through the whole firmware: parsed, queued, dispatched, carried
out over any number of ticks, and reported. Each stage is one equation on the
controller (`Device.commandStep_move`, `Device.motionStep_move`,
`Device.motion_ticks`, `Device.telemetryStep_one`); `Device.move_reported`
composes them there and `end_to_end_move` on the host, and the units with them:
a field of `a` mm is `1000 a` milli-mm, and `f` mm/s for `T` ms are `f * T`
milli-mm.
-/
namespace MotionFirmware.L4

open MotionFirmware.Core MotionFirmware.L1.Motion MotionFirmware.L1.Fault MotionFirmware.L1.Telemetry
open MotionFirmware.L1.Parser MotionFirmware.L2.Port MotionFirmware.L2.HostPort
open MotionFirmware.L3.Messages MotionFirmware.L3.Tasks

/-! ## The stages on the controller -/

namespace Device

variable {d : Device} {c : Command}

theorem commandStep_move {w : LongWidth} {line : CString} (hq : d.commands = [])
    (hp : parse w line = (.ok, c)) :
    d.commandStep w (some line) = (⟨.ok, none, none⟩, { d with commands := [c] }) := by
  have hroom : ([] : List Command).length < APP_COMMAND_QUEUE_CAPACITY := by decide
  simp only [commandStep, hp, hq, ne_eq, not_true_eq_false, if_false, if_pos hroom, List.nil_append]

/-- The step that takes an in-bounds `MOVE`, without a fault and with room for
the response. -/
theorem motionStep_move (hq : d.commands = [c]) (hr : d.replies = []) (htype : c.type = .move)
    (hf : ¬ d.fault.faultActive = true) (hin : InWorkspace c.xMilliMm c.yMilliMm) (deltaMs : UInt32) :
    d.motionStep deltaMs = (⟨.ok, some c, some APP_RESPONSE_MOVE_QUEUED⟩, { d with
      commands := []
      replies := [APP_RESPONSE_MOVE_QUEUED]
      stopRequested := false
      motion := motionControllerUpdate (motionControllerStartMove d.motion c.xMilliMm c.yMilliMm
        c.feedrateMilliMmPerS).2 deltaMs
      uptimeMs := d.uptimeMs + deltaMs }) := by
  have hresp : d.response c = APP_RESPONSE_MOVE_QUEUED := by
    simp only [response, htype, if_neg hf, if_pos hin]
  have hroom : ([] : List Text).length < APP_TELEMETRY_QUEUE_CAPACITY := by decide
  simp only [motionStep, hq, hresp, obey, htype, if_neg hf, if_pos hin, tick, reply, hr,
    if_pos hroom, List.nil_append, if_true]

/-- Ticks without a command. -/
theorem motion_ticks (ticks : List (UInt32 × Locals)) : ∀ d : Device, d.commands = [] →
    ∃ uptime, LTS.exec (fun d t => d.motionStep t.1) d ticks =
      (ticks.map fun _ => ⟨.noMessage, none, none⟩, { d with
        motion := (ticks.map Prod.fst).foldl motionControllerUpdate d.motion
        uptimeMs := uptime }) := by
  induction ticks with
  | nil => exact fun d _ => ⟨d.uptimeMs, rfl⟩
  | cons t ticks ih =>
    intro d hq
    have hstep : d.motionStep t.1 = (⟨.noMessage, none, none⟩, d.tick t.1) := by
      simp only [motionStep, hq]
    obtain ⟨uptime, hrest⟩ := ih (d.tick t.1) hq
    refine ⟨uptime, ?_⟩
    simp only [LTS.exec, hstep, hrest]
    rfl

/-- The report behind one response. -/
theorem telemetryStep_one {line : Text} (hr : d.replies = [line])
    (hw : d.telemetry.telemetryWriter = true) :
    d.telemetryStep.1.status = .ok ∧ d.telemetryStep.2.telemetry.written = d.telemetry.written ++
      [line, ascii "\n", snprintf TELEMETRY_LINE_BUFFER_SIZE (statusText d.snapshot), ascii "\n"] := by
  refine ⟨rfl, ?_⟩
  have hout : d.replies.foldl telemetrySendLine d.telemetry =
      { d.telemetry with written := d.telemetry.written ++ [line, ascii "\n"] } := by
    rw [hr]; exact sendLine_written hw line
  have hline (t : TelemetryState) (ht : t.telemetryWriter = true) (l : Text) :
      (telemetrySendLine t l).written = t.written ++ [l, ascii "\n"] := by
    rw [sendLine_written ht]
  simp only [telemetryStep, hout, telemetrySendStatus]
  apply (hline _ (by exact hw) _).trans
  simp only [List.append_assoc, List.cons_append, List.nil_append]

/-- A queued `MOVE`, from the motion step that takes it to the report. -/
theorem move_reported (hd : d.Inv) (hw : d.telemetry.telemetryWriter = true) (hq : d.commands = [c])
    (hr : d.replies = []) (htype : c.type = .move) (hf : ¬ d.fault.faultActive = true)
    (hin : InWorkspace c.xMilliMm c.yMilliMm) (hfeed : c.feedrateMilliMmPerS ≠ 0)
    (tick : UInt32 × Locals) (ticks : List (UInt32 × Locals))
    (hticks : ∀ t ∈ tick :: ticks, t.1 ≤ 100) :
    let moved := d.motionStep tick.1
    let rest := LTS.exec (fun d t => d.motionStep t.1) moved.2 ticks
    moved.1.status = .ok ∧ (∀ r ∈ rest.1, r.status = .noMessage) ∧
    ¬ rest.2.fault.faultActive = true ∧
    MoveOutcome d.motion c.xMilliMm c.yMilliMm c.feedrateMilliMmPerS
      (totalMs ((tick :: ticks).map Prod.fst)) rest.2.motion ∧
    rest.2.telemetryStep.1.status = .ok ∧
    rest.2.telemetryStep.2.telemetry.written = d.telemetry.written ++ [APP_RESPONSE_MOVE_QUEUED,
      ascii "\n", snprintf TELEMETRY_LINE_BUFFER_SIZE (statusText rest.2.snapshot), ascii "\n"] := by
  intro moved rest
  have hmove : moved = _ := motionStep_move hq hr htype hf hin tick.1
  obtain ⟨uptime, hidle⟩ := motion_ticks ticks moved.2 (by rw [hmove])
  have hrest : rest = _ := hidle
  have hreplies : rest.2.replies = [APP_RESPONSE_MOVE_QUEUED] := by rw [hrest, hmove]
  have htelemetry : rest.2.telemetry = d.telemetry := by rw [hrest, hmove]
  obtain ⟨hok, hwritten⟩ := telemetryStep_one hreplies (by rw [htelemetry]; exact hw)
  rw [htelemetry] at hwritten
  refine ⟨by rw [hmove], fun r hr => ?_, by rw [hrest, hmove]; exact hf, ?_, hok, hwritten⟩
  · rw [hrest] at hr
    obtain ⟨t, -, rfl⟩ := List.mem_map.mp hr
    rfl
  · rw [hrest, hmove]
    exact move_outcome (hd.safe.unlatched hf) hd.safe.motion.current hin hfeed
      ((tick :: ticks).map Prod.fst) (by simpa using hticks)

/-- The writer stays the one of the initialisation. -/
theorem writer_reachable {w : LongWidth} (hd : (deviceSystem w true).Reachable d) :
    d.telemetry.telemetryWriter = true := by
  obtain ⟨d₀, ls, h0, hrun⟩ := hd
  exact (device_conservation h0 hrun).2.2

end Device

/-! ## The status line of a move -/

/-- The words of a status line without a fault. -/
def reportWords (uptimeMs : UInt32) (state xText yText : Text) : List Text :=
  [ascii "T", ascii "ms=" ++ decimal uptimeMs.toNat, ascii "state=" ++ state, ascii "x=" ++ xText,
    ascii "y=" ++ yText, ascii "fault=0"]

theorem snapshot_words {d : Device} (hf : ¬ d.fault.faultActive = true) :
    words isBlank (snprintf TELEMETRY_LINE_BUFFER_SIZE (statusText d.snapshot)) =
      reportWords d.uptimeMs (motionControllerStateToString d.motion.status.state)
        (positionText d.motion.status.currentXMilliMm)
        (positionText d.motion.status.currentYMilliMm) := by
  have hname : ShortName (stateName d.snapshot) := shortName_state d.motion.status.state
  have hbit : ascii "fault=" ++ decimal (faultBit d.snapshot) = ascii "fault=0" := by
    have hf : d.snapshot.faultActive = false := Bool.eq_false_iff.mpr hf
    rw [decimal_faultBit, hf]
    decide
  rw [statusLine_words hname, statusFields, hbit]
  rfl

/-- What the line shows: the target once the feedrate covers the path, a point
of the rectangle between start and target before that. -/
def ReportsMove (sx sy : Int) (a b f T : Nat) (uptimeMs : UInt32) (line : Text) : Prop :=
  (distance sx sy (1000 * a) (1000 * b) ≤ f * T →
    words isBlank line = reportWords uptimeMs (ascii "DONE") (decimal a ++ ascii ".000")
      (decimal b ++ ascii ".000")) ∧
  (f * T < distance sx sy (1000 * a) (1000 * b) →
    ∃ x y : Int32,
      words isBlank line = reportWords uptimeMs (ascii "MOVING") (positionText x) (positionText y) ∧
      (min sx (1000 * a) ≤ x.toInt ∧ x.toInt ≤ max sx (1000 * a)) ∧
      (min sy (1000 * b) ≤ y.toInt ∧ y.toInt ≤ max sy (1000 * b)))

theorem reports_outcome {d : Device} {m : MotionController} {c : Command} {a b f T : Nat}
    (hf : ¬ d.fault.faultActive = true)
    (hx : c.xMilliMm.toInt = 1000 * a) (hy : c.yMilliMm.toInt = 1000 * b)
    (hfeed : c.feedrateMilliMmPerS.toNat = 1000 * f)
    (hout : MoveOutcome m c.xMilliMm c.yMilliMm c.feedrateMilliMmPerS T d.motion) :
    ReportsMove m.status.currentXMilliMm.toInt m.status.currentYMilliMm.toInt a b f T d.uptimeMs
      (snprintf TELEMETRY_LINE_BUFFER_SIZE (statusText d.snapshot)) := by
  have hcover : c.feedrateMilliMmPerS.toNat * T / 1000 = f * T := by
    rw [hfeed, Nat.mul_assoc, Nat.mul_div_cancel_left _ (by decide)]
  obtain ⟨hdone, hmoving⟩ := hout
  simp only [hcover, hx, hy] at hdone hmoving
  generalize m.status.currentXMilliMm.toInt = sx at *
  generalize m.status.currentYMilliMm.toInt = sy at *
  generalize hlen : distance sx sy (1000 * a) (1000 * b) = len at *
  unfold ReportsMove
  rw [snapshot_words hf, hlen]
  constructor
  · intro hle
    obtain ⟨hstate, hcx, hcy, -⟩ := hdone (Or.inl hle)
    rw [hstate, hcx, hcy, positionText_whole hx, positionText_whole hy]
    rfl
  · intro hlt
    obtain ⟨hstate, -, -, hcx, hcy⟩ := hmoving (by omega)
    have hpos : 0 < len := by omega
    have bx := lerp_between sx (1000 * a) hlt.le hpos
    have by' := lerp_between sy (1000 * b) hlt.le hpos
    refine ⟨_, _, by rw [hstate]; rfl, ?_, ?_⟩
    · rw [hcx]; exact bx
    · rw [hcy]; exact by'

/-! ## The whole way -/

/-- Motion steps of the host are motion steps of the controller. -/
theorem exec_motion {s : Firmware hostBackend} {d : Device} (h : Refines s d) (hd : d.Inv)
    (ticks : List (UInt32 × Locals)) :
    (LTS.exec (fun s t => appMotionTaskStep s t.1 t.2) s ticks).1 =
        (LTS.exec (fun d t => d.motionStep t.1) d ticks).1 ∧
      Refines (LTS.exec (fun s t => appMotionTaskStep s t.1 t.2) s ticks).2
        (LTS.exec (fun d t => d.motionStep t.1) d ticks).2 := by
  have hsame : List.Forall₂ (fun t t' : UInt32 × Locals => t = t') ticks ticks :=
    List.forall₂_same.mpr fun _ _ => rfl
  obtain ⟨hresults, hlast, -⟩ := LTS.exec_related (f := fun s t => appMotionTaskStep s t.1 t.2)
    (g := fun d t => d.motionStep t.1) (R := fun s d => Refines s d ∧ d.Inv)
    (O := fun r r' : StepResult => r = r')
    (by
      intro s d t t' hR ht
      obtain ⟨h, hd⟩ := hR
      subst ht
      obtain ⟨hr, hs⟩ := refines_motion h.tracks hd h.mutex t.1 t.2
      exact ⟨hr, hs, Device.inv_motionStep hd t.1⟩)
    ⟨h, hd⟩ hsame
  exact ⟨List.forall₂_eq_eq_eq ▸ hresults, hlast⟩

/-- **End-to-end `MOVE`.** `tx`, `ty` and `tf` are the texts of the fields. -/
theorem end_to_end_move {w : LongWidth} {s : Firmware hostBackend}
    (hs : (hostSystem w true).Reachable s) (hfault : faultManagerIsFaultActive s.fault = false)
    (hcq : appTasksCommandQueueCount s = 0) (htq : appTasksTelemetryQueueCount s = 0)
    {a b f : Nat} (ha : a ≤ 100) (hb : b ≤ 100) (hf : 1 ≤ f) (hf' : f ≤ 4294967)
    {line : CString} {args : List Text} {tx ty tf : Text} (hlen : line.bytes.length < 96)
    (hw : words isDelimiter line.bytes = COMMAND_TEXT_MOVE :: args)
    (hargs : args.Perm [COMMAND_PREFIX_X ++ tx, COMMAND_PREFIX_Y ++ ty, COMMAND_PREFIX_F ++ tf])
    (hx : Denotes tx a) (hy : Denotes ty b) (hdf : Denotes tf f)
    (tick : UInt32 × Locals) (ticks : List (UInt32 × Locals))
    (hticks : ∀ t ∈ tick :: ticks, t.1 ≤ 100) (locals locals' : Locals) :
    let submit := appCommandTaskStep w s (some line) locals
    let first := appMotionTaskStep submit.2 tick.1 tick.2
    let rest := LTS.exec (fun s t => appMotionTaskStep s t.1 t.2) first.2 ticks
    let report := appTelemetryTaskStep rest.2 locals'
    submit.1.status = .ok ∧ first.1.status = .ok ∧ (∀ r ∈ rest.1, r.status = .noMessage) ∧
    report.1.status = .ok ∧
    ∃ statusLine, report.2.telemetry.written = s.telemetry.written ++
        [APP_RESPONSE_MOVE_QUEUED, ascii "\n", statusLine, ascii "\n"] ∧
      ReportsMove s.motion.status.currentXMilliMm.toInt s.motion.status.currentYMilliMm.toInt a b f
        (totalMs ((tick :: ticks).map Prod.fst)) rest.2.context.uptimeMs statusLine := by
  obtain ⟨d, hreach, h, hd⟩ := reachable_refines hs
  have hwriter := Device.writer_reachable hreach
  have hnofault : ¬ d.fault.faultActive = true := by
    rw [← h.fault_active]; exact Bool.eq_false_iff.mp hfault
  rw [count_commands h.tracks, List.length_eq_zero_iff] at hcq
  rw [count_replies h.tracks, List.length_eq_zero_iff] at htq
  -- the parser
  obtain ⟨c, hparse, htype, hcx, hcy, hcf⟩ := parse_move_fields (w := w) hw hlen hargs hx hy hdf
    (by constructor <;> omega) (by constructor <;> omega) (by constructor <;> omega) ⟨.none, 0, 0, 0⟩
  have hin : InWorkspace c.xMilliMm c.yMilliMm := ⟨⟨by omega, by omega⟩, ⟨by omega, by omega⟩⟩
  have hcf : c.feedrateMilliMmPerS.toNat = 1000 * f := by omega
  have hfeed : c.feedrateMilliMmPerS ≠ 0 := by
    intro e
    rw [e, UInt32.toNat_zero] at hcf
    omega
  intro submit first rest report
  -- the command step
  have hd1 := Device.inv_commandStep w hd (some line)
  obtain ⟨hsubmit, h1⟩ := refines_step w h hd (.command (some line) locals)
  have hsubmit : submit.1 = (d.commandStep w (some line)).1 := congrArg Event.result hsubmit
  have h1 : Refines submit.2 (d.commandStep w (some line)).2 := h1
  rw [Device.commandStep_move hcq hparse] at hsubmit h1 hd1
  dsimp only at hsubmit h1 hd1
  -- the motion steps and the report
  obtain ⟨hfirst, h2⟩ := refines_motion h1.tracks hd1 h1.mutex tick.1 tick.2
  have hd2 := Device.inv_motionStep hd1 tick.1
  obtain ⟨hrest, h3⟩ := exec_motion h2 hd2 ticks
  obtain ⟨hreport, h4⟩ := refines_telemetry h3 locals'
  obtain ⟨hok, hidle, hclear, houtcome, hsent, hwritten⟩ :=
    Device.move_reported hd1 hwriter rfl htq htype hnofault hin hfeed tick ticks hticks
  refine ⟨by rw [hsubmit], by rw [hfirst]; exact hok, ?_, by rw [hreport]; exact hsent, ?_⟩
  · rw [hrest]; exact hidle
  · rw [h.tracks.telemetry, h.tracks.motion, h3.tracks.uptime, h4.tracks.telemetry]
    exact ⟨_, hwritten, reports_outcome hclear hcx hcy hcf houtcome⟩

/-- 2236 milli-mm at 3 mm/s are done after 800 ms. -/
theorem end_to_end_move_diagonal :
    let line : CString := ⟨ascii "MOVE F=+3\tY=02 X=1", by decide⟩
    let submit := appCommandTaskStep .lp64 hostStart (some line) zeroLocals
    let first := appMotionTaskStep submit.2 100 zeroLocals
    let rest := LTS.exec (fun s t => appMotionTaskStep s t.1 t.2) first.2
      (List.replicate 7 (100, zeroLocals))
    ∃ statusLine, (appTelemetryTaskStep rest.2 zeroLocals).2.telemetry.written =
        [APP_RESPONSE_MOVE_QUEUED, ascii "\n", statusLine, ascii "\n"] ∧
      words isBlank statusLine =
        reportWords rest.2.context.uptimeMs (ascii "DONE") (ascii "1.000") (ascii "2.000") := by
  intro line submit first rest
  have hspace : IsSpace [] := List.forall_mem_nil _
  have digits_of_all {t : Text} (hne : t ≠ []) (hall : t.all isdigit = true) : IsDigits t :=
    ⟨hne, List.all_eq_true.mp hall⟩
  have hx : Denotes ([] ++ ascii "1") (1 : ℕ) := .plain hspace (digits_of_all (by decide) (by decide))
  have hy : Denotes ([] ++ ascii "02") (2 : ℕ) := .plain hspace (digits_of_all (by decide) (by decide))
  have hf : Denotes ([] ++ 43 :: ascii "3") (3 : ℕ) := .plus hspace (digits_of_all (by decide) (by decide))
  have hw : words isDelimiter line.bytes =
      COMMAND_TEXT_MOVE :: [ascii "F=+3", ascii "Y=02", ascii "X=1"] := by decide +kernel
  obtain ⟨-, -, -, -, statusLine, hwritten, hdone, -⟩ := end_to_end_move
    (LTS.Reachable.of_init (hostStart_init .lp64)) (by decide +kernel) (by decide +kernel)
    (by decide +kernel) (by decide) (by decide) (by decide) (by decide) (by decide) hw (by decide)
    hx hy hf (100, zeroLocals) (List.replicate 7 (100, zeroLocals)) (by decide) zeroLocals zeroLocals
  have hcover := hdone (by decide +kernel)
  have h1 : decimal 1 = ascii "1" := by simp [decimal]; rfl
  have h2 : decimal 2 = ascii "2" := by simp [decimal]; rfl
  rw [h1, h2] at hcover
  exact ⟨statusLine, hwritten, hcover⟩

end MotionFirmware.L4
