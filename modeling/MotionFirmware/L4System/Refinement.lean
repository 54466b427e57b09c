import MotionFirmware.L4System.Device

/-!
# The code refines the controller

On every lawful backend the task steps of `AppTasks` do what the steps
of `Device` do: same statuses, same dequeued commands, same responses, and
related states (`Refines`). Between the lock and the unlock the event bits and
the mutex lag behind, so the handlers are tracked with the weaker `Tracks`;
`app_tasks_refresh_motion_events` restores the bits (`tracks_refresh`).

`firmware_simulation` is the result: each run of the firmware is a run of the
controller with the same labels.
-/
namespace MotionFirmware.L4

open MotionFirmware.Core MotionFirmware.L1.Motion MotionFirmware.L1.Fault MotionFirmware.L1.Telemetry
open MotionFirmware.L1.Parser MotionFirmware.L2.Port MotionFirmware.L3.Messages MotionFirmware.L3.Tasks
open RtosQueueApi RtosMutexApi RtosEventGroupApi
open LawfulRtosQueue LawfulRtosMutex LawfulRtosEventGroup

variable {B : RtosBackend} [RtosApi B]

/-- The three task steps in any order, after `app_tasks_init` of anything. -/
def firmwareSystem (B : RtosBackend) [RtosApi B] (w : LongWidth) (writer : Bool) :
    LTS (Firmware B) Event :=
  LTS.ofStep
    (fun s => ∃ s₀ : Firmware B, s₀.telemetry.written = [] ∧ s = (appTasksInit s₀ writer).2)
    Event.act (appTaskStep w)

/-- Queueing a response changes the telemetry queue only. -/
theorem enqueue_frame (s : Firmware B) (line : Text) (message : TelemetryMessage) :
    (appTasksEnqueueTelemetryLine s line message).2 = { s with
      context.telemetryQueue := (appTasksEnqueueTelemetryLine s line message).2.context.telemetryQueue } := by
  unfold appTasksEnqueueTelemetryLine
  split <;> rfl

variable [LawfulRtos B]

/-- The motion step while another task holds the mutex. -/
theorem motion_locked {s : Firmware B} (h : Held s.context.stateMutex true) (deltaMs : UInt32)
    (locals : Locals) : appMotionTaskStep s deltaMs locals = (⟨.errorMutex, none, none⟩, s) := by
  simp only [appMotionTaskStep, lock_held h, Bool.not_false, if_true]

/-- The queue holds NUL-terminated messages that read as `replies`. -/
def HoldsReplies {n : Nat} (q : B.Queue n) (replies : List Text) : Prop :=
  ∃ ms : List TelemetryMessage,
    Holds q APP_TELEMETRY_MESSAGE_LENGTH APP_TELEMETRY_QUEUE_CAPACITY (ms.map (·.text)) ∧
    ms.map (fun m => cstr m.text) = replies ∧ ∀ m ∈ ms, 0 ∈ m.text

/-- Everything but the mutex and the two bits that follow from the modules. -/
structure Tracks (s : Firmware B) (d : Device) : Prop where
  commands : Holds s.context.commandQueue APP_COMMAND_MESSAGE_SIZE APP_COMMAND_QUEUE_CAPACITY
    (d.commands.map encodeCommand)
  replies : HoldsReplies s.context.telemetryQueue d.replies
  events : ∃ m f, Shows s.context.eventGroup (eventBits m f d.stopRequested)
  uptime : s.context.uptimeMs = d.uptimeMs
  motion : s.motion = d.motion
  fault : s.fault = d.fault
  telemetry : s.telemetry = d.telemetry

/-- Between two steps. -/
structure Refines (s : Firmware B) (d : Device) : Prop where
  tracks : Tracks s d
  mutex : Held s.context.stateMutex false
  bits : Shows s.context.eventGroup d.events

variable {s : Firmware B} {d : Device}

theorem count_commands (h : Tracks s d) : appTasksCommandQueueCount s = d.commands.length := by
  rw [appTasksCommandQueueCount, LawfulRtosQueue.count h.commands, List.length_map]

theorem count_replies (h : Tracks s d) : appTasksTelemetryQueueCount s = d.replies.length := by
  obtain ⟨ms, hms, hread, -⟩ := h.replies
  rw [appTasksTelemetryQueueCount, LawfulRtosQueue.count hms, ← hread, List.length_map, List.length_map]

theorem Refines.events (h : Refines s d) : appTasksGetEvents s = d.events := get_bits h.bits

theorem Refines.fault_active (h : Refines s d) :
    faultManagerIsFaultActive s.fault = true ↔ d.fault.faultActive = true := by
  rw [h.tracks.fault]; exact Iff.rfl

theorem Refines.moving_bit (h : Refines s d) :
    HasBit s.context.eventGroup APP_EVENT_MOVING ↔ d.motion.status.state = .moving := by
  rw [hasBit_moving h.bits, decide_eq_true_iff]

theorem Refines.faulted_bit (h : Refines s d) :
    HasBit s.context.eventGroup APP_EVENT_FAULTED ↔ d.fault.faultActive = true :=
  hasBit_faulted h.bits

theorem Refines.stop_bit (h : Refines s d) :
    HasBit s.context.eventGroup APP_EVENT_STOP_REQUESTED ↔ d.stopRequested = true :=
  hasBit_stop h.bits

/-- Who holds the mutex does not matter. -/
theorem Tracks.withMutex (h : Tracks s d) (m : B.Mutex) :
    Tracks { s with context.stateMutex := m } d :=
  ⟨h.commands, h.replies, h.events, h.uptime, h.motion, h.fault, h.telemetry⟩

/-- Both write the same. -/
theorem Tracks.print (h : Tracks s d) (f : TelemetryState → TelemetryState) :
    Tracks { s with telemetry := f s.telemetry } { d with telemetry := f d.telemetry } :=
  ⟨h.commands, h.replies, h.events, h.uptime, h.motion, h.fault, congrArg f h.telemetry⟩

/-! ## Pieces of the steps -/

theorem tracks_refresh (h : Tracks s d) : Tracks (appTasksRefreshMotionEvents s) d ∧
    Shows (appTasksRefreshMotionEvents s).context.eventGroup d.events ∧
    (appTasksRefreshMotionEvents s).context.stateMutex = s.context.stateMutex := by
  obtain ⟨m, f, he⟩ := h.events
  have hbits : Shows (appTasksRefreshMotionEvents s).context.eventGroup d.events := by
    simp only [appTasksRefreshMotionEvents, motionControllerGetStatus, faultManagerIsFaultActive,
      h.motion, h.fault, event_moving, event_faulted, Device.events]
    by_cases hm : d.motion.status.state = .moving <;> cases hf : d.fault.faultActive <;>
      simp only [hm, if_true, if_false, Bool.false_eq_true, decide_true, decide_false]
    · simpa using eventBits_clear (eventBits_set he true false false) false true false
    · simpa using eventBits_set (eventBits_set he true false false) false true false
    · simpa using eventBits_clear (eventBits_clear he true false false) false true false
    · simpa using eventBits_set (eventBits_clear he true false false) false true false
  exact ⟨⟨h.commands, h.replies, ⟨_, _, hbits⟩, h.uptime, h.motion, h.fault, h.telemetry⟩, hbits, rfl⟩

/-- The dispatcher on a parsed command. -/
theorem tracks_handle (h : Tracks s d) (hd : d.Safe) {c : Command} (hc : Parsed c) :
    (appTasksHandleCommand s c).1 = d.response c ∧
      Tracks (appTasksHandleCommand s c).2 (d.obey c) ∧
      (appTasksHandleCommand s c).2.context.stateMutex = s.context.stateMutex := by
  obtain ⟨hcq, htq, ⟨m, f, he⟩, hup, hmo, hfa, hte⟩ := h
  have h : Tracks s d := ⟨hcq, htq, ⟨m, f, he⟩, hup, hmo, hfa, hte⟩
  unfold appTasksHandleCommand Device.response Device.obey
  cases htype : c.type with
  | ping => exact ⟨rfl, h, rfl⟩
  | status => exact ⟨rfl, h, rfl⟩
  | none => exact ⟨rfl, h, rfl⟩
  | move =>
    have hgate : appTasksIsFaultBlockingMove s = d.fault.faultActive := by rw [← hfa]; rfl
    simp only [hgate]
    by_cases hf : d.fault.faultActive = true
    · simp only [hf, if_true]
      exact ⟨trivial, h, trivial⟩
    simp only [hf, Bool.false_eq_true, if_false, Bool.not_eq_true']
    by_cases hin : InWorkspace c.xMilliMm c.yMilliMm
    · -- the move starts, so `ERR MOVE_REJECTED` is never the answer
      obtain ⟨mc, hstart, -⟩ := hd.move_accepts hc htype hf hin
      have hbounds := (isTargetInBounds_iff c.xMilliMm c.yMilliMm).mpr hin
      have hstart' := hstart
      rw [← hmo] at hstart'
      simp only [hbounds, hstart, hstart', Bool.true_eq_false, if_false, if_true, if_pos hin]
      have htr : Tracks { s with
          context.eventGroup := (rtosEventGroupClearBits s.context.eventGroup APP_EVENT_STOP_REQUESTED).2
          motion := mc } { d with motion := mc, stopRequested := false } := by
        refine ⟨hcq, htq, ⟨m, f, ?_⟩, hup, rfl, hfa, hte⟩
        rw [event_stop]
        simpa using eventBits_clear he false false true
      exact ⟨trivial, (tracks_refresh htr).1, (tracks_refresh htr).2.2⟩
    · have hbounds : motionControllerIsTargetInBounds c.xMilliMm c.yMilliMm = false := by
        rw [Bool.eq_false_iff]; exact fun e => hin ((isTargetInBounds_iff _ _).mp e)
      simp only [hbounds, if_true, if_neg hin, appTasksHandleLimitFault]
      have htr : Tracks { s with
          fault := faultManagerSetFault s.fault .limitExceeded
          motion := motionControllerSetFault s.motion } (d.latch .limitExceeded) :=
        ⟨hcq, htq, ⟨m, f, he⟩, hup, by rw [hmo]; rfl, by rw [hfa]; rfl, hte⟩
      exact ⟨trivial, (tracks_refresh htr).1, (tracks_refresh htr).2.2⟩
  | stop =>
    have htr : Tracks { s with
        motion := motionControllerStop s.motion
        context.eventGroup := (rtosEventGroupSetBits s.context.eventGroup APP_EVENT_STOP_REQUESTED).2 }
        { d with motion := motionControllerStop d.motion, stopRequested := true } := by
      refine ⟨hcq, htq, ⟨m, f, ?_⟩, hup, by rw [hmo], hfa, hte⟩
      rw [event_stop]
      simpa using eventBits_set he false false true
    exact ⟨rfl, (tracks_refresh htr).1, (tracks_refresh htr).2.2⟩
  | estop =>
    refine ⟨rfl, ⟨hcq, htq, ⟨false, true, ?_⟩, hup, ?_, ?_, hte⟩, rfl⟩
    · rw [appTasksHandleEstop, event_moving, event_faulted]
      show Shows _ (eventBits false true d.stopRequested)
      simpa using eventBits_set (eventBits_clear he true false false) false true false
    · simp only [appTasksHandleEstop, Device.latch, hmo]
    · simp only [appTasksHandleEstop, Device.latch, hfa, faultManagerTriggerEstop]
  | clearFault =>
    refine ⟨rfl, ⟨hcq, htq, ⟨false, false, ?_⟩, hup, ?_, rfl, hte⟩, rfl⟩
    · rw [appTasksHandleClearFault, event_all]
      simpa using eventBits_clear he true true true
    · simp only [appTasksHandleClearFault, hmo]

theorem tracks_enqueue (h : Tracks s d) {line : Text} (hl : line ∈ responseTexts)
    (message : TelemetryMessage) :
    (appTasksEnqueueTelemetryLine s line message).1 = (d.reply line).1 ∧
      Tracks (appTasksEnqueueTelemetryLine s line message).2 (d.reply line).2 := by
  obtain ⟨hlen, hnul, -⟩ := responseTexts_spec line hl
  obtain ⟨ms, hms, hread, hterm⟩ := h.replies
  have hcount : ms.length = d.replies.length := by rw [← hread, List.length_map]
  have hle := bounded hms
  rw [List.length_map] at hle
  simp only [appTasksEnqueueTelemetryLine, hlen, dif_pos, Device.reply]
  by_cases hroom : d.replies.length < APP_TELEMETRY_QUEUE_CAPACITY
  · obtain ⟨hok, hq⟩ := LawfulRtosQueue.send (message.store line hlen).text hms
      (message.store line hlen).size (by rw [List.length_map]; omega)
    simp only [hroom, if_true, hok, true_and]
    refine ⟨h.commands, ⟨ms ++ [message.store line hlen], ?_, ?_, ?_⟩, h.events, h.uptime, h.motion,
      h.fault, h.telemetry⟩
    · rw [List.map_append]; exact hq
    · rw [List.map_append, hread, List.map_singleton, message.cstr_store hlen hnul]
    · intro m hm
      rcases List.mem_append.mp hm with hm | hm
      · exact hterm m hm
      · rw [List.mem_singleton.mp hm]; exact message.nul_mem_store hlen
  · have hfull := send_full (message.store line hlen).text hms (by rw [List.length_map]; omega)
    simp only [hroom, if_false, hfull, true_and]
    exact h

/-- A receive takes the oldest response, if there is one. -/
theorem tracks_receive (h : Tracks s d) (buffer : Text) :
    let r := rtosQueueReceive s.context.telemetryQueue buffer
    (d.replies = [] ∧ r.1 = false ∧ Tracks { s with context.telemetryQueue := r.2.1 } d) ∨
    ∃ rest, d.replies = cstr r.2.2 :: rest ∧ r.1 = true ∧
      Tracks { s with context.telemetryQueue := r.2.1 } { d with replies := rest } := by
  intro r
  obtain ⟨ms, hms, hread, hterm⟩ := h.replies
  cases ms with
  | nil =>
    have hr : r = (false, s.context.telemetryQueue, buffer) := receive_empty buffer hms
    rw [hr]
    exact Or.inl ⟨hread.symm, rfl, h⟩
  | cons m ms =>
    obtain ⟨hok, hitem, hq⟩ := receive buffer hms
    have hitem : r.2.2 = m.text := hitem
    refine Or.inr ⟨ms.map fun m => cstr m.text, ?_, hok, h.commands, ⟨ms, hq, rfl, ?_⟩, h.events,
      h.uptime, h.motion, h.fault, h.telemetry⟩
    · rw [hitem, ← hread, List.map_cons]
    · exact fun m' hm' => hterm m' (List.mem_cons_of_mem _ hm')

theorem tracks_snapshot (h : Tracks s d) : appTelemetrySnapshot s = d.snapshot := by
  simp only [appTelemetrySnapshot, motionControllerGetStatus, faultManagerIsFaultActive, h.uptime,
    h.motion, h.fault, Device.snapshot]

/-- Draining writes every queued response and leaves the queue empty. -/
theorem drain_eq : ∀ (ms : List TelemetryMessage) (s : Firmware B) (buffer : Text),
    Holds s.context.telemetryQueue APP_TELEMETRY_MESSAGE_LENGTH APP_TELEMETRY_QUEUE_CAPACITY
      (ms.map (·.text)) →
    ∃ q, HoldsReplies q [] ∧ appTasksDrainTelemetryQueue s buffer = { s with
      context.telemetryQueue := q
      telemetry := (ms.map fun m => cstr m.text).foldl telemetrySendLine s.telemetry }
  | [], s, buffer, h => by
    refine ⟨s.context.telemetryQueue, ⟨[], h, rfl, by simp⟩, ?_⟩
    rw [appTasksDrainTelemetryQueue, receive_empty buffer h]
    simp
  | m :: ms, s, buffer, h => by
    obtain ⟨hok, hitem, hq⟩ := receive buffer h
    obtain ⟨q, hqe, hd⟩ := drain_eq ms { s with
      context.telemetryQueue := (rtosQueueReceive s.context.telemetryQueue buffer).2.1
      telemetry := telemetrySendLine s.telemetry (cstr m.text) } m.text hq
    refine ⟨q, hqe, ?_⟩
    rw [appTasksDrainTelemetryQueue]
    simp only [hok, dif_pos, hitem]
    rw [hd]
    rfl

/-! ## The steps -/

theorem tracks_command (w : LongWidth) (h : Tracks s d) (line : Option CString) (locals : Locals) :
    (appCommandTaskStep w s line locals).1 = (d.commandStep w line).1 ∧
      Tracks (appCommandTaskStep w s line locals).2 (d.commandStep w line).2 ∧
      (appCommandTaskStep w s line locals).2.context.stateMutex = s.context.stateMutex ∧
      (appCommandTaskStep w s line locals).2.context.eventGroup = s.context.eventGroup := by
  cases line with
  | none => exact ⟨rfl, h, rfl, rfl⟩
  | some line =>
    have hp : commandParserParse w (some line) locals.command = Device.parse w line :=
      parse_prior w (some line) _ _
    simp only [appCommandTaskStep, Option.isNone_some, Bool.false_eq_true, if_false, hp,
      Device.commandStep]
    by_cases hok : (Device.parse w line).1 = .ok
    · simp only [hok, ne_eq, not_true_eq_false, if_false]
      have hle := bounded h.commands
      rw [List.length_map] at hle
      by_cases hroom : d.commands.length < APP_COMMAND_QUEUE_CAPACITY
      · obtain ⟨hs, hq⟩ := LawfulRtosQueue.send (encodeCommand (Device.parse w line).2)
          h.commands (encodeCommand_length _) (by rw [List.length_map]; exact hroom)
        simp only [hs, hroom, if_true, true_and, and_true]
        refine ⟨?_, h.replies, h.events, h.uptime, h.motion, h.fault, h.telemetry⟩
        rw [List.map_append]; exact hq
      · have hfull := send_full (encodeCommand (Device.parse w line).2) h.commands
          (by rw [List.length_map]; omega)
        simp only [hroom, if_false, hfull, Bool.false_eq_true, true_and, and_true]
        exact h
    · simp only [ne_eq, hok, not_false_eq_true, if_true]
      obtain ⟨h1, h2⟩ := tracks_enqueue h (resultToString_mem (Device.parse w line).1) locals.telemetry
      refine ⟨by rw [h1], h2, ?_, ?_⟩ <;> rw [enqueue_frame]

/-- Taking a command off the queue and dispatching it. -/
theorem tracks_dispatch (h : Tracks s d) (hd : d.Inv) (locals : Locals) :
    (appMotionTaskDispatch s locals).2.context.stateMutex = s.context.stateMutex ∧
    ((d.commands = [] ∧ (appMotionTaskDispatch s locals).1 = none ∧
        Tracks (appMotionTaskDispatch s locals).2 d) ∨
      ∃ c rest, d.commands = c :: rest ∧
        (appMotionTaskDispatch s locals).1 = some (c, d.response c) ∧
        Tracks (appMotionTaskDispatch s locals).2 (Device.obey { d with commands := rest } c)) := by
  have hcq := h.commands
  cases hq : d.commands with
  | nil =>
    rw [hq, List.map_nil] at hcq
    have he : appMotionTaskDispatch s locals = (none, s) := by
      simp only [appMotionTaskDispatch, receive_empty (encodeCommand locals.command) hcq,
        Bool.false_eq_true, if_false]
    rw [he]
    exact ⟨rfl, Or.inl ⟨rfl, rfl, h⟩⟩
  | cons c rest =>
    rw [hq, List.map_cons] at hcq
    obtain ⟨hok, hitem, hrest⟩ := receive (encodeCommand locals.command) hcq
    have hc : Parsed c := hd.parsed c (by rw [hq]; simp)
    have hs : Tracks { s with context.commandQueue :=
        (rtosQueueReceive s.context.commandQueue (encodeCommand locals.command)).2.1 }
        { d with commands := rest } :=
      ⟨hrest, h.replies, h.events, h.uptime, h.motion, h.fault, h.telemetry⟩
    obtain ⟨hresp, htr, hmx⟩ := tracks_handle hs (hd.safe.pop rest) hc
    have he : appMotionTaskDispatch s locals = (some (c, d.response c),
        (appTasksHandleCommand { s with context.commandQueue :=
          (rtosQueueReceive s.context.commandQueue (encodeCommand locals.command)).2.1 } c).2) := by
      simp only [appMotionTaskDispatch, hok, hitem, if_true, decodeCommand_encodeCommand, hresp]
      rfl
    rw [he]
    exact ⟨hmx, Or.inr ⟨c, rest, rfl, rfl, htr⟩⟩

/-- The tick and the refresh. -/
theorem tracks_tick (h : Tracks s d) (deltaMs : UInt32) :
    Tracks (appMotionTaskTick s deltaMs) (d.tick deltaMs) ∧
      Shows (appMotionTaskTick s deltaMs).context.eventGroup (d.tick deltaMs).events ∧
      (appMotionTaskTick s deltaMs).context.stateMutex = s.context.stateMutex := by
  apply tracks_refresh
  exact ⟨h.commands, h.replies, h.events, by rw [h.uptime]; rfl, by rw [h.motion]; rfl, h.fault,
    h.telemetry⟩

/-- Between the lock and the unlock. -/
theorem tracks_motionBody (h : Tracks s d) (hd : d.Inv) (deltaMs : UInt32) (locals : Locals) :
    let b := appMotionTaskBody s deltaMs locals
    b.2.context.stateMutex = s.context.stateMutex ∧
    ((d.commands = [] ∧ b.1 = none ∧ Tracks b.2 (d.tick deltaMs) ∧
        Shows b.2.context.eventGroup (d.tick deltaMs).events) ∨
      ∃ c rest, d.commands = c :: rest ∧ b.1 = some (c, d.response c) ∧
        Tracks b.2 ((Device.obey { d with commands := rest } c).tick deltaMs) ∧
        Shows b.2.context.eventGroup ((Device.obey { d with commands := rest } c).tick deltaMs).events) := by
  intro b
  have hb : b = ((appMotionTaskDispatch s locals).1,
    appMotionTaskTick (appMotionTaskDispatch s locals).2 deltaMs) := motionBody_eq s deltaMs locals
  obtain ⟨hmx, hcases⟩ := tracks_dispatch h hd locals
  rw [hb]
  rcases hcases with ⟨hq, hnone, htr⟩ | ⟨c, rest, hq, hsome, htr⟩
  · obtain ⟨h1, h2, h3⟩ := tracks_tick htr deltaMs
    exact ⟨h3.trans hmx, Or.inl ⟨hq, hnone, h1, h2⟩⟩
  · obtain ⟨h1, h2, h3⟩ := tracks_tick htr deltaMs
    exact ⟨h3.trans hmx, Or.inr ⟨c, rest, hq, hsome, h1, h2⟩⟩

theorem refines_motion (h : Tracks s d) (hd : d.Inv) (hmx : Held s.context.stateMutex false)
    (deltaMs : UInt32) (locals : Locals) :
    (appMotionTaskStep s deltaMs locals).1 = (d.motionStep deltaMs).1 ∧
      Refines (appMotionTaskStep s deltaMs locals).2 (d.motionStep deltaMs).2 := by
  obtain ⟨hl, hheld⟩ := lock hmx
  obtain ⟨hbm, hbody⟩ := tracks_motionBody (h.withMutex (rtosMutexLock s.context.stateMutex).2) hd
    deltaMs locals
  simp only [appMotionTaskStep, hl, Bool.not_true, Bool.false_eq_true, if_false]
  generalize appMotionTaskBody { s with context.stateMutex := (rtosMutexLock s.context.stateMutex).2 }
    deltaMs locals = b at hbm hbody
  have hheld : Held b.2.context.stateMutex true := by rw [hbm]; exact hheld
  obtain ⟨hu, hfree⟩ := unlock hheld
  simp only [hu, Bool.not_true, Bool.false_eq_true, if_false]
  rcases hbody with ⟨hq, hnone, htr, hev⟩ | ⟨c, rest, hq, hsome, htr, hev⟩
  · rw [hnone]
    simp only [Device.motionStep, hq, Option.map_none]
    exact ⟨trivial, htr.withMutex _, hfree, hev⟩
  · rw [hsome]
    simp only [Device.motionStep, hq, Option.map_some]
    obtain ⟨h1, h2⟩ := tracks_enqueue (htr.withMutex (rtosMutexUnlock b.2.context.stateMutex).2)
      (d.response_mem c) locals.telemetry
    refine ⟨by rw [h1], h2, ?_, ?_⟩
    · rw [enqueue_frame]; exact hfree
    · rw [enqueue_frame, Device.reply_eq]; exact hev

theorem refines_telemetry (h : Refines s d) (locals : Locals) :
    (appTelemetryTaskStep s locals).1 = d.telemetryStep.1 ∧
      Refines (appTelemetryTaskStep s locals).2 d.telemetryStep.2 := by
  obtain ⟨ms, hms, hread, -⟩ := h.tracks.replies
  obtain ⟨hl, hheld⟩ := lock h.mutex
  obtain ⟨hu, hfree⟩ := unlock hheld
  obtain ⟨q, hq, hdrain⟩ := drain_eq ms { s with
    context.stateMutex := (rtosMutexUnlock (rtosMutexLock s.context.stateMutex).2).2 }
    locals.telemetry.text hms
  simp only [appTelemetryTaskStep, hl, hu, Bool.not_true, Bool.false_eq_true, if_false, hdrain]
  refine ⟨rfl, ⟨h.tracks.commands, hq, h.tracks.events, h.tracks.uptime, h.tracks.motion, h.tracks.fault,
    ?_⟩, hfree, h.bits⟩
  have hsnap : appTelemetrySnapshot { s with context.stateMutex := (rtosMutexLock s.context.stateMutex).2 } =
      d.snapshot := tracks_snapshot (h.tracks.withMutex _)
  have hout : (ms.map fun m => cstr m.text).foldl telemetrySendLine s.telemetry =
      d.replies.foldl telemetrySendLine d.telemetry := by rw [hread, h.tracks.telemetry]
  exact congrArg₂ telemetrySendStatus hout hsnap

theorem refines_init (s₀ : Firmware B) (writer : Bool) : (appTasksInit s₀ writer).1 = true ∧
    Refines (appTasksInit s₀ writer).2 (Device.start ⟨writer, s₀.telemetry.written⟩) := by
  obtain ⟨hc, hcq⟩ := LawfulRtosQueue.init s₀.context.commandQueue APP_COMMAND_MESSAGE_SIZE
    APP_COMMAND_QUEUE_CAPACITY (by decide) (by decide) (by decide) (by decide) (by decide)
  obtain ⟨ht, htq⟩ := LawfulRtosQueue.init s₀.context.telemetryQueue
    APP_TELEMETRY_MESSAGE_LENGTH APP_TELEMETRY_QUEUE_CAPACITY (by decide) (by decide)
    (by decide) (by decide) (by decide)
  obtain ⟨hm, hfree⟩ := mutex_init s₀.context.stateMutex
  obtain ⟨he, hclear⟩ := group_init s₀.context.eventGroup
  rw [← eventBits_none] at hclear
  simp only [appTasksInit, hc, ht, hm, he, Bool.not_true, Bool.false_eq_true, if_false, true_and]
  exact ⟨⟨hcq, ⟨[], htq, rfl, by simp⟩, ⟨false, false, hclear⟩, rfl, rfl, rfl, rfl⟩, hfree, hclear⟩

/-! ## Simulation -/

theorem refines_step (w : LongWidth) (h : Refines s d) (hd : d.Inv) (a : Act) :
    (appTaskStep w s a).1 = (Device.taskStep w d a).1 ∧
      Refines (appTaskStep w s a).2 (Device.taskStep w d a).2 := by
  cases a with
  | command line locals =>
    obtain ⟨h1, h2, h3, h4⟩ := tracks_command w h.tracks line locals
    have hev := d.commandStep_events w line
    have hfree := h.mutex
    have hbits := h.bits
    rw [← h3] at hfree
    rw [← h4, ← hev] at hbits
    exact ⟨by simp only [appTaskStep, Device.taskStep, h1], h2, hfree, hbits⟩
  | motion deltaMs locals =>
    obtain ⟨h1, h2⟩ := refines_motion h.tracks hd h.mutex deltaMs locals
    exact ⟨by simp only [appTaskStep, Device.taskStep, h1], h2⟩
  | telemetry locals =>
    obtain ⟨h1, h2⟩ := refines_telemetry h locals
    exact ⟨by simp only [appTaskStep, Device.taskStep, h1], h2⟩

/-- **Refinement.** Each run of the firmware is a run of the controller. -/
theorem firmware_simulation (w : LongWidth) (writer : Bool) :
    (firmwareSystem B w writer).Simulation (deviceSystem w writer)
      fun s d => Refines s d ∧ d.Inv where
  init := by
    intro s hinit
    obtain ⟨s₀, hw, rfl⟩ := hinit
    refine ⟨Device.start ⟨writer, s₀.telemetry.written⟩, by rw [hw]; rfl, ?_, Device.inv_start _⟩
    exact (refines_init s₀ writer).2
  step := by
    intro s d e s' hR hst
    obtain ⟨h, hd⟩ := hR
    obtain ⟨a, ha, rfl, rfl⟩ := LTS.ofStep_step hst
    obtain ⟨he, hs'⟩ := refines_step w h hd a
    have hdst : Device.taskStep w d (appTaskStep w s a).1.act =
        ((appTaskStep w s a).1, (Device.taskStep w d a).2) := by rw [ha, he]
    exact ⟨_, hdst, hs', Device.inv_taskStep w hd a⟩

theorem reachable_refines {w : LongWidth} {writer : Bool}
    (hr : (firmwareSystem B w writer).Reachable s) :
    ∃ d, (deviceSystem w writer).Reachable d ∧ Refines s d ∧ d.Inv :=
  (firmware_simulation w writer).reachable hr

end MotionFirmware.L4
