import MotionFirmware.Core.Fifo
import MotionFirmware.L2Port.HostPort

/-!
# The host queue is a bounded FIFO

The ring buffer of `HostPort` against the list machine of `Fifo`, over whole
runs of `rtos_queue_send` and `rtos_queue_receive` after `rtos_queue_init`, for
every item size, every capacity and every storage that holds the slots.

`ActsAs` says what each of the calls does at one moment, in terms of the queued
list; `queue_refines_fifo` carries it along every run, and `queue_in_order` says
what comes out.
-/
namespace MotionFirmware.L2.HostPort

open MotionFirmware.Core

variable {n : Nat}

/-- The two calls that change a queue. -/
def queueStep (queue : RtosQueue n) : FifoCall Text → FifoEvent Text × RtosQueue n
  | .send item =>
    let r := rtosQueueSend queue item
    (⟨.send item, r.1, item⟩, r.2)
  | .receive item =>
    let r := rtosQueueReceive queue item
    (⟨.receive item, r.1, r.2.2⟩, r.2.1)

theorem queueStep_call (queue : RtosQueue n) (call : FifoCall Text) :
    (queueStep queue call).1.call = call := by cases call <;> rfl

/-- After `rtos_queue_init` of anything, calls with objects of `isz` bytes. -/
def queueSystem (n isz cap : Nat) : LTS (RtosQueue n) (FifoEvent Text) :=
  (LTS.ofStep (fun queue => ∃ queue₀, queue = (rtosQueueInit queue₀ isz cap).2) FifoEvent.call
    queueStep).restrict fun _ l => l.call.item.length == isz

/-- The queue at one moment, holding the items `q`. -/
structure ActsAs (queue : RtosQueue n) (isz cap : Nat) (q : List Text) : Prop where
  send : ∀ item, item.length = isz →
    ((rtosQueueSend queue item).1 = true ↔ q.length < cap) ∧
    ((rtosQueueSend queue item).1 = true → (rtosQueueSend queue item).2.items = q ++ [item]) ∧
    ((rtosQueueSend queue item).1 = false → (rtosQueueSend queue item).2 = queue)
  receive : ∀ item,
    ((rtosQueueReceive queue item).1 = true ↔ q ≠ []) ∧
    (∀ front rest, q = front :: rest →
      (rtosQueueReceive queue item).2.2 = front ∧ (rtosQueueReceive queue item).2.1.items = rest) ∧
    ((rtosQueueReceive queue item).1 = false → (rtosQueueReceive queue item).2 = (queue, item))
  sizes : ∀ item ∈ q, item.length = isz
  count : rtosQueueCount queue = q.length
  isEmpty : rtosQueueIsEmpty queue = true ↔ q = []
  isFull : rtosQueueIsFull queue = true ↔ q.length = cap
  /-- The slots of the next send and of the next receive. -/
  inside : queue.tail * queue.itemSize + queue.itemSize ≤ cap * isz ∧
    queue.head * queue.itemSize + queue.itemSize ≤ cap * isz
  head_lt : queue.head < cap
  tail_eq : queue.tail = (queue.head + queue.count) % cap
  count_le : queue.count ≤ cap

variable {queue : RtosQueue n} {isz cap : Nat}

theorem RtosQueue.items_size (queue : RtosQueue n) :
    ∀ item ∈ queue.items, item.length = queue.itemSize := by
  intro item hitem
  unfold RtosQueue.items window at hitem
  obtain ⟨i, -, rfl⟩ := List.mem_map.mp hitem
  exact memRead_length _ _ _

theorem RtosQueue.Valid.actsAs (h : queue.Valid isz cap) : ActsAs queue isz cap queue.items where
  send := by
    intro item hlen
    rw [queue.items_length]
    by_cases hroom : queue.count < cap
    · obtain ⟨hok, -, hitems⟩ := send_valid h hlen hroom
      rw [hok]
      exact ⟨iff_of_true rfl hroom, fun _ => hitems, fun e => by cases e⟩
    · have hfull : queue.count = cap := by have := h.count_le; omega
      rw [send_full h hfull]
      exact ⟨iff_of_false (by simp) hroom, fun e => by simp at e, fun _ => rfl⟩
  receive := by
    intro item
    cases hq : queue.items with
    | nil =>
      have hempty : queue.count = 0 := by rw [← queue.items_length, hq]; rfl
      rw [receive_empty h hempty]
      refine ⟨iff_of_false (by simp) (by simp), ?_, fun _ => rfl⟩
      intro front rest e
      cases e
    | cons front rest =>
      obtain ⟨hok, hitem, -, hrest⟩ := receive_valid h hq item
      refine ⟨iff_of_true hok (by simp), fun front' rest' e => ?_, fun e => ?_⟩
      · obtain ⟨rfl, rfl⟩ := List.cons.inj e
        exact ⟨hitem, hrest⟩
      · rw [hok] at e; cases e
  sizes := by rw [← h.itemSize_eq]; exact queue.items_size
  count := by simp [rtosQueueCount, h.isValid, queue.items_length]
  isEmpty := by rw [h.isEmpty, decide_eq_true_iff, ← List.length_eq_zero_iff, queue.items_length]
  isFull := by rw [h.isFull, decide_eq_true_iff, queue.items_length]
  inside := by
    rw [h.itemSize_eq]
    exact ⟨slot_fits h.tail_lt (le_refl _), slot_fits h.head_lt (le_refl _)⟩
  head_lt := h.head_lt
  tail_eq := h.tail_eq
  count_le := h.count_le

/-- One call on the ring is the call on the list. -/
theorem queueStep_fifo (h : queue.Valid isz cap) {call : FifoCall Text}
    (hsize : call.item.length = isz) :
    (queueStep queue call).1 = (fifoStep cap queue.items call).1 ∧
      (queueStep queue call).2.Valid isz cap ∧
      (queueStep queue call).2.items = (fifoStep cap queue.items call).2 := by
  cases call with
  | send item =>
    have hsize : item.length = isz := hsize
    simp only [queueStep, fifoStep, queue.items_length]
    by_cases hroom : queue.count < cap
    · obtain ⟨hok, hvalid, hitems⟩ := send_valid h hsize hroom
      rw [if_pos hroom, hok]
      exact ⟨rfl, hvalid, hitems⟩
    · have hfull : queue.count = cap := by have := h.count_le; omega
      rw [if_neg hroom, send_full h hfull]
      exact ⟨rfl, h, rfl⟩
  | receive item =>
    simp only [queueStep]
    cases hq : queue.items with
    | nil =>
      have hempty : queue.count = 0 := by rw [← queue.items_length, hq]; rfl
      rw [receive_empty h hempty]
      exact ⟨rfl, h, hq⟩
    | cons front rest =>
      obtain ⟨hok, hitem, hvalid, hrest⟩ := receive_valid h hq item
      rw [hok, hitem]
      exact ⟨rfl, hvalid, hrest⟩

/-- The ring simulates the list. -/
theorem queue_simulation (hi : 0 < isz) (hc : 0 < cap) (hfit : cap * isz ≤ n) :
    (queueSystem n isz cap).Simulation (fifoSystem Text cap)
      fun queue q => queue.Valid isz cap ∧ queue.items = q where
  init := by
    intro queue hinit
    obtain ⟨queue₀, rfl⟩ := hinit
    obtain ⟨-, hvalid, hitems⟩ := init_valid queue₀ hi hc hfit
    exact ⟨[], rfl, hvalid, hitems⟩
  step := by
    intro queue q l queue' hR hst
    obtain ⟨hvalid, rfl⟩ := hR
    obtain ⟨hst, hsize⟩ := hst
    obtain ⟨call, hcall, rfl, rfl⟩ := LTS.ofStep_step hst
    rw [hcall] at hsize
    obtain ⟨hlabel, hvalid', hitems⟩ := queueStep_fifo hvalid (beq_iff_eq.mp hsize)
    have hfifo : fifoStep cap queue.items (queueStep queue call).1.call =
        ((queueStep queue call).1, (fifoStep cap queue.items call).2) := by rw [hcall, hlabel]
    exact ⟨_, hfifo, hvalid', hitems⟩

/-- **The host queue refines a bounded FIFO list.** -/
theorem queue_refines_fifo (hi : 0 < isz) (hc : 0 < cap) (hfit : cap * isz ≤ n)
    (queue₀ : RtosQueue n) :
    (rtosQueueInit queue₀ isz cap).1 = true ∧
    ∀ ls queue, (queueSystem n isz cap).Run (rtosQueueInit queue₀ isz cap).2 ls queue →
      ∃ q, (fifoSystem Text cap).Run [] ls q ∧ ActsAs queue isz cap q := by
  obtain ⟨hok, hvalid, hitems⟩ := init_valid queue₀ hi hc hfit
  refine ⟨hok, fun ls queue hrun => ?_⟩
  obtain ⟨q, hq, hvalid', rfl⟩ := (queue_simulation hi hc hfit).run ⟨hvalid, hitems⟩ hrun
  exact ⟨queue.items, hq, hvalid'.actsAs⟩

/-- Two slots of two bytes: the third send is refused, the fourth goes into the
first slot again. -/
def wrapCalls : List (FifoCall Text) :=
  [.send [1, 2], .send [3, 4], .send [5, 6], .receive [0, 0], .send [7, 8], .receive [9, 9]]

def wrapStart : RtosQueue 4 := (rtosQueueInit ⟨fun _ => 255, 9, 9, 9, 9, 9⟩ 2 2).2

theorem queue_refines_fifo_wrap :
    ∃ q, (fifoSystem Text 2).Run [] (LTS.exec queueStep wrapStart wrapCalls).1 q ∧
      ActsAs (LTS.exec queueStep wrapStart wrapCalls).2 2 2 q :=
  (queue_refines_fifo (by decide) (by decide) (by decide) ⟨fun _ => 255, 9, 9, 9, 9, 9⟩).2 _ _
    (LTS.run_exec_restrict queueStep_call wrapCalls wrapStart (by decide))

/-- What a queue hands out, and still holds, is what it was given, in order. -/
theorem queue_in_order (hi : 0 < isz) (hc : 0 < cap) (hfit : cap * isz ≤ n) {queue₀ : RtosQueue n}
    {ls : List (FifoEvent Text)}
    (hrun : (queueSystem n isz cap).Run (rtosQueueInit queue₀ isz cap).2 ls queue) :
    ls.filterMap FifoEvent.sent = ls.filterMap FifoEvent.received ++ queue.items := by
  obtain ⟨-, hvalid, hitems⟩ := init_valid queue₀ hi hc hfit
  obtain ⟨q, hq, -, rfl⟩ := (queue_simulation hi hc hfit).run ⟨hvalid, hitems⟩ hrun
  exact fifo_conserves hq

end MotionFirmware.L2.HostPort
