import MotionFirmware.Core.RingBuffer
import MotionFirmware.L2Port.RtosPort

/-!
# The host backend (`rtos/rtos_port_host.c`)

A queue is a ring buffer over the caller's bytes. `storage` is the array the
pointer of the C record aims at, so a queue owns its bytes here. `size_t`
arithmetic is over `Nat`: every index stays below the storage size (`Valid`).

`Valid` is the representation invariant, `items` the list it stands for; the
instance of `LawfulRtosQueue` says that each call is the list operation. The
mutex is a flag and the event group a word.
-/
namespace MotionFirmware.L2.HostPort

open MotionFirmware.Core MotionFirmware.L2.Port

/-- mirrors firmware/App/rtos/rtos_port.h:36-43 -/
structure RtosQueue (n : Nat) where
  storage : Memory n
  itemSize : Nat
  capacity : Nat
  head : Nat
  tail : Nat
  count : Nat

variable {n : Nat}

/-- mirrors firmware/App/rtos/rtos_port_host.c:9-16 -/
def rtosQueueIsValid (queue : RtosQueue n) : Bool :=
  decide (queue.itemSize > 0) && decide (queue.capacity > 0)

/-- mirrors firmware/App/rtos/rtos_port_host.c:18-40 -/
def rtosQueueInit (queue : RtosQueue n) (itemSize capacity : Nat) : Bool × RtosQueue n :=
  if itemSize = 0 ∨ capacity = 0 then (false, queue)
  else (true, { queue with
    itemSize := itemSize, capacity := capacity, head := 0, tail := 0, count := 0 })

/-- mirrors firmware/App/rtos/rtos_port_host.c:95-105 -/
def rtosQueueIsEmpty (queue : RtosQueue n) : Bool :=
  if !rtosQueueIsValid queue then true else decide (queue.count = 0)

/-- mirrors firmware/App/rtos/rtos_port_host.c:107-117 -/
def rtosQueueIsFull (queue : RtosQueue n) : Bool :=
  if !rtosQueueIsValid queue then false else decide (queue.count = queue.capacity)

/-- mirrors firmware/App/rtos/rtos_port_host.c:119-129 -/
def rtosQueueCount (queue : RtosQueue n) : Nat :=
  if !rtosQueueIsValid queue then 0 else queue.count

/-- mirrors firmware/App/rtos/rtos_port_host.c:42-67 -/
def rtosQueueSend (queue : RtosQueue n) (item : Text) : Bool × RtosQueue n :=
  if !rtosQueueIsValid queue then (false, queue)
  else if rtosQueueIsFull queue then (false, queue)
  else (true, { queue with
    storage := memWrite queue.storage (queue.tail * queue.itemSize) queue.itemSize item
    tail := (queue.tail + 1) % queue.capacity
    count := queue.count + 1 })

/-- mirrors firmware/App/rtos/rtos_port_host.c:69-93 -/
def rtosQueueReceive (queue : RtosQueue n) (item : Text) : Bool × RtosQueue n × Text :=
  if !rtosQueueIsValid queue then (false, queue, item)
  else if rtosQueueIsEmpty queue then (false, queue, item)
  else (true,
    { queue with head := (queue.head + 1) % queue.capacity, count := queue.count - 1 },
    memRead queue.storage (queue.head * queue.itemSize) queue.itemSize)

theorem rtosQueueReceive_count (queue : RtosQueue n) (item : Text)
    (h : (rtosQueueReceive queue item).1 = true) :
    rtosQueueCount (rtosQueueReceive queue item).2.1 < rtosQueueCount queue := by
  unfold rtosQueueReceive at h ⊢
  by_cases hv : rtosQueueIsValid queue = true
  · by_cases he : queue.count = 0
    · simp [hv, he, rtosQueueIsEmpty] at h
    · have hv' : rtosQueueIsValid { queue with
          head := (queue.head + 1) % queue.capacity, count := queue.count - 1 } = true := hv
      simp only [hv, rtosQueueIsEmpty, he, rtosQueueCount, Bool.not_true, Bool.false_eq_true,
        if_false, decide_false, hv']
      omega
  · simp [hv] at h

instance : RtosQueueApi RtosQueue where
  rtosQueueInit := rtosQueueInit
  rtosQueueSend := rtosQueueSend
  rtosQueueReceive := rtosQueueReceive
  rtosQueueCount := rtosQueueCount
  receive_count := rtosQueueReceive_count

/-! ## The list it stands for -/

/-- The bytes of slot `i`. -/
def RtosQueue.slot (queue : RtosQueue n) (i : Nat) : Text :=
  memRead queue.storage (i * queue.itemSize) queue.itemSize

/-- The queued items, oldest first. -/
def RtosQueue.items (queue : RtosQueue n) : List Text :=
  window queue.slot queue.capacity queue.head queue.count

/-- The representation invariant. -/
structure RtosQueue.Valid (queue : RtosQueue n) (itemSize capacity : Nat) : Prop where
  itemSize_eq : queue.itemSize = itemSize
  capacity_eq : queue.capacity = capacity
  size_pos : 0 < itemSize
  fits : capacity * itemSize ≤ n
  head_lt : queue.head < capacity
  tail_eq : queue.tail = (queue.head + queue.count) % capacity
  count_le : queue.count ≤ capacity

variable {queue : RtosQueue n} {isz cap : Nat}

theorem RtosQueue.Valid.isValid (h : queue.Valid isz cap) : rtosQueueIsValid queue = true := by
  have := h.size_pos
  have := h.head_lt
  simp only [rtosQueueIsValid, h.itemSize_eq, h.capacity_eq, Bool.and_eq_true, decide_eq_true_eq]
  omega

theorem RtosQueue.Valid.isFull (h : queue.Valid isz cap) :
    rtosQueueIsFull queue = decide (queue.count = cap) := by
  simp [rtosQueueIsFull, h.isValid, h.capacity_eq]

theorem RtosQueue.Valid.isEmpty (h : queue.Valid isz cap) :
    rtosQueueIsEmpty queue = decide (queue.count = 0) := by
  simp [rtosQueueIsEmpty, h.isValid]

theorem RtosQueue.items_length (queue : RtosQueue n) : queue.items.length = queue.count :=
  window_length _ _ _ _

/-- The tail slot of a queue that is not full. -/
theorem RtosQueue.Valid.tail_lt (h : queue.Valid isz cap) : queue.tail < cap := by
  have := h.head_lt
  rw [h.tail_eq]; exact Nat.mod_lt _ (by omega)

theorem init_valid (queue : RtosQueue n) (hi : 0 < isz) (hc : 0 < cap) (hfit : cap * isz ≤ n) :
    (rtosQueueInit queue isz cap).1 = true ∧ (rtosQueueInit queue isz cap).2.Valid isz cap ∧
      (rtosQueueInit queue isz cap).2.items = [] := by
  have h : ¬ (isz = 0 ∨ cap = 0) := by omega
  simp only [rtosQueueInit, if_neg h, true_and]
  refine ⟨⟨rfl, rfl, hi, hfit, hc, ?_, Nat.zero_le _⟩, rfl⟩
  exact (Nat.zero_mod cap).symm

theorem send_valid (h : queue.Valid isz cap) {item : Text} (hlen : item.length = isz)
    (hroom : queue.count < cap) :
    (rtosQueueSend queue item).1 = true ∧ (rtosQueueSend queue item).2.Valid isz cap ∧
      (rtosQueueSend queue item).2.items = queue.items ++ [item] := by
  have hne : ¬ queue.count = cap := by omega
  have hiz := h.itemSize_eq
  have hcz := h.capacity_eq
  simp only [rtosQueueSend, h.isValid, h.isFull, hne, decide_false, Bool.not_true,
    Bool.false_eq_true, if_false, true_and]
  refine ⟨⟨hiz, hcz, h.size_pos, h.fits, h.head_lt, ?_, ?_⟩, ?_⟩
  · simp only [h.tail_eq, hcz]
    rw [Nat.mod_add_mod, Nat.add_assoc]
  · simp only; omega
  · have htail : queue.tail = (queue.head + queue.count) % queue.capacity := by
      rw [hcz]; exact h.tail_eq
    unfold RtosQueue.items
    have hroom' : queue.count < queue.capacity := by omega
    refine window_push hroom' ?_ fun k hk => ?_
    · rw [← htail]
      unfold RtosQueue.slot
      simp only [hiz]
      exact memRead_memWrite hlen (slot_fits h.tail_lt h.fits)
    · rw [← htail] at hk
      exact memRead_memWrite_disjoint (slots_disjoint hk.symm)

theorem receive_valid (h : queue.Valid isz cap) {front : Text} {rest : List Text}
    (hitems : queue.items = front :: rest) (item : Text) :
    (rtosQueueReceive queue item).1 = true ∧ (rtosQueueReceive queue item).2.2 = front ∧
      (rtosQueueReceive queue item).2.1.Valid isz cap ∧
      (rtosQueueReceive queue item).2.1.items = rest := by
  have hcount : queue.count = rest.length + 1 := by
    rw [← queue.items_length, hitems, List.length_cons]
  have hne : ¬ queue.count = 0 := by omega
  have hcz := h.capacity_eq
  have hhead : queue.head % queue.capacity = queue.head :=
    Nat.mod_eq_of_lt (by rw [hcz]; exact h.head_lt)
  have hpos : 0 < cap := by have := h.head_lt; omega
  rw [RtosQueue.items, hcount, window_pop, hhead, List.cons.injEq] at hitems
  obtain ⟨hfront, hrest⟩ := hitems
  simp only [rtosQueueReceive, h.isValid, h.isEmpty, hne, decide_false, Bool.not_true,
    Bool.false_eq_true, if_false, true_and]
  refine ⟨hfront, ⟨h.itemSize_eq, hcz, h.size_pos, h.fits, ?_, ?_, ?_⟩, ?_⟩
  · simp only [hcz]; exact Nat.mod_lt _ hpos
  · simp only [hcz]
    rw [Nat.mod_add_mod, h.tail_eq]
    congr 1; omega
  · have := h.count_le
    simp only; omega
  · rw [← hrest]
    unfold RtosQueue.items
    simp only [hcount, Nat.add_sub_cancel]
    rfl

theorem send_full {item : Text} (h : queue.Valid isz cap) (hfull : queue.count = cap) :
    rtosQueueSend queue item = (false, queue) := by
  simp [rtosQueueSend, h.isValid, h.isFull, hfull]

theorem receive_empty {item : Text} (h : queue.Valid isz cap) (hempty : queue.count = 0) :
    rtosQueueReceive queue item = (false, queue, item) := by
  simp [rtosQueueReceive, h.isValid, h.isEmpty, hempty]

instance : LawfulRtosQueue RtosQueue where
  Holds queue isz cap items := queue.Valid isz cap ∧ queue.items = items
  bounded h := by
    rw [← h.2, RtosQueue.items_length]; exact h.1.count_le
  init queue _ _ hi _ hc _ hfit := init_valid queue hi hc hfit
  send _ h hlen hroom := by
    rw [← h.2, RtosQueue.items_length] at hroom
    obtain ⟨h1, h2, h3⟩ := send_valid h.1 hlen hroom
    exact ⟨h1, h2, h3.trans (by rw [h.2])⟩
  send_full item h hfull := by
    rw [← h.2, RtosQueue.items_length] at hfull
    exact send_full h.1 hfull
  receive item h := by
    obtain ⟨h1, h2, h3, h4⟩ := receive_valid h.1 h.2 item
    exact ⟨h1, h2, h3, h4⟩
  receive_empty item h := by
    have hcount := RtosQueue.items_length _ ▸ congrArg List.length h.2
    exact receive_empty h.1 hcount
  count h := by
    rw [← h.2, RtosQueue.items_length]
    show rtosQueueCount _ = _
    simp [rtosQueueCount, h.1.isValid]

/-! ## The mutex -/

structure RtosMutex where
  locked : Bool
  deriving DecidableEq, Repr

/-- mirrors firmware/App/rtos/rtos_port_host.c:131-143 -/
def rtosMutexInit (_mutex : RtosMutex) : Bool × RtosMutex := (true, ⟨false⟩)

/-- mirrors firmware/App/rtos/rtos_port_host.c:145-160 -/
def rtosMutexLock (mutex : RtosMutex) : Bool × RtosMutex :=
  if mutex.locked then (false, mutex) else (true, ⟨true⟩)

/-- mirrors firmware/App/rtos/rtos_port_host.c:162-176 -/
def rtosMutexUnlock (mutex : RtosMutex) : Bool × RtosMutex :=
  if mutex.locked = false then (false, mutex) else (true, ⟨false⟩)

instance : RtosMutexApi RtosMutex := ⟨rtosMutexInit, rtosMutexLock, rtosMutexUnlock⟩

instance : LawfulRtosMutex RtosMutex where
  Held mutex held := mutex = ⟨held⟩
  mutex_init _ := ⟨rfl, rfl⟩
  lock h := by rw [h]; exact ⟨rfl, rfl⟩
  lock_held h := by rw [h]; rfl
  unlock h := by rw [h]; exact ⟨rfl, rfl⟩

/-! ## The event group -/

structure RtosEventGroup where
  bits : UInt32
  deriving DecidableEq, Repr

/-- mirrors firmware/App/rtos/rtos_port_host.c:178-189 -/
def rtosEventGroupInit (_eventGroup : RtosEventGroup) : Bool × RtosEventGroup := (true, ⟨0⟩)

/-- mirrors firmware/App/rtos/rtos_port_host.c:191-206 -/
def rtosEventGroupSetBits (eventGroup : RtosEventGroup) (bits : UInt32) : UInt32 × RtosEventGroup :=
  (eventGroup.bits ||| bits, ⟨eventGroup.bits ||| bits⟩)

/-- mirrors firmware/App/rtos/rtos_port_host.c:208-222 -/
def rtosEventGroupClearBits (eventGroup : RtosEventGroup) (bits : UInt32) : UInt32 × RtosEventGroup :=
  (eventGroup.bits &&& ~~~bits, ⟨eventGroup.bits &&& ~~~bits⟩)

/-- mirrors firmware/App/rtos/rtos_port_host.c:224-236 -/
def rtosEventGroupGetBits (eventGroup : RtosEventGroup) : UInt32 := eventGroup.bits

instance : RtosEventGroupApi RtosEventGroup :=
  ⟨rtosEventGroupInit, rtosEventGroupSetBits, rtosEventGroupClearBits, rtosEventGroupGetBits⟩

instance : LawfulRtosEventGroup RtosEventGroup where
  Shows eventGroup bits := eventGroup = ⟨bits⟩
  group_init _ := ⟨rfl, rfl⟩
  set_bits _ h _ := by rw [h]; rfl
  clear_bits _ h _ := by rw [h]; rfl
  get_bits h := by rw [h]; rfl

/-! ## The backend -/

abbrev hostBackend : RtosBackend := ⟨RtosQueue, RtosMutex, RtosEventGroup⟩

instance : RtosApi hostBackend where
instance : LawfulRtos hostBackend where

end MotionFirmware.L2.HostPort
