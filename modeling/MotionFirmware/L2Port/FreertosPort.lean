import MotionFirmware.L2Port.RtosPort

/-!
# The FreeRTOS backend (`rtos/rtos_port_freertos.c`)

The wrapper functions of the target backend. The kernel is not part of the
repository, so its objects are a parameter: `KernelApi` names the calls the
wrappers make, all with a zero timeout, and `LawfulKernel` is what the kernel
documents about them.

* A queue is a bounded FIFO that copies items. Creating one fails for null
  buffers only, and every buffer here is static.
* A take of a held mutex fails at once and changes nothing.
* The top byte of an event group is the kernel's; nobody waits for a bit.

Over every lawful kernel the backend is lawful. `simpleKernel` is one such
kernel; what is computed on the target is computed over it.
-/
namespace MotionFirmware.L2.FreertosPort

open MotionFirmware.Core MotionFirmware.L2.Port

/-! ## The kernel's objects -/

/-- Kernel queues, each with `n` bytes of storage; `none` is a null handle.
Receiving takes an item away. -/
class KernelQueueApi (K : Nat → Type) where
  /-- The width of `UBaseType_t`, which is the port's. -/
  uBaseTypeBits : Nat
  xQueueCreateStatic : {n : Nat} → (uxQueueLength uxItemSize : Nat) → Option (K n)
  xQueueSend : {n : Nat} → K n → (item : Text) → Bool × K n
  xQueueReceive : {n : Nat} → K n → (item : Text) → Bool × K n × Text
  uxQueueMessagesWaiting : {n : Nat} → K n → Nat
  receive_waiting : ∀ {n : Nat} (queue : K n) (item : Text), (xQueueReceive queue item).1 = true →
    uxQueueMessagesWaiting (xQueueReceive queue item).2.1 < uxQueueMessagesWaiting queue

class KernelMutexApi (S : Type) where
  xSemaphoreCreateMutexStatic : Option S
  xSemaphoreTake : S → Bool × S
  xSemaphoreGive : S → Bool × S

class KernelEventGroupApi (E : Type) where
  xEventGroupCreateStatic : Option E
  xEventGroupSetBits : E → (bits : UInt32) → UInt32 × E
  xEventGroupClearBits : E → (bits : UInt32) → UInt32 × E
  xEventGroupGetBits : E → UInt32

open KernelQueueApi KernelMutexApi KernelEventGroupApi

/-- `Contains queue length itemSize items`: the queue as created, with `items`
in it, oldest first. -/
class LawfulKernelQueue (K : Nat → Type) [KernelQueueApi K] where
  Contains : {n : Nat} → K n → (length itemSize : Nat) → List Text → Prop
  ubase_bits : 32 ≤ uBaseTypeBits K
  create : ∀ {n length itemSize : Nat}, 0 < length → 0 < itemSize → length * itemSize ≤ n →
    ∃ queue : K n, xQueueCreateStatic length itemSize = some queue ∧
      Contains queue length itemSize []
  room : ∀ {n length itemSize : Nat} {queue : K n} {items : List Text},
    Contains queue length itemSize items → items.length ≤ length
  send : ∀ {n length itemSize : Nat} {queue : K n} {items : List Text} (item : Text),
    Contains queue length itemSize items → item.length = itemSize → items.length < length →
    (xQueueSend queue item).1 = true ∧ Contains (xQueueSend queue item).2 length itemSize (items ++ [item])
  receive : ∀ {n length itemSize : Nat} {queue : K n} {front : Text} {items : List Text} (item : Text),
    Contains queue length itemSize (front :: items) → (xQueueReceive queue item).1 = true ∧
      (xQueueReceive queue item).2.2 = front ∧
      Contains (xQueueReceive queue item).2.1 length itemSize items
  waiting : ∀ {n length itemSize : Nat} {queue : K n} {items : List Text},
    Contains queue length itemSize items → uxQueueMessagesWaiting queue = items.length

class LawfulKernelMutex (S : Type) [KernelMutexApi S] where
  Taken : S → Bool → Prop
  create_mutex : ∃ mutex : S, xSemaphoreCreateMutexStatic = some mutex ∧ Taken mutex false
  take : ∀ {mutex : S}, Taken mutex false →
    (xSemaphoreTake mutex).1 = true ∧ Taken (xSemaphoreTake mutex).2 true
  take_taken : ∀ {mutex : S}, Taken mutex true → xSemaphoreTake mutex = (false, mutex)
  give : ∀ {mutex : S}, Taken mutex true →
    (xSemaphoreGive mutex).1 = true ∧ Taken (xSemaphoreGive mutex).2 false

/-- The bits returned by the setting and the clearing are left open. -/
class LawfulKernelEventGroup (E : Type) [KernelEventGroupApi E] where
  Set : E → UInt32 → Prop
  create_group : ∃ group : E, xEventGroupCreateStatic = some group ∧ Set group 0
  set : ∀ {group : E} {now : UInt32} (bits : UInt32), Set group now → bits.toNat < 2 ^ 24 →
    Set (xEventGroupSetBits group bits).2 (now ||| bits)
  clear : ∀ {group : E} {now : UInt32} (bits : UInt32), Set group now → bits.toNat < 2 ^ 24 →
    Set (xEventGroupClearBits group bits).2 (now &&& ~~~bits)
  get : ∀ {group : E} {now : UInt32}, Set group now → xEventGroupGetBits group = now

structure KernelObjects where
  Queue : Nat → Type
  Semaphore : Type
  EventGroup : Type

class KernelApi (K : KernelObjects) extends
  KernelQueueApi K.Queue, KernelMutexApi K.Semaphore, KernelEventGroupApi K.EventGroup

class LawfulKernel (K : KernelObjects) [KernelApi K] extends
  LawfulKernelQueue K.Queue, LawfulKernelMutex K.Semaphore, LawfulKernelEventGroup K.EventGroup

/-! ## The queue -/

/-- mirrors firmware/App/rtos/rtos_port.h:16-21 -/
structure FreertosQueue (K : Nat → Type) (n : Nat) where
  handle : Option (K n)
  itemSize : Nat
  capacity : Nat

section Queue

variable {K : Nat → Type} [KernelQueueApi K] {n : Nat}

variable (K) in
/-- The cast to `UBaseType_t`. -/
def toUBaseType (value : Nat) : Nat := value % 2 ^ uBaseTypeBits K

variable (K) in
/-- mirrors firmware/App/rtos/rtos_port_freertos.c:19-22 -/
def rtosSizeFitsUbaseType (value : Nat) : Bool := decide (toUBaseType K value = value)

/-- mirrors firmware/App/rtos/rtos_port_freertos.c:24-61 -/
def rtosQueueInit (queue : FreertosQueue K n) (itemSize capacity : Nat) : Bool × FreertosQueue K n :=
  if itemSize = 0 ∨ capacity = 0 ∨ !rtosSizeFitsUbaseType K itemSize ∨
      !rtosSizeFitsUbaseType K capacity then (false, queue)
  else
    match xQueueCreateStatic (toUBaseType K capacity) (toUBaseType K itemSize) with
    | none => (false, { handle := none, itemSize := 0, capacity := 0 })
    | some kernel => (true, { handle := some kernel, itemSize := itemSize, capacity := capacity })

/-- The handle of a valid queue.
mirrors firmware/App/rtos/rtos_port_freertos.c:10-17 -/
def rtosQueueIsValid (queue : FreertosQueue K n) : Option (K n) :=
  if queue.itemSize > 0 ∧ queue.capacity > 0 then queue.handle else none

/-- mirrors firmware/App/rtos/rtos_port_freertos.c:81-88 -/
def rtosQueueIsEmpty (queue : FreertosQueue K n) : Bool :=
  match rtosQueueIsValid queue with
  | none => true
  | some kernel => decide (uxQueueMessagesWaiting kernel = 0)

/-- mirrors firmware/App/rtos/rtos_port_freertos.c:90-97 -/
def rtosQueueIsFull (queue : FreertosQueue K n) : Bool :=
  match rtosQueueIsValid queue with
  | none => false
  | some kernel => decide (uxQueueMessagesWaiting kernel ≥ toUBaseType K queue.capacity)

/-- mirrors firmware/App/rtos/rtos_port_freertos.c:99-106 -/
def rtosQueueCount (queue : FreertosQueue K n) : Nat :=
  match rtosQueueIsValid queue with
  | none => 0
  | some kernel => uxQueueMessagesWaiting kernel

/-- mirrors firmware/App/rtos/rtos_port_freertos.c:63-70 -/
def rtosQueueSend (queue : FreertosQueue K n) (item : Text) : Bool × FreertosQueue K n :=
  match rtosQueueIsValid queue with
  | none => (false, queue)
  | some kernel =>
    if rtosQueueIsFull queue then (false, queue)
    else ((xQueueSend kernel item).1, { queue with handle := some (xQueueSend kernel item).2 })

/-- mirrors firmware/App/rtos/rtos_port_freertos.c:72-79 -/
def rtosQueueReceive (queue : FreertosQueue K n) (item : Text) : Bool × FreertosQueue K n × Text :=
  match rtosQueueIsValid queue with
  | none => (false, queue, item)
  | some kernel =>
    if rtosQueueIsEmpty queue then (false, queue, item)
    else ((xQueueReceive kernel item).1, { queue with handle := some (xQueueReceive kernel item).2.1 },
      (xQueueReceive kernel item).2.2)

omit [KernelQueueApi K] in
theorem rtosQueueIsValid_some {queue : FreertosQueue K n} {kernel : K n}
    (h : rtosQueueIsValid queue = some kernel) (kernel' : K n) :
    rtosQueueIsValid { queue with handle := some kernel' } = some kernel' := by
  unfold rtosQueueIsValid at h ⊢
  split at h
  · rename_i hsize
    exact if_pos hsize
  · cases h

theorem rtosQueueReceive_count (queue : FreertosQueue K n) (item : Text)
    (h : (rtosQueueReceive queue item).1 = true) :
    rtosQueueCount (rtosQueueReceive queue item).2.1 < rtosQueueCount queue := by
  cases hk : rtosQueueIsValid queue with
  | none => simp [rtosQueueReceive, hk] at h
  | some kernel =>
    cases hempty : rtosQueueIsEmpty queue with
    | true => simp [rtosQueueReceive, hk, hempty] at h
    | false =>
      simp only [rtosQueueReceive, hk, hempty, Bool.false_eq_true, if_false] at h ⊢
      simp only [rtosQueueCount, hk, rtosQueueIsValid_some hk]
      exact receive_waiting kernel item h

instance : RtosQueueApi (FreertosQueue K) where
  rtosQueueInit := rtosQueueInit
  rtosQueueSend := rtosQueueSend
  rtosQueueReceive := rtosQueueReceive
  rtosQueueCount := rtosQueueCount
  receive_count := rtosQueueReceive_count

variable [LawfulKernelQueue K]

open LawfulKernelQueue

/-- A queue of this size and length whose kernel queue holds `items`. -/
structure FreertosQueue.Holding (queue : FreertosQueue K n) (isz cap : Nat) (items : List Text) : Prop where
  kernel : ∃ kernel, rtosQueueIsValid queue = some kernel ∧ Contains kernel cap isz items
  capacity : queue.capacity = cap
  fits : toUBaseType K cap = cap

variable {queue : FreertosQueue K n} {isz cap : Nat} {items : List Text}

theorem toUBaseType_eq {value : Nat} (h : value < 2 ^ 32) : toUBaseType K value = value :=
  Nat.mod_eq_of_lt (h.trans_le (Nat.pow_le_pow_right (by decide) (ubase_bits (K := K))))

theorem init_holding (queue : FreertosQueue K n) (hi : 0 < isz) (hi' : isz < 2 ^ 32) (hc : 0 < cap)
    (hc' : cap < 2 ^ 32) (hfit : cap * isz ≤ n) : (rtosQueueInit queue isz cap).1 = true ∧
      (rtosQueueInit queue isz cap).2.Holding isz cap [] := by
  have hisz := toUBaseType_eq (K := K) hi'
  have hcap := toUBaseType_eq (K := K) hc'
  have h : ¬ (isz = 0 ∨ cap = 0 ∨ !rtosSizeFitsUbaseType K isz ∨ !rtosSizeFitsUbaseType K cap) := by
    simp only [rtosSizeFitsUbaseType, hisz, hcap, decide_true, Bool.not_true, Bool.false_eq_true,
      or_self, or_false]
    omega
  obtain ⟨kernel, hcreate, hempty⟩ := create (K := K) hc hi hfit
  rw [rtosQueueInit, if_neg h, hisz, hcap, hcreate]
  exact ⟨rfl, ⟨kernel, by simp [rtosQueueIsValid, hi, hc], hempty⟩, rfl, hcap⟩

theorem FreertosQueue.Holding.isFull (h : queue.Holding isz cap items) :
    rtosQueueIsFull queue = decide (cap ≤ items.length) := by
  obtain ⟨⟨kernel, hv, hk⟩, hcap, hfits⟩ := h
  simp only [rtosQueueIsFull, hv, waiting hk, hcap, hfits, ge_iff_le]

theorem FreertosQueue.Holding.isEmpty (h : queue.Holding isz cap items) :
    rtosQueueIsEmpty queue = decide (items.length = 0) := by
  obtain ⟨⟨kernel, hv, hk⟩, -, -⟩ := h
  simp only [rtosQueueIsEmpty, hv, waiting hk]

theorem send_holding (h : queue.Holding isz cap items) {item : Text} (hlen : item.length = isz)
    (hroom : items.length < cap) : (rtosQueueSend queue item).1 = true ∧
      (rtosQueueSend queue item).2.Holding isz cap (items ++ [item]) := by
  have hfull := h.isFull
  rw [decide_eq_false (by omega)] at hfull
  obtain ⟨⟨kernel, hv, hk⟩, hcap, hfits⟩ := h
  obtain ⟨hok, hk'⟩ := LawfulKernelQueue.send item hk hlen hroom
  simp only [rtosQueueSend, hv, hfull, Bool.false_eq_true, if_false]
  exact ⟨hok, ⟨_, rtosQueueIsValid_some hv _, hk'⟩, hcap, hfits⟩

theorem send_full_holding (h : queue.Holding isz cap items) (item : Text) (hlen : items.length = cap) :
    rtosQueueSend queue item = (false, queue) := by
  have hfull := h.isFull
  rw [decide_eq_true hlen.ge] at hfull
  obtain ⟨⟨kernel, hv, -⟩, -, -⟩ := h
  simp only [rtosQueueSend, hv, hfull, if_true]

theorem receive_holding {front : Text} (h : queue.Holding isz cap (front :: items)) (item : Text) :
    (rtosQueueReceive queue item).1 = true ∧ (rtosQueueReceive queue item).2.2 = front ∧
      (rtosQueueReceive queue item).2.1.Holding isz cap items := by
  have hempty := h.isEmpty
  rw [decide_eq_false (by simp)] at hempty
  obtain ⟨⟨kernel, hv, hk⟩, hcap, hfits⟩ := h
  obtain ⟨hok, hfront, hk'⟩ := LawfulKernelQueue.receive item hk
  simp only [rtosQueueReceive, hv, hempty, Bool.false_eq_true, if_false]
  exact ⟨hok, hfront, ⟨_, rtosQueueIsValid_some hv _, hk'⟩, hcap, hfits⟩

theorem receive_empty_holding (h : queue.Holding isz cap []) (item : Text) :
    rtosQueueReceive queue item = (false, queue, item) := by
  have hempty := h.isEmpty
  rw [decide_eq_true (by simp)] at hempty
  obtain ⟨⟨kernel, hv, -⟩, -, -⟩ := h
  simp only [rtosQueueReceive, hv, hempty, if_true]

instance : LawfulRtosQueue (FreertosQueue K) where
  Holds := FreertosQueue.Holding
  bounded h := by
    obtain ⟨kernel, -, hk⟩ := h.kernel
    exact LawfulKernelQueue.room hk
  init queue _ _ hi hi' hc hc' hfit := init_holding queue hi hi' hc hc' hfit
  send _ h hlen hroom := send_holding h hlen hroom
  send_full item h hlen := send_full_holding h item hlen
  receive item h := receive_holding h item
  receive_empty item h := receive_empty_holding h item
  count h := by
    obtain ⟨kernel, hv, hk⟩ := h.kernel
    exact (by simp only [rtosQueueCount, hv] : rtosQueueCount _ = _).trans (waiting hk)

end Queue

/-! ## The mutex -/

/-- mirrors firmware/App/rtos/rtos_port.h:23-26 -/
structure FreertosMutex (S : Type) where
  handle : Option S

section Mutex

variable {S : Type} [KernelMutexApi S]

/-- mirrors firmware/App/rtos/rtos_port_freertos.c:113-124 -/
def rtosMutexInit (_mutex : FreertosMutex S) : Bool × FreertosMutex S :=
  let handle := xSemaphoreCreateMutexStatic
  (handle.isSome, ⟨handle⟩)

/-- mirrors firmware/App/rtos/rtos_port_freertos.c:108-133 -/
def rtosMutexLock (mutex : FreertosMutex S) : Bool × FreertosMutex S :=
  match mutex.handle with
  | none => (false, mutex)
  | some kernel => ((xSemaphoreTake kernel).1, ⟨some (xSemaphoreTake kernel).2⟩)

/-- mirrors firmware/App/rtos/rtos_port_freertos.c:135-142 -/
def rtosMutexUnlock (mutex : FreertosMutex S) : Bool × FreertosMutex S :=
  match mutex.handle with
  | none => (false, mutex)
  | some kernel => ((xSemaphoreGive kernel).1, ⟨some (xSemaphoreGive kernel).2⟩)

instance : RtosMutexApi (FreertosMutex S) := ⟨rtosMutexInit, rtosMutexLock, rtosMutexUnlock⟩

open LawfulKernelMutex

instance [LawfulKernelMutex S] : LawfulRtosMutex (FreertosMutex S) where
  Held mutex held := ∃ kernel, mutex = ⟨some kernel⟩ ∧ Taken kernel held
  mutex_init _ := by
    obtain ⟨kernel, hcreate, hfree⟩ := create_mutex (S := S)
    exact ⟨congrArg Option.isSome hcreate, kernel, congrArg FreertosMutex.mk hcreate, hfree⟩
  lock h := by
    obtain ⟨kernel, rfl, hfree⟩ := h
    exact ⟨(take hfree).1, _, rfl, (take hfree).2⟩
  lock_held h := by
    obtain ⟨kernel, rfl, htaken⟩ := h
    show ((xSemaphoreTake kernel).1, (⟨some (xSemaphoreTake kernel).2⟩ : FreertosMutex S)) = _
    rw [take_taken htaken]
  unlock h := by
    obtain ⟨kernel, rfl, htaken⟩ := h
    exact ⟨(give htaken).1, _, rfl, (give htaken).2⟩

end Mutex

/-! ## The event group -/

/-- mirrors firmware/App/rtos/rtos_port.h:28-31 -/
structure FreertosEventGroup (E : Type) where
  handle : Option E

section EventGroup

variable {E : Type} [KernelEventGroupApi E]

/-- mirrors firmware/App/rtos/rtos_port_freertos.c:149-165 -/
def rtosEventGroupInit (_eventGroup : FreertosEventGroup E) : Bool × FreertosEventGroup E :=
  let handle := xEventGroupCreateStatic
  if handle.isNone then (false, ⟨handle⟩) else (true, ⟨handle⟩)

/-- mirrors firmware/App/rtos/rtos_port_freertos.c:144-147, 167-177 -/
def rtosEventGroupSetBits (eventGroup : FreertosEventGroup E) (bits : UInt32) :
    UInt32 × FreertosEventGroup E :=
  match eventGroup.handle with
  | none => (0, eventGroup)
  | some kernel => ((xEventGroupSetBits kernel bits).1, ⟨some (xEventGroupSetBits kernel bits).2⟩)

/-- mirrors firmware/App/rtos/rtos_port_freertos.c:144-147, 179-190 -/
def rtosEventGroupClearBits (eventGroup : FreertosEventGroup E) (bits : UInt32) :
    UInt32 × FreertosEventGroup E :=
  match eventGroup.handle with
  | none => (0, eventGroup)
  | some kernel =>
    let kernel := (xEventGroupClearBits kernel bits).2
    (xEventGroupGetBits kernel, ⟨some kernel⟩)

/-- mirrors firmware/App/rtos/rtos_port_freertos.c:144-147, 192-201 -/
def rtosEventGroupGetBits (eventGroup : FreertosEventGroup E) : UInt32 :=
  match eventGroup.handle with
  | none => 0
  | some kernel => xEventGroupGetBits kernel

instance : RtosEventGroupApi (FreertosEventGroup E) :=
  ⟨rtosEventGroupInit, rtosEventGroupSetBits, rtosEventGroupClearBits, rtosEventGroupGetBits⟩

open LawfulKernelEventGroup

instance [LawfulKernelEventGroup E] : LawfulRtosEventGroup (FreertosEventGroup E) where
  Shows eventGroup bits := ∃ kernel, eventGroup = ⟨some kernel⟩ ∧ Set kernel bits
  group_init _ := by
    obtain ⟨kernel, hcreate, hclear⟩ := create_group (E := E)
    have hinit (eventGroup : FreertosEventGroup E) :
        rtosEventGroupInit eventGroup = (true, ⟨some kernel⟩) := by
      simp [rtosEventGroupInit, hcreate]
    exact ⟨congrArg Prod.fst (hinit _), kernel, congrArg Prod.snd (hinit _), hclear⟩
  set_bits bits h hbits := by
    obtain ⟨kernel, rfl, hk⟩ := h
    exact ⟨_, rfl, LawfulKernelEventGroup.set bits hk hbits⟩
  clear_bits bits h hbits := by
    obtain ⟨kernel, rfl, hk⟩ := h
    exact ⟨_, rfl, LawfulKernelEventGroup.clear bits hk hbits⟩
  get_bits h := by
    obtain ⟨kernel, rfl, hk⟩ := h
    exact LawfulKernelEventGroup.get hk

end EventGroup

/-! ## The backend -/

def freertosBackend (K : KernelObjects) : RtosBackend :=
  ⟨FreertosQueue K.Queue, FreertosMutex K.Semaphore, FreertosEventGroup K.EventGroup⟩

instance (K : KernelObjects) [KernelApi K] : RtosApi (freertosBackend K) where
  toRtosQueueApi := inferInstanceAs (RtosQueueApi (FreertosQueue K.Queue))
  toRtosMutexApi := inferInstanceAs (RtosMutexApi (FreertosMutex K.Semaphore))
  toRtosEventGroupApi := inferInstanceAs (RtosEventGroupApi (FreertosEventGroup K.EventGroup))

instance (K : KernelObjects) [KernelApi K] [LawfulKernel K] : LawfulRtos (freertosBackend K) where
  toLawfulRtosQueue := inferInstanceAs (LawfulRtosQueue (FreertosQueue K.Queue))
  toLawfulRtosMutex := inferInstanceAs (LawfulRtosMutex (FreertosMutex K.Semaphore))
  toLawfulRtosEventGroup := inferInstanceAs (LawfulRtosEventGroup (FreertosEventGroup K.EventGroup))

/-! ## A simple kernel -/

/-- A list of at most `uxLength` items. -/
structure ListQueue (n : Nat) where
  uxLength : Nat
  waiting : List Text

instance : KernelQueueApi ListQueue where
  uBaseTypeBits := 32
  xQueueCreateStatic uxQueueLength _ := some ⟨uxQueueLength, []⟩
  xQueueSend queue item :=
    if queue.waiting.length < queue.uxLength then
      (true, { queue with waiting := queue.waiting ++ [item] })
    else (false, queue)
  xQueueReceive queue item :=
    match queue.waiting with
    | [] => (false, queue, item)
    | front :: rest => (true, { queue with waiting := rest }, front)
  uxQueueMessagesWaiting queue := queue.waiting.length
  receive_waiting queue item h := by
    cases hw : queue.waiting with
    | nil => simp [hw] at h
    | cons front rest => simp

instance : LawfulKernelQueue ListQueue where
  Contains queue length _ items := queue = ⟨length, items⟩ ∧ items.length ≤ length
  ubase_bits := Nat.le_refl 32
  create _ _ _ := ⟨_, rfl, rfl, Nat.zero_le _⟩
  room h := h.2
  send item h _ hroom := by
    obtain ⟨rfl, -⟩ := h
    simp only [xQueueSend, hroom, if_true, true_and, List.length_append, List.length_singleton]
    omega
  receive item h := by
    obtain ⟨rfl, hle⟩ := h
    rw [List.length_cons] at hle
    exact ⟨rfl, rfl, rfl, by omega⟩
  waiting h := by rw [h.1]; rfl

structure FlagSemaphore where
  available : Bool

instance : KernelMutexApi FlagSemaphore where
  xSemaphoreCreateMutexStatic := some ⟨true⟩
  xSemaphoreTake mutex := if mutex.available then (true, ⟨false⟩) else (false, mutex)
  xSemaphoreGive mutex := if mutex.available then (false, mutex) else (true, ⟨true⟩)

instance : LawfulKernelMutex FlagSemaphore where
  Taken mutex taken := mutex = ⟨!taken⟩
  create_mutex := ⟨_, rfl, rfl⟩
  take h := by rw [h]; exact ⟨rfl, rfl⟩
  take_taken h := by rw [h]; rfl
  give h := by rw [h]; exact ⟨rfl, rfl⟩

structure WordGroup where
  eventBits : UInt32

/-- The bits the clearing returns are those from before. -/
instance : KernelEventGroupApi WordGroup where
  xEventGroupCreateStatic := some ⟨0⟩
  xEventGroupSetBits group bits := (group.eventBits ||| bits, ⟨group.eventBits ||| bits⟩)
  xEventGroupClearBits group bits := (group.eventBits, ⟨group.eventBits &&& ~~~bits⟩)
  xEventGroupGetBits group := group.eventBits

instance : LawfulKernelEventGroup WordGroup where
  Set group now := group = ⟨now⟩
  create_group := ⟨_, rfl, rfl⟩
  set _ h _ := by rw [h]; rfl
  clear _ h _ := by rw [h]; rfl
  get h := by rw [h]; rfl

def simpleKernel : KernelObjects := ⟨ListQueue, FlagSemaphore, WordGroup⟩

instance : KernelApi simpleKernel where
  toKernelQueueApi := inferInstanceAs (KernelQueueApi ListQueue)
  toKernelMutexApi := inferInstanceAs (KernelMutexApi FlagSemaphore)
  toKernelEventGroupApi := inferInstanceAs (KernelEventGroupApi WordGroup)

instance : LawfulKernel simpleKernel where
  toLawfulKernelQueue := inferInstanceAs (LawfulKernelQueue ListQueue)
  toLawfulKernelMutex := inferInstanceAs (LawfulKernelMutex FlagSemaphore)
  toLawfulKernelEventGroup := inferInstanceAs (LawfulKernelEventGroup WordGroup)

/-- The target over the simple kernel. -/
abbrev targetBackend : RtosBackend := freertosBackend simpleKernel

end MotionFirmware.L2.FreertosPort
