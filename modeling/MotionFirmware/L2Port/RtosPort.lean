import MotionFirmware.Core.Libc

/-!
# The RTOS contract (`rtos/rtos_port.h`)

The application is written against queues, mutexes and event groups, with two
backends behind them. `RtosBackend` names the three kinds of objects, and
`RtosApi` the calls on them; a queue comes together with its `n` bytes of
caller-owned storage. Handles and pointers are never null here.

`LawfulRtos` is what the application relies on, each call being atomic:

* a queue is a bounded FIFO of fixed-size items;
* a mutex is taken without waiting, and a take of a held one fails without
  effect;
* an event group has 24 bits for its callers.

All that is proved about the tasks holds for every lawful backend. The host's
(`HostPort`) and the target's (`FreertosPort`) are lawful.
-/
namespace MotionFirmware.L2.Port

open MotionFirmware.Core

/-! ## Queues -/

/-- mirrors firmware/App/rtos/rtos_port.h:53-58 -/
class RtosQueueApi (Q : Nat → Type) where
  rtosQueueInit : {n : Nat} → Q n → (itemSize capacity : Nat) → Bool × Q n
  rtosQueueSend : {n : Nat} → Q n → (item : Text) → Bool × Q n
  /-- The flag, the queue and the caller's item buffer. -/
  rtosQueueReceive : {n : Nat} → Q n → (item : Text) → Bool × Q n × Text
  rtosQueueCount : {n : Nat} → Q n → Nat
  receive_count : ∀ {n : Nat} (q : Q n) (item : Text), (rtosQueueReceive q item).1 = true →
    rtosQueueCount (rtosQueueReceive q item).2.1 < rtosQueueCount q

open RtosQueueApi

/-- `Holds q itemSize capacity items`: `q` is an initialised queue that holds
`items`, oldest first. -/
class LawfulRtosQueue (Q : Nat → Type) [RtosQueueApi Q] where
  Holds : {n : Nat} → Q n → (itemSize capacity : Nat) → List Text → Prop
  bounded : ∀ {n : Nat} {q : Q n} {isz cap : Nat} {items : List Text},
    Holds q isz cap items → items.length ≤ cap
  init : ∀ {n : Nat} (q : Q n) (isz cap : Nat), 0 < isz → isz < 2 ^ 32 → 0 < cap → cap < 2 ^ 32 →
    cap * isz ≤ n → (rtosQueueInit q isz cap).1 = true ∧ Holds (rtosQueueInit q isz cap).2 isz cap []
  send : ∀ {n : Nat} {q : Q n} {isz cap : Nat} {items : List Text} (item : Text),
    Holds q isz cap items → item.length = isz → items.length < cap →
    (rtosQueueSend q item).1 = true ∧ Holds (rtosQueueSend q item).2 isz cap (items ++ [item])
  send_full : ∀ {n : Nat} {q : Q n} {isz cap : Nat} {items : List Text} (item : Text),
    Holds q isz cap items → items.length = cap → rtosQueueSend q item = (false, q)
  receive : ∀ {n : Nat} {q : Q n} {isz cap : Nat} {front : Text} {items : List Text} (item : Text),
    Holds q isz cap (front :: items) → (rtosQueueReceive q item).1 = true ∧
      (rtosQueueReceive q item).2.2 = front ∧ Holds (rtosQueueReceive q item).2.1 isz cap items
  receive_empty : ∀ {n : Nat} {q : Q n} {isz cap : Nat} (item : Text),
    Holds q isz cap [] → rtosQueueReceive q item = (false, q, item)
  count : ∀ {n : Nat} {q : Q n} {isz cap : Nat} {items : List Text},
    Holds q isz cap items → rtosQueueCount q = items.length

/-! ## Mutexes -/

/-- mirrors firmware/App/rtos/rtos_port.h:63-65 -/
class RtosMutexApi (M : Type) where
  rtosMutexInit : M → Bool × M
  rtosMutexLock : M → Bool × M
  rtosMutexUnlock : M → Bool × M

open RtosMutexApi

/-- `Held mutex held`: `mutex` is initialised, and held or free. -/
class LawfulRtosMutex (M : Type) [RtosMutexApi M] where
  Held : M → Bool → Prop
  mutex_init : ∀ mutex : M, (rtosMutexInit mutex).1 = true ∧ Held (rtosMutexInit mutex).2 false
  lock : ∀ {mutex : M}, Held mutex false →
    (rtosMutexLock mutex).1 = true ∧ Held (rtosMutexLock mutex).2 true
  lock_held : ∀ {mutex : M}, Held mutex true → rtosMutexLock mutex = (false, mutex)
  unlock : ∀ {mutex : M}, Held mutex true →
    (rtosMutexUnlock mutex).1 = true ∧ Held (rtosMutexUnlock mutex).2 false

/-! ## Event groups -/

/-- Setting and clearing also return bits.
mirrors firmware/App/rtos/rtos_port.h:70-73 -/
class RtosEventGroupApi (E : Type) where
  rtosEventGroupInit : E → Bool × E
  rtosEventGroupSetBits : E → (bits : UInt32) → UInt32 × E
  rtosEventGroupClearBits : E → (bits : UInt32) → UInt32 × E
  rtosEventGroupGetBits : E → UInt32

open RtosEventGroupApi

/-- `Shows eventGroup bits`: `eventGroup` is initialised, and `bits` are set. -/
class LawfulRtosEventGroup (E : Type) [RtosEventGroupApi E] where
  Shows : E → UInt32 → Prop
  group_init : ∀ eventGroup : E,
    (rtosEventGroupInit eventGroup).1 = true ∧ Shows (rtosEventGroupInit eventGroup).2 0
  set_bits : ∀ {eventGroup : E} {set : UInt32} (bits : UInt32), Shows eventGroup set → bits.toNat < 2 ^ 24 →
    Shows (rtosEventGroupSetBits eventGroup bits).2 (set ||| bits)
  clear_bits : ∀ {eventGroup : E} {set : UInt32} (bits : UInt32), Shows eventGroup set →
    bits.toNat < 2 ^ 24 → Shows (rtosEventGroupClearBits eventGroup bits).2 (set &&& ~~~bits)
  get_bits : ∀ {eventGroup : E} {set : UInt32}, Shows eventGroup set →
    rtosEventGroupGetBits eventGroup = set

/-! ## Backends -/

/-- The objects of a backend. -/
structure RtosBackend where
  Queue : Nat → Type
  Mutex : Type
  EventGroup : Type

class RtosApi (B : RtosBackend) extends
  RtosQueueApi B.Queue, RtosMutexApi B.Mutex, RtosEventGroupApi B.EventGroup

class LawfulRtos (B : RtosBackend) [RtosApi B] extends
  LawfulRtosQueue B.Queue, LawfulRtosMutex B.Mutex, LawfulRtosEventGroup B.EventGroup

end MotionFirmware.L2.Port
