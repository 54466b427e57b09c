import MotionFirmware.Core.LTS

/-!
# Bounded FIFO queues

What a queue of bounded capacity is: a list, to whose end a send adds unless
the list is full, and whose front a receive takes unless it is empty. A receive
is given the buffer of its caller, so that a failed one can be seen to leave
the buffer alone.

* `fifo_bounded`: no run exceeds the capacity.
* `fifo_conserves`: what was sent is what was received followed by what
  is still queued, in this order.
-/
namespace MotionFirmware.Core

/-- A call of a queue; `item` is the object the caller's pointer aims at. -/
inductive FifoCall (α : Type) where
  | send (item : α)
  | receive (item : α)
  deriving DecidableEq, Repr

def FifoCall.item {α : Type} : FifoCall α → α
  | .send item => item
  | .receive item => item

/-- A call made: whether it succeeded, and the caller's object after it. -/
structure FifoEvent (α : Type) where
  call : FifoCall α
  ok : Bool
  item : α
  deriving DecidableEq, Repr

variable {α : Type}

def fifoStep (cap : Nat) (q : List α) : FifoCall α → FifoEvent α × List α
  | .send item =>
    if q.length < cap then (⟨.send item, true, item⟩, q ++ [item]) else (⟨.send item, false, item⟩, q)
  | .receive item =>
    match q with
    | [] => (⟨.receive item, false, item⟩, [])
    | front :: rest => (⟨.receive item, true, front⟩, rest)

/-- The queue of capacity `cap`, empty at first. -/
def fifoSystem (α : Type) (cap : Nat) : LTS (List α) (FifoEvent α) :=
  LTS.ofStep (fun q => q = []) FifoEvent.call (fifoStep cap)

theorem fifo_bounded (cap : Nat) : (fifoSystem α cap).Inductive fun q => q.length ≤ cap := by
  refine LTS.inductive_ofStep ?_ ?_
  · intro q hq
    rw [hq]; exact Nat.zero_le _
  · intro q call hq
    cases call with
    | send item =>
      simp only [fifoStep]
      split
      · rw [List.length_append, List.length_singleton]; omega
      · exact hq
    | receive item =>
      cases q with
      | nil => exact hq
      | cons front rest =>
        rw [List.length_cons] at hq
        show rest.length ≤ cap
        omega

/-- The item a successful send handed over. -/
def FifoEvent.sent (e : FifoEvent α) : Option α :=
  match e.call with
  | .send item => if e.ok then some item else none
  | .receive _ => none

/-- The item a successful receive returned. -/
def FifoEvent.received (e : FifoEvent α) : Option α :=
  match e.call with
  | .send _ => none
  | .receive _ => if e.ok then some e.item else none

/-- One call: what it sends joins the back, what it receives leaves the front. -/
theorem fifoStep_conserves (cap : Nat) (q : List α) (call : FifoCall α) :
    q ++ (fifoStep cap q call).1.sent.toList =
      (fifoStep cap q call).1.received.toList ++ (fifoStep cap q call).2 := by
  cases call with
  | send item =>
    simp only [fifoStep]
    split
    · rfl
    · simp [FifoEvent.sent, FifoEvent.received]
  | receive item =>
    cases q with
    | nil => rfl
    | cons front rest => simp [fifoStep, FifoEvent.sent, FifoEvent.received]

/-- Items come out in the order they went in, none lost and none twice. -/
theorem fifo_conserves {cap : Nat} {ls : List (FifoEvent α)} {q : List α}
    (hrun : (fifoSystem α cap).Run [] ls q) :
    ls.filterMap FifoEvent.sent = ls.filterMap FifoEvent.received ++ q := by
  refine (fifo_bounded cap).history (P := fun ls q =>
    ls.filterMap FifoEvent.sent = ls.filterMap FifoEvent.received ++ q) (Nat.zero_le _) rfl ?_ hrun
  intro ls q l q' _ hq hst
  obtain ⟨call, -, rfl, rfl⟩ := LTS.ofStep_step hst
  have hone := fifoStep_conserves cap q call
  rw [LTS.filterMap_snoc, LTS.filterMap_snoc, hq, List.append_assoc, hone, List.append_assoc]

end MotionFirmware.Core
