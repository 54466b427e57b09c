import MotionFirmware.Core.LTS

/-!
# Sequential machines behind queues

A `Mealy` machine takes inputs one after the other and answers each. `buffered`
is such a machine behind a queue: inputs are accepted at any time and served
later, in order. So what it has answered is what the machine alone would have
answered to those served, the first of the inputs (`buffered_run`). A system
that refines `buffered` inherits that, whatever else it does (`refines_buffered`).
-/
namespace MotionFirmware.Core

structure Mealy (S I O : Type) where
  next : S → I → S
  out : S → I → O

namespace Mealy

variable {S I O : Type} (m : Mealy S I O)

def after (s : S) (is : List I) : S := is.foldl m.next s

def outputs : S → List I → List O
  | _, [] => []
  | s, i :: is => m.out s i :: outputs (m.next s i) is

@[simp] theorem after_append (s : S) (is js : List I) :
    m.after s (is ++ js) = m.after (m.after s is) js := List.foldl_append

@[simp] theorem outputs_append (s : S) (is js : List I) :
    m.outputs s (is ++ js) = m.outputs s is ++ m.outputs (m.after s is) js := by
  induction is generalizing s with
  | nil => rfl
  | cons i is ih => exact congrArg (m.out s i :: ·) (ih (m.next s i))

theorem outputs_prefix {is js : List I} (h : is <+: js) (s : S) : m.outputs s is <+: m.outputs s js := by
  obtain ⟨ks, rfl⟩ := h
  rw [outputs_append]
  exact List.prefix_append _ _

end Mealy

/-! ## Behind a queue -/

structure Buffered (S I O : Type) where
  pending : List I
  state : S
  answered : List O

inductive BufferedLabel (I : Type) where
  | accept (i : I)
  | serve (i : I)

namespace BufferedLabel

variable {I : Type}

def accepted? : BufferedLabel I → Option I
  | accept i => some i
  | serve _ => none

def served? : BufferedLabel I → Option I
  | accept _ => none
  | serve i => some i

end BufferedLabel

variable {S I O : Type}

/-- Accept an input, or serve the oldest one. -/
inductive BufferedStep (m : Mealy S I O) : Buffered S I O → BufferedLabel I → Buffered S I O → Prop
  | accept (b : Buffered S I O) (i : I) :
      BufferedStep m b (.accept i) { b with pending := b.pending ++ [i] }
  | serve (b : Buffered S I O) (i : I) (rest : List I) : b.pending = i :: rest →
      BufferedStep m b (.serve i) ⟨rest, m.next b.state i, b.answered ++ [m.out b.state i]⟩

def buffered (m : Mealy S I O) (s : S) : LTS (Buffered S I O) (BufferedLabel I) where
  init b := b = ⟨[], s, []⟩
  step := BufferedStep m

/-- The inputs are served in the order in which they were accepted, as if one
after the other. -/
theorem buffered_run {m : Mealy S I O} {s : S} {b₀ b : Buffered S I O} {ls : List (BufferedLabel I)}
    (h0 : (buffered m s).init b₀) (hrun : (buffered m s).Run b₀ ls b) :
    ls.filterMap BufferedLabel.served? ++ b.pending = ls.filterMap BufferedLabel.accepted? ∧
      b.state = m.after s (ls.filterMap BufferedLabel.served?) ∧
      b.answered = m.outputs s (ls.filterMap BufferedLabel.served?) := by
  have h0 : b₀ = ⟨[], s, []⟩ := h0
  induction hrun with
  | nil => rw [h0]; exact ⟨rfl, rfl, rfl⟩
  | snoc _ hst ih =>
    obtain ⟨h1, h2, h3⟩ := ih
    rw [LTS.filterMap_snoc, LTS.filterMap_snoc]
    cases hst with
    | accept i =>
      refine ⟨?_, by simpa [BufferedLabel.served?] using h2, by simpa [BufferedLabel.served?] using h3⟩
      simp [BufferedLabel.served?, BufferedLabel.accepted?, ← h1]
    | serve i rest hq =>
      refine ⟨?_, ?_, ?_⟩
      · simp [BufferedLabel.served?, BufferedLabel.accepted?, ← h1, hq]
      · show m.next _ i = m.after s (_ ++ [i])
        rw [Mealy.after_append, ← h2]
        rfl
      · show _ ++ [m.out _ i] = m.outputs s (_ ++ [i])
        rw [Mealy.outputs_append, ← h2, ← h3]
        rfl

/-- And so for a system whose visible steps are steps of `buffered`. -/
theorem refines_buffered {T L : Type} {M : LTS T L} {m : Mealy S I O} {s : S}
    {f : L → Option (BufferedLabel I)} {R : T → Buffered S I O → Prop}
    (h : M.Stuttering (buffered m s) f R) {t₀ t : T} {ls : List L} (h0 : M.init t₀)
    (hrun : M.Run t₀ ls t) : ∃ b served, R t b ∧
      served ++ b.pending = (ls.filterMap f).filterMap BufferedLabel.accepted? ∧
      b.answered = m.outputs s served := by
  obtain ⟨b₀, hb₀, hR⟩ := h.init t₀ h0
  obtain ⟨b, hb, hR'⟩ := h.run hR hrun
  obtain ⟨h1, -, h3⟩ := buffered_run hb₀ hb
  exact ⟨b, _, hR', h1, h3⟩

end MotionFirmware.Core
