import Mathlib.Data.List.TakeWhile
import MotionFirmware.Core.Words

/-!
# Lines on a byte stream

`frame d lines` is each line with the delimiter behind it; `completeLines` is
what a reader has of a stream so far, the text behind the last delimiter left
out. Of lines that do not contain the delimiter, a reader that has a part of the
stream, cut anywhere, has the first ones (`completeLines_prefix`).
-/
namespace MotionFirmware.Core

variable {α : Type} {d : α} {line bytes : List α} {lines : List (List α)}

def frame (d : α) (lines : List (List α)) : List α := lines.flatMap (· ++ [d])

@[simp] theorem frame_cons : frame d (line :: lines) = line ++ d :: frame d lines := by
  simp [frame]

variable [DecidableEq α]

/-- The texts that a delimiter follows. -/
def completeLines (d : α) (bytes : List α) : List (List α) :=
  (bytes.splitOnP (· == d)).dropLast

theorem completeLines_none (h : d ∉ bytes) : completeLines d bytes = [] := by
  rw [completeLines, List.splitOnP_eq_singleton]
  · rfl
  · intro c hc
    exact beq_false_of_ne fun e => h (e ▸ hc)

theorem completeLines_append (h : d ∉ line) :
    completeLines d (line ++ d :: bytes) = line :: completeLines d bytes := by
  have hline : ∀ c ∈ line, (c == d) = false := fun c hc => beq_false_of_ne fun e => h (e ▸ hc)
  rw [completeLines, List.splitOnP_append_cons_of_forall_mem hline d (beq_self_eq_true d),
    List.dropLast_cons_of_ne_nil (List.splitOnP_ne_nil _ _)]
  rfl

/-- From a part of the stream come the first lines. -/
theorem completeLines_prefix (h : ∀ line ∈ lines, d ∉ line) (hb : bytes <+: frame d lines) :
    completeLines d bytes <+: lines := by
  induction lines generalizing bytes with
  | nil =>
    rw [List.prefix_nil.mp hb]
    exact List.prefix_rfl
  | cons line lines ih =>
    have hline := h line (by simp)
    rw [frame_cons] at hb
    by_cases hshort : bytes.length ≤ line.length
    · -- the cut is inside the first line
      have hpart : bytes <+: line :=
        List.prefix_of_prefix_length_le hb (List.prefix_append _ _) hshort
      rw [completeLines_none fun hd => hline (hpart.subset hd)]
      exact List.nil_prefix
    · obtain ⟨rest, rfl⟩ : line ++ [d] <+: bytes := by
        have hwhole : line ++ [d] <+: line ++ d :: frame d lines := ⟨frame d lines, by simp⟩
        have hfits : (line ++ [d]).length ≤ bytes.length := by
          simp only [List.length_append, List.length_singleton]
          omega
        exact List.prefix_of_prefix_length_le hwhole hb hfits
      rw [List.append_assoc, List.singleton_append] at hb ⊢
      rw [completeLines_append hline, List.prefix_cons_inj]
      have hrest : rest <+: frame d lines := by
        have := (List.prefix_append_right_inj line).mp hb
        exact (List.prefix_cons_inj d).mp this
      exact ih (fun line' h' => h line' (List.mem_cons_of_mem _ h')) hrest

end MotionFirmware.Core
