import Mathlib.Data.List.TakeWhile

/-!
# Words of a delimited list

`words p s` are the maximal runs of non-delimiters of `s`, in order.
`nextWord` is the incremental scanner (C's `strtok`): it skips leading
delimiters, returns the next run and the text after the delimiter that ended
it. Iterating the scanner yields `words` (`words_eq`); splitting undoes joining
(`words_flatMap`).
-/
namespace MotionFirmware.Core

variable {α : Type}

def words (isDelim : α → Bool) (s : List α) : List (List α) :=
  (s.splitOnP isDelim).filter fun w => !w.isEmpty

def nextWord (isDelim : α → Bool) (s : List α) : Option (List α × List α) :=
  match s.dropWhile isDelim with
  | [] => none
  | c :: t => some ((c :: t).takeWhile fun x => !isDelim x,
      ((c :: t).dropWhile fun x => !isDelim x).tail)

variable {p : α → Bool}

@[simp] theorem words_nil : words p [] = [] := by simp [words]

theorem words_delim {d : α} {s : List α} (h : p d = true) : words p (d :: s) = words p s := by
  simp [words, List.splitOnP_cons_eq_if_modifyHead, h]

theorem words_single {w : List α} (hw : w ≠ []) (h : ∀ c ∈ w, p c = false) : words p w = [w] := by
  simp [words, List.splitOnP_eq_singleton h, hw]

/-- A word ended by a delimiter is the first word. -/
theorem words_append_delim {w s : List α} {d : α} (hw : w ≠ []) (h : ∀ c ∈ w, p c = false)
    (hd : p d = true) : words p (w ++ d :: s) = w :: words p s := by
  simp [words, List.splitOnP_append_cons_of_forall_mem h d hd, hw]

/-- Words joined by delimiters are the words. -/
theorem words_flatMap {d : α} (hd : p d = true) {ws : List (List α)}
    (h : ∀ w ∈ ws, w ≠ [] ∧ ∀ c ∈ w, p c = false) : words p (ws.flatMap (d :: ·)) = ws := by
  induction ws with
  | nil => exact words_nil
  | cons w ws ih =>
    obtain ⟨hw, hc⟩ := h w (by simp)
    have ih := ih fun w' hw' => h w' (List.mem_cons_of_mem _ hw')
    rw [List.flatMap_cons, List.cons_append, words_delim hd]
    cases ws with
    | nil => rw [List.flatMap_nil, List.append_nil, words_single hw hc]
    | cons w' ws =>
      rw [List.flatMap_cons, List.cons_append] at ih ⊢
      rw [words_append_delim hw hc hd, ← words_delim hd, ih]

theorem words_dropWhile (s : List α) : words p (s.dropWhile p) = words p s := by
  induction s with
  | nil => rfl
  | cons c s ih =>
    rw [List.dropWhile_cons]
    split
    · rename_i h; rw [ih, words_delim h]
    · rfl

theorem dropWhile_head {s t : List α} {c : α} (h : s.dropWhile p = c :: t) : p c = false := by
  induction s with
  | nil => simp at h
  | cons a s ih =>
    rw [List.dropWhile_cons] at h
    split at h
    · exact ih h
    · rename_i ha; simp only [List.cons.injEq] at h; rw [← h.1]; simpa using ha

/-- The scanner yields the words one by one. -/
theorem words_eq (s : List α) : words p s =
    match nextWord p s with
    | none => []
    | some (w, rest) => w :: words p rest := by
  rw [← words_dropWhile s]
  unfold nextWord
  cases hs : s.dropWhile p with
  | nil => simp
  | cons c t =>
    have hc := dropWhile_head hs
    have hne : (c :: t).takeWhile (fun x => !p x) ≠ [] := by simp [hc]
    have hall : ∀ x ∈ (c :: t).takeWhile (fun x => !p x), p x = false := by
      intro x hx; simpa using List.mem_takeWhile_imp hx
    simp only
    generalize hw : (c :: t).takeWhile (fun x => !p x) = w at hne hall
    have hsplit := List.takeWhile_append_dropWhile (p := fun x => !p x) (l := c :: t)
    rw [hw] at hsplit
    cases hr : (c :: t).dropWhile (fun x => !p x) with
    | nil =>
      rw [hr, List.append_nil] at hsplit
      rw [← hsplit, words_single hne hall]; simp
    | cons d u =>
      have hd : p d = true := by simpa using dropWhile_head hr
      rw [hr] at hsplit
      rw [← hsplit, words_append_delim hne hall hd, List.tail_cons]

theorem words_eq_nil_iff {s : List α} : words p s = [] ↔ nextWord p s = none := by
  rw [words_eq]
  cases nextWord p s <;> simp

theorem words_eq_cons_of_some {s w rest : List α} (h : nextWord p s = some (w, rest)) :
    words p s = w :: words p rest := by rw [words_eq, h]

theorem nextWord_isNone_iff (s : List α) : nextWord p s = none ↔ ∀ c ∈ s, p c = true := by
  unfold nextWord
  split
  · rename_i h; simpa using h
  · rename_i c t h
    simp only [reduceCtorEq, false_iff]
    intro hall
    rw [List.dropWhile_eq_nil_iff.mpr hall] at h; cases h

/-- The scanner consumes at least the word it returns. -/
theorem nextWord_length {s w rest : List α} (h : nextWord p s = some (w, rest)) :
    rest.length < s.length := by
  unfold nextWord at h
  split at h
  · cases h
  · rename_i c t hs
    have hc := dropWhile_head hs
    have h1 := List.length_dropWhile_le p s
    simp only [Option.some.injEq, Prod.mk.injEq] at h
    obtain ⟨-, rfl⟩ := h
    have h2 := List.length_dropWhile_le (fun x => !p x) t
    rw [hs, List.length_cons] at h1
    simp only [List.dropWhile_cons, hc, Bool.not_false, if_true, List.length_tail]
    omega

end MotionFirmware.Core
