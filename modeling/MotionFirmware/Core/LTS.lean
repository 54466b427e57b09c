import Mathlib.Data.List.Forall2

/-!
# Labelled transition systems

`LTS S L` is a set of initial states and a labelled step relation. A run
carries the list of its labels, oldest first; it grows at its end, so a
history property (a relation between the labels so far and the state) is
proved by the same induction as a state invariant.

* `Inductive.reachable`, `Inductive.run`: an inductive invariant holds in
  every reachable state, and along every run that starts in it.
* `Inductive.history`, `Inductive.history_where`, `Inductive.keeps`: an
  invariant relating the trace to the state, in all runs or in those whose
  labels meet a condition. Over `inductive_reachable` its steps may use all
  that is known of reachable states.
* `Simulation.run`, `Simulation.reachable`: runs of a system that a second one
  simulates are runs of the second, with the same labels.
* `Stuttering.run`, `Stuttering.reachable`: the same for a system whose steps
  the second one does not always see.
* `restrict`: the runs whose steps all meet a condition.
* `ofStep`: a deterministic system; `inductive_ofStep` is the invariant rule
  for it, `run_exec`, `run_exec_restrict` give the run its interpreter computes,
  `exec_related` compares the runs of two, `exec_filter` leaves idle actions out.
-/
namespace MotionFirmware.Core

structure LTS (S L : Type) where
  init : S → Prop
  step : S → L → S → Prop

namespace LTS

variable {S L A : Type} {M : LTS S L}

/-- `M.Run s ls s'`: from `s`, the labels `ls` in order lead to `s'`. -/
inductive Run (M : LTS S L) (s : S) : List L → S → Prop
  | nil : Run M s [] s
  | snoc {ls : List L} {s' s'' : S} {l : L} :
      Run M s ls s' → M.step s' l s'' → Run M s (ls ++ [l]) s''

def Reachable (M : LTS S L) (s : S) : Prop := ∃ s₀ ls, M.init s₀ ∧ M.Run s₀ ls s

theorem Run.single {s s' : S} {l : L} (h : M.step s l s') : M.Run s [l] s' := Run.nil.snoc h

theorem Run.append {s s' s'' : S} {ls ls' : List L} (h : M.Run s ls s') (h' : M.Run s' ls' s'') :
    M.Run s (ls ++ ls') s'' := by
  induction h' with
  | nil => simpa using h
  | snoc _ hst ih => rw [← List.append_assoc]; exact ih.snoc hst

theorem Run.cons {s s' s'' : S} {l : L} {ls : List L} (h : M.step s l s') (h' : M.Run s' ls s'') :
    M.Run s (l :: ls) s'' := (Run.single h).append h'

theorem Reachable.of_init {s : S} (h : M.init s) : M.Reachable s := ⟨s, [], h, Run.nil⟩

theorem Reachable.run {s s' : S} {ls : List L} (h : M.Reachable s) (hrun : M.Run s ls s') :
    M.Reachable s' := by
  obtain ⟨s₀, ls₀, h0, hrun₀⟩ := h
  exact ⟨s₀, _, h0, hrun₀.append hrun⟩

theorem Reachable.snoc {s s' : S} {l : L} (h : M.Reachable s) (hst : M.step s l s') :
    M.Reachable s' := h.run (Run.single hst)

/-! ## Invariants -/

/-- `I` holds initially and every step from an `I`-state keeps it. -/
structure Inductive (M : LTS S L) (I : S → Prop) : Prop where
  init : ∀ s, M.init s → I s
  step : ∀ s l s', I s → M.step s l s' → I s'

variable {I : S → Prop}

theorem Inductive.run (h : M.Inductive I) {s s' : S} {ls : List L} (hr : M.Run s ls s')
    (hs : I s) : I s' := by
  induction hr with
  | nil => exact hs
  | snoc _ hst ih => exact h.step _ _ _ ih hst

theorem Inductive.reachable (h : M.Inductive I) (s : S) (hr : M.Reachable s) : I s := by
  obtain ⟨s₀, ls, h0, h1⟩ := hr
  exact h.run h1 (h.init s₀ h0)

/-- The least invariant. -/
theorem inductive_reachable : M.Inductive M.Reachable where
  init _ h := Reachable.of_init h
  step _ _ _ h hst := h.snoc hst

/-- An invariant of the trace and the state, over an inductive invariant of
the state, in runs whose labels all meet `C`. -/
theorem Inductive.history_where (h : M.Inductive I) {P : List L → S → Prop} {C : L → Prop} {s₀ s : S}
    {ls : List L} (h0 : I s₀) (hP : P [] s₀)
    (hstep : ∀ ls s l s', I s → P ls s → M.step s l s' → C l → P (ls ++ [l]) s')
    (hr : M.Run s₀ ls s) (hC : ∀ l ∈ ls, C l) : P ls s := by
  induction hr with
  | nil => exact hP
  | @snoc ls s s' l hr' hst ih =>
    have hls := ih fun l' hl' => hC l' (List.mem_append_left _ hl')
    have hl := hC l (List.mem_append_right _ (List.mem_singleton_self l))
    exact hstep ls s l s' (h.run hr' h0) hls hst hl

theorem Inductive.history (h : M.Inductive I) {P : List L → S → Prop} {s₀ s : S} {ls : List L}
    (h0 : I s₀) (hP : P [] s₀)
    (hstep : ∀ ls s l s', I s → P ls s → M.step s l s' → P (ls ++ [l]) s')
    (hr : M.Run s₀ ls s) : P ls s :=
  h.history_where (C := fun _ => True) h0 hP
    (fun ls s l s' hs hls hst _ => hstep ls s l s' hs hls hst) hr fun _ _ => trivial

/-- What a history says, with one label more. -/
theorem filterMap_snoc {B : Type} (f : L → Option B) (ls : List L) (l : L) :
    (ls ++ [l]).filterMap f = ls.filterMap f ++ (f l).toList := by
  rw [List.filterMap_append]
  cases h : f l <;> simp [h]

/-- A property of the state that labels in `C` keep. -/
theorem Inductive.keeps (h : M.Inductive I) {P : S → Prop} {C : L → Prop} {s₀ s : S} {ls : List L}
    (h0 : I s₀) (hP : P s₀) (hstep : ∀ s l s', I s → P s → M.step s l s' → C l → P s')
    (hr : M.Run s₀ ls s) (hC : ∀ l ∈ ls, C l) : P s :=
  h.history_where (P := fun _ s => P s) h0 hP (fun _ => hstep) hr hC

/-- A property of single steps holds of every step of a run. -/
theorem Inductive.forall_steps (h : M.Inductive I) {P : L → Prop} {s₀ s : S} {ls : List L}
    (h0 : I s₀) (hstep : ∀ s l s', I s → M.step s l s' → P l) (hr : M.Run s₀ ls s) :
    ∀ l ∈ ls, P l := by
  refine h.history (P := fun ls _ => ∀ l ∈ ls, P l) h0 (by simp) ?_ hr
  intro ls s l s' hI hls hst l' hl'
  rcases List.mem_append.mp hl' with hl' | hl'
  · exact hls l' hl'
  · rw [List.mem_singleton.mp hl']; exact hstep s l s' hI hst

/-! ## Simulation -/

/-- Each step of `M` is a step of `N` with the same label, along `R`. -/
structure Simulation {T : Type} (M : LTS S L) (N : LTS T L) (R : S → T → Prop) : Prop where
  init : ∀ s, M.init s → ∃ t, N.init t ∧ R s t
  step : ∀ s t l s', R s t → M.step s l s' → ∃ t', N.step t l t' ∧ R s' t'

section Simulation

variable {T : Type} {N : LTS T L} {R : S → T → Prop}

theorem Simulation.run (h : M.Simulation N R) {s s' : S} {t : T} {ls : List L} (hR : R s t)
    (hr : M.Run s ls s') : ∃ t', N.Run t ls t' ∧ R s' t' := by
  induction hr with
  | nil => exact ⟨t, Run.nil, hR⟩
  | snoc _ hst ih =>
    obtain ⟨u, hu, hRu⟩ := ih
    obtain ⟨u', hu', hRu'⟩ := h.step _ _ _ _ hRu hst
    exact ⟨u', hu.snoc hu', hRu'⟩

theorem Simulation.reachable (h : M.Simulation N R) {s : S} (hr : M.Reachable s) :
    ∃ t, N.Reachable t ∧ R s t := by
  obtain ⟨s₀, ls, h0, h1⟩ := hr
  obtain ⟨t₀, ht₀, hR⟩ := h.init s₀ h0
  obtain ⟨t, ht, hRt⟩ := h.run hR h1
  exact ⟨t, ⟨t₀, ls, ht₀, ht⟩, hRt⟩

end Simulation

/-! ## Refinement with steps of its own -/

/-- Each step of `M` is the step of `N` that `f` names, or one `N` does not
see. -/
structure Stuttering {T K : Type} (M : LTS S L) (N : LTS T K) (f : L → Option K)
    (R : S → T → Prop) : Prop where
  init : ∀ s, M.init s → ∃ t, N.init t ∧ R s t
  stutter : ∀ s t l s', R s t → M.step s l s' → f l = none → R s' t
  step : ∀ s t l s' k, R s t → M.step s l s' → f l = some k → ∃ t', N.step t k t' ∧ R s' t'

section Stuttering

variable {T K : Type} {N : LTS T K} {f : L → Option K} {R : S → T → Prop}

theorem Stuttering.run (h : M.Stuttering N f R) {s s' : S} {t : T} {ls : List L} (hR : R s t)
    (hr : M.Run s ls s') : ∃ t', N.Run t (ls.filterMap f) t' ∧ R s' t' := by
  induction hr with
  | nil => exact ⟨t, Run.nil, hR⟩
  | @snoc ls s' s'' l _ hst ih =>
    obtain ⟨u, hu, hRu⟩ := ih
    rw [filterMap_snoc]
    cases hf : f l with
    | none =>
      refine ⟨u, ?_, h.stutter _ _ _ _ hRu hst hf⟩
      rw [Option.toList_none, List.append_nil]
      exact hu
    | some k =>
      obtain ⟨u', hu', hRu'⟩ := h.step _ _ _ _ k hRu hst hf
      exact ⟨u', hu.snoc hu', hRu'⟩

theorem Stuttering.reachable (h : M.Stuttering N f R) {s : S} (hr : M.Reachable s) :
    ∃ t, N.Reachable t ∧ R s t := by
  obtain ⟨s₀, ls, h0, h1⟩ := hr
  obtain ⟨t₀, ht₀, hR⟩ := h.init s₀ h0
  obtain ⟨t, ht, hRt⟩ := h.run hR h1
  exact ⟨t, ⟨t₀, _, ht₀, ht⟩, hRt⟩

end Stuttering

/-! ## Restricted and deterministic systems -/

/-- The system whose steps all meet `C`. -/
def restrict (M : LTS S L) (C : S → L → Prop) : LTS S L where
  init := M.init
  step s l s' := M.step s l s' ∧ C s l

theorem Run.of_restrict {C : S → L → Prop} {s s' : S} {ls : List L}
    (h : (M.restrict C).Run s ls s') : M.Run s ls s' := by
  induction h with
  | nil => exact Run.nil
  | snoc _ hst ih => exact ih.snoc hst.1

theorem Run.restrict {C : S → L → Prop} {s s' : S} {ls : List L} (h : M.Run s ls s')
    (hC : ∀ l ∈ ls, ∀ s, C s l) : (M.restrict C).Run s ls s' := by
  induction h with
  | nil => exact Run.nil
  | @snoc ls s' s'' l _ hst ih =>
    have hls := ih fun l' hl' => hC l' (List.mem_append_left _ hl')
    exact hls.snoc ⟨hst, hC l (List.mem_append_right _ (List.mem_singleton_self l)) s'⟩

theorem Inductive.restrict (h : M.Inductive I) (C : S → L → Prop) :
    (M.restrict C).Inductive I where
  init := h.init
  step s l s' hI hst := h.step s l s' hI hst.1

/-- A simulation restricts along with its condition. -/
theorem Simulation.restrict {T : Type} {N : LTS T L} {R : S → T → Prop} (h : M.Simulation N R)
    {C : S → L → Prop} {D : T → L → Prop} (hC : ∀ s t l, R s t → C s l → D t l) :
    (M.restrict C).Simulation (N.restrict D) R where
  init := h.init
  step s t l s' hR hst := by
    obtain ⟨t', ht', hR'⟩ := h.step s t l s' hR hst.1
    exact ⟨t', ⟨ht', hC s t l hR hst.2⟩, hR'⟩

/-- The system of a function: an action of a state gives a label that records
the action, and the next state. -/
def ofStep (init : S → Prop) (act : L → A) (f : S → A → L × S) : LTS S L where
  init := init
  step s l s' := f s (act l) = (l, s')

section OfStep

variable {init : S → Prop} {act : L → A} {f : S → A → L × S}

/-- A step is what the function gives for its action. -/
theorem ofStep_step {s s' : S} {l : L} (h : (ofStep init act f).step s l s') :
    ∃ a, act l = a ∧ l = (f s a).1 ∧ s' = (f s a).2 := by
  have h : f s (act l) = (l, s') := h
  exact ⟨act l, rfl, by rw [h], by rw [h]⟩

theorem inductive_ofStep (hinit : ∀ s, init s → I s) (hstep : ∀ s a, I s → I (f s a).2) :
    (ofStep init act f).Inductive I where
  init := hinit
  step := by
    intro s l s' hs hst
    obtain ⟨a, -, -, rfl⟩ := ofStep_step hst
    exact hstep s a hs

/-- The labels and the last state of a list of actions. -/
def exec (f : S → A → L × S) : S → List A → List L × S
  | s, [] => ([], s)
  | s, a :: as => ((f s a).1 :: (exec f (f s a).2 as).1, (exec f (f s a).2 as).2)

/-- The labels record the actions. -/
theorem exec_act (hact : ∀ s a, act (f s a).1 = a) :
    ∀ (as : List A) (s : S), (exec f s as).1.map act = as
  | [], _ => rfl
  | a :: as, s => congrArg₂ List.cons (hact s a) (exec_act hact as _)

theorem step_of_act (hact : ∀ s a, act (f s a).1 = a) (s : S) (a : A) :
    (ofStep init act f).step s (f s a).1 (f s a).2 := by
  show f s (act (f s a).1) = ((f s a).1, (f s a).2)
  rw [hact]

theorem run_exec (hact : ∀ s a, act (f s a).1 = a) :
    ∀ (as : List A) (s : S), (ofStep init act f).Run s (exec f s as).1 (exec f s as).2
  | [], _ => Run.nil
  | a :: as, s => Run.cons (step_of_act hact s a) (run_exec hact as _)

/-- Two systems run side by side: related states and actions give related
labels and states. -/
theorem exec_related {T B K : Type} {g : T → B → K × T} {R : S → T → Prop} {E : A → B → Prop}
    {O : L → K → Prop}
    (hstep : ∀ s t a b, R s t → E a b → O (f s a).1 (g t b).1 ∧ R (f s a).2 (g t b).2) :
    ∀ {as : List A} {bs : List B} {s : S} {t : T}, R s t → List.Forall₂ E as bs →
      List.Forall₂ O (exec f s as).1 (exec g t bs).1 ∧ R (exec f s as).2 (exec g t bs).2
  | _, _, _, _, hR, .nil => ⟨.nil, hR⟩
  | _, _, s, t, hR, .cons hab hrest => by
    obtain ⟨hlabel, hnext⟩ := hstep s t _ _ hR hab
    obtain ⟨hlabels, hlast⟩ := exec_related hstep hnext hrest
    exact ⟨.cons hlabel hlabels, hlast⟩

/-- Actions that leave the state alone can be left out: the others give the
same labels and the same last state. -/
theorem exec_filter {p : A → Bool} (hact : ∀ s a, act (f s a).1 = a)
    (hskip : ∀ s a, p a = false → (f s a).2 = s) : ∀ (as : List A) (s : S),
    exec f s (as.filter p) = ((exec f s as).1.filter fun l => p (act l), (exec f s as).2) := by
  intro as
  induction as with
  | nil => intro s; rfl
  | cons a as ih =>
    intro s
    cases ha : p a with
    | true =>
      rw [List.filter_cons_of_pos ha]
      simp only [exec, ih, List.filter_cons, hact, ha, if_true]
    | false =>
      rw [List.filter_cons_of_neg (by simp [ha]), ih]
      simp only [exec, List.filter_cons, hact, ha, hskip s a ha, Bool.false_eq_true, if_false]

/-- Every step of a list of actions meets `C`. -/
def execMeets (C : S → L → Bool) (f : S → A → L × S) : S → List A → Bool
  | _, [] => true
  | s, a :: as => C s (f s a).1 && execMeets C f (f s a).2 as

theorem run_exec_restrict {C : S → L → Bool} (hact : ∀ s a, act (f s a).1 = a) :
    ∀ (as : List A) (s : S), execMeets C f s as = true →
      ((ofStep init act f).restrict fun s l => C s l = true).Run s (exec f s as).1 (exec f s as).2
  | [], _, _ => Run.nil
  | a :: as, s, h => by
    obtain ⟨hC, h⟩ := Bool.and_eq_true_iff.mp h
    exact Run.cons ⟨step_of_act hact s a, hC⟩ (run_exec_restrict hact as _ h)

end OfStep

end LTS
end MotionFirmware.Core
