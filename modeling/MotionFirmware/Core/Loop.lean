/-!
# While loops

`WhileRun guard body s heads s'`: the loop `while (guard) body` entered in `s`
ends in `s'`, and `heads` are the states in which the guard held, in order. A
derivation is finite, so a loop that has one terminates.

* `WhileRun.unique`: a loop has at most one run.
* `WhileRun.counted`: the rule for a loop with a counter, which each pass
  lowers by one and which is 0 at the latest exit.
-/
namespace MotionFirmware.Core

variable {S : Type} {guard : S → Prop} {body : S → S}

inductive WhileRun (guard : S → Prop) (body : S → S) : S → List S → S → Prop
  | exit {s : S} : ¬ guard s → WhileRun guard body s [] s
  | pass {s s' : S} {heads : List S} : guard s → WhileRun guard body (body s) heads s' →
      WhileRun guard body s (s :: heads) s'

theorem WhileRun.unique {s s' s'' : S} {heads heads' : List S} (h : WhileRun guard body s heads s')
    (h' : WhileRun guard body s heads' s'') : heads = heads' ∧ s' = s'' := by
  induction h generalizing heads' with
  | exit hno =>
    cases h' with
    | exit _ => exact ⟨rfl, rfl⟩
    | pass hyes _ => exact absurd hyes hno
  | pass hyes _ ih =>
    cases h' with
    | exit hno => exact absurd hyes hno
    | pass _ hrest =>
      obtain ⟨rfl, rfl⟩ := ih hrest
      exact ⟨rfl, rfl⟩

/-- An invariant with a counter: the loop ends, after as many passes as the
counter lost, and the invariant holds at every head and at the exit. -/
theorem WhileRun.counted (guard : S → Prop) (body : S → S) {I : Nat → S → Prop}
    (hexit : ∀ s, I 0 s → ¬ guard s) (hpass : ∀ n s, I (n + 1) s → guard s → I n (body s)) :
    ∀ n s, I n s →
    ∃ heads s' m, WhileRun guard body s heads s' ∧ heads.length + m = n ∧ I m s' ∧ ¬ guard s' ∧
      ∀ t ∈ heads, guard t ∧ ∃ k, I (k + 1) t := by
  intro n
  induction n with
  | zero =>
    intro s hI
    have hno := hexit s hI
    exact ⟨[], s, 0, .exit hno, rfl, hI, hno, by simp⟩
  | succ n ih =>
    intro s hI
    by_cases hg : guard s
    · obtain ⟨heads, s', m, hrun, hlen, hI', hno, hheads⟩ := ih (body s) (hpass n s hI hg)
      refine ⟨s :: heads, s', m, .pass hg hrun, ?_, hI', hno, ?_⟩
      · rw [List.length_cons]; omega
      · intro t ht
        rcases List.mem_cons.mp ht with rfl | ht
        · exact ⟨hg, n, hI⟩
        · exact hheads t ht
    · exact ⟨[], s, n + 1, .exit hg, by simp, hI, hg, by simp⟩

end MotionFirmware.Core
