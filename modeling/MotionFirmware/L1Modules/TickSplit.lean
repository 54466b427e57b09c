import MotionFirmware.L1Modules.MotionSpec

/-!
# Cutting a move into ticks

Between its start and its end a move only accumulates: after ticks of at most
100 ms with total `T` it has travelled `⌊F·T / 1000⌋` milli-mm and carries
`F·T mod 1000`, however `T` was cut. `Progress s T m` says that `m` is where
the move started in `s` is after `T`; one tick keeps it (`progress_update`), so
a list of ticks does (`progress_foldl`).

The bound on a tick is what keeps the 32-bit step exact: `F·100 / 1000` is
below `2^29`.
-/
namespace MotionFirmware.L1.Motion

open MotionFirmware.Core

/-- The exact distance the feedrate covers in `T` ms. -/
def covered (feedrate : UInt32) (T : Nat) : Nat := feedrate.toNat * T / 1000

/-- `m` is the move started in `s`, after `T` ms. -/
def Progress (s : MotionController) (T : Nat) (m : MotionController) : Prop :=
  (s.pathLengthMilliMm.toNat ≤ covered s.status.feedrateMilliMmPerS T ∧ m = motionFinishMove s) ∨
  ∃ r d : UInt32, d.toNat = covered s.status.feedrateMilliMmPerS T ∧
    d.toNat < s.pathLengthMilliMm.toNat ∧
    r.toNat = s.status.feedrateMilliMmPerS.toNat * T % 1000 ∧
    m = travelTo { s with remainderMilliMmMs := r } d

/-- Where a move is depends on the time only. -/
theorem Progress.unique {s m m' : MotionController} {T : Nat} (h : Progress s T m)
    (h' : Progress s T m') : m = m' := by
  rcases h with ⟨hl, rfl⟩ | ⟨r, d, hd, hl, hr, rfl⟩ <;>
    rcases h' with ⟨hl', rfl⟩ | ⟨r', d', hd', hl', hr', rfl⟩
  · rfl
  · omega
  · omega
  · rw [UInt32.toNat_inj.mp (hr.trans hr'.symm), UInt32.toNat_inj.mp (hd.trans hd'.symm)]

theorem Started.start_eq {s : MotionController} (h : Started s) :
    motionInterpolatePosition s.startXMilliMm s.status.targetXMilliMm 0 s.pathLengthMilliMm =
        s.status.currentXMilliMm ∧
      motionInterpolatePosition s.startYMilliMm s.status.targetYMilliMm 0 s.pathLengthMilliMm =
        s.status.currentYMilliMm := by
  have ht := h.inv.moving h.moving
  have hpos : 0 < s.pathLengthMilliMm.toNat := by have := ht.short; omega
  refine ⟨Int32.toInt_inj.mp ?_, Int32.toInt_inj.mp ?_⟩
  · rw [interpolate_toInt ht.start.1 h.inv.target.1 (by simp) hpos, ht.x, h.traveled]
  · rw [interpolate_toInt ht.start.2 h.inv.target.2 (by simp) hpos, ht.y, h.traveled]

theorem Started.progress_zero {s : MotionController} (h : Started s) : Progress s 0 s := by
  have ht := h.inv.moving h.moving
  refine Or.inr ⟨0, 0, by simp [covered], ?_, by simp, ?_⟩
  · have := ht.short; rw [h.traveled] at this; exact this
  · obtain ⟨ex, ey⟩ := h.start_eq
    obtain ⟨_, _, htr, hrem⟩ := h
    obtain ⟨⟨_, _, _, _, _, _⟩, _, _, _, _, _⟩ := s
    simp only at ex ey htr hrem
    simp only [travelTo, ex, ey, htr, hrem]

/-- One tick of at most 100 ms. -/
theorem progress_update {s m : MotionController} {T : Nat} (hs : Started s) (h : Progress s T m)
    (d : UInt32) (hd : d ≤ 100) : Progress s (T + d.toNat) (motionControllerUpdate m d) := by
  have hd100 : d.toNat ≤ 100 := UInt32.le_iff_toNat_le.mp hd
  have hF := s.status.feedrateMilliMmPerS.toNat_lt
  have hsplit : s.status.feedrateMilliMmPerS.toNat * (T + d.toNat) =
      s.status.feedrateMilliMmPerS.toNat * T + s.status.feedrateMilliMmPerS.toNat * d.toNat :=
    Nat.mul_add _ _ _
  have hsmall : s.status.feedrateMilliMmPerS.toNat * d.toNat ≤ (2 ^ 32 - 1) * 100 :=
    Nat.mul_le_mul (by omega) hd100
  rcases h with ⟨hl, rfl⟩ | ⟨r, e, he, hl, hr, rfl⟩
  · rw [update_idle _ _ (Or.inl (by simp [motionFinishMove]))]
    refine Or.inl ⟨?_, rfl⟩
    simp only [covered] at hl ⊢
    omega
  · have hshort : s.pathLengthMilliMm.toNat < 2 ^ 18 := by
      rw [(hs.inv.moving hs.moving).length]
      exact distance_workspace (hs.inv.moving hs.moving).start hs.inv.target
    by_cases hd0 : d = 0
    · rw [update_idle _ _ (Or.inr hd0), hd0]
      exact Or.inr ⟨r, e, he, hl, hr, rfl⟩
    -- the 32-bit step and sum are exact
    have hnum : numerator (travelTo { s with remainderMilliMmMs := r } e) d =
        s.status.feedrateMilliMmPerS.toNat * d.toNat + r.toNat := rfl
    have hstep : tickStep (travelTo { s with remainderMilliMmMs := r } e) d =
        (s.status.feedrateMilliMmPerS.toNat * d.toNat + r.toNat) / 1000 := by
      rw [tickStep, hnum]; exact Nat.mod_eq_of_lt (by omega)
    obtain ⟨r', e', hr', he', hc⟩ := update_moving
      (travelTo { s with remainderMilliMmMs := r } e) d hs.moving hd0
    rw [hnum] at hr'
    rw [hstep] at he' hc
    have htrav : (travelTo { s with remainderMilliMmMs := r } e).distanceTraveledMilliMm.toNat =
        e.toNat := rfl
    rw [htrav, Nat.mod_eq_of_lt (by omega)] at he'
    simp only [covered] at he
    have hcov : covered s.status.feedrateMilliMmPerS (T + d.toNat) = e'.toNat := by
      simp only [covered]; omega
    have hrem : r'.toNat = s.status.feedrateMilliMmPerS.toNat * (T + d.toNat) % 1000 := by omega
    rcases hc with ⟨h0, hu⟩ | ⟨-, hge, hu⟩ | ⟨-, hlt, hu⟩
    · have : e' = e := UInt32.toNat_inj.mp (by omega)
      exact Or.inr ⟨r', e, by rw [hcov, this], hl, hrem, hu⟩
    · exact Or.inl ⟨by rw [hcov]; exact hge, hu⟩
    · exact Or.inr ⟨r', e', hcov.symm, hlt, hrem, hu⟩

/-- Total time of a list of ticks. -/
def totalMs (ticks : List UInt32) : Nat := (ticks.map UInt32.toNat).sum

theorem progress_foldl {s : MotionController} (hs : Started s) :
    ∀ (ticks : List UInt32) (T : Nat) (m : MotionController), (∀ d ∈ ticks, d ≤ 100) →
      Progress s T m → Progress s (T + totalMs ticks) (ticks.foldl motionControllerUpdate m)
  | [], T, m, _, h => by simpa [totalMs] using h
  | d :: ticks, T, m, hd, h => by
    have h1 := progress_update hs h d (hd d (by simp))
    have h2 := progress_foldl hs ticks _ _ (fun e he => hd e (by simp [he])) h1
    simpa [totalMs, Nat.add_assoc] using h2

/-- What `Progress` says about the fields a reader sees. -/
theorem Progress.fields {s m : MotionController} {T : Nat} (hs : Started s) (h : Progress s T m) :
    (s.pathLengthMilliMm.toNat ≤ covered s.status.feedrateMilliMmPerS T →
      m.status.state = .done ∧ m.status.currentXMilliMm = s.status.targetXMilliMm ∧
        m.status.currentYMilliMm = s.status.targetYMilliMm ∧ m.status.feedrateMilliMmPerS = 0) ∧
    (covered s.status.feedrateMilliMmPerS T < s.pathLengthMilliMm.toNat →
      m.status.state = .moving ∧
        m.distanceTraveledMilliMm.toNat = covered s.status.feedrateMilliMmPerS T ∧
        m.remainderMilliMmMs.toNat = s.status.feedrateMilliMmPerS.toNat * T % 1000 ∧
        m.status.currentXMilliMm.toInt = lerp s.startXMilliMm.toInt s.status.targetXMilliMm.toInt
          (covered s.status.feedrateMilliMmPerS T) s.pathLengthMilliMm.toNat ∧
        m.status.currentYMilliMm.toInt = lerp s.startYMilliMm.toInt s.status.targetYMilliMm.toInt
          (covered s.status.feedrateMilliMmPerS T) s.pathLengthMilliMm.toNat) := by
  rcases h with ⟨hl, rfl⟩ | ⟨r, d, hd, hl, hr, rfl⟩
  · exact ⟨fun _ => ⟨rfl, rfl, rfl, rfl⟩, fun h => by omega⟩
  · have ht := hs.inv.moving hs.moving
    have hpos : 0 < s.pathLengthMilliMm.toNat := by omega
    refine ⟨fun h => by omega, fun _ => ⟨hs.moving, hd, hr, ?_, ?_⟩⟩
    · rw [← hd]; exact interpolate_toInt ht.start.1 hs.inv.target.1 hl.le hpos
    · rw [← hd]; exact interpolate_toInt ht.start.2 hs.inv.target.2 hl.le hpos

theorem foldl_update_idle (m : MotionController) (h : m.status.state ≠ .moving) :
    ∀ ticks : List UInt32, ticks.foldl motionControllerUpdate m = m
  | [] => rfl
  | d :: ticks => by
    rw [List.foldl_cons, update_idle m d (Or.inl h)]; exact foldl_update_idle m h ticks

/-! ## The outcome of a move -/

/-- `m'` is where a move to `tx`, `ty` from `m` at feedrate `F` is after `T`
ms: at the target once the feedrate covers the path, else `⌊F·T / 1000⌋`
milli-mm along it. -/
def MoveOutcome (m : MotionController) (tx ty : Int32) (F : UInt32) (T : Nat) (m' : MotionController) :
    Prop :=
  let sx := m.status.currentXMilliMm.toInt
  let sy := m.status.currentYMilliMm.toInt
  let L := distance sx sy tx.toInt ty.toInt
  let D := F.toNat * T / 1000
  (L ≤ D ∨ L = 0 → m'.status.state = .done ∧ m'.status.currentXMilliMm = tx ∧
    m'.status.currentYMilliMm = ty ∧ m'.status.feedrateMilliMmPerS = 0) ∧
  (¬(L ≤ D ∨ L = 0) → m'.status.state = .moving ∧ m'.distanceTraveledMilliMm.toNat = D ∧
    m'.remainderMilliMmMs.toNat = F.toNat * T % 1000 ∧
    m'.status.currentXMilliMm.toInt = sx + ((tx.toInt - sx) * D).tdiv L ∧
    m'.status.currentYMilliMm.toInt = sy + ((ty.toInt - sy) * D).tdiv L)

theorem move_outcome {m : MotionController} {tx ty : Int32} {F : UInt32}
    (hstate : m.status.state ≠ .fault)
    (hcur : InWorkspace m.status.currentXMilliMm m.status.currentYMilliMm)
    (hbounds : InWorkspace tx ty) (hF : F ≠ 0) (ticks : List UInt32) (hticks : ∀ d ∈ ticks, d ≤ 100) :
    MoveOutcome m tx ty F (totalMs ticks)
      (ticks.foldl motionControllerUpdate (motionControllerStartMove m tx ty F).2) := by
  obtain ⟨s, he, hinv, htx, hty, hcx, hcy, ⟨h0, hdone⟩ | ⟨hs, hsx, hsy, hsF, hpos, hlen⟩⟩ :=
    startMove_accepts hstate hcur hF hbounds
  · have hrest := hinv.rest (by rw [hdone]; decide)
    rw [he, foldl_update_idle s (by rw [hdone]; decide) ticks]
    refine ⟨fun _ => ⟨hdone, ?_, ?_, hrest.feedrate⟩, fun h => absurd (Or.inr h0) h⟩
    · rw [← htx]; exact hrest.x.symm
    · rw [← hty]; exact hrest.y.symm
  · have hprog : Progress s (totalMs ticks) (ticks.foldl motionControllerUpdate s) := by
      simpa using progress_foldl hs ticks 0 s hticks hs.progress_zero
    obtain ⟨hfin, hmov⟩ := hprog.fields hs
    rw [hlen, htx, hty, hsF] at hfin hmov
    rw [hsx, hsy] at hmov
    rw [he]
    refine ⟨fun h => ?_, fun h => hmov (Nat.lt_of_not_le fun hle => h (Or.inl hle))⟩
    rcases h with h | h
    · exact hfin h
    · exact absurd (hlen.trans h) (by omega)

/-- How the time is cut does not matter. -/
theorem move_unique {m : MotionController} {tx ty : Int32} {F : UInt32}
    (hstate : m.status.state ≠ .fault)
    (hcur : InWorkspace m.status.currentXMilliMm m.status.currentYMilliMm)
    (hbounds : InWorkspace tx ty) (hF : F ≠ 0) {ticks ticks' : List UInt32}
    (hticks : ∀ d ∈ ticks, d ≤ 100) (hticks' : ∀ d ∈ ticks', d ≤ 100)
    (hT : totalMs ticks' = totalMs ticks) :
    ticks'.foldl motionControllerUpdate (motionControllerStartMove m tx ty F).2 =
      ticks.foldl motionControllerUpdate (motionControllerStartMove m tx ty F).2 := by
  obtain ⟨s, he, -, -, -, -, -, ⟨-, hdone⟩ | ⟨hs, -⟩⟩ := startMove_accepts hstate hcur hF hbounds
  · have hidle : s.status.state ≠ .moving := by rw [hdone]; decide
    rw [he, foldl_update_idle s hidle, foldl_update_idle s hidle]
  · have h := progress_foldl hs ticks 0 s hticks hs.progress_zero
    have h' := progress_foldl hs ticks' 0 s hticks' hs.progress_zero
    rw [hT] at h'
    rw [he]
    exact h'.unique h

/-- **Tick splitting.** A move to an in-bounds target from inside the workspace,
followed by ticks of at most 100 ms, ends at the target as soon as the feedrate
covers the path in the total time; before that it is `⌊F·T / 1000⌋` milli-mm
along it. Two lists of ticks with one total leave the same controller. -/
theorem tick_splitting (m : MotionController) (tx ty : Int32) (F : UInt32) (ticks : List UInt32)
    (hstate : m.status.state ≠ .fault)
    (hcur : InWorkspace m.status.currentXMilliMm m.status.currentYMilliMm)
    (hbounds : motionControllerIsTargetInBounds tx ty = true) (hF : F ≠ 0)
    (hticks : ∀ d ∈ ticks, d ≤ 100) :
    let sx := m.status.currentXMilliMm.toInt
    let sy := m.status.currentYMilliMm.toInt
    let L := distance sx sy tx.toInt ty.toInt
    let D := F.toNat * totalMs ticks / 1000
    let m' := ticks.foldl motionControllerUpdate (motionControllerStartMove m tx ty F).2
    (L ≤ D ∨ L = 0 → m'.status.state = .done ∧ m'.status.currentXMilliMm = tx ∧
      m'.status.currentYMilliMm = ty ∧ m'.status.feedrateMilliMmPerS = 0) ∧
    (¬(L ≤ D ∨ L = 0) → m'.status.state = .moving ∧ m'.distanceTraveledMilliMm.toNat = D ∧
      m'.remainderMilliMmMs.toNat = F.toNat * totalMs ticks % 1000 ∧
      m'.status.currentXMilliMm.toInt = sx + ((tx.toInt - sx) * D).tdiv L ∧
      m'.status.currentYMilliMm.toInt = sy + ((ty.toInt - sy) * D).tdiv L) ∧
    ∀ ticks' : List UInt32, (∀ d ∈ ticks', d ≤ 100) → totalMs ticks' = totalMs ticks →
      ticks'.foldl motionControllerUpdate (motionControllerStartMove m tx ty F).2 = m' := by
  have hin := (isTargetInBounds_iff tx ty).mp hbounds
  obtain ⟨hfin, hmov⟩ := move_outcome hstate hcur hin hF ticks hticks
  exact ⟨hfin, hmov, fun ticks' h' hT => move_unique hstate hcur hin hF hticks h' hT⟩

/-- A 10 mm move at 5 mm/s, after two ticks of 100 ms. -/
theorem tick_splitting_two_ticks :
    ([100, 100].foldl motionControllerUpdate
      (motionControllerStartMove motionControllerInit 10000 0 5000).2).distanceTraveledMilliMm.toNat =
        1000 :=
  ((tick_splitting motionControllerInit 10000 0 5000 [100, 100] (by decide) (by decide) (by decide)
    (by decide) (by simp)).2.1 (by decide +kernel)).2.1

end MotionFirmware.L1.Motion
