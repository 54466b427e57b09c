import MotionFirmware.L1Modules.MotionSpec
import Mathlib.Algebra.Order.Ring.Int
import Mathlib.Data.Int.Order.Lemmas

/-!
# What one tick of any length does to a move

The quotient `N / 1000` of a tick is 64 bits wide; the code narrows it to 32
and adds it to a 32-bit distance. `AdvancesExactly` is the law of the exact
sum, `NoWrap` the ticks for which the narrowing and the sum lose nothing that
matters: `advancesExactly_iff`.

With or without a wrap no coordinate outruns the exact step (`update_axis`),
and between ticks the stage is within one milli-mm of the straight line
(`Travelling.straight`).
-/
namespace MotionFirmware.L1.Motion

open MotionFirmware.Core

/-- `floor (N / 1000)`, before it is narrowed. -/
def exactStep (m : MotionController) (deltaMs : UInt32) : Nat := numerator m deltaMs / 1000

/-- The exact law of a tick: the end of the path, or the exact advance. -/
structure AdvancesExactly (m : MotionController) (deltaMs : UInt32) : Prop where
  arrives : ((motionControllerUpdate m deltaMs).status.state = .done ∧
      (motionControllerUpdate m deltaMs).status.currentXMilliMm = m.status.targetXMilliMm ∧
      (motionControllerUpdate m deltaMs).status.currentYMilliMm = m.status.targetYMilliMm) ↔
    m.pathLengthMilliMm.toNat ≤ m.distanceTraveledMilliMm.toNat + exactStep m deltaMs
  advances : m.distanceTraveledMilliMm.toNat + exactStep m deltaMs < m.pathLengthMilliMm.toNat →
    (motionControllerUpdate m deltaMs).status.state = .moving ∧
    (motionControllerUpdate m deltaMs).distanceTraveledMilliMm.toNat =
      m.distanceTraveledMilliMm.toNat + exactStep m deltaMs ∧
    (motionControllerUpdate m deltaMs).remainderMilliMmMs.toNat = numerator m deltaMs % 1000

/-- The exact sum fits in 32 bits, or what is left of it still reaches the end. -/
def NoWrap (m : MotionController) (deltaMs : UInt32) : Prop :=
  m.distanceTraveledMilliMm.toNat + exactStep m deltaMs < 2 ^ 32 ∨
    m.pathLengthMilliMm.toNat ≤ (m.distanceTraveledMilliMm.toNat + exactStep m deltaMs) % 2 ^ 32

instance (m : MotionController) (deltaMs : UInt32) : Decidable (NoWrap m deltaMs) :=
  inferInstanceAs (Decidable (_ ∨ _))

/-- How far along the path the tick brings the stage. -/
def reached (m : MotionController) (deltaMs : UInt32) : Nat :=
  if (motionControllerUpdate m deltaMs).status.state = .done then m.pathLengthMilliMm.toNat
  else (motionControllerUpdate m deltaMs).distanceTraveledMilliMm.toNat

variable {m : MotionController} {deltaMs : UInt32}

/-- Narrowing the step first does not change the wrapped sum. -/
theorem sum_mod (m : MotionController) (deltaMs : UInt32) :
    (m.distanceTraveledMilliMm.toNat + tickStep m deltaMs) % 2 ^ 32 =
      (m.distanceTraveledMilliMm.toNat + exactStep m deltaMs) % 2 ^ 32 := Nat.add_mod_mod _ _ _

/-- The tick as the wrapped sum decides it. -/
theorem update_wrapped (h : Travelling m) (hm : m.status.state = .moving) (hd : deltaMs ≠ 0) :
    let d := (m.distanceTraveledMilliMm.toNat + exactStep m deltaMs) % 2 ^ 32
    (m.pathLengthMilliMm.toNat ≤ d ∧ motionControllerUpdate m deltaMs = motionFinishMove m) ∨
    (d < m.pathLengthMilliMm.toNat ∧
      (motionControllerUpdate m deltaMs).status.state = .moving ∧
      (motionControllerUpdate m deltaMs).distanceTraveledMilliMm.toNat = d ∧
      (motionControllerUpdate m deltaMs).remainderMilliMmMs.toNat = numerator m deltaMs % 1000) := by
  intro d
  have hshort := h.short
  have hlen := m.pathLengthMilliMm.toNat_lt
  obtain ⟨r, e, hr, he, hc⟩ := update_moving m deltaMs hm hd
  have hsum : d = (m.distanceTraveledMilliMm.toNat + tickStep m deltaMs) % 2 ^ 32 :=
    (sum_mod m deltaMs).symm
  rw [← hsum] at he
  rcases hc with ⟨h0, hu⟩ | ⟨-, hge, hu⟩ | ⟨-, hlt, hu⟩
  · -- a step of 0 modulo 2^32: the distance stays
    rw [h0, Nat.add_zero, Nat.mod_eq_of_lt (by omega)] at hsum
    rw [hu]
    exact Or.inr ⟨by omega, hm, hsum.symm, hr⟩
  · exact Or.inl ⟨by omega, hu⟩
  · rw [hu]
    exact Or.inr ⟨by omega, hm, he, hr⟩

/-- **One tick is exact iff its sum does not wrap below the path length.** -/
theorem advancesExactly_iff (h : Travelling m) (hm : m.status.state = .moving) (hd : deltaMs ≠ 0) :
    AdvancesExactly m deltaMs ↔ NoWrap m deltaMs := by
  have hlen := m.pathLengthMilliMm.toNat_lt
  have hcases := update_wrapped h hm hd
  simp only at hcases
  unfold NoWrap
  generalize hsum : m.distanceTraveledMilliMm.toNat + exactStep m deltaMs = sum at *
  have hle : sum % 2 ^ 32 ≤ sum := Nat.mod_le _ _
  rcases hcases with ⟨hge, hu⟩ | ⟨hlt, hmoving, hdist, hrem⟩
  · refine iff_of_true ⟨?_, fun h => ?_⟩ (Or.inr hge)
    · rw [hu, hsum]
      exact iff_of_true ⟨rfl, rfl, rfl⟩ (by omega)
    · omega
  · constructor
    · intro hexact
      -- the stage is still on its way, so the exact sum is short of the end
      have hshort : ¬ m.pathLengthMilliMm.toNat ≤ sum := by
        rw [← hsum, ← hexact.arrives, hmoving]
        intro e; cases e.1
      omega
    · intro hfit
      have hsame : sum % 2 ^ 32 = sum := Nat.mod_eq_of_lt (by omega)
      rw [hsame] at hlt hdist
      refine ⟨?_, fun _ => ⟨hmoving, hdist.trans hsum.symm, hrem⟩⟩
      rw [hmoving, hsum]
      exact iff_of_false (fun e => by cases e.1) (by omega)

theorem reached_eq (h : AdvancesExactly m deltaMs) : reached m deltaMs =
    min m.pathLengthMilliMm.toNat (m.distanceTraveledMilliMm.toNat + exactStep m deltaMs) := by
  unfold reached
  by_cases hge : m.pathLengthMilliMm.toNat ≤ m.distanceTraveledMilliMm.toNat + exactStep m deltaMs
  · rw [if_pos (h.arrives.mpr hge).1]
    omega
  · obtain ⟨hmoving, hdist, -⟩ := h.advances (by omega)
    rw [if_neg (by rw [hmoving]; decide), hdist]
    omega

/-- An exact tick never takes the stage back. -/
theorem AdvancesExactly.forward (h : AdvancesExactly m deltaMs)
    (hshort : m.distanceTraveledMilliMm.toNat < m.pathLengthMilliMm.toNat) :
    m.distanceTraveledMilliMm.toNat ≤ reached m deltaMs := by
  rw [reached_eq h]; omega

/-- Of two exact ticks the longer one gets at least as far. -/
theorem AdvancesExactly.mono {longer : UInt32} (h : AdvancesExactly m deltaMs)
    (h' : AdvancesExactly m longer) (hle : deltaMs ≤ longer) :
    reached m deltaMs ≤ reached m longer := by
  have hle : deltaMs.toNat ≤ longer.toNat := UInt32.le_iff_toNat_le.mp hle
  have hmul := Nat.mul_le_mul_left m.status.feedrateMilliMmPerS.toNat hle
  have hstep : exactStep m deltaMs ≤ exactStep m longer :=
    Nat.div_le_div_right (Nat.add_le_add_right hmul _)
  rw [reached_eq h, reached_eq h']
  omega

/-! ## Speed of one axis -/

/-- One coordinate of a tick, with its wrapped sum `e`: the snap to the end
and the step along the path are both within the exact step. -/
theorem tick_axis {s t : Int} {d e n step : Nat} (hlen : (t - s).natAbs ≤ n) (hd : d < n)
    (hshort : n < 2 ^ 18) (he : e = (d + step) % 2 ^ 32) :
    (n ≤ e → (t - lerp s t d n).natAbs ≤ step) ∧
      (e < n → (lerp s t e n - lerp s t d n).natAbs ≤ step) := by
  have hn : 0 < n := by omega
  constructor
  · intro hge
    have hstep := lerp_step s t hd.le hn hlen
    rw [lerp_full s t n hn] at hstep
    omega
  · intro hlt
    rcases Nat.le_total d e with hde | hde
    · have hstep := lerp_step s t hde hn hlen
      omega
    · -- a sum that wrapped came from a step longer than any path
      have hstep := lerp_step s t hde hn hlen
      omega

/-- The exact step in force: none unless a move is under way. -/
def stepInForce (m : MotionController) (deltaMs : UInt32) : Nat :=
  if m.status.state = .moving then exactStep m deltaMs else 0

/-- No coordinate changes by more than the step in force. -/
theorem update_axis (h : MotionInv m) (deltaMs : UInt32) :
    ((motionControllerUpdate m deltaMs).status.currentXMilliMm.toInt -
        m.status.currentXMilliMm.toInt).natAbs ≤ stepInForce m deltaMs ∧
      ((motionControllerUpdate m deltaMs).status.currentYMilliMm.toInt -
        m.status.currentYMilliMm.toInt).natAbs ≤ stepInForce m deltaMs := by
  by_cases hid : m.status.state ≠ .moving ∨ deltaMs = 0
  · rw [update_idle m deltaMs hid, Int.sub_self, Int.sub_self]
    exact ⟨Nat.zero_le _, Nat.zero_le _⟩
  obtain ⟨hm, hd⟩ := not_or.mp hid
  have hm : m.status.state = .moving := by simpa using hm
  have ht := h.moving hm
  have hshort := distance_workspace ht.start h.target
  have hlx := le_distance_x m.startXMilliMm.toInt m.startYMilliMm.toInt
    m.status.targetXMilliMm.toInt m.status.targetYMilliMm.toInt
  have hly := le_distance_y m.startXMilliMm.toInt m.startYMilliMm.toInt
    m.status.targetXMilliMm.toInt m.status.targetYMilliMm.toInt
  rw [← ht.length] at hshort hlx hly
  rw [stepInForce, if_pos hm]
  obtain ⟨r, e, -, he, hc⟩ := update_moving m deltaMs hm hd
  rw [sum_mod] at he
  obtain ⟨hsnapx, hstepx⟩ := tick_axis hlx ht.short hshort he
  obtain ⟨hsnapy, hstepy⟩ := tick_axis hly ht.short hshort he
  rw [← ht.x] at hsnapx hstepx
  rw [← ht.y] at hsnapy hstepy
  rcases hc with ⟨-, hu⟩ | ⟨-, hge, hu⟩ | ⟨-, hlt, hu⟩
  · rw [hu, Int.sub_self, Int.sub_self]
    exact ⟨Nat.zero_le _, Nat.zero_le _⟩
  · rw [hu]
    exact ⟨hsnapx hge, hsnapy hge⟩
  · have hpos : 0 < m.pathLengthMilliMm.toNat := by omega
    have hx := interpolate_toInt ht.start.1 h.target.1 hlt.le hpos
    have hy := interpolate_toInt ht.start.2 h.target.2 hlt.le hpos
    rw [hu]
    simp only [travelTo, hx, hy]
    exact ⟨hstepx hlt, hstepy hlt⟩

/-! ## The line of a move -/

/-- Twice the area between the line of the move and the stage. -/
def offLine (m : MotionController) : Int :=
  (m.status.targetXMilliMm.toInt - m.startXMilliMm.toInt) *
      (m.status.currentYMilliMm.toInt - m.startYMilliMm.toInt) -
    (m.status.targetYMilliMm.toInt - m.startYMilliMm.toInt) *
      (m.status.currentXMilliMm.toInt - m.startXMilliMm.toInt)

theorem Travelling.straight (h : Travelling m) : (offLine m).natAbs <
    max (m.status.targetXMilliMm.toInt - m.startXMilliMm.toInt).natAbs
      (m.status.targetYMilliMm.toInt - m.startYMilliMm.toInt).natAbs := by
  have hn : 0 < m.pathLengthMilliMm.toNat := by have := h.short; omega
  have hne : m.status.targetXMilliMm.toInt ≠ m.startXMilliMm.toInt ∨
      m.status.targetYMilliMm.toInt ≠ m.startYMilliMm.toInt := by
    by_contra hsame
    obtain ⟨hx, hy⟩ := not_or.mp hsame
    have hzero := distance_eq_zero.mpr ⟨not_not.mp hx, not_not.mp hy⟩
    rw [← h.length] at hzero
    omega
  have hcross := lerpCross_lt m.startXMilliMm.toInt m.startYMilliMm.toInt
    m.status.targetXMilliMm.toInt m.status.targetYMilliMm.toInt
    (d := m.distanceTraveledMilliMm.toNat) hn hne
  rw [lerpCross, ← h.x, ← h.y] at hcross
  exact hcross

/-- Less than the longer side, so less than the length of the move: the stage
is within one milli-mm of the line. -/
theorem Travelling.off_line (h : Travelling m) : offLine m * offLine m <
    (m.status.targetXMilliMm.toInt - m.startXMilliMm.toInt) *
        (m.status.targetXMilliMm.toInt - m.startXMilliMm.toInt) +
      (m.status.targetYMilliMm.toInt - m.startYMilliMm.toInt) *
        (m.status.targetYMilliMm.toInt - m.startYMilliMm.toInt) := by
  have hside := h.straight
  rw [lt_max_iff] at hside
  have hx := mul_self_nonneg (m.status.targetXMilliMm.toInt - m.startXMilliMm.toInt)
  have hy := mul_self_nonneg (m.status.targetYMilliMm.toInt - m.startYMilliMm.toInt)
  rcases hside with hside | hside
  · have := Int.natAbs_lt_iff_mul_self_lt.mp hside
    omega
  · have := Int.natAbs_lt_iff_mul_self_lt.mp hside
    omega

theorem Travelling.inside (h : Travelling m) :
    (min m.startXMilliMm.toInt m.status.targetXMilliMm.toInt ≤ m.status.currentXMilliMm.toInt ∧
      m.status.currentXMilliMm.toInt ≤ max m.startXMilliMm.toInt m.status.targetXMilliMm.toInt) ∧
    (min m.startYMilliMm.toInt m.status.targetYMilliMm.toInt ≤ m.status.currentYMilliMm.toInt ∧
      m.status.currentYMilliMm.toInt ≤ max m.startYMilliMm.toInt m.status.targetYMilliMm.toInt) := by
  have hn : 0 < m.pathLengthMilliMm.toNat := by have := h.short; omega
  rw [h.x, h.y]
  exact ⟨lerp_between _ _ h.short.le hn, lerp_between _ _ h.short.le hn⟩

end MotionFirmware.L1.Motion
