import Mathlib.Data.Int.Order.Basic
import Mathlib.Tactic.Ring

/-!
# Truncated linear interpolation

`lerp s t d n` is the integer point `d / n` of the way from `s` to `t`,
with the offset truncated towards `s` (C's signed division).

* `lerp_between`: for `d ≤ n` it never leaves the segment.
* `lerp_step`: on a path no shorter than the segment it moves at most as far as
  `d` does.
* `lerpCross_lt`: in two coordinates it stays within one unit of the line.
-/
namespace MotionFirmware.Core

def lerp (s t : Int) (d n : Nat) : Int := s + ((t - s) * d).tdiv n

@[simp] theorem lerp_zero (s t : Int) (n : Nat) : lerp s t 0 n = s := by simp [lerp]

theorem lerp_full (s t : Int) (n : Nat) (h : 0 < n) : lerp s t n n = t := by
  rw [lerp, Int.mul_tdiv_cancel _ (by omega)]; omega

/-- Moving further never goes back (towards a larger target). -/
theorem lerp_mono {s t : Int} {d e n : Nat} (hst : s ≤ t) (hde : d ≤ e) (hn : 0 < n) :
    lerp s t d n ≤ lerp s t e n := by
  have h : (t - s) * d ≤ (t - s) * e := Int.mul_le_mul_of_nonneg_left (by omega) (by omega)
  have := Int.tdiv_le_tdiv (c := (n : Int)) (by omega) h
  unfold lerp; omega

/-- Reflection: interpolation commutes with negating both ends. -/
theorem lerp_neg (s t : Int) (d n : Nat) : lerp (-s) (-t) d n = -lerp s t d n := by
  have h : (-t - -s) * (d : Int) = -((t - s) * d) := by ring
  rw [lerp, lerp, h, Int.neg_tdiv]; omega

theorem lerp_between_of_le {s t : Int} {d n : Nat} (hst : s ≤ t) (hd : d ≤ n) (hn : 0 < n) :
    s ≤ lerp s t d n ∧ lerp s t d n ≤ t := by
  have h0 := lerp_mono hst (Nat.zero_le d) hn
  have h1 := lerp_mono hst hd hn
  rw [lerp_zero] at h0
  rw [lerp_full s t n hn] at h1
  exact ⟨h0, h1⟩

/-- The interpolated point lies between the two ends. -/
theorem lerp_between (s t : Int) {d n : Nat} (hd : d ≤ n) (hn : 0 < n) :
    min s t ≤ lerp s t d n ∧ lerp s t d n ≤ max s t := by
  rcases Int.le_total s t with h | h
  · have := lerp_between_of_le h hd hn; omega
  · have := lerp_between_of_le (s := -s) (t := -t) (by omega) hd hn
    rw [lerp_neg] at this; omega

/-! ## Steps -/

/-- Towards a larger target the offset is the floor of its exact value. -/
theorem lerp_floor {s t : Int} {d n : Nat} (hst : s ≤ t) (hn : 0 < n) :
    n * (lerp s t d n - s) ≤ (t - s) * d ∧ (t - s) * d < n * (lerp s t d n - s) + n := by
  have hnum : 0 ≤ (t - s) * (d : Int) := Int.mul_nonneg (by omega) (by omega)
  have hq : lerp s t d n - s = (t - s) * d / n := by
    rw [lerp, Int.tdiv_eq_ediv_of_nonneg hnum]; omega
  have hlow := Int.mul_ediv_self_le (x := (t - s) * d) (k := (n : Int)) (by omega)
  have hhigh := Int.lt_mul_ediv_self_add (x := (t - s) * d) (k := (n : Int)) (by omega)
  rw [hq]
  exact ⟨hlow, hhigh⟩

theorem lerp_step_of_le {s t : Int} {d e n : Nat} (hst : s ≤ t) (hde : d ≤ e) (hn : 0 < n)
    (hlen : (t - s).natAbs ≤ n) :
    lerp s t d n ≤ lerp s t e n ∧ lerp s t e n ≤ lerp s t d n + (e - d) := by
  refine ⟨lerp_mono hst hde hn, ?_⟩
  obtain ⟨-, hd⟩ := lerp_floor (d := d) hst hn
  obtain ⟨he, -⟩ := lerp_floor (d := e) hst hn
  have hextra : (t - s) * (e - d : Int) ≤ n * (e - d : Int) :=
    Int.mul_le_mul_of_nonneg_right (by omega) (by omega)
  have hsplit : (t - s) * (e : Int) = (t - s) * d + (t - s) * (e - d) := by ring
  have hlt : n * (lerp s t e n - s) < n * (lerp s t d n - s + 1 + (e - d)) := by
    calc n * (lerp s t e n - s) ≤ (t - s) * d + n * (e - d) := by omega
      _ < n * (lerp s t d n - s) + n + n * (e - d) := by omega
      _ = n * (lerp s t d n - s + 1 + (e - d)) := by ring
  have := Int.lt_of_mul_lt_mul_left hlt (by omega)
  omega

/-- On a path no shorter than the segment, a step along the path moves the
point by no more. -/
theorem lerp_step (s t : Int) {d e n : Nat} (hde : d ≤ e) (hn : 0 < n) (hlen : (t - s).natAbs ≤ n) :
    (lerp s t e n - lerp s t d n).natAbs ≤ e - d := by
  rcases Int.le_total s t with h | h
  · have := lerp_step_of_le h hde hn hlen; omega
  · have := lerp_step_of_le (s := -s) (t := -t) (by omega) hde hn (by omega)
    rw [lerp_neg, lerp_neg] at this
    omega

/-! ## The line -/

/-- Twice the area between the segment and the interpolated point. -/
def lerpCross (sx sy tx ty : Int) (d n : Nat) : Int :=
  (tx - sx) * (lerp sy ty d n - sy) - (ty - sy) * (lerp sx tx d n - sx)

theorem lerpCross_neg_x (sx sy tx ty : Int) (d n : Nat) :
    lerpCross (-sx) sy (-tx) ty d n = -lerpCross sx sy tx ty d n := by
  unfold lerpCross
  rw [lerp_neg]; ring

theorem lerpCross_neg_y (sx sy tx ty : Int) (d n : Nat) :
    lerpCross sx (-sy) tx (-ty) d n = -lerpCross sx sy tx ty d n := by
  unfold lerpCross
  rw [lerp_neg]; ring

theorem lerpCross_lt_of_le {sx sy tx ty : Int} {d n : Nat} (hx : sx ≤ tx) (hy : sy ≤ ty) (hn : 0 < n)
    (hne : sx < tx ∨ sy < ty) :
    -max (tx - sx) (ty - sy) < lerpCross sx sy tx ty d n ∧
      lerpCross sx sy tx ty d n < max (tx - sx) (ty - sy) := by
  obtain ⟨hx1, hx2⟩ := lerp_floor (d := d) hx hn
  obtain ⟨hy1, hy2⟩ := lerp_floor (d := d) hy hn
  unfold lerpCross
  generalize lerp sx tx d n - sx = qx at hx1 hx2 ⊢
  generalize lerp sy ty d n - sy = qy at hy1 hy2 ⊢
  have hdx : 0 ≤ tx - sx := by omega
  have hdy : 0 ≤ ty - sy := by omega
  have hm : 0 < max (tx - sx) (ty - sy) := by omega
  have hmx : tx - sx ≤ max (tx - sx) (ty - sy) := le_max_left _ _
  have hmy : ty - sy ≤ max (tx - sx) (ty - sy) := le_max_right _ _
  generalize tx - sx = dx at *
  generalize ty - sy = dy at *
  generalize max dx dy = m at *
  -- each coordinate lags behind by less than one unit: compare after multiplying by `n`
  have h1 : dx * (n * qy) ≤ dx * (dy * d) := Int.mul_le_mul_of_nonneg_left hy1 hdx
  have h2 : dx * (dy * d) ≤ dx * (n * qy + n - 1) := Int.mul_le_mul_of_nonneg_left (by omega) hdx
  have h3 : dy * (n * qx) ≤ dy * (dx * d) := Int.mul_le_mul_of_nonneg_left hx1 hdy
  have h4 : dy * (dx * d) ≤ dy * (n * qx + n - 1) := Int.mul_le_mul_of_nonneg_left (by omega) hdy
  have h5 : dx * (n - 1) ≤ m * (n - 1) := Int.mul_le_mul_of_nonneg_right hmx (by omega)
  have h6 : dy * (n - 1) ≤ m * (n - 1) := Int.mul_le_mul_of_nonneg_right hmy (by omega)
  have hcomm : dx * (dy * d) = dy * (dx * d) := by ring
  have e2 : dx * (n * qy + n - 1) = dx * (n * qy) + dx * (n - 1) := by ring
  have e4 : dy * (n * qx + n - 1) = dy * (n * qx) + dy * (n - 1) := by ring
  have hmn : m * (n - 1) = n * m - m := by ring
  have hcross : n * (dx * qy - dy * qx) = dx * (n * qy) - dy * (n * qx) := by ring
  have hlow : (n : Int) * (-m) < n * (dx * qy - dy * qx) := by
    rw [Int.mul_neg]; omega
  have hhigh : n * (dx * qy - dy * qx) < n * m := by omega
  exact ⟨Int.lt_of_mul_lt_mul_left hlow (by omega), Int.lt_of_mul_lt_mul_left hhigh (by omega)⟩

/-- The interpolated point is off the line by less than one unit. -/
theorem lerpCross_lt (sx sy tx ty : Int) {d n : Nat} (hn : 0 < n) (hne : tx ≠ sx ∨ ty ≠ sy) :
    (lerpCross sx sy tx ty d n).natAbs < max (tx - sx).natAbs (ty - sy).natAbs := by
  rcases Int.le_total sx tx with hx | hx <;> rcases Int.le_total sy ty with hy | hy
  · have := lerpCross_lt_of_le (d := d) hx hy hn (by omega)
    omega
  · have hsy : -sy ≤ -ty := by omega
    have := lerpCross_lt_of_le (d := d) hx hsy hn (by omega)
    rw [lerpCross_neg_y] at this
    omega
  · have hsx : -sx ≤ -tx := by omega
    have := lerpCross_lt_of_le (d := d) hsx hy hn (by omega)
    rw [lerpCross_neg_x] at this
    omega
  · have hsx : -sx ≤ -tx := by omega
    have hsy : -sy ≤ -ty := by omega
    have := lerpCross_lt_of_le (d := d) hsx hsy hn (by omega)
    rw [lerpCross_neg_x, lerpCross_neg_y] at this
    omega

end MotionFirmware.Core
