import MotionFirmware.Core.Lerp
import MotionFirmware.L1Modules.MotionIsqrt

/-!
# The motion controller over exact integers

Each function of `MotionController` is restated here with `Int` and `Nat`
arithmetic, for coordinates inside the workspace: the differences, the 64-bit
products and the narrowing casts lose nothing there. One tick of any length is
`update_moving`; the 32-bit step and sum may still wrap in it, and that is kept.

`MotionInv` is the invariant of the controller: a move in progress
(`Travelling`) or a stage at rest (`AtRest`), always inside the workspace.
-/
namespace MotionFirmware.L1.Motion

open MotionFirmware.Core

theorem motionAbsI32_toNat (v : Int32) : (motionAbsI32 v).toNat = v.toInt.natAbs := absI32_toNat v

/-! ## The workspace -/

/-- A coordinate in `[0, 100000]`. -/
def Coord (v : Int32) : Prop := 0 ≤ v.toInt ∧ v.toInt ≤ 100000

def InWorkspace (x y : Int32) : Prop := Coord x ∧ Coord y

instance (v : Int32) : Decidable (Coord v) := inferInstanceAs (Decidable (_ ∧ _))

instance (x y : Int32) : Decidable (InWorkspace x y) := inferInstanceAs (Decidable (_ ∧ _))

theorem isTargetInBounds_iff (x y : Int32) :
    motionControllerIsTargetInBounds x y = true ↔ InWorkspace x y := by
  simp only [motionControllerIsTargetInBounds, InWorkspace, Coord, MOTION_MIN_X_MILLI_MM,
    MOTION_MAX_X_MILLI_MM, MOTION_MIN_Y_MILLI_MM, MOTION_MAX_Y_MILLI_MM, Bool.and_eq_true,
    decide_eq_true_eq, ge_iff_le, Int32.le_iff_toInt_le]
  simp [and_assoc]

theorem Coord.sub {s t : Int32} (hs : Coord s) (ht : Coord t) :
    (t - s).toInt = t.toInt - s.toInt := by
  obtain ⟨hs0, hs1⟩ := hs
  obtain ⟨ht0, ht1⟩ := ht
  rw [Int32.toInt_sub, bmod32_eq (by omega) (by omega)]

/-- The floor of the Euclidean distance. -/
def distance (sx sy tx ty : Int) : Nat :=
  Nat.sqrt ((tx - sx).natAbs * (tx - sx).natAbs + (ty - sy).natAbs * (ty - sy).natAbs)

theorem square_toNat {d : UInt32} {n : Nat} (h : d.toNat = n) (hn : n ≤ 2 ^ 31) :
    (d.toUInt64 * d.toUInt64).toNat = n * n ∧ n * n ≤ 2 ^ 62 := by
  have hb : n * n ≤ 2 ^ 62 := le_trans (Nat.mul_le_mul hn hn) (by norm_num)
  refine ⟨?_, hb⟩
  rw [UInt64.toNat_mul, UInt32.toNat_toUInt64, h, Nat.mod_eq_of_lt (by omega)]

/-- The path length is exact whenever the two coordinate differences are. -/
theorem pathLength_toNat {sx sy tx ty : Int32} (hx : (tx - sx).toInt = tx.toInt - sx.toInt)
    (hy : (ty - sy).toInt = ty.toInt - sy.toInt) :
    (motionCalculatePathLength sx sy tx ty).toNat =
      distance sx.toInt sy.toInt tx.toInt ty.toInt := by
  have bx := (tx - sx).le_toInt
  have bx' := (tx - sx).toInt_lt
  have bY := (ty - sy).le_toInt
  have bY' := (ty - sy).toInt_lt
  obtain ⟨h1, h2⟩ := square_toNat (motionAbsI32_toNat (tx - sx)) (by omega)
  obtain ⟨h3, h4⟩ := square_toNat (motionAbsI32_toNat (ty - sy)) (by omega)
  simp only [motionCalculatePathLength]
  rw [motionIsqrtU64_toNat, UInt64.toNat_add, h1, h3, Nat.mod_eq_of_lt (by omega), hx, hy,
    distance]

theorem pathLength_workspace {sx sy tx ty : Int32} (hs : InWorkspace sx sy) (ht : InWorkspace tx ty) :
    (motionCalculatePathLength sx sy tx ty).toNat =
      distance sx.toInt sy.toInt tx.toInt ty.toInt :=
  pathLength_toNat (hs.1.sub ht.1) (hs.2.sub ht.2)

theorem le_distance_x (sx sy tx ty : Int) : (tx - sx).natAbs ≤ distance sx sy tx ty :=
  Nat.le_sqrt.mpr (Nat.le_add_right _ _)

theorem le_distance_y (sx sy tx ty : Int) : (ty - sy).natAbs ≤ distance sx sy tx ty :=
  Nat.le_sqrt.mpr (Nat.le_add_left _ _)

theorem distance_eq_zero {sx sy tx ty : Int} : distance sx sy tx ty = 0 ↔ tx = sx ∧ ty = sy := by
  refine ⟨fun h => ?_, fun ⟨hx, hy⟩ => by simp [distance, hx, hy]⟩
  have := le_distance_x sx sy tx ty
  have := le_distance_y sx sy tx ty
  omega

/-- No path in the workspace is longer than its diagonal. -/
theorem distance_workspace {sx sy tx ty : Int32} (hs : InWorkspace sx sy) (ht : InWorkspace tx ty) :
    distance sx.toInt sy.toInt tx.toInt ty.toInt < 2 ^ 18 := by
  obtain ⟨⟨_, _⟩, ⟨_, _⟩⟩ := hs
  obtain ⟨⟨_, _⟩, ⟨_, _⟩⟩ := ht
  have hx : (tx.toInt - sx.toInt).natAbs ≤ 100000 := by omega
  have hy : (ty.toInt - sy.toInt).natAbs ≤ 100000 := by omega
  have := Nat.mul_le_mul hx hx
  have := Nat.mul_le_mul hy hy
  exact Nat.sqrt_lt.mpr (by omega)

theorem interpolate_toInt {s t : Int32} {d n : UInt32} (hs : Coord s) (ht : Coord t)
    (hd : d.toNat ≤ n.toNat) (hn : 0 < n.toNat) :
    (motionInterpolatePosition s t d n).toInt = lerp s.toInt t.toInt d.toNat n.toNat := by
  obtain ⟨hs0, hs1⟩ := hs
  obtain ⟨ht0, ht1⟩ := ht
  have hd32 := d.toNat_lt
  have hbtw := lerp_between s.toInt t.toInt hd hn
  have hn0 : n ≠ 0 := fun e => by rw [e] at hn; simp at hn
  have hdelta : (t.toInt64 - s.toInt64).toInt = t.toInt - s.toInt := by
    rw [Int64.toInt_sub, Int32.toInt_toInt64, Int32.toInt_toInt64, bmod64_eq (by omega) (by omega)]
  have hmag : ((t.toInt - s.toInt) * (d.toNat : Int)).natAbs ≤ 100000 * 2 ^ 32 := by
    rw [Int.natAbs_mul, Int.natAbs_natCast]
    exact Nat.mul_le_mul (by omega) (by omega)
  have hscaled : ((t.toInt64 - s.toInt64) * i64OfU32 d).toInt = (t.toInt - s.toInt) * d.toNat := by
    rw [Int64.toInt_mul, hdelta, i64OfU32_toInt, bmod64_eq (by omega) (by omega)]
  have hquot : ((t.toInt64 - s.toInt64) * i64OfU32 d / i64OfU32 n).toInt =
      lerp s.toInt t.toInt d.toNat n.toNat - s.toInt := by
    have e : lerp s.toInt t.toInt d.toNat n.toNat - s.toInt =
        ((t.toInt - s.toInt) * d.toNat).tdiv n.toNat := by unfold lerp; omega
    rw [Int64.toInt_div, hscaled, i64OfU32_toInt, ← e, bmod64_eq (by omega) (by omega)]
  simp only [motionInterpolatePosition]
  rw [if_neg hn0, Int64.toInt_toInt32, Int64.toInt_add, hquot, Int32.toInt_toInt64,
    bmod64_eq (by omega) (by omega), bmod32_eq (by omega) (by omega)]
  omega

/-! ## One tick -/

/-- `distance_numerator` over the naturals. -/
def numerator (m : MotionController) (deltaMs : UInt32) : Nat :=
  m.status.feedrateMilliMmPerS.toNat * deltaMs.toNat + m.remainderMilliMmMs.toNat

/-- The 64-bit numerator of a tick never wraps. -/
theorem numerator_toNat (m : MotionController) (deltaMs : UInt32) :
    (m.status.feedrateMilliMmPerS.toUInt64 * deltaMs.toUInt64
      + m.remainderMilliMmMs.toUInt64).toNat = numerator m deltaMs := by
  have hf := m.status.feedrateMilliMmPerS.toNat_lt
  have hd := deltaMs.toNat_lt
  have hr := m.remainderMilliMmMs.toNat_lt
  have hmul : m.status.feedrateMilliMmPerS.toNat * deltaMs.toNat ≤ (2 ^ 32 - 1) * (2 ^ 32 - 1) :=
    Nat.mul_le_mul (by omega) (by omega)
  simp only [UInt64.toNat_add, UInt64.toNat_mul, UInt32.toNat_toUInt64, numerator]
  rw [Nat.mod_eq_of_lt (a := m.status.feedrateMilliMmPerS.toNat * deltaMs.toNat) (by omega),
    Nat.mod_eq_of_lt (by omega)]

/-- The tick that stays on the path: the new distance and the positions
interpolated from it. -/
def travelTo (m : MotionController) (d : UInt32) : MotionController :=
  { m with
    distanceTraveledMilliMm := d
    status := { m.status with
      currentXMilliMm := motionInterpolatePosition m.startXMilliMm m.status.targetXMilliMm d
        m.pathLengthMilliMm
      currentYMilliMm := motionInterpolatePosition m.startYMilliMm m.status.targetYMilliMm d
        m.pathLengthMilliMm } }

/-- The 32-bit step of a tick. -/
def tickStep (m : MotionController) (deltaMs : UInt32) : Nat := numerator m deltaMs / 1000 % 2 ^ 32

/-- Everything a tick of a move in progress can do, for every tick length:
nothing but the remainder, the snap to the target, or an advance. The step
and the sum are taken modulo 2^32, as the code takes them. -/
theorem update_moving (m : MotionController) (deltaMs : UInt32) (hm : m.status.state = .moving)
    (hd : deltaMs ≠ 0) : ∃ r d : UInt32, r.toNat = numerator m deltaMs % 1000 ∧
      d.toNat = (m.distanceTraveledMilliMm.toNat + tickStep m deltaMs) % 2 ^ 32 ∧
      ((tickStep m deltaMs = 0 ∧
          motionControllerUpdate m deltaMs = { m with remainderMilliMmMs := r }) ∨
        (tickStep m deltaMs ≠ 0 ∧ m.pathLengthMilliMm.toNat ≤ d.toNat ∧
          motionControllerUpdate m deltaMs = motionFinishMove m) ∨
        (tickStep m deltaMs ≠ 0 ∧ d.toNat < m.pathLengthMilliMm.toNat ∧
          motionControllerUpdate m deltaMs = travelTo { m with remainderMilliMmMs := r } d)) := by
  have hN := numerator_toNat m deltaMs
  generalize hn : m.status.feedrateMilliMmPerS.toUInt64 * deltaMs.toUInt64
    + m.remainderMilliMmMs.toUInt64 = n at hN
  have hstep : ((n / 1000).toUInt32).toNat = tickStep m deltaMs := by
    rw [UInt64.toNat_toUInt32, UInt64.toNat_div, hN]; rfl
  have hstep0 : (n / 1000).toUInt32 = 0 ↔ tickStep m deltaMs = 0 := by
    rw [← hstep, ← UInt32.toNat_inj]; simp
  refine ⟨(n % 1000).toUInt32, m.distanceTraveledMilliMm + (n / 1000).toUInt32, ?_, ?_, ?_⟩
  · rw [UInt64.toNat_toUInt32, UInt64.toNat_mod, hN]
    exact Nat.mod_eq_of_lt (lt_trans (Nat.mod_lt _ (by decide)) (by decide))
  · rw [UInt32.toNat_add, hstep]
  · simp only [motionControllerUpdate, hm, hn, ne_eq, not_true_eq_false, hd, or_self, if_false]
    split
    · rename_i h0; exact Or.inl ⟨hstep0.mp h0, rfl⟩
    · rename_i h0
      right
      split
      · rename_i hge
        exact Or.inl ⟨fun e => h0 (hstep0.mpr e), UInt32.le_iff_toNat_le.mp hge, rfl⟩
      · rename_i hlt
        exact Or.inr ⟨fun e => h0 (hstep0.mpr e),
          UInt32.lt_iff_toNat_lt.mp (UInt32.not_le.mp hlt), by simp only [travelTo, hm]⟩

/-- A tick does nothing unless a move is in progress and time passes. -/
theorem update_idle (m : MotionController) (deltaMs : UInt32)
    (h : m.status.state ≠ .moving ∨ deltaMs = 0) : motionControllerUpdate m deltaMs = m := by
  rw [motionControllerUpdate, if_pos h]

/-- A tick can end a move and changes no other state. -/
theorem update_state (m : MotionController) (deltaMs : UInt32) :
    (motionControllerUpdate m deltaMs).status.state = m.status.state ∨
      m.status.state = .moving ∧ (motionControllerUpdate m deltaMs).status.state = .done := by
  by_cases hid : m.status.state ≠ .moving ∨ deltaMs = 0
  · exact Or.inl (by rw [update_idle m deltaMs hid])
  · obtain ⟨hm, hd⟩ := not_or.mp hid
    have hm : m.status.state = .moving := by simpa using hm
    obtain ⟨r, d, -, -, ⟨-, he⟩ | ⟨-, -, he⟩ | ⟨-, -, he⟩⟩ := update_moving m deltaMs hm hd
    · exact Or.inl (by rw [he])
    · exact Or.inr ⟨hm, by rw [he]; rfl⟩
    · exact Or.inl (by rw [he]; rfl)

/-! ## The invariant -/

/-- A move in progress. -/
structure Travelling (m : MotionController) : Prop where
  feedrate : m.status.feedrateMilliMmPerS ≠ 0
  start : InWorkspace m.startXMilliMm m.startYMilliMm
  length : m.pathLengthMilliMm.toNat = distance m.startXMilliMm.toInt m.startYMilliMm.toInt
    m.status.targetXMilliMm.toInt m.status.targetYMilliMm.toInt
  short : m.distanceTraveledMilliMm.toNat < m.pathLengthMilliMm.toNat
  remainder : m.remainderMilliMmMs.toNat < 1000
  x : m.status.currentXMilliMm.toInt = lerp m.startXMilliMm.toInt m.status.targetXMilliMm.toInt
    m.distanceTraveledMilliMm.toNat m.pathLengthMilliMm.toNat
  y : m.status.currentYMilliMm.toInt = lerp m.startYMilliMm.toInt m.status.targetYMilliMm.toInt
    m.distanceTraveledMilliMm.toNat m.pathLengthMilliMm.toNat

/-- No move in progress: nothing of the last one is left. -/
structure AtRest (m : MotionController) : Prop where
  feedrate : m.status.feedrateMilliMmPerS = 0
  length : m.pathLengthMilliMm = 0
  traveled : m.distanceTraveledMilliMm = 0
  remainder : m.remainderMilliMmMs = 0
  x : m.status.targetXMilliMm = m.status.currentXMilliMm
  y : m.status.targetYMilliMm = m.status.currentYMilliMm

structure MotionInv (m : MotionController) : Prop where
  current : InWorkspace m.status.currentXMilliMm m.status.currentYMilliMm
  target : InWorkspace m.status.targetXMilliMm m.status.targetYMilliMm
  moving : m.status.state = .moving → Travelling m
  rest : m.status.state ≠ .moving → AtRest m

theorem motionInv_init : MotionInv motionControllerInit where
  current := by decide
  target := by decide
  moving h := by cases h
  rest _ := ⟨rfl, rfl, rfl, rfl, rfl, rfl⟩

theorem motionInv_finish {m : MotionController} (h : InWorkspace m.status.targetXMilliMm
    m.status.targetYMilliMm) : MotionInv (motionFinishMove m) where
  current := h
  target := h
  moving h := by cases h
  rest _ := ⟨rfl, rfl, rfl, rfl, rfl, rfl⟩

theorem motionInv_halt {m : MotionController} (h : MotionInv m) {st : MotionState}
    (hst : st ≠ .moving) : MotionInv (haltIn m st) where
  current := h.current
  target := h.current
  moving e := absurd e hst
  rest _ := ⟨rfl, rfl, rfl, rfl, rfl, rfl⟩

/-- Halting a stage at rest changes at most its state. -/
theorem AtRest.halt {m : MotionController} (h : AtRest m) {st : MotionState}
    (hst : m.status.state = st) : haltIn m st = m := by
  obtain ⟨hf, hl, ht, hr, hx, hy⟩ := h
  obtain ⟨⟨_, _, _, _, _, _⟩, _, _, _, _, _⟩ := m
  simp only at hf hl ht hr hx hy hst
  simp only [haltIn, hf, hl, ht, hr, hx, hy, hst]

theorem motionInv_stop {m : MotionController} (h : MotionInv m) : MotionInv (motionControllerStop m) := by
  unfold motionControllerStop
  split
  · exact h
  · exact motionInv_halt h (by decide)

theorem motionInv_setFault {m : MotionController} (h : MotionInv m) :
    MotionInv (motionControllerSetFault m) := motionInv_halt h (by decide)

theorem motionInv_clearFault {m : MotionController} (h : MotionInv m) :
    MotionInv (motionControllerClearFault m) := by
  unfold motionControllerClearFault
  split
  · rename_i hf
    have hr := h.rest (by rw [hf]; decide)
    refine ⟨h.current, h.target, (fun e => by cases e), fun _ => ?_⟩
    exact ⟨hr.feedrate, hr.length, hr.traveled, hr.remainder, hr.x, hr.y⟩
  · exact h

theorem Travelling.between {m : MotionController} (h : Travelling m)
    (ht : InWorkspace m.status.targetXMilliMm m.status.targetYMilliMm) :
    InWorkspace m.status.currentXMilliMm m.status.currentYMilliMm := by
  have hn : 0 < m.pathLengthMilliMm.toNat := by have := h.short; omega
  have hx := lerp_between m.startXMilliMm.toInt m.status.targetXMilliMm.toInt h.short.le hn
  have hy := lerp_between m.startYMilliMm.toInt m.status.targetYMilliMm.toInt h.short.le hn
  rw [← h.x] at hx
  rw [← h.y] at hy
  obtain ⟨⟨_, _⟩, ⟨_, _⟩⟩ := h.start
  obtain ⟨⟨_, _⟩, ⟨_, _⟩⟩ := ht
  exact ⟨⟨by omega, by omega⟩, ⟨by omega, by omega⟩⟩

/-- A move that has just started: nothing travelled, nothing carried. -/
structure Started (s : MotionController) : Prop where
  inv : MotionInv s
  moving : s.status.state = .moving
  traveled : s.distanceTraveledMilliMm = 0
  remainder : s.remainderMilliMmMs = 0

/-- `motion_controller_start_move` to an in-bounds target from a stage inside
the workspace and not in `FAULT`, whatever the rest of the old record was: the
move is over at once (length 0) or starts from the current position. -/
theorem startMove_accepts {m : MotionController} {tx ty : Int32} {f : UInt32}
    (hf : m.status.state ≠ .fault) (hcur : InWorkspace m.status.currentXMilliMm
      m.status.currentYMilliMm) (hz : f ≠ 0) (ht : InWorkspace tx ty) :
    ∃ s, motionControllerStartMove m tx ty f = (true, s) ∧ MotionInv s ∧
      s.status.targetXMilliMm = tx ∧ s.status.targetYMilliMm = ty ∧
      s.status.currentXMilliMm = m.status.currentXMilliMm ∧
      s.status.currentYMilliMm = m.status.currentYMilliMm ∧
      ((distance m.status.currentXMilliMm.toInt m.status.currentYMilliMm.toInt tx.toInt ty.toInt = 0 ∧
          s.status.state = .done) ∨
        (Started s ∧ s.startXMilliMm = m.status.currentXMilliMm ∧
          s.startYMilliMm = m.status.currentYMilliMm ∧ s.status.feedrateMilliMmPerS = f ∧
          0 < s.pathLengthMilliMm.toNat ∧ s.pathLengthMilliMm.toNat =
            distance m.status.currentXMilliMm.toInt m.status.currentYMilliMm.toInt tx.toInt ty.toInt)) := by
  have hlen := pathLength_workspace hcur ht
  unfold motionControllerStartMove
  rw [if_neg (by simp [hf, hz])]
  simp only
  split
  · rename_i h0
    rw [h0] at hlen
    have hd := by simpa using hlen.symm
    obtain ⟨ex, ey⟩ := distance_eq_zero.mp hd
    exact ⟨_, rfl, motionInv_finish ht, rfl, rfl, Int32.toInt_inj.mp ex, Int32.toInt_inj.mp ey,
      Or.inl ⟨hd, rfl⟩⟩
  · rename_i h0
    have hpos : 0 < (motionCalculatePathLength m.status.currentXMilliMm m.status.currentYMilliMm
        tx ty).toNat := Nat.pos_of_ne_zero fun e => h0 (UInt32.toNat_inj.mp (by simpa using e))
    refine ⟨_, rfl, ?inv, rfl, rfl, rfl, rfl,
      Or.inr ⟨⟨?inv, rfl, rfl, rfl⟩, rfl, rfl, rfl, hpos, hlen⟩⟩
    refine ⟨hcur, ht, fun _ => ?_, fun e => absurd rfl e⟩
    exact ⟨hz, hcur, hlen, by simpa using hpos, by simp, by simp, by simp⟩

theorem motionInv_update {m : MotionController} (h : MotionInv m) (deltaMs : UInt32) :
    MotionInv (motionControllerUpdate m deltaMs) := by
  by_cases hid : m.status.state ≠ .moving ∨ deltaMs = 0
  · rw [update_idle m deltaMs hid]; exact h
  obtain ⟨hm, hd⟩ := not_or.mp hid
  have hm : m.status.state = .moving := by simpa using hm
  have ht := h.moving hm
  obtain ⟨r, d, hr, -, ⟨-, he⟩ | ⟨-, -, he⟩ | ⟨-, hlt, he⟩⟩ := update_moving m deltaMs hm hd
  · rw [he]
    exact ⟨h.current, h.target, fun _ => ⟨ht.feedrate, ht.start, ht.length, ht.short,
      by rw [hr]; exact Nat.mod_lt _ (by decide), ht.x, ht.y⟩, fun e => absurd hm e⟩
  · rw [he]; exact motionInv_finish h.target
  · have hpos : 0 < m.pathLengthMilliMm.toNat := by omega
    have htr : Travelling (travelTo { m with remainderMilliMmMs := r } d) :=
      ⟨ht.feedrate, ht.start, ht.length, hlt,
        by show r.toNat < 1000; rw [hr]; exact Nat.mod_lt _ (by decide),
        interpolate_toInt ht.start.1 h.target.1 hlt.le hpos,
        interpolate_toInt ht.start.2 h.target.2 hlt.le hpos⟩
    rw [he]
    exact ⟨htr.between h.target, h.target, fun _ => htr, fun e => absurd hm e⟩

end MotionFirmware.L1.Motion
