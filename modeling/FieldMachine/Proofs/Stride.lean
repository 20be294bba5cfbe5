import Mathlib
import FieldMachine.Proofs.Single

/-!
# One step of the way

A step of a walk is worked out in single precision: the way to the goal is divided by
its length, made as long as the step, added to the place of the walker and rounded.
For places within a million units of the origin none of this rounding matters: a step
shorter than the way that is left leads to a place between the walker and its goal,
in both coordinates, and at least one unit closer to it (`Point.advance_closer`).
-/

namespace FieldMachine

set_option autoImplicit false

open Single

/-! ## Whole numbers in single precision -/

theorem toNat_toUInt32 (n : Int32) : (n.toUInt32.toNat : ℤ) = n.toInt % 2 ^ 32 := by
  show (n.toBitVec.toNat : ℤ) = n.toBitVec.toInt % (2 ^ 32 : ℕ)
  rw [BitVec.toInt_eq_toNat_bmod, Int.bmod_emod]
  exact (Int.emod_eq_of_lt (by omega) (by exact_mod_cast n.toBitVec.isLt)).symm

theorem toNat_toUInt32_of_nonneg {n : Int32} (positive : 0 ≤ n.toInt) :
    (n.toUInt32.toNat : ℤ) = n.toInt := by
  have above := n.toInt_lt
  rw [toNat_toUInt32]
  omega

theorem toNat_neg_toUInt32 {n : Int32} (negative : n.toInt < 0) :
    ((-n).toUInt32.toNat : ℤ) = -n.toInt := by
  have low := n.le_toInt
  have value := toNat_toUInt32 n
  have below : n.toUInt32.toNat < 2 ^ 32 := n.toUInt32.toNat_lt
  rw [Int32.toUInt32_neg, UInt32.toNat_neg, UInt32.size]
  omega

/-- A whole number in single precision is rounded like every other number. -/
theorem exists_holds_toSingle (n : Int32) : ∃ v, Nearest n.toInt v ∧ Holds (toSingle n) v := by
  unfold toSingle
  split
  case isTrue negative =>
    rw [Int32.lt_iff_toInt_lt, Int32.toInt_zero] at negative
    obtain ⟨v, nearest, holds⟩ := exists_holds_toFloat32 (-n).toUInt32
    refine ⟨-v, ?_, holds.neg⟩
    have magnitude : (((-n).toUInt32.toNat : ℕ) : ℝ) = -n.toInt := by
      exact_mod_cast toNat_neg_toUInt32 negative
    rw [← neg_neg (n.toInt : ℝ), ← magnitude]
    exact nearest.neg
  case isFalse positive =>
    rw [Int32.lt_iff_toInt_lt, Int32.toInt_zero, not_lt] at positive
    obtain ⟨v, nearest, holds⟩ := exists_holds_toFloat32 n.toUInt32
    refine ⟨v, ?_, holds⟩
    rwa [show (n.toInt : ℝ) = n.toUInt32.toNat by
      exact_mod_cast (toNat_toUInt32_of_nonneg positive).symm]

theorem holds_toSingle {n : Int32} (small : |n.toInt| < 2 ^ 24) : Holds (toSingle n) n.toInt := by
  have close : |(n.toInt : ℝ)| < 2 ^ (24 + (0 : ℤ)) := by exact_mod_cast small
  obtain ⟨v, nearest, holds⟩ := exists_holds_toSingle n
  rwa [nearest.eq_of_grid (k := n.toInt) (by norm_num) close (by simp)] at holds

theorem Single.Holds.exists_grid {f : Float32} {x : ℝ} (holds : Holds f x) :
    ∃ k g : ℤ, -149 ≤ g ∧ |x| < 2 ^ (24 + g) ∧ x = k * 2 ^ g := by
  obtain ⟨s, -, rfl⟩ | ⟨s, m, e, some, -, fits, rfl⟩ := Denotes.zero_or_finite holds
  · exact ⟨0, 0, by norm_num, by norm_num, by norm_num⟩
  · refine ⟨s.apply m, e, fits.low, ?_, ?_⟩
    · rw [abs_signed, abs_of_nonneg (by positivity), zpow_add₀ two_ne_zero]
      have : (m : ℝ) < 2 ^ 24 := by exact_mod_cast fits.small
      gcongr
      simpa using this
    · rw [cast_apply]
      cases s
      · exact (neg_mul _ _).symm
      · rfl

/-- Half of the number of halves, rounded up, is nearest. -/
theorem half_count_close {count : ℕ} {x : ℝ} (below : count ≤ x * 2) (above : x * 2 < count + 1) :
    |(((count + 1) / 2 : ℕ) : ℝ) - x| ≤ 1 / 2 := by
  rw [abs_le]
  rcases Nat.even_or_odd' count with ⟨half, rfl | rfl⟩
  · rw [show (2 * half + 1) / 2 = half by omega]
    push_cast at below above
    constructor <;> linarith
  · rw [show (2 * half + 1 + 1) / 2 = half + 1 by omega]
    push_cast at below above ⊢
    constructor <;> linarith

theorem toInt_ofIntClamp {n : ℤ} (small : |n| ≤ 2 ^ 30) : (Int32.ofIntClamp n).toInt = n := by
  rw [abs_le] at small
  refine Int32.toInt_ofIntClamp ?_ ?_
  · rw [Int32.toInt_minValue]
    omega
  · rw [Int32.toInt_maxValue]
    omega

theorem roundToInt_close {f : Float32} {x : ℝ} (holds : Holds f x) (small : |x| < 2 ^ 30) :
    |((roundToInt f).toInt : ℝ) - x| ≤ 1 / 2 := by
  obtain ⟨k, g, low, room, grid⟩ := holds.abs.exists_grid
  rw [abs_abs] at room
  obtain ⟨v, nearest, doubled⟩ := holds.abs.mul holds_two (by
    rw [abs_mul, abs_abs, abs_two]
    calc |x| * 2 ≤ 2 ^ 30 * 2 := by gcongr
      _ ≤ 2 ^ 126 := by norm_num)
  have exact : v = |x| * 2 := by
    refine @Nearest.eq_of_grid _ _ nearest k (g + 1) (by omega) ?_ ?_
    · rw [abs_mul, abs_abs, abs_two, ← add_assoc, zpow_add_one₀ two_ne_zero]
      gcongr
    · rw [grid, zpow_add_one₀ two_ne_zero]
      ring
  subst exact
  have halves := doubled.toUInt32 (by positivity) (by
    calc |x| * 2 < 2 ^ 30 * 2 := by gcongr
      _ ≤ 2 ^ 32 := by norm_num)
  have below := Nat.floor_le (show 0 ≤ |x| * 2 by positivity)
  have above := Nat.lt_floor_add_one (|x| * 2)
  rw [← halves] at below above
  have sign : f < 0 ↔ x < 0 := holds.lt_iff holds_zero
  have close := half_count_close below above
  have fits : (f.abs * 2).toUInt32.toNat ≤ 2 ^ 31 := by
    have : ((f.abs * 2).toUInt32.toNat : ℝ) ≤ 2 ^ 31 := below.trans (by linarith)
    exact_mod_cast this
  unfold roundToInt
  generalize (f.abs * 2).toUInt32.toNat = count at close fits
  have size : |(((count + 1) / 2 : ℕ) : ℤ)| ≤ 2 ^ 30 := by
    rw [Nat.abs_cast]
    omega
  dsimp only
  generalize (count + 1) / 2 = n at close size
  split
  case isTrue negative =>
    rw [abs_of_neg (sign.mp negative)] at close
    rw [toInt_ofIntClamp (by rwa [abs_neg]), abs_sub_comm]
    convert close using 2
    push_cast
    ring
  case isFalse positive =>
    rw [abs_of_nonneg (not_lt.mp (mt sign.mpr positive))] at close
    rw [toInt_ofIntClamp size]
    exact_mod_cast close

/-! ## One coordinate -/

theorem Single.Nearest.close_mul {x v : ℝ} (nearest : Nearest x v)
    (normal : x = 0 ∨ (2 : ℝ) ^ (-126 : ℤ) ≤ |x|) : |v - x| ≤ |x| * 2 ^ (-24 : ℤ) := by
  rcases normal with rfl | normal
  · have : v = 0 := nearest.eq_of_grid (k := 0) (g := 0) (by norm_num) (by norm_num) (by norm_num)
    simp [this]
  · exact nearest.close normal

theorem Single.Nearest.nonneg {x v : ℝ} (nearest : Nearest x v) (positive : 0 ≤ x) : 0 ≤ v := by
  obtain ⟨n, room⟩ := pow_unbounded_of_one_lt x one_lt_two
  have small : |x| < 2 ^ (24 + (n : ℤ)) := by
    rw [abs_of_nonneg positive]
    refine room.trans ?_
    rw [← zpow_natCast]
    exact two_zpow_lt.mpr (by omega)
  have low := nearest.ge_of_ge 0 n (by omega) small (by simpa using positive)
  simpa using low

theorem Single.Nearest.abs_le_two_pow {x v : ℝ} (nearest : Nearest x v) {n : ℕ}
    (le : |x| ≤ 2 ^ n) : |v| ≤ 2 ^ n := by
  have small : |x| < 2 ^ (24 + (n : ℤ)) := by
    refine le.trans_lt ?_
    rw [← zpow_natCast]
    exact two_zpow_lt.mpr (by omega)
  rw [abs_le] at le ⊢
  have above := nearest.le_of_le 1 n (by omega) small (by simpa using le.2)
  have below := nearest.ge_of_ge (-1) n (by omega) small (by simpa using le.1)
  simp only [Int.cast_neg, Int.cast_one, neg_mul, one_mul, zpow_natCast] at above below
  exact ⟨below, above⟩

/-- Between a whole number and a longer length there is room for what rounding adds. -/
theorem longer_of_lt {f : Float32} {s : ℤ} {length : ℝ} (holds : Holds f length) (positive : 0 ≤ s)
    (small : s < 2 ^ 24) (lt : s < length) : s * (1 + 2 ^ (-24 : ℤ)) ≤ length := by
  obtain ⟨k, g, -, room, rfl⟩ := holds.exists_grid
  have positive : (0 : ℝ) ≤ s := by exact_mod_cast positive
  have small : (s : ℝ) < 2 ^ 24 := by exact_mod_cast small
  -- a whole number and the length are multiples of the smaller of one and the unit of the length
  obtain ⟨n, same⟩ := exists_coarser s (min_le_left 0 g)
  obtain ⟨m, same'⟩ := exists_coarser k (min_le_right 0 g)
  rw [zpow_zero, mul_one] at same
  have unit : (0 : ℝ) < 2 ^ min 0 g := by positivity
  have apart : (n + 1 : ℝ) * 2 ^ min 0 g ≤ k * 2 ^ g := by
    rw [same, same'] at lt
    have : n < m := by exact_mod_cast lt_of_mul_lt_mul_right lt unit.le
    rw [same']
    gcongr
    exact_mod_cast this
  have fine : (s : ℝ) * 2 ^ (-24 : ℤ) ≤ 2 ^ min 0 g := by
    rcases min_choice 0 g with one | own
    · rw [one]
      norm_num at small ⊢
      linarith
    · rw [own]
      have : (s : ℝ) < 2 ^ (24 + g) := lt.trans (lt_of_abs_lt room)
      rw [zpow_add₀ two_ne_zero] at this
      norm_num at this ⊢
      linarith
  calc (s : ℝ) * (1 + 2 ^ (-24 : ℤ)) = s + s * 2 ^ (-24 : ℤ) := by ring
    _ ≤ n * 2 ^ min 0 g + 2 ^ min 0 g := by gcongr; exact same.le
    _ = (n + 1) * 2 ^ min 0 g := by ring
    _ ≤ k * 2 ^ g := apart

section Stride

variable {a d s : ℤ} {length q p v : ℝ}

/-- One coordinate of a step forward: the share of the way, its length and the sum.  It stays between
the walker and the goal, and a large share of the step is not lost in rounding. -/
theorem stride_forward (forward : 0 ≤ d) (start : |a| < 2 ^ 20) (goal : |a + d| < 2 ^ 20)
    (some : 1 ≤ s) (bounded : length ≤ 2 ^ 22) (short : s * (1 + 2 ^ (-24 : ℤ)) ≤ length)
    (share : Nearest (d / length) q) (way : Nearest (q * s) p) (sum : Nearest (a + p) v) :
    a ≤ v ∧ v ≤ a + d ∧ (5 / 8 * length ≤ d → a + 5 / 8 ≤ v) := by
  rw [abs_lt] at start goal
  have some' : (1 : ℝ) ≤ s := by exact_mod_cast some
  have forward' : (0 : ℝ) ≤ d := by exact_mod_cast forward
  have reach : (d : ℝ) < 2 ^ 21 := by exact_mod_cast (by omega : d < 2 ^ 21)
  have long : 1 ≤ length := by
    have : (0 : ℝ) < 2 ^ (-24 : ℤ) := by positivity
    nlinarith
  have positive : 0 ≤ d / length := by positivity
  have part : d / length < 2 ^ 21 := (div_le_self forward' long).trans_lt reach
  have q_low : 0 ≤ q := share.nonneg positive
  have q_high : q ≤ d / length * (1 + 2 ^ (-24 : ℤ)) := by
    have near := share.close_mul (by
      rcases forward.eq_or_lt with rfl | more
      · left
        simp
      · right
        rw [abs_of_nonneg positive, le_div_iff₀ (by linarith)]
        have : (1 : ℝ) ≤ d := by exact_mod_cast more
        norm_num at bounded ⊢
        linarith)
    rw [abs_of_nonneg positive] at near
    linarith [(abs_le.mp near).2]
  have way_low : 0 ≤ q * s := by positivity
  have way_high : q * s ≤ d := by
    calc q * s ≤ d / length * (1 + 2 ^ (-24 : ℤ)) * s := by gcongr
      _ = d / length * (s * (1 + 2 ^ (-24 : ℤ))) := by ring
      _ ≤ d / length * length := by gcongr
      _ = d := div_mul_cancel₀ _ (by linarith)
  have way_small : |q * s| < 2 ^ 21 := by
    rw [abs_of_nonneg way_low]
    exact way_high.trans_lt reach
  have p_low : 0 ≤ p := way.nonneg way_low
  have p_high : p ≤ d := way.le_int (by linarith) way_high
  have below : (-2 ^ 20 : ℝ) < a := by exact_mod_cast start.1
  have above : (a + d : ℝ) < 2 ^ 20 := by exact_mod_cast goal.2
  have sum_small : |a + p| < 2 ^ 20 := by
    rw [abs_lt]
    constructor <;> linarith
  have v_low : a ≤ v := sum.ge_int (by linarith) (by linarith)
  have v_high : v ≤ (a + d : ℤ) := sum.le_int (by linarith) (by push_cast; linarith)
  push_cast at v_high
  refine ⟨v_low, v_high, ?_⟩
  intro most
  have fine : (5 : ℝ) / 8 = (5 : ℤ) * 2 ^ (-3 : ℤ) := by norm_num
  have q_most : 5 / 8 ≤ q := by
    rw [fine]
    refine share.ge_of_ge 5 (-3) (by norm_num) ?_ ?_
    · rw [abs_of_nonneg positive]
      exact part.trans_eq (by norm_num)
    · rw [← fine, le_div_iff₀ (by linarith)]
      exact most
  have p_most : 5 / 8 ≤ p := by
    rw [fine]
    refine way.ge_of_ge 5 (-3) (by norm_num) (way_small.trans_eq (by norm_num)) ?_
    rw [← fine]
    nlinarith
  have grid : (a + 5 / 8 : ℝ) = (8 * a + 5 : ℤ) * 2 ^ (-3 : ℤ) := by
    push_cast
    norm_num
    ring
  rw [grid]
  refine sum.ge_of_ge (8 * a + 5) (-3) (by norm_num) (sum_small.trans (by norm_num)) ?_
  rw [← grid]
  linarith

theorem stride (start : |a| < 2 ^ 20) (goal : |a + d| < 2 ^ 20)
    (some : 1 ≤ s) (bounded : length ≤ 2 ^ 22) (short : s * (1 + 2 ^ (-24 : ℤ)) ≤ length)
    (share : Nearest (d / length) q) (way : Nearest (q * s) p) (sum : Nearest (a + p) v) :
    v ∈ Set.uIcc (a : ℝ) (a + d : ℤ) ∧ (5 / 8 * length ≤ |(d : ℝ)| → 5 / 8 ≤ |v - a|) := by
  push_cast
  rcases le_total 0 d with forward | backward
  · obtain ⟨low, high, most⟩ := stride_forward forward start goal some bounded short share way sum
    refine ⟨Set.mem_uIcc.mpr (.inl ⟨low, high⟩), fun long => ?_⟩
    rw [abs_of_nonneg (by exact_mod_cast forward)] at long
    exact le_trans (by linarith [most long]) (le_abs_self _)
  · -- a step back is a step forward looked at from the other side
    have mirrored := @stride_forward (-a) (-d) s length (-q) (-p) (-v) (by omega)
      (by rwa [abs_neg]) (by rwa [← neg_add, abs_neg]) some bounded short
      (by push_cast; rw [neg_div]; exact share.neg) (by rw [neg_mul]; exact way.neg)
      (by push_cast; rw [← neg_add]; exact sum.neg)
    obtain ⟨low, high, most⟩ := mirrored
    push_cast at low high most
    refine ⟨Set.mem_uIcc.mpr (.inr ⟨by linarith, by linarith⟩), fun long => ?_⟩
    rw [abs_of_nonpos (by exact_mod_cast backward)] at long
    exact le_trans (by linarith [most long]) (neg_le_abs _)

theorem mem_uIcc_of_close {a b r : ℤ} {v : ℝ} (between : v ∈ Set.uIcc (a : ℝ) b)
    (close : |r - v| ≤ 1 / 2) : r ∈ Set.uIcc a b := by
  have near {k n : ℤ} (le : (k : ℝ) < n + 1) : k ≤ n := by
    have : k < n + 1 := by exact_mod_cast le
    omega
  rw [abs_le] at close
  rw [Set.mem_uIcc] at between ⊢
  exact between.imp (fun inside => ⟨near (by linarith [inside.1]), near (by linarith [inside.2])⟩)
    fun inside => ⟨near (by linarith [inside.1]), near (by linarith [inside.2])⟩

end Stride

/-! ## The length of the way -/

theorem Single.Nearest.within {x v : ℝ} (nearest : Nearest x v) (normal : x = 0 ∨ 1 / 4 ≤ x) :
    x / 2 ≤ v ∧ v ≤ 101 / 100 * x := by
  have positive : 0 ≤ x := by rcases normal with none | some <;> linarith
  have near := nearest.close_mul (normal.imp id fun some => by
    rw [abs_of_nonneg positive]
    exact le_trans (by norm_num) some)
  rw [abs_of_nonneg positive, abs_le] at near
  norm_num at near
  constructor <;> linarith

/-- The length is not much longer than the longer side. -/
theorem Point.exists_length {way : Point} {side : ℝ} (x : |(way.x.toInt : ℝ)| ≤ side)
    (y : |(way.y.toInt : ℝ)| ≤ side) (bounded : side ≤ 2 ^ 21) :
    ∃ length, Holds way.length length ∧ length ≤ 8 / 5 * side := by
  have single {n : Int32} (le : |(n.toInt : ℝ)| ≤ side) : Holds (toSingle n) n.toInt := by
    refine holds_toSingle ?_
    have : |(n.toInt : ℝ)| < 2 ^ 24 := by linarith
    exact_mod_cast this
  have square {n : ℤ} (le : |(n : ℝ)| ≤ side) : (n * n : ℝ) ≤ side * side := by
    rw [← abs_mul_abs_self]
    gcongr
    exact (abs_nonneg _).trans le
  have whole (n : ℤ) : (n * n : ℝ) = 0 ∨ 1 ≤ (n * n : ℝ) := by
    rcases eq_or_ne n 0 with rfl | some
    · left
      norm_num
    · right
      have : 1 ≤ n * n := by nlinarith [Int.one_le_abs some, abs_mul_abs_self n]
      exact_mod_cast this
  have sides : 0 ≤ side := (abs_nonneg _).trans x
  have most : side * side ≤ 2 ^ 42 := by nlinarith
  obtain ⟨v, near_x, holds_x⟩ := (single x).mul (single x) (by
    rw [abs_of_nonneg (mul_self_nonneg _)]
    linarith [square x])
  obtain ⟨w, near_y, holds_y⟩ := (single y).mul (single y) (by
    rw [abs_of_nonneg (mul_self_nonneg _)]
    linarith [square y])
  have whole_x := whole way.x.toInt
  have whole_y := whole way.y.toInt
  have square_x := square x
  have square_y := square y
  generalize (way.x.toInt * way.x.toInt : ℝ) = xx at *
  generalize (way.y.toInt * way.y.toInt : ℝ) = yy at *
  obtain ⟨v_low, v_high⟩ := near_x.within (whole_x.imp id (le_trans (by norm_num)))
  obtain ⟨w_low, w_high⟩ := near_y.within (whole_y.imp id (le_trans (by norm_num)))
  have normal : v + w = 0 ∨ 1 / 2 ≤ v + w := by
    rcases whole_x with none | some
    · rcases whole_y with none' | some'
      · left
        linarith
      · right
        linarith
    · right
      rcases whole_y with none' | some' <;> linarith
  have sum_low : 0 ≤ v + w := by rcases normal with none | some <;> linarith
  obtain ⟨t, near_sum, holds_sum⟩ := holds_x.add holds_y (by
    rw [abs_of_nonneg sum_low]
    linarith)
  obtain ⟨t_low, t_high⟩ := near_sum.within (normal.imp id (le_trans (by norm_num)))
  have positive : 0 ≤ t := by linarith
  obtain ⟨length, near_root, holds⟩ := holds_sum.sqrt positive (by linarith)
  refine ⟨length, holds, ?_⟩
  have root_high : √t ≤ 3 / 2 * side := by
    rw [Real.sqrt_le_left (by linarith)]
    nlinarith
  have root_normal : √t = 0 ∨ 1 / 4 ≤ √t := by
    rcases normal with none | some
    · left
      rw [Real.sqrt_eq_zero positive]
      linarith
    · right
      rw [Real.le_sqrt' (by norm_num)]
      linarith
  linarith [(near_root.within root_normal).2]

/-! ## The step -/

/-- A place within a million units of the origin. -/
structure Point.IsNear (place : Point) : Prop where
  x : |place.x.toInt| < 2 ^ 20
  y : |place.y.toInt| < 2 ^ 20

/-- How far two places lie apart, one coordinate after the other. -/
def Point.gap (start goal : Point) : ℕ :=
  (goal.x.toInt - start.x.toInt).natAbs + (goal.y.toInt - start.y.toInt).natAbs

/-- A place between two others, in both coordinates. -/
structure Point.IsBetween (place start goal : Point) : Prop where
  x : place.x.toInt ∈ Set.uIcc start.x.toInt goal.x.toInt
  y : place.y.toInt ∈ Set.uIcc start.y.toInt goal.y.toInt

theorem toInt_sub_of_near {a b : Int32} (near : |a.toInt| < 2 ^ 20) (near' : |b.toInt| < 2 ^ 20) :
    (a - b).toInt = a.toInt - b.toInt := by
  rw [abs_lt] at near near'
  rw [Int32.toInt_sub]
  exact Int.bmod_eq_of_le (by omega) (by omega)

/-- One coordinate of a step that is shorter than the way. -/
theorem coordinate_closer {start goal step : Int32} {way : Float32} {length : ℝ}
    (near : |start.toInt| < 2 ^ 20) (near' : |goal.toInt| < 2 ^ 20)
    (some : 1 ≤ step.toInt) (small : step.toInt < 2 ^ 24) (holds : Holds way length)
    (short : step.toInt < length) (bounded : length ≤ 2 ^ 22) :
    (roundToInt (toSingle start + toSingle (goal - start) / way * toSingle step)).toInt ∈
        Set.uIcc start.toInt goal.toInt ∧
      (5 / 8 * length ≤ |((goal.toInt - start.toInt : ℤ) : ℝ)| →
        (roundToInt (toSingle start + toSingle (goal - start) / way * toSingle step)).toInt ≠
          start.toInt) := by
  have ahead : (goal - start).toInt = goal.toInt - start.toInt := toInt_sub_of_near near' near
  have near_ahead : |(goal - start).toInt| < 2 ^ 21 := by
    rw [abs_lt] at near near' ⊢
    omega
  have long : 1 < length := by
    have : (1 : ℝ) ≤ step.toInt := by exact_mod_cast some
    linarith
  have holds_start := @holds_toSingle start (by linarith)
  have holds_ahead := @holds_toSingle (goal - start) (by linarith)
  have holds_step := @holds_toSingle step (by rw [abs_of_nonneg (by omega)]; exact small)
  rw [ahead] at holds_ahead near_ahead
  have reach : |((goal.toInt - start.toInt : ℤ) : ℝ)| ≤ 2 ^ 21 := by exact_mod_cast near_ahead.le
  have step_le : |(step.toInt : ℝ)| ≤ 2 ^ 24 := by
    rw [abs_of_nonneg (by exact_mod_cast (by omega : 0 ≤ step.toInt))]
    exact_mod_cast small.le
  -- share of the way, stretched to the step, added to the place: each rounded
  have part : |((goal.toInt - start.toInt : ℤ) : ℝ) / length| ≤ 2 ^ 21 := by
    rw [abs_div, abs_of_pos (by linarith : 0 < length)]
    exact (div_le_self (abs_nonneg _) long.le).trans reach
  obtain ⟨q, share, holds_share⟩ := holds_ahead.div holds (by linarith) (part.trans (by norm_num))
  have stretched : |q * step.toInt| ≤ 2 ^ 45 := by
    rw [abs_mul]
    calc |q| * |(step.toInt : ℝ)| ≤ 2 ^ 21 * 2 ^ 24 := by
          gcongr
          exact share.abs_le_two_pow part
      _ = 2 ^ 45 := by norm_num
  obtain ⟨p, way, holds_way⟩ := holds_share.mul holds_step (stretched.trans (by norm_num))
  have total : |start.toInt + p| ≤ 2 ^ 46 := by
    have := way.abs_le_two_pow stretched
    have : |(start.toInt : ℝ)| ≤ 2 ^ 20 := by exact_mod_cast near.le
    calc |start.toInt + p| ≤ |(start.toInt : ℝ)| + |p| := abs_add_le _ _
      _ ≤ 2 ^ 46 := by linarith
  obtain ⟨v, sum, holds_sum⟩ := holds_start.add holds_way (total.trans (by norm_num))
  have shorter := longer_of_lt holds (by omega) small short
  obtain ⟨between, most⟩ := stride near (by rwa [add_sub_cancel]) some bounded shorter share way sum
  rw [add_sub_cancel] at between
  have close := roundToInt_close holds_sum (by
    have low := abs_le.mp (show |(start.toInt : ℝ)| ≤ 2 ^ 20 by exact_mod_cast near.le)
    have high := abs_le.mp (show |(goal.toInt : ℝ)| ≤ 2 ^ 20 by exact_mod_cast near'.le)
    rw [abs_lt]
    rcases Set.mem_uIcc.mp between with inside | inside <;> constructor <;> linarith [inside.1, inside.2])
  refine ⟨mem_uIcc_of_close between close, fun long stays => ?_⟩
  rw [stays, abs_sub_comm] at close
  linarith [most long]

namespace Point

variable {start goal place : Point}

theorem IsBetween.near (between : place.IsBetween start goal) (near : start.IsNear)
    (near' : goal.IsNear) : place.IsNear := by
  have inside {a b c : ℤ} (mem : c ∈ Set.uIcc a b) (low : |a| < 2 ^ 20) (high : |b| < 2 ^ 20) :
      |c| < 2 ^ 20 := by
    rw [abs_lt] at low high ⊢
    rcases Set.mem_uIcc.mp mem with ⟨_, _⟩ | ⟨_, _⟩ <;> omega
  exact ⟨inside between.x near.x near'.x, inside between.y near.y near'.y⟩

theorem isBetween_start (start goal : Point) : start.IsBetween start goal :=
  ⟨Set.left_mem_uIcc, Set.left_mem_uIcc⟩

theorem IsBetween.trans {last : Point} (between : place.IsBetween start goal)
    (further : last.IsBetween place goal) : last.IsBetween start goal :=
  ⟨Set.uIcc_subset_uIcc_right between.x further.x, Set.uIcc_subset_uIcc_right between.y further.y⟩

theorem IsBetween.gap_le (between : place.IsBetween start goal) : place.gap goal ≤ start.gap goal := by
  unfold gap
  rcases Set.mem_uIcc.mp between.x with ⟨_, _⟩ | ⟨_, _⟩ <;>
    rcases Set.mem_uIcc.mp between.y with ⟨_, _⟩ | ⟨_, _⟩ <;> omega

/-- A place between two others that is not the first is closer to the second. -/
theorem IsBetween.gap_lt (between : place.IsBetween start goal) (moved : place ≠ start) :
    place.gap goal < start.gap goal := by
  have apart : place.x.toInt ≠ start.x.toInt ∨ place.y.toInt ≠ start.y.toInt := by
    by_contra same
    push Not at same
    have x := Int32.toInt_inj.mp same.1
    have y := Int32.toInt_inj.mp same.2
    cases place
    cases start
    exact moved (by simp_all)
  unfold gap
  rcases Set.mem_uIcc.mp between.x with ⟨_, _⟩ | ⟨_, _⟩ <;>
    rcases Set.mem_uIcc.mp between.y with ⟨_, _⟩ | ⟨_, _⟩ <;> omega

theorem exists_length_sub (near : start.IsNear) (near' : goal.IsNear) :
    ∃ length, Holds (goal.sub start).length length ∧ length ≤ 2 ^ 22 ∧
      (5 / 8 * length ≤ |((goal.x.toInt - start.x.toInt : ℤ) : ℝ)| ∨
        5 / 8 * length ≤ |((goal.y.toInt - start.y.toInt : ℤ) : ℝ)|) := by
  have x : (goal.sub start).x.toInt = goal.x.toInt - start.x.toInt :=
    toInt_sub_of_near near'.x near.x
  have y : (goal.sub start).y.toInt = goal.y.toInt - start.y.toInt :=
    toInt_sub_of_near near'.y near.y
  have reach {a b : ℤ} (low : |a| < 2 ^ 20) (high : |b| < 2 ^ 20) : |((b - a : ℤ) : ℝ)| ≤ 2 ^ 21 := by
    have : |b - a| ≤ 2 ^ 21 := by
      rw [abs_lt] at low high
      rw [abs_le]
      omega
    exact_mod_cast this
  have bounded := max_le (reach near.x near'.x) (reach near.y near'.y)
  obtain ⟨length, holds, most⟩ := @exists_length (goal.sub start) _
    (x ▸ le_max_left _ _) (y ▸ le_max_right _ _) bounded
  refine ⟨length, holds, by linarith, ?_⟩
  rcases max_choice |((goal.x.toInt - start.x.toInt : ℤ) : ℝ)|
    |((goal.y.toInt - start.y.toInt : ℤ) : ℝ)| with larger | larger
  · left
    linarith
  · right
    linarith

/-- A step that is shorter than the way that is left comes closer and does not go too far. -/
theorem advance_closer {step : Int32} (near : start.IsNear) (near' : goal.IsNear)
    (some : 1 ≤ step.toInt) (small : step.toInt < 2 ^ 24)
    (short : toSingle step < (goal.sub start).length) :
    (start.advance (goal.sub start) (goal.sub start).length step).IsBetween start goal ∧
      start.advance (goal.sub start) (goal.sub start).length step ≠ start := by
  obtain ⟨length, holds, bounded, most⟩ := exists_length_sub near near'
  have holds_step := @holds_toSingle step (by rw [abs_of_nonneg (by omega)]; exact small)
  rw [holds_step.lt_iff holds] at short
  obtain ⟨x, moved⟩ := coordinate_closer near.x near'.x some small holds short bounded
  obtain ⟨y, moved'⟩ := coordinate_closer near.y near'.y some small holds short bounded
  refine ⟨⟨x, y⟩, fun stays => ?_⟩
  rcases most with wide | wide
  · exact moved wide (congrArg (fun place => place.x.toInt) stays)
  · exact moved' wide (congrArg (fun place => place.y.toInt) stays)

/-- Every way has a length, however far it leads. -/
theorem exists_holds_length (way : Point) : ∃ length, Holds way.length length := by
  have single (n : Int32) : ∃ v : ℝ, Holds (toSingle n) v ∧ |v * v| ≤ 2 ^ 62 := by
    obtain ⟨v, nearest, holds⟩ := exists_holds_toSingle n
    have low := n.le_toInt
    have high := n.toInt_lt
    have bounded : |v| ≤ 2 ^ 31 := nearest.abs_le_two_pow (by
      rw [abs_le]
      constructor
      · exact_mod_cast low
      · exact_mod_cast high.le)
    refine ⟨v, holds, ?_⟩
    rw [abs_mul]
    calc |v| * |v| ≤ 2 ^ 31 * 2 ^ 31 := by gcongr
      _ = 2 ^ 62 := by norm_num
  have square (n : Int32) : ∃ v : ℝ, Holds (toSingle n * toSingle n) v ∧ 0 ≤ v ∧ v ≤ 2 ^ 62 := by
    obtain ⟨x, holds, bounded⟩ := single n
    obtain ⟨v, nearest, squared⟩ := holds.mul holds (bounded.trans (by norm_num))
    have high := (le_abs_self v).trans (nearest.abs_le_two_pow bounded)
    exact ⟨v, squared, nearest.nonneg (mul_self_nonneg x), high⟩
  obtain ⟨v, holds_x, v_low, v_high⟩ := square way.x
  obtain ⟨w, holds_y, w_low, w_high⟩ := square way.y
  have bounded : |v + w| ≤ 2 ^ 63 := by
    rw [abs_of_nonneg (by positivity)]
    linarith
  obtain ⟨t, nearest, holds⟩ := holds_x.add holds_y (bounded.trans (by norm_num))
  have high := (le_abs_self t).trans (nearest.abs_le_two_pow bounded)
  obtain ⟨length, -, holds⟩ :=
    holds.sqrt (nearest.nonneg (by positivity)) (high.trans (by norm_num))
  exact ⟨length, holds⟩

/-- What lies beyond a radius lies beyond every step that is not longer. -/
theorem lt_length_of_radius (way : Point) {step radius : Int32} (positive : 0 ≤ step.toInt)
    (le : step.toInt ≤ radius.toInt) (small : radius.toInt < 2 ^ 24)
    (beyond : ¬ way.length ≤ toSingle radius) : toSingle step < way.length := by
  obtain ⟨length, holds⟩ := way.exists_holds_length
  have holds_step := @holds_toSingle step (by rw [abs_of_nonneg positive]; omega)
  have holds_radius := @holds_toSingle radius (by rw [abs_of_nonneg (by omega)]; exact small)
  rw [holds.le_iff holds_radius, not_le] at beyond
  rw [holds_step.lt_iff holds]
  exact lt_of_le_of_lt (by exact_mod_cast le) beyond

end Point

end FieldMachine
