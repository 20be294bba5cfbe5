import Mathlib

/-!
# Rounding to single precision

A number of single precision is a mantissa of at most 24 bits times a power of two
(`Fits`).  An operation works out as many bits of its exact result as there is room
for, with two more bits for what is left over (`Marks`), and rounds these.  So the
rounded result is one of the two multiples of a power of two between which the
exact result lies, and the nearer one (`RoundsTo`, `Scale`).

What is used of this elsewhere is told by `Nearest`: rounding does not take a result
past any number that is coarse enough to be kept, and it changes a result by at most
one part in `2 ^ 24`.
-/

namespace FieldMachine.Single

set_option autoImplicit false

open Float.Model (Format UnpackedFloat totalExponent)
open Float.Model.UnpackedFloat

/-! ## Residual bits -/

/-- A mantissa with its residual bits stands for `t`: the first bit is one half, and the second
tells whether there is a rest below one half. -/
def Marks (em : ExtendedMantissa) (t : ℝ) : Prop :=
  ∃ rest : ℝ, 0 ≤ rest ∧ rest < 1 / 2 ∧ (em.stickyBit = false → rest = 0) ∧
    t = em.mantissa + (if em.roundBit then 1 / 2 else 0) + rest

/-- A whole number nearest to `t`, which no whole number separates from `t`. -/
structure RoundsTo (t : ℝ) (r : ℕ) : Prop where
  close : |(r : ℝ) - t| ≤ 1 / 2
  le_of_le : ∀ k : ℤ, t ≤ k → (r : ℤ) ≤ k
  ge_of_ge : ∀ k : ℤ, k ≤ t → k ≤ (r : ℤ)

theorem RoundsTo.down {t : ℝ} {m : ℕ} (above : m ≤ t) (below : t ≤ m + 1 / 2) :
    RoundsTo t m where
  close := by rw [abs_le]; constructor <;> linarith
  le_of_le := by
    intro k le
    have : (m : ℝ) ≤ k := above.trans le
    exact_mod_cast this
  ge_of_ge := by
    intro k ge
    have : (k : ℝ) < m + 1 := by linarith
    have : k < m + 1 := by exact_mod_cast this
    omega

theorem RoundsTo.up {t : ℝ} {m : ℕ} (above : m + 1 / 2 ≤ t) (below : t < m + 1) :
    RoundsTo t (m + 1) where
  close := by push_cast; rw [abs_le]; constructor <;> linarith
  le_of_le := by
    intro k le
    have : (m : ℝ) < k := by linarith
    have : (m : ℤ) < k := by exact_mod_cast this
    omega
  ge_of_ge := by
    intro k ge
    have : (k : ℝ) < m + 1 := by linarith
    have : k < m + 1 := by exact_mod_cast this
    omega

namespace Marks

variable {em : ExtendedMantissa} {t : ℝ}

theorem le (marks : Marks em t) : em.mantissa ≤ t := by
  obtain ⟨rest, low, -, -, rfl⟩ := marks
  split <;> linarith

theorem lt (marks : Marks em t) : t < em.mantissa + 1 := by
  obtain ⟨rest, -, high, -, rfl⟩ := marks
  split <;> linarith

theorem floor (marks : Marks em t) : ⌊t⌋₊ = em.mantissa :=
  (Nat.floor_eq_iff ((Nat.cast_nonneg _).trans marks.le)).mpr ⟨marks.le, marks.lt⟩

theorem roundedMantissa (marks : Marks em t) : RoundsTo t em.roundedMantissa := by
  obtain ⟨rest, low, high, exact, rfl⟩ := marks
  obtain ⟨m, round, sticky⟩ := em
  cases round with
  | false =>
      have down : RoundsTo (m + rest) m := .down (by linarith) (by linarith)
      cases sticky <;> simpa [ExtendedMantissa.roundedMantissa, ExtendedMantissa.accuracy,
        Accuracy.roundToNearestEven] using down
  | true =>
      have up : RoundsTo (m + 1 / 2 + rest) (m + 1) := .up (by linarith) (by linarith)
      cases sticky with
      | true => simpa [ExtendedMantissa.roundedMantissa, ExtendedMantissa.accuracy,
          Accuracy.roundToNearestEven] using up
      | false =>
          -- a tie goes to the even side, and both sides are nearest
          obtain rfl : rest = 0 := exact rfl
          have down : RoundsTo (m + 1 / 2 + 0) m := .down (by linarith) (by linarith)
          rcases Nat.mod_two_eq_zero_or_one m with even | odd
          · simpa [ExtendedMantissa.roundedMantissa, ExtendedMantissa.accuracy,
              Accuracy.roundToNearestEven, even] using down
          · simpa [ExtendedMantissa.roundedMantissa, ExtendedMantissa.accuracy,
              Accuracy.roundToNearestEven, odd] using up

theorem exact (m : ℕ) : Marks (.ofMantissaAndAccuracy m .exact) m :=
  ⟨0, le_rfl, by norm_num, fun _ => rfl, by simp [ExtendedMantissa.ofMantissaAndAccuracy]⟩

theorem lower {m : ℕ} (above : m < t) (below : t < m + 1 / 2) :
    Marks (.ofMantissaAndAccuracy m (.inexact .lt)) t :=
  ⟨t - m, by linarith, by linarith, by simp [ExtendedMantissa.ofMantissaAndAccuracy],
    by simp [ExtendedMantissa.ofMantissaAndAccuracy]⟩

theorem middle (m : ℕ) : Marks (.ofMantissaAndAccuracy m (.inexact .eq)) (m + 1 / 2) :=
  ⟨0, le_rfl, by norm_num, fun _ => rfl, by simp [ExtendedMantissa.ofMantissaAndAccuracy]⟩

theorem upper {m : ℕ} (above : m + 1 / 2 < t) (below : t < m + 1) :
    Marks (.ofMantissaAndAccuracy m (.inexact .gt)) t :=
  ⟨t - m - 1 / 2, by linarith, by linarith, by simp [ExtendedMantissa.ofMantissaAndAccuracy],
    by simp [ExtendedMantissa.ofMantissaAndAccuracy]⟩

/-- The quotient of a division, with what its remainder tells. -/
theorem fraction (m : ℕ) {num den : ℕ} (small : num < den) :
    Marks (.ofMantissaAndAccuracy m (accuracyOfFraction num den)) (m + num / den) := by
  have positive : (0 : ℝ) < den := by exact_mod_cast Nat.zero_lt_of_lt small
  have whole : (num : ℝ) / den < 1 := (div_lt_one positive).mpr (by exact_mod_cast small)
  unfold accuracyOfFraction
  split
  case isTrue none =>
    subst none
    simpa using exact m
  case isFalse some =>
    have more : (0 : ℝ) < num / den := by
      have : (0 : ℝ) < num := by exact_mod_cast Nat.pos_of_ne_zero some
      positivity
    rcases lt_trichotomy (2 * num) den with below | half | above
    · rw [Nat.compare_eq_lt.mpr below]
      refine lower (by linarith) ?_
      have : (2 * num : ℝ) < den := by exact_mod_cast below
      have : (num : ℝ) / den < 1 / 2 := by rw [div_lt_div_iff₀ positive two_pos]; linarith
      linarith
    · rw [Nat.compare_eq_eq.mpr half]
      have : (2 * num : ℝ) = den := by exact_mod_cast half
      have : (num : ℝ) / den = 1 / 2 := by rw [div_eq_div_iff positive.ne' two_ne_zero]; linarith
      rw [this]
      exact middle m
    · rw [Nat.compare_eq_gt.mpr above]
      refine upper ?_ (by linarith)
      have : (den : ℝ) < 2 * num := by exact_mod_cast above
      have : 1 / 2 < (num : ℝ) / den := by rw [div_lt_div_iff₀ two_pos positive]; linarith
      linarith

/-- The root of a whole number, with what its remainder tells. -/
theorem root (n : ℕ) :
    Marks (.ofMantissaAndAccuracy n.sqrt
      (if n - n.sqrt * n.sqrt = 0 then .exact
        else .inexact (if n - n.sqrt * n.sqrt ≤ n.sqrt then .lt else .gt))) √n := by
  have below : n.sqrt * n.sqrt ≤ n := Nat.sqrt_le n
  have above : n < (n.sqrt + 1) * (n.sqrt + 1) := Nat.lt_succ_sqrt n
  generalize n.sqrt = r at below above ⊢
  have less : √(n : ℝ) < r + 1 := by
    rw [Real.sqrt_lt' (by positivity), sq]
    exact_mod_cast above
  split
  case isTrue square =>
    obtain rfl : n = r * r := by omega
    simpa using exact r
  case isFalse more =>
    split
    case isTrue near =>
      refine lower ?_ ?_
      · rw [Real.lt_sqrt (by positivity), sq]
        have : r * r < n := by omega
        exact_mod_cast this
      · rw [Real.sqrt_lt' (by positivity)]
        have : (n : ℝ) ≤ r * r + r := by exact_mod_cast (by omega : n ≤ r * r + r)
        nlinarith
    case isFalse far =>
      refine upper ?_ less
      rw [Real.lt_sqrt (by positivity)]
      have : (r * r + r + 1 : ℝ) ≤ n := by exact_mod_cast (by omega : r * r + r + 1 ≤ n)
      nlinarith

theorem shiftRightOne (marks : Marks em t) : Marks em.shiftRightOne (t / 2) := by
  obtain ⟨rest, low, high, exact, rfl⟩ := marks
  obtain ⟨m, round, sticky⟩ := em
  have halves : (m : ℝ) = 2 * (m / 2 : ℕ) + (m % 2 : ℕ) := by exact_mod_cast (Nat.div_add_mod m 2).symm
  refine ⟨(if round then 1 / 4 else 0) + rest / 2, ?_, ?_, ?_, ?_⟩
  · split <;> linarith
  · split <;> linarith
  · intro clean
    obtain ⟨rfl, rfl⟩ : round = false ∧ sticky = false := by
      simpa [ExtendedMantissa.shiftRightOne] using clean
    simp [exact rfl]
  · rcases Nat.mod_two_eq_zero_or_one m with even | odd
    · simp only [ExtendedMantissa.shiftRightOne, even, halves]
      cases round <;> simp <;> ring
    · simp only [ExtendedMantissa.shiftRightOne, odd, halves]
      cases round <;> simp <;> ring

theorem shiftRight (marks : Marks em t) (n : ℕ) : Marks (em >>> n) (t / 2 ^ n) := by
  induction n with
  | zero =>
      rw [pow_zero, div_one]
      exact marks
  | succ n ih =>
      rw [pow_succ, ← div_div]
      exact ih.shiftRightOne

end Marks

/-! ## The scale of a result -/

/-- A mantissa and an exponent of a number of single precision: 24 bits, of which the first is set
unless the exponent is the lowest one. -/
structure Fits (m : ℕ) (e : ℤ) : Prop where
  small : m < 2 ^ 24
  low : -149 ≤ e
  high : e ≤ 104
  full : 2 ^ 23 ≤ m ∨ e = -149

/-- The exponent with which `x` is kept: it leaves room for 24 bits and no more. -/
structure Scale (x : ℝ) (e : ℤ) : Prop where
  low : -149 ≤ e
  small : x < 2 ^ (24 + e)
  full : e = -149 ∨ 2 ^ (23 + e) ≤ x

/-- A number `v` to which `x` is rounded: there is no multiple of a power of two between them that
single precision can keep, and it is close to `x` unless that is very small. -/
structure Nearest (x v : ℝ) : Prop where
  le_of_le : ∀ k g : ℤ, -149 ≤ g → |x| < 2 ^ (24 + g) → x ≤ k * 2 ^ g → v ≤ k * 2 ^ g
  ge_of_ge : ∀ k g : ℤ, -149 ≤ g → |x| < 2 ^ (24 + g) → k * 2 ^ g ≤ x → k * 2 ^ g ≤ v
  close : (2 : ℝ) ^ (-126 : ℤ) ≤ |x| → |v - x| ≤ |x| * 2 ^ (-24 : ℤ)

namespace Nearest

variable {x v : ℝ}

theorem self (x : ℝ) : Nearest x x where
  le_of_le _ _ _ _ le := le
  ge_of_ge _ _ _ _ ge := ge
  close _ := by rw [sub_self, abs_zero]; positivity

theorem neg (nearest : Nearest x v) : Nearest (-x) (-v) where
  le_of_le := by
    intro k g low small le
    have := nearest.ge_of_ge (-k) g low (by rwa [abs_neg] at small) (by push_cast; linarith)
    push_cast at this
    linarith
  ge_of_ge := by
    intro k g low small ge
    have := nearest.le_of_le (-k) g low (by rwa [abs_neg] at small) (by push_cast; linarith)
    push_cast at this
    linarith
  close := by
    intro normal
    rw [abs_neg] at normal ⊢
    rw [← neg_sub', abs_neg]
    exact nearest.close normal

/-- A number that single precision can keep is kept. -/
theorem eq_of_grid (nearest : Nearest x v) {k g : ℤ} (low : -149 ≤ g) (small : |x| < 2 ^ (24 + g))
    (grid : x = k * 2 ^ g) : v = x := by
  refine le_antisymm ?_ ?_
  · rw [grid]
    exact nearest.le_of_le k g low small grid.le
  · rw [grid]
    exact nearest.ge_of_ge k g low small grid.ge

theorem le_int (nearest : Nearest x v) {k : ℤ} (small : |x| < 2 ^ 24) (le : x ≤ k) : v ≤ k := by
  simpa using nearest.le_of_le k 0 (by norm_num) (by simpa using small) (by simpa using le)

theorem ge_int (nearest : Nearest x v) {k : ℤ} (small : |x| < 2 ^ 24) (ge : k ≤ x) : k ≤ v := by
  simpa using nearest.ge_of_ge k 0 (by norm_num) (by simpa using small) (by simpa using ge)

end Nearest

/-- A finer multiple of a power of two is a multiple of a coarser one. -/
theorem exists_coarser (k : ℤ) {e g : ℤ} (le : e ≤ g) :
    ∃ n : ℤ, (k : ℝ) * 2 ^ g = n * 2 ^ e := by
  refine ⟨k * 2 ^ (g - e).toNat, ?_⟩
  have split : g = (g - e).toNat + e := by omega
  conv_lhs => rw [split, zpow_add₀ two_ne_zero]
  push_cast
  rw [zpow_natCast]
  ring

theorem two_zpow_lt {a b : ℤ} : (2 : ℝ) ^ a < 2 ^ b ↔ a < b :=
  zpow_lt_zpow_iff_right₀ (by norm_num)

theorem two_zpow_le {a b : ℤ} : (2 : ℝ) ^ a ≤ 2 ^ b ↔ a ≤ b :=
  zpow_le_zpow_iff_right₀ (by norm_num)

namespace Scale

variable {x : ℝ} {e : ℤ} {r : ℕ}

/-- Rounding the mantissa rounds the number. -/
theorem nearest (scale : Scale x e) (positive : 0 ≤ x) (rounds : RoundsTo (x / 2 ^ e) r) :
    Nearest x (r * 2 ^ e) := by
  have unit : (0 : ℝ) < 2 ^ e := by positivity
  have finer {g : ℤ} (low : -149 ≤ g) (small : |x| < 2 ^ (24 + g)) : e ≤ g := by
    rcases scale.full with rfl | full
    · exact low
    · rw [abs_of_nonneg positive] at small
      have := two_zpow_lt.mp (full.trans_lt small)
      omega
  refine ⟨?_, ?_, ?_⟩
  · intro k g low small le
    obtain ⟨n, same⟩ := exists_coarser k (finer low small)
    rw [same] at le ⊢
    have : (r : ℝ) ≤ n := by exact_mod_cast rounds.le_of_le n ((div_le_iff₀ unit).mpr le)
    gcongr
  · intro k g low small ge
    obtain ⟨n, same⟩ := exists_coarser k (finer low small)
    rw [same] at ge ⊢
    have : (n : ℝ) ≤ r := by exact_mod_cast rounds.ge_of_ge n ((le_div_iff₀ unit).mpr ge)
    gcongr
  · intro normal
    rw [abs_of_nonneg positive] at normal ⊢
    have half : 2 ^ e * (1 / 2) ≤ x * (2 : ℝ) ^ (-24 : ℤ) := by
      have : (2 : ℝ) ^ (23 + e) ≤ x := by
        rcases scale.full with rfl | full
        · exact normal
        · exact full
      calc (2 : ℝ) ^ e * (1 / 2) = 2 ^ (23 + e) * 2 ^ (-24 : ℤ) := by
            rw [← zpow_add₀ two_ne_zero, show 23 + e + -24 = e + -1 by ring,
              zpow_add₀ two_ne_zero]
            norm_num
        _ ≤ x * 2 ^ (-24 : ℤ) := by gcongr
    calc |(r : ℝ) * 2 ^ e - x| = 2 ^ e * |r - x / 2 ^ e| := by
          rw [← abs_of_pos unit, ← abs_mul, abs_of_pos unit]
          congr 1
          field_simp
      _ ≤ 2 ^ e * (1 / 2) := by
          gcongr
          exact rounds.close
      _ ≤ x * 2 ^ (-24 : ℤ) := half

end Scale

theorem targetExponent_eq (m : ℕ) (e : ℤ) :
    Format.binary32.targetExponent (totalExponent m e) = max (m.log2 + e - 23) (-149) := by
  simp only [Format.targetExponent, totalExponent, Format.mantissaBits, Format.minExponent]
  norm_num
  omega

/-- Enough bits have been worked out for the mantissa to be shifted to its place. -/
theorem scale_targetExponent {m : ℕ} {e : ℤ} {acc : Accuracy} {x : ℝ}
    (marks : Marks (.ofMantissaAndAccuracy m acc) (x / 2 ^ e))
    (enough : 2 ^ 23 ≤ m ∨ e ≤ -149) :
    Scale x (Format.binary32.targetExponent (totalExponent m e)) := by
  have unit : (0 : ℝ) < 2 ^ e := by positivity
  have same : (ExtendedMantissa.ofMantissaAndAccuracy m acc).mantissa = m := by
    rcases acc with _ | _ | _ | _ <;> rfl
  have above := marks.le
  have below := marks.lt
  rw [same, le_div_iff₀ unit] at above
  rw [same, div_lt_iff₀ unit] at below
  rw [targetExponent_eq]
  refine ⟨le_max_right _ _, ?_, ?_⟩
  · have : (m + 1 : ℝ) ≤ 2 ^ ((m.log2 : ℤ) + 1) := by exact_mod_cast Nat.lt_log2_self
    calc x < (m + 1) * 2 ^ e := below
      _ ≤ 2 ^ ((m.log2 : ℤ) + 1) * 2 ^ e := by gcongr
      _ ≤ 2 ^ (24 + max ((m.log2 : ℤ) + e - 23) (-149)) := by
          rw [← zpow_add₀ two_ne_zero, two_zpow_le]
          omega
  · by_cases low : (m.log2 : ℤ) + e - 23 ≤ -149
    · exact .inl (max_eq_right low)
    · right
      have large : m ≠ 0 := by
        rintro rfl
        simp at enough low
        omega
      have : (2 : ℝ) ^ (m.log2 : ℤ) ≤ m := by exact_mod_cast Nat.log2_self_le large
      calc (2 : ℝ) ^ (23 + max ((m.log2 : ℤ) + e - 23) (-149)) = 2 ^ (m.log2 : ℤ) * 2 ^ e := by
            rw [← zpow_add₀ two_ne_zero]
            congr 1
            omega
        _ ≤ m * 2 ^ e := by gcongr
        _ ≤ x := above

/-! ## Values -/

/-- A number with a sign. -/
def signed : Sign → ℝ → ℝ
  | .negative, x => -x
  | .positive, x => x

@[simp] theorem signed_zero (s : Sign) : signed s 0 = 0 := by cases s <;> simp [signed]

@[simp] theorem abs_signed (s : Sign) (x : ℝ) : |signed s x| = |x| := by
  cases s <;> simp [signed]

theorem signed_mul (s t : Sign) (x y : ℝ) : signed (s * t) (x * y) = signed s x * signed t y := by
  cases s <;> cases t
  · exact (neg_mul_neg x y).symm
  · exact (neg_mul x y).symm
  · exact (mul_neg x y).symm
  · rfl

theorem signed_div (s t : Sign) (x y : ℝ) : signed (s / t) (x / y) = signed s x / signed t y := by
  cases s <;> cases t
  · exact (neg_div_neg_eq x y).symm
  · exact (neg_div y x).symm
  · exact (div_neg x).symm
  · rfl

theorem signed_neg (s : Sign) (x : ℝ) : signed (-s) x = -signed s x := by
  cases s
  · exact (neg_neg x).symm
  · rfl

theorem cast_apply (s : Sign) (n : ℤ) : ((s.apply n : ℤ) : ℝ) = signed s n := by
  cases s <;> simp [Sign.apply, signed]

theorem Nearest.signed {x v : ℝ} (nearest : Nearest x v) (s : Sign) :
    Nearest (signed s x) (signed s v) := by
  cases s with
  | negative => exact nearest.neg
  | positive => exact nearest

/-- The number that a finite value of single precision stands for. -/
def Denotes : UnpackedFloat → ℝ → Prop
  | .zero _, x => x = 0
  | .finite s m e _, x => Fits m e ∧ x = signed s (m * 2 ^ e)
  | _, _ => False

theorem Denotes.zero_or_finite {u : UnpackedFloat} {x : ℝ} (denotes : Denotes u x) :
    (∃ s, u = .zero s ∧ x = 0) ∨
      ∃ s m e, ∃ some : 0 < m, u = .finite s m e some ∧ Fits m e ∧ x = signed s (m * 2 ^ e) := by
  cases u with
  | notANumber => exact denotes.elim
  | infinity s => exact denotes.elim
  | zero s => exact .inl ⟨s, rfl, denotes⟩
  | finite s m e some => exact .inr ⟨s, m, e, some, rfl, denotes⟩

/-! ## Rounding -/

theorem shift_of_lt {r : ℕ} {e : ℤ} (low : -149 ≤ e) (small : r < 2 ^ 24) :
    shiftToTargetExponent .binary32 r e .exact = (⟨r, false, false⟩, e) := by
  have bits : r.log2 < 24 := by
    rcases eq_or_ne r 0 with rfl | some
    · simp
    · exact (Nat.log2_lt some).mpr small
  have none : (Format.binary32.targetExponent (totalExponent r e) - e).toNat = 0 := by
    rw [targetExponent_eq]
    omega
  simp only [shiftToTargetExponent, shiftToExponent, none]
  exact Prod.ext rfl (add_zero e)

theorem shift_of_eq {e : ℤ} (low : -149 ≤ e) :
    shiftToTargetExponent .binary32 (2 ^ 24) e .exact = (⟨2 ^ 23, false, false⟩, e + 1) := by
  have one : (Format.binary32.targetExponent (totalExponent (2 ^ 24) e) - e).toNat = 1 := by
    rw [targetExponent_eq, Nat.log2_two_pow]
    omega
  simp only [shiftToTargetExponent, shiftToExponent, one]
  rfl

theorem roundWithAccuracy_eq (s : Sign) {m : ℕ} {e t last : ℤ} {acc : Accuracy}
    {em final : ExtendedMantissa} (first : shiftToTargetExponent .binary32 m e acc = (em, t))
    (second : shiftToTargetExponent .binary32 em.roundedMantissa t .exact = (final, last)) :
    roundWithAccuracy .binary32 s m e acc =
      if some : final.mantissa = 0 then .zero s
      else .finite s final.mantissa last (Nat.pos_of_ne_zero some) := by
  simp only [roundWithAccuracy, first, second]

/-- What rounding gives for the magnitude `x` of a result. -/
theorem roundWithAccuracy_denotes (s : Sign) {m : ℕ} {e : ℤ} {acc : Accuracy} {x : ℝ}
    (marks : Marks (.ofMantissaAndAccuracy m acc) (x / 2 ^ e))
    (enough : 2 ^ 23 ≤ m ∨ e ≤ -149) (bounded : x ≤ 2 ^ 126) :
    ∃ v, Nearest (signed s x) v ∧ Denotes (roundWithAccuracy .binary32 s m e acc) v := by
  have scale := scale_targetExponent marks enough
  have target := targetExponent_eq m e
  generalize final : Format.binary32.targetExponent (totalExponent m e) = t at scale target
  have positive : 0 ≤ x := by
    have : 0 ≤ x / 2 ^ e := (Nat.cast_nonneg _).trans marks.le
    rwa [le_div_iff₀ (by positivity), zero_mul] at this
  -- the bits that are left over are shifted out
  have reached : e + (t - e).toNat = t := by
    have : 2 ^ 23 ≤ m → 23 ≤ m.log2 := fun large => (Nat.le_log2 (by omega)).mpr large
    omega
  have rounds := marks.shiftRight (t - e).toNat |>.roundedMantissa
  rw [div_div, ← zpow_natCast, ← zpow_add₀ two_ne_zero, reached] at rounds
  have first : shiftToTargetExponent .binary32 m e acc =
      (ExtendedMantissa.ofMantissaAndAccuracy m acc >>> (t - e).toNat, t) := by
    unfold shiftToTargetExponent shiftToExponent
    rw [final]
    exact Prod.ext rfl reached
  generalize ExtendedMantissa.ofMantissaAndAccuracy m acc >>> (t - e).toNat = em at rounds first
  have unit : (0 : ℝ) < 2 ^ t := by positivity
  have room : em.roundedMantissa ≤ 2 ^ 24 := by
    have := scale.small.le
    rw [zpow_add₀ two_ne_zero, ← div_le_iff₀ unit] at this
    have := rounds.le_of_le (2 ^ 24) (by norm_num at this ⊢; exact this)
    omega
  have full : 2 ^ 23 ≤ em.roundedMantissa ∨ t = -149 := by
    rcases scale.full with lowest | full
    · exact .inr lowest
    · rw [zpow_add₀ two_ne_zero, ← le_div_iff₀ unit] at full
      have := rounds.ge_of_ge (2 ^ 23) (by norm_num at full ⊢; exact full)
      omega
  have high : t ≤ 103 := by
    rcases scale.full with rfl | full
    · norm_num
    · have := two_zpow_le.mp (full.trans (bounded.trans_eq (zpow_natCast 2 126).symm))
      omega
  refine ⟨signed s (em.roundedMantissa * 2 ^ t), (scale.nearest positive rounds).signed s, ?_⟩
  rcases room.lt_or_eq with small | top
  · rw [roundWithAccuracy_eq s first (shift_of_lt scale.low small)]
    split
    case isTrue none => simp [Denotes, show em.roundedMantissa = 0 from none]
    case isFalse => exact ⟨⟨small, scale.low, by omega, full⟩, rfl⟩
  · rw [roundWithAccuracy_eq s first (top ▸ shift_of_eq scale.low), top]
    refine ⟨⟨by norm_num, by have := scale.low; omega, by omega, .inl le_rfl⟩, ?_⟩
    rw [zpow_add₀ two_ne_zero]
    congr 1
    push_cast
    ring

end FieldMachine.Single
