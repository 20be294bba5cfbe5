import Mathlib
import FieldMachine.Geometry
import FieldMachine.Proofs.Rounding

/-!
# Single precision

What the operations of single precision give, told of the real numbers that their
operands stand for (`Holds`): a sum, a product, a quotient or a root is the exact one
rounded (`Nearest`), comparisons compare, and the whole numbers that are small enough
are kept as they are.
-/

namespace FieldMachine.Single

set_option autoImplicit false

open Float.Model (Format UnpackedFloat totalExponent)
open Float.Model.UnpackedFloat

/-! ## Packing -/

theorem unpackSign_packComponents {spec : Format} (s : Sign) (e : BitVec spec.exponentBits)
    (m : BitVec spec.mantissaBitsWithoutImplicit) :
    unpackSign (packComponents spec s e m) = s.toBitVec := by
  ext i inside
  obtain rfl : i = 0 := by omega
  simp [unpackSign, packComponents, BitVec.getLsbD_append, BitVec.getElem_append]

theorem ofBitVec_toBitVec (s : Sign) : Sign.ofBitVec s.toBitVec = s := by
  cases s <;> rfl

theorem toNat_append_one (m : BitVec 23) : (1#1 ++ m).toNat = 2 ^ 23 + m.toNat := by
  rw [BitVec.toNat_append, ← Nat.shiftLeft_add_eq_or_of_lt m.isLt]
  rfl

theorem unpack_packedZero (s : Sign) : unpack .binary32 (packedZero .binary32 s) = .zero s := by
  cases s <;> rfl

theorem unpack_pack_finite (s : Sign) {m : ℕ} {e : ℤ} (some : 0 < m) (fits : Fits m e) :
    unpack .binary32 (pack .binary32 (.finite s m e some)) = .finite s m e some := by
  obtain ⟨small, low, high, full⟩ := fits
  have biased : (e + (Format.binary32.exponentBias : ℕ) +
      (Format.binary32.mantissaBitsWithoutImplicit : ℕ)).toNat = (e + 150).toNat := by
    norm_num [Format.exponentBias, add_assoc]
  have fitting : ¬ 2 ^ Format.binary32.exponentBits ≤ (e + 150).toNat + 1 := by
    norm_num
    omega
  simp only [pack, biased, if_neg fitting]
  by_cases normal : 2 ^ 23 ≤ m
  · have bits : m.log2 + 1 = Format.binary32.mantissaBits := by
      rw [(Nat.log2_eq_iff some.ne').mpr ⟨normal, small⟩]
      rfl
    rw [if_pos bits]
    have exponent : (BitVec.ofNat 8 (e + 150).toNat).toNat = (e + 150).toNat := by
      rw [BitVec.toNat_ofNat, Nat.mod_eq_of_lt (by omega)]
    have apart {b : BitVec 8} (other : (e + 150).toNat ≠ b.toNat) :
        BitVec.ofNat 8 (e + 150).toNat ≠ b :=
      fun same => other (exponent.symm.trans (congrArg BitVec.toNat same))
    have finite : BitVec.ofNat 8 (e + 150).toNat ≠ -1#8 := apart (by norm_num; omega)
    have implicit : BitVec.ofNat 8 (e + 150).toNat ≠ 0#8 := apart (by norm_num; omega)
    have mantissa : (1#1 ++ BitVec.ofNat 23 m).toNat = m := by
      rw [toNat_append_one, BitVec.toNat_ofNat]
      omega
    simp only [unpack, unpackMantissa_packComponents, unpackExponent_packComponents,
      unpackSign_packComponents, ofBitVec_toBitVec, finite, implicit, if_false, exponent, mantissa]
    congr 1
    norm_num [Format.exponentBias]
    omega
  · obtain rfl : e = -149 := full.resolve_left normal
    have bits : ¬ m.log2 + 1 = Format.binary32.mantissaBits := by
      have : m.log2 < 23 := (Nat.log2_lt some.ne').mpr (by omega)
      simp [Format.mantissaBits]
      omega
    rw [if_neg bits]
    have mantissa : (BitVec.ofNat 23 m).toNat = m := by
      rw [BitVec.toNat_ofNat, Nat.mod_eq_of_lt (by omega)]
    have present : BitVec.ofNat 23 m ≠ 0#23 := by
      intro same
      have := congrArg BitVec.toNat same
      rw [mantissa] at this
      simp at this
      omega
    simp only [unpack, unpackMantissa_packComponents, unpackExponent_packComponents,
      unpackSign_packComponents, ofBitVec_toBitVec]
    rw [if_neg (by decide), if_pos trivial, dif_neg present]
    congr 1

theorem unpack_pack {u : UnpackedFloat} {x : ℝ} (denotes : Denotes u x) :
    unpack .binary32 (pack .binary32 u) = u := by
  obtain ⟨s, rfl, -⟩ | ⟨s, m, e, some, rfl, fits, -⟩ := denotes.zero_or_finite
  · exact unpack_packedZero s
  · exact unpack_pack_finite s some fits

/-! ## Operations -/

/-- A result in single precision: the exact one rounded. -/
def Rounds (u : UnpackedFloat) (x : ℝ) : Prop := ∃ v, Nearest x v ∧ Denotes u v

theorem Rounds.of_denotes {u : UnpackedFloat} {x : ℝ} (denotes : Denotes u x) : Rounds u x :=
  ⟨x, .self x, denotes⟩

theorem Rounds.zero (s : Sign) {x : ℝ} (same : x = 0) : Rounds (.zero s) x := .of_denotes same

theorem shiftLeft_mul_zpow (m k : ℕ) (e : ℤ) :
    ((m <<< k : ℕ) : ℝ) * 2 ^ (e - k) = m * 2 ^ e := by
  rw [Nat.shiftLeft_eq]
  push_cast
  rw [← zpow_natCast, mul_assoc, ← zpow_add₀ two_ne_zero]
  congr 2
  ring

theorem round_rounds (s : Sign) {m : ℕ} {e : ℤ} (some : 0 < m) (bounded : m * 2 ^ e ≤ (2 : ℝ) ^ 126) :
    Rounds (UnpackedFloat.round .binary32 s m e) (signed s (m * 2 ^ e)) := by
  have target := targetExponent_eq m e
  have value := shiftLeft_mul_zpow m (e - Format.binary32.targetExponent (totalExponent m e)).toNat e
  unfold UnpackedFloat.round decreaseExponent
  generalize Format.binary32.targetExponent (totalExponent m e) = t at target value ⊢
  have large : 2 ^ m.log2 ≤ m := Nat.log2_self_le some.ne'
  refine roundWithAccuracy_denotes s ?_ ?_ bounded
  · rw [← value, mul_div_cancel_right₀ _ (by positivity)]
    exact .exact _
  · by_cases lowest : t = -149
    · right
      omega
    · left
      have bits : 23 ≤ m.log2 + (e - t).toNat := by omega
      calc 2 ^ 23 ≤ 2 ^ (m.log2 + (e - t).toNat) := Nat.pow_le_pow_right two_pos bits
        _ = 2 ^ m.log2 * 2 ^ (e - t).toNat := pow_add _ _ _
        _ ≤ m * 2 ^ (e - t).toNat := Nat.mul_le_mul_right _ large
        _ = m <<< (e - t).toNat := (Nat.shiftLeft_eq _ _).symm

theorem normalize_rounds (n e : ℤ) (s : Sign) (bounded : |(n : ℝ) * 2 ^ e| ≤ 2 ^ 126) :
    Rounds (UnpackedFloat.normalize .binary32 n e s) (n * 2 ^ e) := by
  unfold UnpackedFloat.normalize
  rcases lt_trichotomy n 0 with negative | rfl | positive
  · rw [Int.compare_eq_lt.mpr negative]
    have cast : ((-n).toNat : ℝ) = -n := by exact_mod_cast Int.toNat_of_nonneg (by omega)
    have rounds := @round_rounds .negative (-n).toNat e (by omega)
      (by rw [cast, neg_mul]; exact (neg_le_abs _).trans bounded)
    rwa [signed, cast, neg_mul, neg_neg] at rounds
  · simpa using Rounds.zero s rfl
  · rw [Int.compare_eq_gt.mpr positive]
    have cast : (n.toNat : ℝ) = n := by exact_mod_cast Int.toNat_of_nonneg positive.le
    have rounds := @round_rounds .positive n.toNat e (by omega)
      (by rw [cast]; exact (le_abs_self _).trans bounded)
    rwa [signed, cast] at rounds

theorem decreaseExponent_value (s : Sign) (m : ℕ) {e t : ℤ} (le : t ≤ e) :
    ((s.apply (decreaseExponent m e t).1 : ℤ) : ℝ) * 2 ^ t = signed s (m * 2 ^ e) := by
  have value := shiftLeft_mul_zpow m (e - t).toNat e
  rw [show e - ((e - t).toNat : ℤ) = t by omega] at value
  rw [cast_apply, Int.cast_natCast, ← value]
  cases s
  · exact neg_mul _ _
  · rfl

theorem add_rounds {a b : UnpackedFloat} {x y : ℝ} (left : Denotes a x) (right : Denotes b y)
    (bounded : |x + y| ≤ 2 ^ 126) : Rounds (UnpackedFloat.add .binary32 a b) (x + y) := by
  obtain ⟨s, rfl, rfl⟩ | ⟨s, m, e, some, rfl, -, value⟩ := left.zero_or_finite
  · obtain ⟨t, rfl, rfl⟩ | ⟨t, n, f, more, rfl, -, -⟩ := right.zero_or_finite
    · unfold UnpackedFloat.add
      dsimp only
      split <;> exact .zero _ (add_zero 0)
    · rw [zero_add]
      exact .of_denotes right
  · obtain ⟨t, rfl, rfl⟩ | ⟨t, n, f, more, rfl, -, value'⟩ := right.zero_or_finite
    · rw [add_zero]
      exact .of_denotes left
    · have sum : x + y = ((s.apply (decreaseExponent m e (min e f)).1 +
          t.apply (decreaseExponent n f (min e f)).1 : ℤ) : ℝ) * 2 ^ (min e f) := by
        rw [Int.cast_add, add_mul, decreaseExponent_value s m (min_le_left e f),
          decreaseExponent_value t n (min_le_right e f), value, value']
      rw [sum] at bounded ⊢
      exact normalize_rounds _ _ _ bounded

theorem mul_rounds {a b : UnpackedFloat} {x y : ℝ} (left : Denotes a x) (right : Denotes b y)
    (bounded : |x * y| ≤ 2 ^ 126) : Rounds (UnpackedFloat.mul .binary32 a b) (x * y) := by
  obtain ⟨s, rfl, rfl⟩ | ⟨s, m, e, some, rfl, fits, rfl⟩ := left.zero_or_finite
  · rw [zero_mul]
    obtain ⟨t, rfl, -⟩ | ⟨t, n, f, more, rfl, -, -⟩ := right.zero_or_finite
    · exact .zero _ rfl
    · exact .zero _ rfl
  · obtain ⟨t, rfl, rfl⟩ | ⟨t, n, f, more, rfl, fits', rfl⟩ := right.zero_or_finite
    · rw [mul_zero]
      exact .zero _ rfl
    · rw [← signed_mul, abs_signed, abs_of_nonneg (by positivity)] at bounded
      rw [← signed_mul]
      have product : (m * 2 ^ e * (n * 2 ^ f) : ℝ) = (m * n : ℕ) * 2 ^ (e + f) := by
        rw [zpow_add₀ two_ne_zero]
        push_cast
        ring
      refine roundWithAccuracy_denotes (s * t) ?_ ?_ bounded
      · rw [product, mul_div_cancel_right₀ _ (by positivity)]
        exact .exact _
      · rcases fits.full with normal | rfl
        · exact .inl (normal.trans (Nat.le_mul_of_pos_right m more))
        · rcases fits'.full with normal | rfl
          · exact .inl (normal.trans (Nat.le_mul_of_pos_left n some))
          · exact .inr (by norm_num)

/-- A quotient is worked out to 24 bits or to the lowest exponent. -/
theorem divCore_enough {m n : ℕ} {e f : ℤ} (some : 0 < m) (more : 0 < n) :
    2 ^ 23 ≤ (divCore .binary32 m e n f).1 ∨ (divCore .binary32 m e n f).2.1 ≤ -149 := by
  unfold divCore
  dsimp only
  have target : Format.binary32.targetExponent (totalExponent m e - totalExponent n f) =
      max ((m.log2 + e) - (n.log2 + f) - 24) (-149) := by
    simp only [Format.targetExponent, totalExponent, Format.mantissaBits, Format.minExponent]
    norm_num
    omega
  rw [target]
  generalize low : min (e - f) (max ((m.log2 + e) - (n.log2 + f) - 24) (-149)) = t
  by_cases lowest : t ≤ -149
  · exact .inr lowest
  · left
    have bits : n.log2 + 1 + 23 ≤ m.log2 + (e - f - t).toNat := by omega
    rw [Nat.le_div_iff_mul_le more, Nat.shiftLeft_eq]
    calc 2 ^ 23 * n ≤ 2 ^ 23 * 2 ^ (n.log2 + 1) := Nat.mul_le_mul_left _ Nat.lt_log2_self.le
      _ = 2 ^ (n.log2 + 1 + 23) := by rw [← pow_add, Nat.add_comm]
      _ ≤ 2 ^ (m.log2 + (e - f - t).toNat) := Nat.pow_le_pow_right two_pos bits
      _ = 2 ^ m.log2 * 2 ^ (e - f - t).toNat := pow_add _ _ _
      _ ≤ m * 2 ^ (e - f - t).toNat := Nat.mul_le_mul_right _ (Nat.log2_self_le some.ne')

theorem divCore_marks (m : ℕ) {n : ℕ} (e f : ℤ) (more : 0 < n) :
    Marks (.ofMantissaAndAccuracy (divCore .binary32 m e n f).1 (divCore .binary32 m e n f).2.2)
      ((m * 2 ^ e) / (n * 2 ^ f) / 2 ^ (divCore .binary32 m e n f).2.1) := by
  unfold divCore
  dsimp only
  generalize low : min (e - f) _ = t
  have le : t ≤ e - f := low ▸ min_le_left _ _
  have positive : (0 : ℝ) < n := by exact_mod_cast more
  have value : ((m <<< (e - f - t).toNat : ℕ) : ℝ) = m * 2 ^ (e - f - t) := by
    have value := shiftLeft_mul_zpow m (e - f - t).toNat (e - f - t)
    rwa [show e - f - t - ((e - f - t).toNat : ℤ) = 0 by omega, zpow_zero, mul_one] at value
  have quotient : (m * 2 ^ e) / (n * 2 ^ f) / (2 : ℝ) ^ t =
      (m <<< (e - f - t).toNat : ℕ) / n := by
    rw [value, zpow_sub₀ two_ne_zero, zpow_sub₀ two_ne_zero]
    field_simp
  rw [quotient]
  generalize m <<< (e - f - t).toNat = k
  have split : (k : ℝ) / n = (k / n : ℕ) + (k % n : ℕ) / n := by
    rw [div_eq_iff positive.ne', add_mul, div_mul_cancel₀ _ positive.ne']
    exact_mod_cast (Nat.div_add_mod' k n).symm
  rw [split]
  exact .fraction _ (Nat.mod_lt k more)

theorem div_rounds {a b : UnpackedFloat} {x y : ℝ} (left : Denotes a x) (right : Denotes b y)
    (divisor : y ≠ 0) (bounded : |x / y| ≤ 2 ^ 126) :
    Rounds (UnpackedFloat.div .binary32 a b) (x / y) := by
  obtain ⟨t, rfl, none⟩ | ⟨t, n, f, more, rfl, -, rfl⟩ := right.zero_or_finite
  · exact absurd none divisor
  · obtain ⟨s, rfl, rfl⟩ | ⟨s, m, e, some, rfl, -, rfl⟩ := left.zero_or_finite
    · rw [zero_div]
      exact .zero _ rfl
    · rw [← signed_div, abs_signed, abs_of_nonneg (by positivity)] at bounded
      rw [← signed_div]
      exact roundWithAccuracy_denotes (s / t) (divCore_marks m e f more)
        (divCore_enough some more) bounded

/-- A root is worked out to 24 bits or to the lowest exponent. -/
theorem sqrtCore_enough {m : ℕ} {e : ℤ} (some : 0 < m) :
    2 ^ 23 ≤ (sqrtCore .binary32 m e).1 ∨ (sqrtCore .binary32 m e).2.1 ≤ -149 := by
  unfold sqrtCore
  dsimp only
  have target : Format.binary32.targetExponent ((totalExponent m e + 1).ediv 2) =
      max ((m.log2 + 2 + e) / 2 - 24) (-149) := by
    simp only [Format.targetExponent, totalExponent, Format.mantissaBits, Format.minExponent]
    norm_num
    rw [show (m.log2 : ℤ) + 1 + e + 1 = m.log2 + 2 + e by ring]
    rfl
  rw [target]
  generalize low : min (e.ediv 2) (max ((m.log2 + 2 + e) / 2 - 24) (-149)) = t
  by_cases lowest : t ≤ -149
  · exact .inr lowest
  · left
    have bits : 46 ≤ m.log2 + (e - 2 * t).toNat := by omega
    rw [Nat.le_sqrt, Nat.shiftLeft_eq]
    calc 2 ^ 23 * 2 ^ 23 ≤ 2 ^ (m.log2 + (e - 2 * t).toNat) := by
          rw [← pow_add]
          exact Nat.pow_le_pow_right two_pos bits
      _ = 2 ^ m.log2 * 2 ^ (e - 2 * t).toNat := pow_add _ _ _
      _ ≤ m * 2 ^ (e - 2 * t).toNat := Nat.mul_le_mul_right _ (Nat.log2_self_le some.ne')

theorem sqrtCore_marks (m : ℕ) (e : ℤ) :
    Marks (.ofMantissaAndAccuracy (sqrtCore .binary32 m e).1 (sqrtCore .binary32 m e).2.2)
      (√(m * 2 ^ e) / 2 ^ (sqrtCore .binary32 m e).2.1) := by
  unfold sqrtCore
  dsimp only
  generalize low : min (e.ediv 2) _ = t
  have le : 2 * t ≤ e := by
    have : t ≤ e / 2 := low ▸ min_le_left _ _
    omega
  have value : ((m <<< (e - 2 * t).toNat : ℕ) : ℝ) = m * 2 ^ (e - 2 * t) := by
    have value := shiftLeft_mul_zpow m (e - 2 * t).toNat (e - 2 * t)
    rwa [show e - 2 * t - ((e - 2 * t).toNat : ℤ) = 0 by omega, zpow_zero, mul_one] at value
  have root : √(m * 2 ^ e) / (2 : ℝ) ^ t = √(m <<< (e - 2 * t).toNat : ℕ) := by
    rw [div_eq_iff (by positivity), value]
    conv_rhs => rw [← Real.sqrt_sq (show (0 : ℝ) ≤ 2 ^ t by positivity)]
    rw [← Real.sqrt_mul (by positivity), zpow_sub₀ two_ne_zero, two_mul, zpow_add₀ two_ne_zero, sq]
    congr 1
    field_simp
  rw [root]
  exact .root _

theorem magnitude_pos {m : ℕ} (some : 0 < m) (e : ℤ) : (0 : ℝ) < m * 2 ^ e := by
  have : (0 : ℝ) < m := by exact_mod_cast some
  positivity

theorem sqrt_rounds {a : UnpackedFloat} {x : ℝ} (denotes : Denotes a x) (positive : 0 ≤ x)
    (bounded : x ≤ 2 ^ 126) : Rounds (UnpackedFloat.sqrt .binary32 a) (√x) := by
  obtain ⟨s, rfl, rfl⟩ | ⟨s, m, e, some, rfl, -, rfl⟩ := denotes.zero_or_finite
  · exact .zero s Real.sqrt_zero
  · cases s with
    | negative => exact absurd positive (not_le.mpr (neg_lt_zero.mpr (magnitude_pos some e)))
    | positive =>
        have small : √(m * 2 ^ e) ≤ (2 : ℝ) ^ 126 := by
          rw [Real.sqrt_le_left (by positivity)]
          exact bounded.trans (by norm_num)
        exact roundWithAccuracy_denotes .positive (sqrtCore_marks m e) (sqrtCore_enough some) small

/-! ## Comparison -/

/-- Of two numbers the one with the larger exponent is larger. -/
theorem Fits.lt_of_exponent {m n : ℕ} {e f : ℤ} (fits : Fits m e) (fits' : Fits n f) (lt : e < f) :
    (m * 2 ^ e : ℝ) < n * 2 ^ f := by
  have normal : 2 ^ 23 ≤ n := fits'.full.resolve_right (by have := fits.low; omega)
  have small : (m : ℝ) < 2 ^ 24 := by exact_mod_cast fits.small
  have large : (2 : ℝ) ^ 23 ≤ n := by exact_mod_cast normal
  calc (m * 2 ^ e : ℝ) < 2 ^ 24 * 2 ^ e := by gcongr
    _ = 2 ^ (24 + e) := by rw [zpow_add₀ two_ne_zero]; norm_num
    _ ≤ 2 ^ (23 + f) := two_zpow_le.mpr (by omega)
    _ = 2 ^ 23 * 2 ^ f := by rw [zpow_add₀ two_ne_zero]; norm_num
    _ ≤ n * 2 ^ f := by gcongr

theorem Fits.compares {m n : ℕ} {e f : ℤ} (fits : Fits m e) (fits' : Fits n f) :
    ((compare e f).then (compare m n)).Compares (m * 2 ^ e : ℝ) (n * 2 ^ f) := by
  rcases lt_trichotomy e f with lt | rfl | gt
  · rw [Int.compare_eq_lt.mpr lt]
    exact fits.lt_of_exponent fits' lt
  · rw [Int.compare_eq_eq.mpr rfl]
    have unit : (0 : ℝ) < 2 ^ e := by positivity
    rcases lt_trichotomy m n with lt | rfl | gt
    · rw [Nat.compare_eq_lt.mpr lt]
      exact mul_lt_mul_of_pos_right (by exact_mod_cast lt) unit
    · rw [Nat.compare_eq_eq.mpr rfl]
      rfl
    · rw [Nat.compare_eq_gt.mpr gt]
      exact mul_lt_mul_of_pos_right (by exact_mod_cast gt) unit
  · rw [Int.compare_eq_gt.mpr gt]
    exact fits'.lt_of_exponent fits gt

theorem denotes_neg {u : UnpackedFloat} {x : ℝ} (denotes : Denotes u x) : Denotes u.neg (-x) := by
  obtain ⟨s, rfl, rfl⟩ | ⟨s, m, e, some, rfl, fits, rfl⟩ := denotes.zero_or_finite
  · exact neg_zero
  · exact ⟨fits, (signed_neg s _).symm⟩

theorem denotes_abs {u : UnpackedFloat} {x : ℝ} (denotes : Denotes u x) : Denotes u.abs |x| := by
  obtain ⟨s, rfl, rfl⟩ | ⟨s, m, e, some, rfl, fits, rfl⟩ := denotes.zero_or_finite
  · exact abs_zero
  · refine ⟨fits, ?_⟩
    rw [abs_signed, abs_of_nonneg (by positivity)]
    rfl

theorem compares_swap {o : Ordering} {x y : ℝ} (compares : o.Compares x y) :
    o.swap.Compares (-x) (-y) := by
  cases o with
  | lt => exact neg_lt_neg compares
  | eq => exact congrArg Neg.neg compares
  | gt => exact neg_lt_neg compares

theorem compare_denotes {a b : UnpackedFloat} {x y : ℝ} (left : Denotes a x) (right : Denotes b y) :
    ∃ o : Ordering, a.compare b = some o ∧ o.Compares x y := by
  obtain ⟨s, rfl, rfl⟩ | ⟨s, m, e, some, rfl, fits, rfl⟩ := left.zero_or_finite
  · obtain ⟨t, rfl, rfl⟩ | ⟨t, n, f, more, rfl, -, rfl⟩ := right.zero_or_finite
    · exact ⟨.eq, rfl, rfl⟩
    · cases t with
      | negative => exact ⟨.gt, rfl, neg_lt_zero.mpr (magnitude_pos more f)⟩
      | positive => exact ⟨.lt, rfl, magnitude_pos more f⟩
  · obtain ⟨t, rfl, rfl⟩ | ⟨t, n, f, more, rfl, fits', rfl⟩ := right.zero_or_finite
    · cases s with
      | negative => exact ⟨.lt, rfl, neg_lt_zero.mpr (magnitude_pos some e)⟩
      | positive => exact ⟨.gt, rfl, magnitude_pos some e⟩
    · cases s with
      | negative =>
          cases t with
          | negative => exact ⟨_, rfl, compares_swap (fits.compares fits')⟩
          | positive =>
              exact ⟨.lt, rfl, (neg_lt_zero.mpr (magnitude_pos some e)).trans (magnitude_pos more f)⟩
      | positive =>
          cases t with
          | negative =>
              exact ⟨.gt, rfl, (neg_lt_zero.mpr (magnitude_pos more f)).trans (magnitude_pos some e)⟩
          | positive => exact ⟨_, rfl, fits.compares fits'⟩

/-- Cutting off what stands behind the point. -/
theorem toInt_denotes {u : UnpackedFloat} {x : ℝ} (denotes : Denotes u x) (positive : 0 ≤ x)
    (low high : ℤ) : u.toInt low high = ⌊x⌋₊ := by
  obtain ⟨s, rfl, rfl⟩ | ⟨s, m, e, some, rfl, -, rfl⟩ := denotes.zero_or_finite
  · rw [Nat.floor_zero]
    rfl
  · cases s with
    | negative => exact absurd positive (not_le.mpr (neg_lt_zero.mpr (magnitude_pos some e)))
    | positive =>
        have value := shiftLeft_mul_zpow m (e - 0).toNat e
        generalize shifted : m <<< (e - 0).toNat = n at value
        generalize left : e - ((e - 0).toNat : ℤ) = f at value
        have cut := (Marks.exact n).shiftRight (0 - f).toNat
        rw [show (n : ℝ) / 2 ^ (0 - f).toNat = m * 2 ^ e by
          rw [← value, div_eq_mul_inv, ← zpow_natCast, ← zpow_neg]
          congr 2
          omega] at cut
        rw [show signed .positive (m * 2 ^ e) = m * 2 ^ e from rfl, cut.floor]
        subst shifted left
        rfl

/-! ## Numbers -/

/-- A number of single precision stands for a real number. -/
def Holds (f : Float32) (x : ℝ) : Prop := Denotes f.toModel.unpack x

variable {f g : Float32} {x y : ℝ}

theorem holds_of_pack {u : UnpackedFloat} (packed : f.toModel = .pack u) (denotes : Denotes u x) :
    Holds f x := by
  have same : f.toModel.unpack = unpack .binary32 (pack .binary32 u) := by rw [packed]; rfl
  rw [Holds, same, unpack_pack denotes]
  exact denotes

theorem exists_holds {u : UnpackedFloat} (packed : f.toModel = .pack u) (rounds : Rounds u x) :
    ∃ v, Nearest x v ∧ Holds f v := by
  obtain ⟨v, nearest, denotes⟩ := rounds
  exact ⟨v, nearest, holds_of_pack packed denotes⟩

namespace Holds

theorem add (left : Holds f x) (right : Holds g y) (bounded : |x + y| ≤ 2 ^ 126) :
    ∃ v, Nearest (x + y) v ∧ Holds (f + g) v :=
  exists_holds rfl (add_rounds left right bounded)

theorem mul (left : Holds f x) (right : Holds g y) (bounded : |x * y| ≤ 2 ^ 126) :
    ∃ v, Nearest (x * y) v ∧ Holds (f * g) v :=
  exists_holds rfl (mul_rounds left right bounded)

theorem div (left : Holds f x) (right : Holds g y) (divisor : y ≠ 0) (bounded : |x / y| ≤ 2 ^ 126) :
    ∃ v, Nearest (x / y) v ∧ Holds (f / g) v :=
  exists_holds rfl (div_rounds left right divisor bounded)

theorem sqrt (holds : Holds f x) (positive : 0 ≤ x) (bounded : x ≤ 2 ^ 126) :
    ∃ v, Nearest (√x) v ∧ Holds f.sqrt v :=
  exists_holds rfl (sqrt_rounds holds positive bounded)

theorem neg (holds : Holds f x) : Holds (-f) (-x) :=
  holds_of_pack rfl (denotes_neg holds)

theorem abs (holds : Holds f x) : Holds f.abs |x| :=
  holds_of_pack rfl (denotes_abs holds)

theorem le_iff (left : Holds f x) (right : Holds g y) : f ≤ g ↔ x ≤ y := by
  obtain ⟨o, found, compares⟩ := compare_denotes left right
  show decide ((f.toModel.unpack.le g.toModel.unpack) = true) = true ↔ x ≤ y
  rw [decide_eq_true_iff, UnpackedFloat.le, found]
  cases o with
  | lt => exact iff_of_true rfl compares.le
  | eq => exact iff_of_true rfl compares.le
  | gt => exact iff_of_false Bool.false_ne_true (not_le.mpr compares)

theorem lt_iff (left : Holds f x) (right : Holds g y) : f < g ↔ x < y := by
  obtain ⟨o, found, compares⟩ := compare_denotes left right
  show decide ((f.toModel.unpack.lt g.toModel.unpack) = true) = true ↔ x < y
  rw [decide_eq_true_iff, UnpackedFloat.lt, found]
  cases o with
  | lt => exact iff_of_true rfl compares
  | eq => exact iff_of_false Bool.false_ne_true (not_lt.mpr compares.ge)
  | gt => exact iff_of_false Bool.false_ne_true (not_lt.mpr compares.le)

/-- A number that is not negative is cut off behind the point. -/
theorem toUInt32 (holds : Holds f x) (positive : 0 ≤ x) (small : x < 2 ^ 32) :
    f.toUInt32.toNat = ⌊x⌋₊ := by
  have whole := toInt_denotes holds positive 0 (UInt32.size - 1)
  have inside : ⌊x⌋₊ < UInt32.size := by
    rw [Nat.floor_lt positive]
    exact_mod_cast small
  show (UInt32.ofNatClamp (f.toModel.unpack.toInt 0 (UInt32.size - 1)).toNat).toNat = _
  rw [whole, Int.toNat_natCast, UInt32.ofNatClamp, dif_pos inside, UInt32.toNat_ofNatLT]

end Holds

/-! ## Whole numbers -/

theorem exists_holds_toFloat32 (n : UInt32) : ∃ v, Nearest n.toNat v ∧ Holds n.toFloat32 v := by
  have bounded : |((n.toNat : ℤ) : ℝ) * 2 ^ (0 : ℤ)| ≤ 2 ^ 126 := by
    have below : ((n.toNat : ℕ) : ℝ) < 2 ^ 32 := by exact_mod_cast n.toNat_lt
    rw [zpow_zero, mul_one, Int.cast_natCast, abs_of_nonneg (Nat.cast_nonneg _)]
    exact below.le.trans (by norm_num)
  obtain ⟨v, nearest, holds⟩ :=
    @exists_holds n.toFloat32 _ _ rfl (normalize_rounds n.toNat 0 .positive bounded)
  exact ⟨v, by simpa using nearest, holds⟩

theorem holds_toFloat32 {n : UInt32} (small : n.toNat < 2 ^ 24) : Holds n.toFloat32 n.toNat := by
  have close : |((n.toNat : ℕ) : ℝ)| < 2 ^ (24 + (0 : ℤ)) := by
    rw [abs_of_nonneg (Nat.cast_nonneg _)]
    exact_mod_cast small
  obtain ⟨v, nearest, holds⟩ := exists_holds_toFloat32 n
  rwa [nearest.eq_of_grid (k := n.toNat) (by norm_num) close (by simp)] at holds

theorem holds_zero : Holds 0 0 := by
  have same : (0 : Float32) = UInt32.toFloat32 0 := by decide +kernel
  rw [same]
  simpa using @holds_toFloat32 0 (by decide)

theorem holds_two : Holds 2 2 := by
  have same : (2 : Float32) = UInt32.toFloat32 2 := by decide +kernel
  rw [same]
  simpa using @holds_toFloat32 2 (by decide)

end FieldMachine.Single
