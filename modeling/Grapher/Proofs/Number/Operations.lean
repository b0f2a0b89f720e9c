import Grapher.Proofs.Number.Rounding

namespace Grapher

open Float.Model Float.Model.UnpackedFloat

variable {u v : UnpackedFloat} {x y : ℚ}

theorem apply_neg (sign : Sign) (n : ℤ) : (-sign).apply n = -sign.apply n := by
  cases sign with
  | negative => exact (neg_neg n).symm
  | positive => rfl

theorem apply_mul (sign sign' : Sign) : (sign * sign').apply 1 = sign.apply 1 * sign'.apply 1 := by
  cases sign <;> cases sign' <;> rfl

theorem apply_div (sign sign' : Sign) : (sign / sign').apply 1 = sign.apply 1 * sign'.apply 1 := by
  cases sign <;> cases sign' <;> rfl

theorem nearestDouble_signed (sign : Sign) (nonneg : 0 ≤ x) :
    nearestDouble ((sign.apply 1 : ℤ) * x) = (sign.apply 1 : ℤ) * nearestMagnitude x := by
  have positive : nearestDouble x = nearestMagnitude x := if_neg nonneg.not_gt
  cases sign with
  | negative => simp [Sign.apply, nearestDouble_neg, positive]
  | positive => simp [Sign.apply, positive]

theorem valueOf_finite (sign : Sign) {mantissa : ℕ} {exponent : ℤ} (pos : 0 < mantissa) :
    valueOf (.finite sign mantissa exponent pos) =
      (sign.apply 1 : ℤ) * (mantissa * 2 ^ exponent) := by
  rw [valueOf, apply_cast, mul_assoc]

theorem neg_represents (represents : Represents u x) : Represents u.neg (-x) := by
  obtain ⟨isFinite, canonical, rfl⟩ := represents
  cases u with
  | notANumber => contradiction
  | infinity => contradiction
  | zero sign => exact ⟨rfl, trivial, neg_zero.symm⟩
  | finite sign mantissa exponent pos =>
      refine ⟨rfl, canonical, ?_⟩
      rw [valueOf_finite, UnpackedFloat.neg, valueOf_finite, apply_neg, Int.cast_neg, neg_mul]

theorem sub_eq_add_neg_unpacked (u v : UnpackedFloat) :
    UnpackedFloat.sub .binary64 u v = UnpackedFloat.add .binary64 u v.neg := by
  cases u <;> cases v <;>
    simp only [UnpackedFloat.sub, UnpackedFloat.add, UnpackedFloat.neg, apply_neg, Int.sub_eq_add_neg]

theorem sub_represents (left : Represents u x) (right : Represents v y) :
    Represents (UnpackedFloat.sub .binary64 u v) (nearestDouble (x - y)) := by
  rw [sub_eq_add_neg_unpacked, sub_eq_add_neg]
  exact add_represents left (neg_represents right)

/-- The product of two mantissas is wide enough for the grid of the product. -/
theorem mul_fine {mantissa mantissa' : ℕ} {exponent exponent' : ℤ} (sign sign' : Sign)
    {pos : 0 < mantissa} {pos' : 0 < mantissa'}
    (canonical : Canonical (.finite sign mantissa exponent pos))
    (canonical' : Canonical (.finite sign' mantissa' exponent' pos')) :
    exponent + exponent' ≤
      gridExponent ((mantissa * mantissa' : ℕ) * 2 ^ (exponent + exponent')) := by
  obtain ⟨-, least, full⟩ := canonical
  obtain ⟨-, least', full'⟩ := canonical'
  have both : 0 < mantissa * mantissa' := Nat.mul_pos pos pos'
  by_cases bottom : exponent = -1074 ∧ exponent' = -1074
  · have := le_gridExponent ((mantissa * mantissa' : ℕ) * 2 ^ (exponent + exponent'))
    omega
  · have wide : 2 ^ 52 ≤ mantissa * mantissa' := by
      by_cases first : -1074 < exponent
      · exact (full first).trans (Nat.le_mul_of_pos_right _ pos')
      · exact (full' (by omega)).trans (Nat.le_mul_of_pos_left _ pos)
    have log : (52 : ℤ) ≤ Int.log 2 ((mantissa * mantissa' : ℕ) : ℚ) := by
      rw [← Int.zpow_le_iff_le_log one_lt_two (by exact_mod_cast both)]
      exact_mod_cast wide
    rw [gridExponent, log_two_scaled (by exact_mod_cast both)]
    omega

theorem mul_represents (left : Represents u x) (right : Represents v y) :
    Represents (UnpackedFloat.mul .binary64 u v) (nearestDouble (x * y)) := by
  obtain ⟨uFinite, uCanonical, rfl⟩ := left
  obtain ⟨vFinite, vCanonical, rfl⟩ := right
  cases u with
  | notANumber => contradiction
  | infinity => contradiction
  | zero sign =>
      rw [valueOf_zero, zero_mul, nearestDouble_zero]
      cases v with
      | notANumber => contradiction
      | infinity => contradiction
      | zero sign' => exact ⟨rfl, trivial, rfl⟩
      | finite sign' => exact ⟨rfl, trivial, rfl⟩
  | finite sign mantissa exponent pos =>
      cases v with
      | notANumber => contradiction
      | infinity => contradiction
      | zero sign' =>
          rw [valueOf_zero, mul_zero, nearestDouble_zero]
          exact ⟨rfl, trivial, rfl⟩
      | finite sign' mantissa' exponent' pos' =>
          have rounded := roundExactly_represents (sign * sign') (Nat.mul_pos pos pos')
            (mul_fine sign sign' uCanonical vCanonical)
          have product : valueOf (.finite sign mantissa exponent pos) *
              valueOf (.finite sign' mantissa' exponent' pos') =
              ((sign * sign').apply 1 : ℤ) *
                ((mantissa * mantissa' : ℕ) * 2 ^ (exponent + exponent')) := by
            rw [valueOf_finite, valueOf_finite, apply_mul, zpow_add₀ two_ne_zero]
            push_cast
            ring
          rw [product, nearestDouble_signed _ (by positivity)]
          exact rounded

theorem twice_div (n : ℕ) {d : ℕ} (pos : 0 < d) :
    2 * n / d = 2 * (n / d) + 2 * (n % d) / d ∧ 2 * n % d = 2 * (n % d) % d := by
  have split : 2 * n = d * (2 * (n / d)) + 2 * (n % d) := by
    have := Nat.div_add_mod n d
    linarith
  constructor
  · conv_lhs => rw [split, Nat.mul_add_div pos]
  · conv_lhs => rw [split, Nat.mul_add_mod]

theorem places_fraction (n : ℕ) {d : ℕ} (pos : 0 < d) :
    places (n / d : ℚ) =
      ⟨n / d, 2 * (n % d) / d % 2 != 0, decide (2 * (n % d) % d ≠ 0)⟩ := by
  obtain ⟨quotient, remainder⟩ := twice_div n pos
  have floor : ⌊(n / d : ℚ)⌋₊ = n / d := Nat.floor_div_eq_div n d
  have twice : 2 * (n / d : ℚ) = (2 * n : ℕ) / d := by
    push_cast
    ring
  have floors : ⌊2 * (n / d : ℚ)⌋₊ = 2 * n / d := by
    rw [twice]
    exact Nat.floor_div_eq_div (2 * n) d
  have whole : ((2 * n / d : ℕ) : ℚ) = 2 * (n / d) ↔ 2 * (n % d) % d = 0 := by
    rw [twice, eq_div_iff (by positivity), ← Nat.cast_mul, Nat.cast_inj, ← remainder]
    have := Nat.div_add_mod' (2 * n) d
    omega
  unfold places
  rw [floor, floors]
  simp only [ne_eq, whole]
  rw [quotient, Nat.mul_add_mod]

theorem cut_fraction (n : ℕ) {d : ℕ} (pos : 0 < d) :
    .ofMantissaAndAccuracy (n / d) (accuracyOfFraction (n % d) d) = places (n / d : ℚ) := by
  have small := Nat.mod_lt n pos
  rw [places_fraction n pos]
  generalize n % d = r at *
  rcases Nat.eq_zero_or_pos r with rfl | positive
  · simp [accuracyOfFraction, ExtendedMantissa.ofMantissaAndAccuracy]
  · rcases lt_trichotomy (2 * r) d with below | half | above
    · rw [Nat.div_eq_of_lt below, Nat.mod_eq_of_lt below]
      simp [accuracyOfFraction, positive.ne', Nat.compare_eq_lt.mpr below,
        ExtendedMantissa.ofMantissaAndAccuracy]
    · rw [half, Nat.div_self pos, Nat.mod_self]
      simp [accuracyOfFraction, positive.ne', half, ExtendedMantissa.ofMantissaAndAccuracy]
    · have once : 2 * r / d = 1 := by
        rw [Nat.div_eq_iff pos]
        omega
      have left : 2 * r % d ≠ 0 := by
        have := Nat.div_add_mod (2 * r) d
        rw [once] at this
        omega
      rw [once]
      simp [accuracyOfFraction, positive.ne', Nat.compare_eq_gt.mpr above, left,
        ExtendedMantissa.ofMantissaAndAccuracy]

/-- The quotient is taken far enough for the grid of the fraction. -/
theorem div_fine {mantissa mantissa' : ℕ} (pos : 0 < mantissa) (pos' : 0 < mantissa')
    (exponent exponent' : ℤ) :
    Format.binary64.targetExponent
        (totalExponent mantissa exponent - totalExponent mantissa' exponent') ≤
      gridExponent (mantissa * 2 ^ exponent / (mantissa' * 2 ^ exponent')) := by
  have dividend : (2 : ℚ) ^ (mantissa.log2 + exponent) ≤ mantissa * 2 ^ exponent := by
    rw [zpow_add₀ two_ne_zero, zpow_natCast]
    gcongr
    exact_mod_cast Nat.log2_self_le pos.ne'
  have divisor : (mantissa' * 2 ^ exponent' : ℚ) ≤ 2 ^ (mantissa'.log2 + 1 + exponent') := by
    have above : (mantissa' : ℚ) ≤ 2 ^ (mantissa'.log2 + 1 : ℤ) := by
      exact_mod_cast (Nat.lt_log2_self (n := mantissa')).le
    rw [zpow_add₀ two_ne_zero]
    gcongr
  have quotient : ((2 : ℕ) : ℚ) ^ ((mantissa.log2 + exponent) - (mantissa'.log2 + 1 + exponent')) ≤
      mantissa * 2 ^ exponent / (mantissa' * 2 ^ exponent') := by
    rw [Nat.cast_ofNat, zpow_sub₀ two_ne_zero]
    gcongr
  have log := (Int.zpow_le_iff_le_log one_lt_two (by positivity)).mp quotient
  simp only [gridExponent, Format.targetExponent, totalExponent, Format.mantissaBits,
    Format.minExponent]
  omega

theorem divCore_represents (sign : Sign) {mantissa mantissa' : ℕ} (pos : 0 < mantissa)
    (pos' : 0 < mantissa') (exponent exponent' : ℤ) :
    Represents
      (roundWithAccuracy .binary64 sign (divCore .binary64 mantissa exponent mantissa' exponent').1
        (divCore .binary64 mantissa exponent mantissa' exponent').2.1
        (divCore .binary64 mantissa exponent mantissa' exponent').2.2)
      ((sign.apply 1 : ℤ) *
        nearestMagnitude (mantissa * 2 ^ exponent / (mantissa' * 2 ^ exponent'))) := by
  obtain ⟨target, target_eq⟩ : ∃ target, target = min (exponent - exponent')
      (Format.binary64.targetExponent
        (totalExponent mantissa exponent - totalExponent mantissa' exponent')) := ⟨_, rfl⟩
  obtain ⟨k, shift⟩ := Int.le.dest (target_eq ▸ min_le_left _ _ : target ≤ exponent - exponent')
  have amount : (exponent - exponent' - target).toNat = k := by omega
  have value : (mantissa * 2 ^ k : ℕ) / (mantissa' : ℚ) * 2 ^ target =
      mantissa * 2 ^ exponent / (mantissa' * 2 ^ exponent') := by
    have exponent_eq : exponent = target + k + exponent' := by omega
    rw [exponent_eq, zpow_add₀ two_ne_zero, zpow_add₀ two_ne_zero, zpow_natCast]
    push_cast
    field_simp
  have positive : (0 : ℚ) < (mantissa * 2 ^ k : ℕ) / (mantissa' : ℚ) := by positivity
  have fine : target ≤ gridExponent ((mantissa * 2 ^ k : ℕ) / (mantissa' : ℚ) * 2 ^ target) := by
    rw [value, target_eq]
    exact (min_le_right _ _).trans (div_fine pos pos' exponent exponent')
  have cut := cut_fraction (mantissa * 2 ^ k) pos'
  have floor : ⌊((mantissa * 2 ^ k : ℕ) / (mantissa' : ℚ))⌋₊ = mantissa * 2 ^ k / mantissa' :=
    Nat.floor_div_eq_div _ _
  rw [← floor] at cut
  have rounded := roundWithAccuracy_represents sign positive cut fine
  rw [value, floor] at rounded
  simp only [divCore, ← target_eq, amount, Nat.shiftLeft_eq]
  exact rounded

theorem div_represents (left : Represents u x) (right : Represents v y) (nonzero : y ≠ 0) :
    Represents (UnpackedFloat.div .binary64 u v) (nearestDouble (x / y)) := by
  obtain ⟨uFinite, uCanonical, rfl⟩ := left
  obtain ⟨vFinite, vCanonical, rfl⟩ := right
  cases v with
  | notANumber => contradiction
  | infinity => contradiction
  | zero sign' => exact absurd rfl nonzero
  | finite sign' mantissa' exponent' pos' =>
      cases u with
      | notANumber => contradiction
      | infinity => contradiction
      | zero sign =>
          rw [valueOf_zero, zero_div, nearestDouble_zero]
          exact ⟨rfl, trivial, rfl⟩
      | finite sign mantissa exponent pos =>
          have quotient : valueOf (.finite sign mantissa exponent pos) /
              valueOf (.finite sign' mantissa' exponent' pos') =
              ((sign / sign').apply 1 : ℤ) *
                (mantissa * 2 ^ exponent / (mantissa' * 2 ^ exponent')) := by
            rw [valueOf_finite, valueOf_finite, apply_div]
            cases sign' <;> simp [Sign.apply] <;> ring
          rw [quotient, nearestDouble_signed _ (by positivity)]
          exact divCore_represents (sign / sign') pos pos' exponent exponent'

theorem ofNat_represents {n : ℕ} (digits : n < 2 ^ 53) :
    Represents (UnpackedFloat.ofNat .binary64 n) n := by
  have whole := normalize_represents n 0 .positive
  have own := nearestDouble_of_digits digits (e := 0) (by omega)
  rw [Int.cast_natCast, own, zpow_zero, mul_one] at whole
  exact whole

end Grapher
