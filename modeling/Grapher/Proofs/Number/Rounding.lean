import Grapher.Proofs.Number.Nearest
import Mathlib

namespace Grapher

open Float.Model Float.Model.UnpackedFloat

/-- The number that an unpacked float stands for, zero if it is not finite. -/
def valueOf : UnpackedFloat → ℚ
  | .finite sign mantissa exponent _ => (sign.apply mantissa : ℤ) * 2 ^ exponent
  | _ => 0

/-- A mantissa of 53 binary digits, of fewer only at the least exponent. -/
def Canonical : UnpackedFloat → Prop
  | .finite _ mantissa exponent _ =>
    mantissa < 2 ^ 53 ∧ -1074 ≤ exponent ∧ (-1074 < exponent → 2 ^ 52 ≤ mantissa)
  | _ => True

theorem valueOf_zero (sign : Sign) : valueOf (.zero sign) = 0 := rfl

theorem valueOf_positive {mantissa : ℕ} {exponent : ℤ} (pos : 0 < mantissa) :
    valueOf (.finite .positive mantissa exponent pos) = mantissa * 2 ^ exponent := by
  simp [valueOf, Sign.apply]

theorem valueOf_negative {mantissa : ℕ} {exponent : ℤ} (pos : 0 < mantissa) :
    valueOf (.finite .negative mantissa exponent pos) = -(mantissa * 2 ^ exponent) := by
  simp [valueOf, Sign.apply]

/-- A float that is finite and canonical, with its number. -/
structure Represents (u : UnpackedFloat) (x : ℚ) : Prop where
  finite : u.isFinite = true
  canonical : Canonical u
  value : valueOf u = x

theorem apply_cast (sign : Sign) (n : ℕ) :
    ((sign.apply n : ℤ) : ℚ) = (sign.apply 1 : ℤ) * n := by
  cases sign <;> simp [Sign.apply]

theorem nearestDouble_neg (x : ℚ) : nearestDouble (-x) = -nearestDouble x := by
  simp only [nearestDouble]
  rcases lt_trichotomy x 0 with negative | rfl | positive
  · rw [if_neg (by linarith), if_pos negative, neg_neg]
  · simp
  · rw [if_pos (by linarith), if_neg (by linarith), neg_neg]

theorem nearestDouble_valueOf {u : UnpackedFloat} (canonical : Canonical u) :
    nearestDouble (valueOf u) = valueOf u := by
  cases u with
  | finite sign mantissa exponent pos =>
      obtain ⟨digits, least, -⟩ := canonical
      have own := nearestDouble_of_digits digits least
      cases sign with
      | positive => simpa [valueOf, Sign.apply] using own
      | negative => simpa [valueOf, Sign.apply, nearestDouble_neg] using own
  | _ => simp [valueOf, nearestDouble]

theorem log_two_scaled {x : ℚ} (pos : 0 < x) (exponent : ℤ) :
    Int.log 2 (x * 2 ^ exponent) = Int.log 2 x + exponent := by
  have scaled : 0 < x * 2 ^ exponent := by positivity
  have lower : (2 : ℚ) ^ Int.log 2 x ≤ x := by
    exact_mod_cast Int.zpow_log_le_self one_lt_two pos
  have upper : x < 2 ^ (Int.log 2 x + 1) := by
    exact_mod_cast Int.lt_zpow_succ_log_self one_lt_two x
  apply le_antisymm
  · rw [← Int.lt_add_one_iff, ← Int.lt_zpow_iff_log_lt one_lt_two scaled]
    push_cast
    rw [add_right_comm, zpow_add₀ two_ne_zero]
    gcongr
  · rw [← Int.zpow_le_iff_le_log one_lt_two scaled]
    push_cast
    rw [zpow_add₀ two_ne_zero]
    gcongr

/-- A mantissa that was cut off chooses the same grid as the number itself. -/
theorem targetExponent_floor {x : ℚ} (pos : 0 < x) {exponent : ℤ}
    (fine : 1 ≤ x ∨ exponent ≤ gridExponent (x * 2 ^ exponent)) :
    Format.binary64.targetExponent (totalExponent ⌊x⌋₊ exponent) =
      gridExponent (x * 2 ^ exponent) := by
  rcases le_or_gt 1 x with whole | fraction
  · rw [gridExponent, log_two_scaled pos, Int.log_of_one_le_right 2 whole, ← Nat.log2_eq_log_two]
    simp only [Format.targetExponent, totalExponent, Format.mantissaBits, Format.minExponent]
    omega
  · have fine := fine.resolve_left fraction.not_ge
    have log : Int.log 2 x < 0 := by
      rw [← Int.lt_zpow_iff_log_lt one_lt_two pos]
      exact_mod_cast fraction
    rw [gridExponent, log_two_scaled pos] at fine ⊢
    rw [Nat.floor_eq_zero.mpr fraction]
    simp only [Format.targetExponent, totalExponent, Format.mantissaBits, Format.minExponent,
      Nat.log2_zero]
    omega

theorem targetExponent_eq {mantissa : ℕ} (pos : 0 < mantissa) (exponent : ℤ) :
    Format.binary64.targetExponent (totalExponent mantissa exponent) =
      gridExponent (mantissa * 2 ^ exponent) := by
  have whole : (1 : ℚ) ≤ mantissa := by exact_mod_cast pos
  have chosen := targetExponent_floor (zero_lt_one.trans_le whole) (.inl whole : _ ∨ exponent ≤ _)
  rwa [Nat.floor_natCast] at chosen

theorem Represents.nearestDouble_eq {u : UnpackedFloat} {x : ℚ} (represents : Represents u x) :
    nearestDouble x = x := by
  rw [← represents.value]
  exact nearestDouble_valueOf represents.canonical

theorem decreaseExponent_value (mantissa : ℕ) {exponent lower : ℤ} (le : lower ≤ exponent) :
    ((decreaseExponent mantissa exponent lower).1 : ℚ) * 2 ^ lower = mantissa * 2 ^ exponent := by
  have shift : exponent = (exponent - lower).toNat + lower := by omega
  simp only [decreaseExponent, Nat.shiftLeft_eq]
  conv_rhs => rw [shift, zpow_add₀ two_ne_zero]
  push_cast
  rw [zpow_natCast, mul_assoc]

theorem aligned_value (sign : Sign) (mantissa : ℕ) {exponent lower : ℤ} (le : lower ≤ exponent) :
    ((sign.apply (decreaseExponent mantissa exponent lower).1 : ℤ) : ℚ) * 2 ^ lower =
      (sign.apply mantissa : ℤ) * 2 ^ exponent := by
  rw [apply_cast, mul_assoc, decreaseExponent_value mantissa le, ← mul_assoc, ← apply_cast]

/-- The first shift of rounding leaves the binary places of the number in units of its grid. -/
theorem shiftToTargetExponent_eq {x : ℚ} (pos : 0 < x) {exponent : ℤ} {accuracy : Accuracy}
    (cut : .ofMantissaAndAccuracy ⌊x⌋₊ accuracy = places x)
    (fine : exponent ≤ gridExponent (x * 2 ^ exponent)) :
    shiftToTargetExponent .binary64 ⌊x⌋₊ exponent accuracy =
      (places (x * 2 ^ exponent / 2 ^ gridExponent (x * 2 ^ exponent)),
        gridExponent (x * 2 ^ exponent)) := by
  unfold shiftToTargetExponent shiftToExponent
  rw [targetExponent_floor pos (.inr fine), cut]
  generalize gridExponent (x * 2 ^ exponent) = grid at *
  obtain ⟨k, rfl⟩ := Int.le.dest fine
  have amount : (exponent + k - exponent).toNat = k := by omega
  simp only [amount, shiftRight_places, Prod.mk.injEq, and_true]
  rw [zpow_add₀ two_ne_zero, zpow_natCast, mul_comm x, mul_div_mul_left _ _ (by positivity)]

/-- The second shift of rounding only moves a mantissa that rounded up to a power of two. -/
theorem shiftToTargetExponent_rounded {mantissa : ℕ} {exponent : ℤ} (digits : mantissa ≤ 2 ^ 53)
    (least : -1074 ≤ exponent) :
    shiftToTargetExponent .binary64 mantissa exponent .exact =
      if mantissa < 2 ^ 53 then (⟨mantissa, false, false⟩, exponent)
      else (⟨2 ^ 52, false, false⟩, exponent + 1) := by
  split_ifs with small
  · have log : mantissa.log2 ≤ 52 := by
      rcases Nat.eq_zero_or_pos mantissa with rfl | pos
      · decide
      · have := (Nat.log2_lt pos.ne').mpr small
        omega
    have still : Format.binary64.targetExponent (totalExponent mantissa exponent) ≤ exponent := by
      simp only [Format.targetExponent, totalExponent, Format.mantissaBits, Format.minExponent]
      omega
    have amount :
        (Format.binary64.targetExponent (totalExponent mantissa exponent) - exponent).toNat = 0 := by
      omega
    simp only [shiftToTargetExponent, shiftToExponent, amount]
    simp [HShiftRight.hShiftRight, Nat.repeat, ExtendedMantissa.ofMantissaAndAccuracy]
  · have full : mantissa = 2 ^ 53 := by omega
    have amount :
        (Format.binary64.targetExponent (totalExponent (2 ^ 53) exponent) - exponent).toNat = 1 := by
      simp only [Format.targetExponent, totalExponent, Format.mantissaBits, Format.minExponent,
        Nat.log2_two_pow]
      omega
    rw [full]
    simp only [shiftToTargetExponent, shiftToExponent, amount]
    rfl

theorem rounded_represents (sign : Sign) {rounded : ℕ} {grid : ℤ} (digits : rounded ≤ 2 ^ 53)
    (least : -1074 ≤ grid) (full : -1074 < grid → 2 ^ 52 ≤ rounded) :
    Represents
      (if zero : (shiftToTargetExponent .binary64 rounded grid .exact).1.mantissa = 0 then .zero sign
      else .finite sign (shiftToTargetExponent .binary64 rounded grid .exact).1.mantissa
        (shiftToTargetExponent .binary64 rounded grid .exact).2 (Nat.pos_of_ne_zero zero))
      ((sign.apply 1 : ℤ) * (rounded * 2 ^ grid)) := by
  have moved := shiftToTargetExponent_rounded digits least
  by_cases small : rounded < 2 ^ 53
  · rw [if_pos small] at moved
    simp only [moved]
    by_cases zero : rounded = 0
    · simp only [zero, ↓reduceDIte]
      exact ⟨rfl, trivial, by simp [valueOf]⟩
    · simp only [zero, ↓reduceDIte]
      refine ⟨rfl, ⟨small, least, full⟩, ?_⟩
      rw [valueOf, apply_cast, mul_assoc]
  · have top : rounded = 2 ^ 53 := by omega
    have nonzero : (2 : ℕ) ^ 52 ≠ 0 := by positivity
    rw [if_neg small] at moved
    simp only [moved, nonzero, ↓reduceDIte]
    refine ⟨rfl, ⟨by norm_num, by omega, fun _ => le_rfl⟩, ?_⟩
    rw [valueOf, apply_cast, top, zpow_add₀ two_ne_zero]
    push_cast
    ring

theorem roundWithAccuracy_represents (sign : Sign) {x : ℚ} (pos : 0 < x) {exponent : ℤ}
    {accuracy : Accuracy} (cut : .ofMantissaAndAccuracy ⌊x⌋₊ accuracy = places x)
    (fine : exponent ≤ gridExponent (x * 2 ^ exponent)) :
    Represents (roundWithAccuracy .binary64 sign ⌊x⌋₊ exponent accuracy)
      ((sign.apply 1 : ℤ) * nearestMagnitude (x * 2 ^ exponent)) := by
  have positive : 0 < x * 2 ^ exponent := by positivity
  unfold roundWithAccuracy
  rw [shiftToTargetExponent_eq pos cut fine]
  exact rounded_represents sign (nearestWhole_scaled_le positive.le) (le_gridExponent _)
    (le_nearestWhole_scaled positive)

theorem roundExactly_represents (sign : Sign) {mantissa : ℕ} (pos : 0 < mantissa) {exponent : ℤ}
    (fine : exponent ≤ gridExponent (mantissa * 2 ^ exponent)) :
    Represents (roundWithAccuracy .binary64 sign mantissa exponent .exact)
      ((sign.apply 1 : ℤ) * nearestMagnitude (mantissa * 2 ^ exponent)) := by
  have cut : .ofMantissaAndAccuracy ⌊(mantissa : ℚ)⌋₊ .exact = places mantissa := by
    rw [Nat.floor_natCast, places_natCast]
  have rounded := roundWithAccuracy_represents sign (by exact_mod_cast pos) cut fine
  rwa [Nat.floor_natCast] at rounded

theorem round_represents (sign : Sign) {mantissa : ℕ} (pos : 0 < mantissa) (exponent : ℤ) :
    Represents (UnpackedFloat.round .binary64 sign mantissa exponent)
      ((sign.apply 1 : ℤ) * nearestMagnitude (mantissa * 2 ^ exponent)) := by
  unfold UnpackedFloat.round
  rw [targetExponent_eq pos]
  obtain ⟨grid, grid_eq⟩ : ∃ grid, grid = gridExponent (mantissa * 2 ^ exponent) := ⟨_, rfl⟩
  rw [← grid_eq]
  rcases le_total exponent grid with fine | coarse
  · have amount : (exponent - grid).toNat = 0 := by omega
    have rounded := roundExactly_represents sign pos (grid_eq ▸ fine)
    simpa only [decreaseExponent, amount, Nat.shiftLeft_zero, Nat.cast_zero, sub_zero] using rounded
  · have value := decreaseExponent_value mantissa coarse
    have lowered : (decreaseExponent mantissa exponent grid).2 = grid := by
      simp only [decreaseExponent]
      omega
    have positive : 0 < (decreaseExponent mantissa exponent grid).1 := by
      simp only [decreaseExponent, Nat.shiftLeft_eq]
      positivity
    have fine : grid ≤ gridExponent ((decreaseExponent mantissa exponent grid).1 * 2 ^ grid) := by
      rw [value, grid_eq]
    have rounded := roundExactly_represents sign positive fine
    rw [value] at rounded
    simp only [lowered]
    exact rounded

theorem normalize_represents (mantissa exponent : ℤ) (zeroSign : Sign) :
    Represents (UnpackedFloat.normalize .binary64 mantissa exponent zeroSign)
      (nearestDouble (mantissa * 2 ^ exponent)) := by
  have unit : (0 : ℚ) < 2 ^ exponent := by positivity
  unfold UnpackedFloat.normalize nearestDouble
  rcases lt_trichotomy mantissa 0 with negative | rfl | positive
  · have below : (mantissa : ℚ) * 2 ^ exponent < 0 :=
      mul_neg_of_neg_of_pos (by exact_mod_cast negative) unit
    have magnitude : ((-mantissa).toNat : ℚ) = -mantissa := by
      have := Int.toNat_of_nonneg (show 0 ≤ -mantissa by omega)
      exact_mod_cast this
    have rounded := round_represents .negative (show 0 < (-mantissa).toNat by omega) exponent
    rw [Int.compare_eq_lt.mpr negative, if_pos below]
    simpa [magnitude, Sign.apply] using rounded
  · simp only [Int.cast_zero, zero_mul, lt_irrefl, if_false, nearestMagnitude_zero]
    exact ⟨rfl, trivial, rfl⟩
  · have above : ¬(mantissa : ℚ) * 2 ^ exponent < 0 :=
      (mul_pos (by exact_mod_cast positive) unit).not_gt
    have magnitude : (mantissa.toNat : ℚ) = mantissa := by
      exact_mod_cast Int.toNat_of_nonneg positive.le
    have rounded := round_represents .positive (show 0 < mantissa.toNat by omega) exponent
    rw [Int.compare_eq_gt.mpr positive, if_neg above]
    simpa [magnitude, Sign.apply] using rounded

theorem add_represents {u v : UnpackedFloat} {x y : ℚ} (left : Represents u x)
    (right : Represents v y) : Represents (UnpackedFloat.add .binary64 u v) (nearestDouble (x + y)) := by
  obtain ⟨uFinite, uCanonical, rfl⟩ := left
  obtain ⟨vFinite, vCanonical, rfl⟩ := right
  cases u with
  | notANumber => contradiction
  | infinity => contradiction
  | zero sign =>
      rw [valueOf_zero, zero_add, nearestDouble_valueOf vCanonical]
      cases v with
      | notANumber => contradiction
      | infinity => contradiction
      | zero sign' =>
          change Represents (if sign == sign' then .zero sign else .zero .positive) 0
          split <;> exact ⟨rfl, trivial, rfl⟩
      | finite => exact ⟨vFinite, vCanonical, rfl⟩
  | finite sign mantissa exponent pos =>
      cases v with
      | notANumber => contradiction
      | infinity => contradiction
      | zero sign' =>
          rw [valueOf_zero, add_zero, nearestDouble_valueOf uCanonical]
          exact ⟨uFinite, uCanonical, rfl⟩
      | finite sign' mantissa' exponent' pos' =>
          have sum := normalize_represents
            (sign.apply (decreaseExponent mantissa exponent (min exponent exponent')).1 +
              sign'.apply (decreaseExponent mantissa' exponent' (min exponent exponent')).1)
            (min exponent exponent') .positive
          rw [Int.cast_add, add_mul, aligned_value sign mantissa (min_le_left _ _),
            aligned_value sign' mantissa' (min_le_right _ _)] at sum
          exact sum

end Grapher
