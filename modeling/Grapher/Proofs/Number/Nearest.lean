import Mathlib.Algebra.Order.Field.Power
import Mathlib.Algebra.Order.Floor.Semifield
import Mathlib.Data.Int.Log
import Mathlib.Data.Rat.Floor
import Mathlib.Tactic.Linarith
import Mathlib.Tactic.NormNum

/-!
Rounding to the nearest number of 53 binary places, a tie to the even one. The range is not bounded
above.
-/

namespace Grapher

open Float.Model.UnpackedFloat

/-- The whole part of a number, its first binary place, and whether anything follows that. -/
def places (x : ℚ) : ExtendedMantissa where
  mantissa := ⌊x⌋₊
  roundBit := ⌊2 * x⌋₊ % 2 != 0
  stickyBit := decide ((⌊2 * x⌋₊ : ℚ) ≠ 2 * x)

def nearestWhole (x : ℚ) : ℕ := (places x).roundedMantissa

/-- The place of the last of 53 binary digits, but none below the least double. -/
def gridExponent (x : ℚ) : ℤ := max (Int.log 2 x - 52) (-1074)

def nearestMagnitude (x : ℚ) : ℚ :=
  nearestWhole (x / 2 ^ gridExponent x) * 2 ^ gridExponent x

def nearestDouble (x : ℚ) : ℚ :=
  if x < 0 then -nearestMagnitude (-x) else nearestMagnitude x

theorem places_natCast (n : ℕ) : places n = .ofMantissaAndAccuracy n .exact := by
  have twice : ⌊2 * (n : ℚ)⌋₊ = 2 * n := by
    exact_mod_cast Nat.floor_natCast (R := ℚ) (2 * n)
  simp [places, twice, ExtendedMantissa.ofMantissaAndAccuracy]

theorem floor_eq_half_floor (x : ℚ) : ⌊x⌋₊ = ⌊2 * x⌋₊ / 2 := by
  have cancelled := Nat.cast_mul_floor_div_cancel (two_ne_zero : (2 : ℕ) ≠ 0) x
  exact_mod_cast cancelled.symm

theorem floor_eq_self_iff (x : ℚ) :
    (⌊x⌋₊ : ℚ) = x ↔ ⌊2 * x⌋₊ % 2 = 0 ∧ (⌊2 * x⌋₊ : ℚ) = 2 * x := by
  have half := floor_eq_half_floor x
  constructor
  · intro whole
    have double : ⌊2 * x⌋₊ = 2 * ⌊x⌋₊ := by
      have twice := Nat.floor_natCast (R := ℚ) (2 * ⌊x⌋₊)
      rwa [Nat.cast_mul, Nat.cast_ofNat, whole] at twice
    refine ⟨by omega, ?_⟩
    rw [double, Nat.cast_mul, Nat.cast_ofNat, whole]
  · rintro ⟨even, exact⟩
    have double : ⌊2 * x⌋₊ = 2 * ⌊x⌋₊ := by omega
    rw [double, Nat.cast_mul, Nat.cast_ofNat] at exact
    linarith

theorem shiftRightOne_places (x : ℚ) : (places x).shiftRightOne = places (x / 2) := by
  have whole : ⌊x / 2⌋₊ = ⌊x⌋₊ / 2 := Nat.floor_div_ofNat x 2
  have twice : 2 * (x / 2) = x := mul_div_cancel₀ x two_ne_zero
  unfold places ExtendedMantissa.shiftRightOne
  rw [twice, whole]
  simp only [ne_eq, floor_eq_self_iff x]
  congr 1
  rcases Nat.mod_two_eq_zero_or_one ⌊2 * x⌋₊ with even | odd
  · simp [even]
  · simp [odd]

theorem shiftRight_places (x : ℚ) (n : ℕ) :
    places x >>> n = places (x / 2 ^ n) := by
  change Nat.repeat ExtendedMantissa.shiftRightOne n (places x) = _
  induction n with
  | zero => simp [Nat.repeat]
  | succ n ih =>
      rw [Nat.repeat, ih, shiftRightOne_places, div_div, ← pow_succ]

theorem nearestWhole_natCast (n : ℕ) : nearestWhole n = n := by
  rw [nearestWhole, places_natCast]
  rfl

theorem nearestWhole_eq (x : ℚ) :
    nearestWhole x =
      if ⌊2 * x⌋₊ % 2 = 0 then ⌊2 * x⌋₊ / 2
      else if (⌊2 * x⌋₊ : ℚ) = 2 * x then ⌊2 * x⌋₊ / 2 + ⌊2 * x⌋₊ / 2 % 2
      else ⌊2 * x⌋₊ / 2 + 1 := by
  have half := floor_eq_half_floor x
  rcases Nat.mod_two_eq_zero_or_one ⌊2 * x⌋₊ with even | odd
  · by_cases exact : (⌊2 * x⌋₊ : ℚ) = 2 * x <;>
      simp [nearestWhole, places, ExtendedMantissa.roundedMantissa, ExtendedMantissa.accuracy,
        Accuracy.roundToNearestEven, half, even, exact]
  · by_cases exact : (⌊2 * x⌋₊ : ℚ) = 2 * x <;>
      simp [nearestWhole, places, ExtendedMantissa.roundedMantissa, ExtendedMantissa.accuracy,
        Accuracy.roundToNearestEven, half, odd, exact]

theorem nearestWhole_mono {x y : ℚ} (nonneg : 0 ≤ x) (le : x ≤ y) :
    nearestWhole x ≤ nearestWhole y := by
  have floors : ⌊2 * x⌋₊ ≤ ⌊2 * y⌋₊ := Nat.floor_le_floor (by linarith)
  rw [nearestWhole_eq, nearestWhole_eq]
  rcases Nat.lt_or_eq_of_le floors with less | same
  · split_ifs <;> omega
  · have exact : (⌊2 * y⌋₊ : ℚ) = 2 * y → (⌊2 * x⌋₊ : ℚ) = 2 * x := by
      intro exact
      have below : (⌊2 * x⌋₊ : ℚ) ≤ 2 * x := Nat.floor_le (by linarith)
      rw [same] at below ⊢
      linarith
    rw [same] at exact ⊢
    by_cases even : ⌊2 * y⌋₊ % 2 = 0
    · rw [if_pos even, if_pos even]
    · rw [if_neg even, if_neg even]
      by_cases tie : (⌊2 * y⌋₊ : ℚ) = 2 * y
      · rw [if_pos tie, if_pos (exact tie)]
      · rw [if_neg tie]
        split_ifs <;> omega

theorem gridExponent_mono {x y : ℚ} (pos : 0 < x) (le : x ≤ y) : gridExponent x ≤ gridExponent y := by
  have logs := Int.log_mono_right (b := 2) pos le
  simp only [gridExponent]
  omega

theorem le_gridExponent (x : ℚ) : -1074 ≤ gridExponent x := le_max_right _ _

theorem digits_scaled_lt {n k : ℕ} (digits : n < 2 ^ k) (e : ℤ) : (n * 2 ^ e : ℚ) < 2 ^ (k + e) := by
  have wide : (n : ℚ) < 2 ^ (k : ℤ) := by exact_mod_cast digits
  rw [zpow_add₀ two_ne_zero]
  gcongr

theorem le_full_scaled {n k : ℕ} (full : 2 ^ k ≤ n) (e : ℤ) : (2 : ℚ) ^ (k + e) ≤ n * 2 ^ e := by
  have wide : (2 : ℚ) ^ (k : ℤ) ≤ n := by exact_mod_cast full
  rw [zpow_add₀ two_ne_zero]
  gcongr

theorem scaled_lt (x : ℚ) : x / 2 ^ gridExponent x < 2 ^ 53 := by
  have above : x < 2 ^ (Int.log 2 x + 1) := by
    exact_mod_cast Int.lt_zpow_succ_log_self one_lt_two x
  rw [div_lt_iff₀ (by positivity)]
  calc x < 2 ^ (Int.log 2 x + 1) := above
    _ ≤ 2 ^ (53 + gridExponent x) := by
        apply zpow_le_zpow_right₀ one_le_two
        simp only [gridExponent]
        omega
    _ = 2 ^ 53 * 2 ^ gridExponent x := by
        rw [zpow_add₀ two_ne_zero]
        norm_cast

theorem le_scaled {x : ℚ} (pos : 0 < x) (above : -1074 < gridExponent x) :
    2 ^ 52 ≤ x / 2 ^ gridExponent x := by
  have below : (2 : ℚ) ^ Int.log 2 x ≤ x := by
    exact_mod_cast Int.zpow_log_le_self one_lt_two pos
  rw [le_div_iff₀ (by positivity)]
  calc (2 : ℚ) ^ 52 * 2 ^ gridExponent x = 2 ^ (52 + gridExponent x) := by
        rw [zpow_add₀ two_ne_zero]
        norm_cast
    _ ≤ 2 ^ Int.log 2 x := by
        apply zpow_le_zpow_right₀ one_le_two
        simp only [gridExponent] at above ⊢
        omega
    _ ≤ x := below

theorem nearestWhole_scaled_le {x : ℚ} (nonneg : 0 ≤ x) :
    nearestWhole (x / 2 ^ gridExponent x) ≤ 2 ^ 53 := by
  have mono := nearestWhole_mono (by positivity) (scaled_lt x).le
  rwa [← Nat.cast_ofNat, ← Nat.cast_pow, nearestWhole_natCast] at mono

theorem le_nearestWhole_scaled {x : ℚ} (pos : 0 < x) (above : -1074 < gridExponent x) :
    2 ^ 52 ≤ nearestWhole (x / 2 ^ gridExponent x) := by
  have mono := nearestWhole_mono (by positivity) (le_scaled pos above)
  rwa [← Nat.cast_ofNat, ← Nat.cast_pow, nearestWhole_natCast] at mono

theorem nearestMagnitude_nonneg (x : ℚ) : 0 ≤ nearestMagnitude x := by
  simp only [nearestMagnitude]
  positivity

@[simp] theorem nearestMagnitude_zero : nearestMagnitude 0 = 0 := by
  have zero : nearestWhole 0 = 0 := by exact_mod_cast nearestWhole_natCast 0
  simp [nearestMagnitude, zero]

@[simp] theorem nearestDouble_zero : nearestDouble 0 = 0 := by
  simp [nearestDouble]

theorem nearestMagnitude_mono {x y : ℚ} (nonneg : 0 ≤ x) (le : x ≤ y) :
    nearestMagnitude x ≤ nearestMagnitude y := by
  rcases nonneg.eq_or_lt with rfl | pos
  · rw [nearestMagnitude_zero]
    exact nearestMagnitude_nonneg y
  rcases (gridExponent_mono pos le).eq_or_lt with same | finer
  · have scaled : x / 2 ^ gridExponent y ≤ y / 2 ^ gridExponent y := by gcongr
    have whole := nearestWhole_mono (by positivity) scaled
    simp only [nearestMagnitude]
    rw [same]
    gcongr
  · -- The power of two on the border is on both grids.
    have coarse : -1074 < gridExponent y := (le_gridExponent x).trans_lt finer
    have left := nearestWhole_scaled_le nonneg
    have right := le_nearestWhole_scaled (pos.trans_le le) coarse
    calc nearestMagnitude x ≤ (2 ^ 53 : ℕ) * 2 ^ gridExponent x := by
          simp only [nearestMagnitude]
          gcongr
      _ = 2 ^ (53 + gridExponent x) := by
          rw [zpow_add₀ two_ne_zero]
          norm_cast
      _ ≤ 2 ^ (52 + gridExponent y) := zpow_le_zpow_right₀ one_le_two (by omega)
      _ = (2 ^ 52 : ℕ) * 2 ^ gridExponent y := by
          rw [zpow_add₀ two_ne_zero]
          norm_cast
      _ ≤ nearestMagnitude y := by
          simp only [nearestMagnitude]
          gcongr

/-- A number of at most 53 binary digits that end no lower than the least double is its own
nearest. -/
theorem nearestMagnitude_of_digits {n : ℕ} {e : ℤ} (digits : n < 2 ^ 53) (least : -1074 ≤ e) :
    nearestMagnitude (n * 2 ^ e) = n * 2 ^ e := by
  rcases Nat.eq_zero_or_pos n with rfl | pos
  · simp
  have grid : gridExponent (n * 2 ^ e) ≤ e := by
    have log : Int.log 2 (n * 2 ^ e : ℚ) < 53 + e := by
      rw [← Int.lt_zpow_iff_log_lt one_lt_two (by positivity)]
      exact_mod_cast digits_scaled_lt digits e
    simp only [gridExponent]
    omega
  have ⟨k, shift⟩ := Int.le.dest grid
  have scaled : (n * 2 ^ e / 2 ^ gridExponent (n * 2 ^ e) : ℚ) = (n * 2 ^ k : ℕ) := by
    rw [div_eq_iff (by positivity)]
    push_cast
    rw [mul_assoc, ← zpow_natCast, ← zpow_add₀ two_ne_zero, add_comm (k : ℤ), shift]
  rw [nearestMagnitude, scaled, nearestWhole_natCast, ← scaled, div_mul_cancel₀ _ (by positivity)]

theorem nearestDouble_mono {x y : ℚ} (le : x ≤ y) : nearestDouble x ≤ nearestDouble y := by
  simp only [nearestDouble]
  split_ifs with left right right
  · exact neg_le_neg (nearestMagnitude_mono (by linarith) (by linarith))
  · have := nearestMagnitude_nonneg (-x)
    have := nearestMagnitude_nonneg y
    linarith
  · linarith
  · exact nearestMagnitude_mono (by linarith) le

theorem nearestDouble_of_digits {n : ℕ} {e : ℤ} (digits : n < 2 ^ 53) (least : -1074 ≤ e) :
    nearestDouble (n * 2 ^ e) = n * 2 ^ e := by
  have nonneg : (0 : ℚ) ≤ n * 2 ^ e := by positivity
  rw [nearestDouble, if_neg nonneg.not_gt, nearestMagnitude_of_digits digits least]

end Grapher
