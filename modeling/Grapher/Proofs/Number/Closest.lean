import Grapher.Proofs.Number.Error

/-!
Rounding takes the closest double: none is closer to a number, and between two neighbouring doubles the
middle decides.
-/

namespace Grapher

open Float.Model Float.Model.UnpackedFloat

variable {x : ℚ} {n : ℕ} {e : ℤ}

theorem abs_nearestWhole_sub_le_natCast (nonneg : 0 ≤ x) (n : ℕ) :
    |(nearestWhole x : ℚ) - x| ≤ |n - x| := by
  rcases eq_or_ne n (nearestWhole x) with same | differ
  · rw [same]
  · have near := abs_nearestWhole_sub_le nonneg
    have apart : (1 : ℚ) ≤ |(n : ℚ) - nearestWhole x| := by
      have whole : (n : ℤ) - nearestWhole x ≠ 0 := sub_ne_zero.mpr (by exact_mod_cast differ)
      exact_mod_cast Int.one_le_abs whole
    have between := abs_sub_le (n : ℚ) x (nearestWhole x)
    rw [abs_sub_comm x] at between
    linarith

theorem two_zpow_add (k : ℕ) (e : ℤ) : (2 : ℚ) ^ (k + e) = (2 ^ k : ℕ) * 2 ^ e := by
  rw [zpow_add₀ two_ne_zero]
  norm_cast

theorem abs_nearestMagnitude_sub_le_multiple (nonneg : 0 ≤ x) (n : ℕ) :
    |nearestMagnitude x - x| ≤ |n * 2 ^ gridExponent x - x| := by
  have unit : (0 : ℚ) < 2 ^ gridExponent x := by positivity
  have scaled (m : ℕ) : |m * 2 ^ gridExponent x - x| =
      |(m : ℚ) - x / 2 ^ gridExponent x| * 2 ^ gridExponent x := by
    rw [← abs_of_pos unit, ← abs_mul, abs_of_pos unit, sub_mul, div_mul_cancel₀ x unit.ne']
  rw [nearestMagnitude, scaled, scaled]
  exact mul_le_mul_of_nonneg_right (abs_nearestWhole_sub_le_natCast (by positivity) n) unit.le

theorem abs_nearestMagnitude_sub_le_digits (nonneg : 0 ≤ x) (digits : n < 2 ^ 53) (least : -1074 ≤ e) :
    |nearestMagnitude x - x| ≤ |n * 2 ^ e - x| := by
  rcases nonneg.eq_or_lt with rfl | pos
  · rw [nearestMagnitude_zero, sub_zero, abs_zero]
    exact abs_nonneg _
  rcases le_or_gt (gridExponent x) e with coarse | fine
  · obtain ⟨k, rfl⟩ := Int.le.dest coarse
    have multiple := abs_nearestMagnitude_sub_le_multiple nonneg (n * 2 ^ k)
    have same : ((n * 2 ^ k : ℕ) * 2 ^ gridExponent x : ℚ) = n * 2 ^ (gridExponent x + k) := by
      rw [zpow_add₀ two_ne_zero, zpow_natCast]
      push_cast
      ring
    rwa [same] at multiple
  · -- Doubles on a finer grid lie below the least number on the grid of `x`.
    have unit : (0 : ℚ) < 2 ^ gridExponent x := by positivity
    have border : (2 ^ 52 : ℕ) * 2 ^ gridExponent x ≤ x := by
      have full := le_scaled pos (least.trans_lt fine)
      rw [le_div_iff₀ unit] at full
      exact_mod_cast full
    have finer : (n * 2 ^ e : ℚ) ≤ (2 ^ 52 : ℕ) * 2 ^ gridExponent x := by
      calc (n * 2 ^ e : ℚ) ≤ 2 ^ (53 + e) := (digits_scaled_lt digits e).le
        _ ≤ 2 ^ (52 + gridExponent x) := zpow_le_zpow_right₀ one_le_two (by omega)
        _ = (2 ^ 52 : ℕ) * 2 ^ gridExponent x := two_zpow_add 52 _
    calc |nearestMagnitude x - x| ≤ |(2 ^ 52 : ℕ) * 2 ^ gridExponent x - x| :=
          abs_nearestMagnitude_sub_le_multiple nonneg (2 ^ 52)
      _ = x - (2 ^ 52 : ℕ) * 2 ^ gridExponent x := by
          rw [abs_sub_comm, abs_of_nonneg (sub_nonneg.mpr border)]
      _ ≤ x - n * 2 ^ e := sub_le_sub_left finer x
      _ = |n * 2 ^ e - x| := by rw [abs_sub_comm, abs_of_nonneg (sub_nonneg.mpr (finer.trans border))]

theorem abs_double (d : Float) :
    ∃ (n : ℕ) (e : ℤ), |valueOfDouble d| = n * 2 ^ e ∧ n < 2 ^ 53 ∧ -1074 ≤ e := by
  have canonical := (unpack_spec d.toModel).1
  unfold valueOfDouble
  cases unpacked : d.toModel.unpack with
  | finite sign mantissa exponent pos =>
      rw [unpacked] at canonical
      exact ⟨mantissa, exponent, abs_valueOf pos, canonical.1, canonical.2.1⟩
  | _ => exact ⟨0, 0, by simp [valueOf], by norm_num, by norm_num⟩

theorem exists_fraction {d : Float} (large : 1 ≤ valueOfDouble d) (small : valueOfDouble d < 2 ^ 53) :
    ∃ n k : ℕ, valueOfDouble d = n * 2 ^ (-k : ℤ) ∧ 2 ^ 52 ≤ n ∧ n < 2 ^ 53 := by
  obtain ⟨canonical, -⟩ := unpack_spec d.toModel
  unfold valueOfDouble at *
  cases unpacked : d.toModel.unpack with
  | finite sign mantissa exponent pos =>
      rw [unpacked] at canonical large small
      obtain ⟨digits, least, full⟩ := canonical
      cases sign with
      | negative =>
          have positive : (0 : ℚ) < mantissa * 2 ^ exponent := by positivity
          rw [valueOf_negative] at large
          linarith
      | positive =>
          rw [valueOf_positive] at large small ⊢
          have reached := large.trans_lt (digits_scaled_lt digits exponent)
          rw [← zpow_zero (2 : ℚ)] at reached
          have above := (zpow_lt_zpow_iff_right₀ one_lt_two).mp reached
          have normal := full (by push_cast at above; omega)
          have short := (le_full_scaled normal exponent).trans_lt small
          rw [← zpow_natCast] at short
          have below := (zpow_lt_zpow_iff_right₀ one_lt_two).mp short
          push_cast at below
          obtain ⟨k, rfl⟩ := Int.exists_eq_neg_ofNat (show exponent ≤ 0 by omega)
          exact ⟨mantissa, k, rfl, normal, digits⟩
  | _ =>
      rw [unpacked] at large
      exact absurd large zero_lt_one.not_ge

/-- No double is closer to a number than its nearest one. -/
theorem abs_nearestDouble_sub_le_double (x : ℚ) (d : Float) :
    |nearestDouble x - x| ≤ |valueOfDouble d - x| := by
  obtain ⟨n, e, size, digits, least⟩ := abs_double d
  have magnitude := abs_nearestMagnitude_sub_le_digits (abs_nonneg x) digits least
  have same : |nearestDouble x - x| = |nearestMagnitude (abs x) - abs x| := by
    rw [nearestDouble]
    split_ifs with negative
    · rw [abs_of_neg negative, ← abs_neg, neg_sub, sub_neg_eq_add, add_comm, ← sub_neg_eq_add]
    · rw [abs_of_nonneg (not_lt.mp negative)]
  rw [same]
  rw [← size] at magnitude
  exact magnitude.trans (abs_abs_sub_abs_le _ _)

theorem nearestDouble_sub_le (d : Float) (above : valueOfDouble d ≤ x) :
    nearestDouble x - valueOfDouble d ≤ 2 * (x - valueOfDouble d) := by
  have close := abs_nearestDouble_sub_le_double x d
  rw [abs_sub_comm (valueOfDouble d), abs_of_nonneg (sub_nonneg.mpr above)] at close
  linarith [(abs_le.mp close).2]

theorem gridExponent_of_binade (least : -1074 ≤ e) (low : 2 ^ (52 + e) ≤ x) (high : x < 2 ^ (53 + e)) :
    gridExponent x = e := by
  have pos : 0 < x := lt_of_lt_of_le (by positivity) low
  have lower : 52 + e ≤ Int.log 2 x := by
    rw [← Int.zpow_le_iff_le_log one_lt_two pos]
    exact_mod_cast low
  have upper : Int.log 2 x < 53 + e := by
    rw [← Int.lt_zpow_iff_log_lt one_lt_two pos]
    exact_mod_cast high
  rw [gridExponent]
  omega

theorem nearestDouble_of_le_digits (digits : n ≤ 2 ^ 53) (least : -1074 ≤ e) :
    nearestDouble (n * 2 ^ e) = n * 2 ^ e := by
  rcases digits.lt_or_eq with less | rfl
  · exact nearestDouble_of_digits less least
  · have even : ((2 ^ 53 : ℕ) * 2 ^ e : ℚ) = (2 ^ 52 : ℕ) * 2 ^ (e + 1) := by
      rw [zpow_add₀ two_ne_zero]
      push_cast
      ring
    rw [even]
    exact nearestDouble_of_digits (by norm_num) (by omega)

/-- A number on the grid of its binade, less than half a unit away from a multiple, is rounded to that. -/
theorem nearestDouble_of_near {t : ℚ} (least : -1074 ≤ e) (low : 2 ^ (52 + e) ≤ t)
    (high : t < 2 ^ (53 + e)) (close : |t - n * 2 ^ e| < 2 ^ e / 2) : nearestDouble t = n * 2 ^ e := by
  have grid := gridExponent_of_binade least low high
  have nonneg : 0 ≤ t := le_trans (by positivity) low
  have near := nearestMagnitude_of_close (n := n) nonneg (by rwa [grid])
  rw [nearestDouble, if_neg nonneg.not_gt, near, grid]

variable {t : ℚ}

theorem le_nearestDouble_of_middle_lt (least : -1074 ≤ e) (full : 2 ^ 52 < n) (digits : n ≤ 2 ^ 53)
    (above : n * 2 ^ e - 2 ^ e / 2 < t) : n * 2 ^ e ≤ nearestDouble t := by
  have unit : (0 : ℚ) < 2 ^ e := by positivity
  rcases le_or_gt (n * 2 ^ e : ℚ) t with reached | short
  · rw [← nearestDouble_of_le_digits digits least]
    exact nearestDouble_mono reached
  · have low : (2 : ℚ) ^ (52 + e) ≤ t := by
      have first : ((2 ^ 52 : ℕ) + 1 : ℚ) ≤ n := by exact_mod_cast full
      have border : (2 : ℚ) ^ (52 + e) = (2 ^ 52 : ℕ) * 2 ^ e := two_zpow_add 52 e
      have := mul_le_mul_of_nonneg_right first unit.le
      linarith
    have high : t < 2 ^ (53 + e) := by
      calc t < n * 2 ^ e := short
        _ ≤ (2 ^ 53 : ℕ) * 2 ^ e := by gcongr
        _ = 2 ^ (53 + e) := (two_zpow_add 53 e).symm
    have close : |t - n * 2 ^ e| < 2 ^ e / 2 := by
      rw [abs_lt]
      constructor <;> linarith
    exact (nearestDouble_of_near least low high close).ge

theorem nearestDouble_le_of_lt_middle (least : -1074 ≤ e) (full : 2 ^ 52 ≤ n) (digits : n < 2 ^ 53)
    (below : t < n * 2 ^ e + 2 ^ e / 2) : nearestDouble t ≤ n * 2 ^ e := by
  have unit : (0 : ℚ) < 2 ^ e := by positivity
  rcases le_or_gt t (n * 2 ^ e) with short | beyond
  · rw [← nearestDouble_of_digits digits least]
    exact nearestDouble_mono short
  · have low : (2 : ℚ) ^ (52 + e) ≤ t := (le_full_scaled full e).trans beyond.le
    have high : t < 2 ^ (53 + e) := by
      have last : (n + 1 : ℚ) ≤ (2 ^ 53 : ℕ) := by exact_mod_cast digits
      have border : (2 : ℚ) ^ (53 + e) = (2 ^ 53 : ℕ) * 2 ^ e := two_zpow_add 53 e
      have := mul_le_mul_of_nonneg_right last unit.le
      linarith
    have close : |t - n * 2 ^ e| < 2 ^ e / 2 := by
      rw [abs_lt]
      constructor <;> linarith
    exact (nearestDouble_of_near least low high close).le

/-- Half of a last place beyond the largest double. -/
def overflowMiddle : ℚ := overflowBound - 2 ^ (971 : ℤ) / 2

theorem overflowBound_eq : overflowBound = (2 ^ 53 : ℕ) * 2 ^ (971 : ℤ) := two_zpow_add 53 971

theorem nearestDouble_overflowMiddle : nearestDouble overflowMiddle = overflowBound := by
  have unit : (0 : ℚ) < 2 ^ (971 : ℤ) := by positivity
  have split : overflowMiddle = (2 ^ 53 - 1 / 2) * 2 ^ (971 : ℤ) := by
    rw [overflowMiddle, overflowBound_eq, Nat.cast_pow, Nat.cast_ofNat, sub_mul, one_div_mul_eq_div]
  have low : (2 : ℚ) ^ (52 + 971 : ℤ) ≤ overflowMiddle := by
    rw [split, show (2 : ℚ) ^ (52 + 971 : ℤ) = (2 ^ 52 : ℕ) * 2 ^ (971 : ℤ) from two_zpow_add 52 971]
    exact mul_le_mul_of_nonneg_right (by norm_num) unit.le
  have high : overflowMiddle < 2 ^ (53 + 971 : ℤ) := sub_lt_self _ (by positivity)
  have grid := gridExponent_of_binade (by norm_num) low high
  have nonneg : 0 ≤ overflowMiddle := le_trans (by positivity) low
  have whole : nearestWhole (2 ^ 53 - 1 / 2) = 2 ^ 53 := by
    have twice : 2 * (2 ^ 53 - 1 / 2 : ℚ) = (2 ^ 54 - 1 : ℕ) := by norm_num
    rw [nearestWhole_eq, twice, Nat.floor_natCast]
    norm_num
  rw [nearestDouble, if_neg nonneg.not_gt, nearestMagnitude, grid, split,
    mul_div_cancel_right₀ _ unit.ne', whole, overflowBound_eq]

theorem nearestDouble_lt_overflowBound : nearestDouble x < overflowBound ↔ x < overflowMiddle := by
  constructor
  · intro small
    by_contra large
    have := nearestDouble_mono (not_lt.mp large)
    rw [nearestDouble_overflowMiddle] at this
    exact absurd small this.not_gt
  · intro below
    have unit : (0 : ℚ) < 2 ^ (971 : ℤ) := by positivity
    have top : overflowBound = (2 ^ 53 - 1 : ℕ) * 2 ^ (971 : ℤ) + 2 ^ (971 : ℤ) := by
      have last : ((2 ^ 53 : ℕ) : ℚ) = (2 ^ 53 - 1 : ℕ) + 1 := by norm_num
      rw [overflowBound_eq, last, add_one_mul]
    rw [overflowMiddle, top] at below
    have largest : nearestDouble x ≤ (2 ^ 53 - 1 : ℕ) * 2 ^ (971 : ℤ) :=
      nearestDouble_le_of_lt_middle (by norm_num) (by norm_num) (by norm_num) (by linarith)
    rw [top]
    exact largest.trans_lt (lt_add_of_pos_right _ unit)

end Grapher
