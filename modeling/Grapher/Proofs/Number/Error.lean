import Grapher.Proofs.Number.Double

/-!
How far rounding moves a number. One that ends no lower than the least double, such as a sum of doubles
or a multiple of one, moves by at most one part in `2 ^ 53`.
-/

namespace Grapher

open Float.Model Float.Model.UnpackedFloat

variable {x y : ℚ}

theorem abs_nearestWhole_sub_le (nonneg : 0 ≤ x) : |(nearestWhole x : ℚ) - x| ≤ 1 / 2 := by
  have below : (⌊2 * x⌋₊ : ℚ) ≤ 2 * x := Nat.floor_le (by linarith)
  have above : 2 * x < ⌊2 * x⌋₊ + 1 := Nat.lt_floor_add_one _
  rw [nearestWhole_eq, abs_le]
  generalize ⌊2 * x⌋₊ = halves at *
  obtain ⟨half, even | odd⟩ := Nat.even_or_odd' halves
  · have rest : halves % 2 = 0 := by omega
    have whole : halves / 2 = half := by omega
    rw [if_pos rest, whole]
    rw [even] at below above
    push_cast at below above
    constructor <;> linarith
  · have rest : halves % 2 ≠ 0 := by omega
    have whole : halves / 2 = half := by omega
    rw [if_neg rest, whole]
    rw [odd] at below above ⊢
    push_cast at below above
    split_ifs with tie
    · rcases Nat.mod_two_eq_zero_or_one half with down | up
      · rw [down]
        push_cast at tie ⊢
        constructor <;> linarith
      · rw [up]
        push_cast at tie ⊢
        constructor <;> linarith
    · push_cast
      constructor <;> linarith

theorem abs_nearestMagnitude_sub_le (nonneg : 0 ≤ x) :
    |nearestMagnitude x - x| ≤ 2 ^ gridExponent x / 2 := by
  have unit : (0 : ℚ) < 2 ^ gridExponent x := by positivity
  calc |nearestMagnitude x - x|
      = |nearestWhole (x / 2 ^ gridExponent x) - x / 2 ^ gridExponent x| * 2 ^ gridExponent x := by
        rw [← abs_of_pos unit, ← abs_mul, abs_of_pos unit, sub_mul, div_mul_cancel₀ x unit.ne',
          nearestMagnitude]
    _ ≤ 1 / 2 * 2 ^ gridExponent x := by
        gcongr
        exact abs_nearestWhole_sub_le (by positivity)
    _ = 2 ^ gridExponent x / 2 := by ring

/-- A whole multiple of the least double. -/
def OnGrid (x : ℚ) : Prop :=
  ∃ n : ℤ, x = n * 2 ^ (-1074 : ℤ)

theorem OnGrid.neg (grid : OnGrid x) : OnGrid (-x) := by
  obtain ⟨n, rfl⟩ := grid
  exact ⟨-n, by rw [Int.cast_neg, neg_mul]⟩

theorem OnGrid.add (left : OnGrid x) (right : OnGrid y) : OnGrid (x + y) := by
  obtain ⟨m, rfl⟩ := left
  obtain ⟨n, rfl⟩ := right
  exact ⟨m + n, by rw [Int.cast_add, add_mul]⟩

theorem OnGrid.mul_natCast (grid : OnGrid x) (k : ℕ) : OnGrid (x * k) := by
  obtain ⟨n, rfl⟩ := grid
  exact ⟨n * k, by rw [Int.cast_mul, Int.cast_natCast, mul_right_comm]⟩

theorem onGrid_valueOf {u : UnpackedFloat} (canonical : Canonical u) : OnGrid (valueOf u) := by
  cases u with
  | finite sign mantissa exponent pos =>
      obtain ⟨-, least, -⟩ := canonical
      obtain ⟨k, shift⟩ := Int.le.dest least
      refine ⟨sign.apply mantissa * 2 ^ k, ?_⟩
      rw [valueOf, ← shift, zpow_add₀ two_ne_zero, zpow_natCast, Int.cast_mul, mul_assoc,
        mul_comm (2 ^ (-1074 : ℤ) : ℚ)]
      norm_cast
  | _ => exact ⟨0, by simp [valueOf]⟩

theorem Represents.onGrid {u : UnpackedFloat} (represents : Represents u x) : OnGrid x := by
  rw [← represents.value]
  exact onGrid_valueOf represents.canonical

theorem onGrid_valueOfDouble (x : Float) : OnGrid (valueOfDouble x) :=
  onGrid_valueOf (unpack_spec _).1

theorem abs_nearestMagnitude_sub_le_of_onGrid (nonneg : 0 ≤ x) (grid : OnGrid x) :
    |nearestMagnitude x - x| ≤ x / 2 ^ 53 := by
  rcases nonneg.eq_or_lt with rfl | pos
  · simp
  rcases (le_gridExponent x).eq_or_lt with bottom | above
  · obtain ⟨n, multiple⟩ := grid
    have unit : (0 : ℚ) < 2 ^ (-1074 : ℤ) := by positivity
    have magnitude : (0 : ℚ) ≤ n := nonneg_of_mul_nonneg_left (multiple ▸ nonneg) unit
    obtain ⟨k, rfl⟩ := Int.eq_ofNat_of_zero_le (Int.cast_nonneg_iff.mp magnitude)
    have scaled : x / 2 ^ gridExponent x = k := by
      rw [← bottom, div_eq_iff (by positivity), multiple]
      simp
    rw [nearestMagnitude, scaled, nearestWhole_natCast, ← scaled, div_mul_cancel₀ _ (by positivity)]
    simp only [sub_self, abs_zero]
    positivity
  · have full := le_scaled pos above
    rw [le_div_iff₀ (by positivity)] at full
    calc |nearestMagnitude x - x| ≤ 2 ^ gridExponent x / 2 := abs_nearestMagnitude_sub_le nonneg
      _ ≤ x / 2 ^ 53 := by
          rw [div_le_div_iff₀ (by positivity) (by positivity)]
          linarith

theorem abs_nearestDouble_sub_le (grid : OnGrid x) : |nearestDouble x - x| ≤ |x| / 2 ^ 53 := by
  rw [nearestDouble]
  split_ifs with negative
  · have magnitude := abs_nearestMagnitude_sub_le_of_onGrid (neg_nonneg.mpr negative.le) grid.neg
    rw [abs_of_neg negative, ← abs_neg, neg_sub, sub_neg_eq_add, add_comm, ← sub_neg_eq_add]
    exact magnitude
  · have nonneg := not_lt.mp negative
    rw [abs_of_nonneg nonneg]
    exact abs_nearestMagnitude_sub_le_of_onGrid nonneg grid

theorem nearestWhole_eq_of_close {n : ℕ} (nonneg : 0 ≤ x) (close : |x - n| < 1 / 2) :
    nearestWhole x = n := by
  have rounded := abs_le.mp (abs_nearestWhole_sub_le nonneg)
  obtain ⟨below, above⟩ := abs_lt.mp close
  have lower : (n : ℚ) < nearestWhole x + 1 := by linarith
  have upper : (nearestWhole x : ℚ) < n + 1 := by linarith
  have lower : n < nearestWhole x + 1 := by exact_mod_cast lower
  have upper : nearestWhole x < n + 1 := by exact_mod_cast upper
  omega

theorem nearestMagnitude_of_close {n : ℕ} (nonneg : 0 ≤ x)
    (close : |x - n * 2 ^ gridExponent x| < 2 ^ gridExponent x / 2) :
    nearestMagnitude x = n * 2 ^ gridExponent x := by
  have unit : (0 : ℚ) < 2 ^ gridExponent x := by positivity
  have scaled : |x / 2 ^ gridExponent x - n| < 1 / 2 := by
    rw [← mul_lt_mul_iff_left₀ unit, ← abs_of_pos unit, ← abs_mul, abs_of_pos unit, sub_mul,
      div_mul_cancel₀ x unit.ne']
    linarith
  rw [nearestMagnitude, nearestWhole_eq_of_close (by positivity) scaled]

theorem gridExponent_add_le {n : ℕ} {e : ℤ} {t : ℚ} (digits : n < 2 ^ 53) (least : -1074 ≤ e)
    (positive : 0 < n * 2 ^ e + t) (less : t < 2 ^ e) : gridExponent (n * 2 ^ e + t) ≤ e := by
  have wide : (n : ℚ) + 1 ≤ 2 ^ 53 := by exact_mod_cast digits
  have log : Int.log 2 (n * 2 ^ e + t) < 53 + e := by
    rw [← Int.lt_zpow_iff_log_lt one_lt_two positive, Nat.cast_ofNat, zpow_add₀ two_ne_zero]
    calc n * 2 ^ e + t < (n + 1) * 2 ^ e := by linarith
      _ ≤ 2 ^ 53 * 2 ^ e := by gcongr
      _ = 2 ^ (53 : ℤ) * 2 ^ e := by norm_cast
  simp only [gridExponent]
  omega

theorem nearestMagnitude_add_small {n : ℕ} {t : ℚ} (tiny : 2 ^ 54 * |t| < x)
    (multiple : x = n * 2 ^ gridExponent (x + t)) : nearestMagnitude (x + t) = x := by
  have unit : (0 : ℚ) < 2 ^ gridExponent (x + t) := by positivity
  have fits := scaled_lt (x + t)
  rw [div_lt_iff₀ unit] at fits
  have positive : 0 ≤ x + t := by linarith [neg_abs_le t, abs_nonneg t]
  have bound : n ≤ 2 ^ 53 := by
    have less : (n : ℚ) * 2 ^ gridExponent (x + t) < (2 ^ 53 + 1 : ℕ) * 2 ^ gridExponent (x + t) := by
      rw [← multiple]
      push_cast
      linarith [neg_abs_le t]
    have := lt_of_mul_lt_mul_right less unit.le
    have : n < 2 ^ 53 + 1 := by exact_mod_cast this
    omega
  have below : x ≤ 2 ^ 53 * 2 ^ gridExponent (x + t) := by
    conv_lhs => rw [multiple]
    gcongr
    exact_mod_cast bound
  -- On the grid of the sum, one part in `2 ^ 54` is less than half a unit.
  have close : |x + t - n * 2 ^ gridExponent (x + t)| < 2 ^ gridExponent (x + t) / 2 := by
    rw [← multiple, add_sub_cancel_left]
    linarith
  rw [nearestMagnitude_of_close positive close, ← multiple]

theorem nearestMagnitude_absorbs {n : ℕ} {e : ℤ} {t : ℚ} (digits : n < 2 ^ 53) (least : -1074 ≤ e)
    (tiny : 2 ^ 54 * |t| < n * 2 ^ e) : nearestMagnitude (n * 2 ^ e + t) = n * 2 ^ e := by
  have unit : (0 : ℚ) < 2 ^ e := by positivity
  have wide : (n : ℚ) * 2 ^ e < 2 ^ 53 * 2 ^ e := by
    gcongr
    exact_mod_cast digits
  have positive : 0 < n * 2 ^ e + t := by linarith [neg_abs_le t, abs_nonneg t]
  have grid := gridExponent_add_le digits least positive (by linarith [le_abs_self t])
  obtain ⟨k, shift⟩ := Int.le.dest grid
  refine nearestMagnitude_add_small (n := n * 2 ^ k) tiny ?_
  conv_lhs => rw [← shift, zpow_add₀ two_ne_zero, zpow_natCast]
  push_cast
  ring

theorem nearestDouble_absorbs {a : Float} {t : ℚ} (tiny : 2 ^ 54 * |t| < |valueOfDouble a|) :
    nearestDouble (valueOfDouble a + t) = valueOfDouble a := by
  have canonical := (unpack_spec a.toModel).1
  unfold valueOfDouble at *
  cases unpacked : a.toModel.unpack with
  | finite sign mantissa exponent pos =>
      rw [unpacked] at canonical tiny
      obtain ⟨digits, least, -⟩ := canonical
      have unit : (0 : ℚ) < mantissa * 2 ^ exponent := by positivity
      rw [abs_valueOf] at tiny
      cases sign with
      | positive =>
          have positive : ¬(mantissa * 2 ^ exponent + t : ℚ) < 0 := by
            linarith [neg_abs_le t, abs_nonneg t]
          rw [valueOf_positive, nearestDouble, if_neg positive,
            nearestMagnitude_absorbs digits least tiny]
      | negative =>
          have positive : ¬(mantissa * 2 ^ exponent + -t : ℚ) < 0 := by
            linarith [le_abs_self t, abs_nonneg t]
          rw [← abs_neg] at tiny
          rw [valueOf_negative, ← neg_neg t, ← neg_add, nearestDouble_neg, nearestDouble,
            if_neg positive, nearestMagnitude_absorbs digits least tiny]
  | _ =>
      rw [unpacked] at tiny
      simp only [valueOf, abs_zero] at tiny
      linarith [abs_nonneg t]

end Grapher
