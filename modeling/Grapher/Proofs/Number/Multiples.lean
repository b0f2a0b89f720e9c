import Grapher.Proofs.Number.Error
import Grapher.Proofs.Number.Operations
import Grapher.Proofs.Number.Widening

namespace Grapher

open Float.Model Float.Model.UnpackedFloat

namespace Exact

theorem value_multiple (d : Exact) (unit : ℕ) :
    (∃ k : ℤ, d.value = unit * k) ↔ ∃ k : ℤ, (d.mantissa * 2 ^ d.exponent : ℚ) = unit * k := by
  obtain ⟨negative, mantissa, exponent⟩ := d
  cases negative with
  | false => simp [value]
  | true =>
      simp only [value, if_true, neg_mul, one_mul]
      constructor
      · rintro ⟨k, same⟩
        exact ⟨-k, by rw [Int.cast_neg, mul_neg, ← same, neg_neg]⟩
      · rintro ⟨k, same⟩
        exact ⟨-k, by rw [Int.cast_neg, mul_neg, ← same]⟩

theorem isMultipleOf_iff (d : Exact) (unit : ℕ) :
    d.isMultipleOf unit = true ↔ ∃ k : ℤ, d.value = unit * k := by
  rw [value_multiple]
  obtain ⟨negative, mantissa, exponent⟩ := d
  unfold isMultipleOf
  cases exponent with
  | ofNat n =>
      simp only [Nat.pow_eq, beq_iff_eq]
      rw [← Nat.dvd_iff_mod_eq_zero, ← Int.natCast_dvd_natCast]
      refine exists_congr fun k => ?_
      rw [Int.ofNat_eq_natCast, zpow_natCast]
      norm_cast
  | negSucc n =>
      simp only [Nat.pow_eq, beq_iff_eq]
      rw [← Nat.dvd_iff_mod_eq_zero, ← Int.natCast_dvd_natCast]
      refine exists_congr fun k => ?_
      rw [zpow_negSucc, ← div_eq_mul_inv, div_eq_iff (by positivity), mul_right_comm]
      norm_cast

end Exact

variable {x y : Float}

theorem double_neg (finite : x.isFinite = true) :
    (-x).isFinite = true ∧ valueOfDouble (-x) = -valueOfDouble x := by
  have opposite := neg_represents (represents_of_isFinite finite)
  have packed := opposite.pack (by rw [abs_neg]; exact abs_valueOfDouble_lt x)
  exact ⟨packed.finite, packed.value⟩

theorem double_sub (xFinite : x.isFinite = true) (yFinite : y.isFinite = true)
    (small : |nearestDouble (valueOfDouble x - valueOfDouble y)| < overflowBound) :
    (x - y).isFinite = true ∧
      valueOfDouble (x - y) = nearestDouble (valueOfDouble x - valueOfDouble y) := by
  have difference := sub_represents (represents_of_isFinite xFinite) (represents_of_isFinite yFinite)
  have packed := difference.pack small
  exact ⟨packed.finite, packed.value⟩

theorem abs_nearestDouble_sub_lt (x : Float) {t : ℚ} (grid : OnGrid t) (small : |t| ≤ 2 ^ 64) :
    |nearestDouble (valueOfDouble x - t)| < overflowBound := by
  rcases lt_or_ge (2 ^ 54 * |t|) |valueOfDouble x| with absorbed | near
  · rw [sub_eq_add_neg, nearestDouble_absorbs (by rwa [abs_neg])]
    exact abs_valueOfDouble_lt x
  · have moved := abs_nearestDouble_sub_le ((onGrid_valueOfDouble x).add grid.neg)
    rw [← sub_eq_add_neg] at moved
    have size : |valueOfDouble x - t| ≤ 2 ^ 119 := by
      calc |valueOfDouble x - t| ≤ |valueOfDouble x| + |t| := abs_sub _ _
        _ ≤ 2 ^ 119 := by linarith
    calc |nearestDouble (valueOfDouble x - t)|
        ≤ |nearestDouble (valueOfDouble x - t) - (valueOfDouble x - t)| + |valueOfDouble x - t| := by
          simpa using abs_add_le (nearestDouble (valueOfDouble x - t) - (valueOfDouble x - t))
            (valueOfDouble x - t)
      _ ≤ 2 ^ 120 := by linarith
      _ = 2 ^ (120 : ℤ) := by norm_cast
      _ < overflowBound := zpow_lt_zpow_right₀ one_lt_two (by norm_num)

/-- A whole number of at most 53 binary digits, of either sign, times a power of two is not rounded. -/
theorem nearestDouble_of_whole {n : ℤ} {e : ℤ} (digits : |n| < 2 ^ 53) (least : -1074 ≤ e) :
    nearestDouble (n * 2 ^ e) = n * 2 ^ e := by
  obtain ⟨m, rfl | rfl⟩ := n.eq_nat_or_neg
  · exact nearestDouble_of_digits (by simpa using digits) least
  · rw [Int.cast_neg, neg_mul, nearestDouble_neg]
    exact congrArg _ (nearestDouble_of_digits (by simpa using digits) least)

theorem eq_zero_of_nearestDouble {t : ℚ} (grid : OnGrid t) (zero : nearestDouble t = 0) :
    t = 0 := by
  have moved := abs_nearestDouble_sub_le grid
  rw [zero, zero_sub, abs_neg, le_div_iff₀ (by positivity)] at moved
  have := abs_nonneg t
  exact abs_eq_zero.mp (by linarith)

theorem exists_digits {k : ℤ} (least : -1074 ≤ k) (nonneg : 0 ≤ valueOfDouble x)
    (small : valueOfDouble x < 2 ^ (53 + k)) :
    ∃ (m : ℕ) (e : ℤ), valueOfDouble x = m * 2 ^ e ∧ m < 2 ^ 53 ∧ -1074 ≤ e ∧ e ≤ k := by
  have canonical := (unpack_spec x.toModel).1
  unfold valueOfDouble at *
  cases unpacked : x.toModel.unpack with
  | finite sign mantissa exponent pos =>
      rw [unpacked] at canonical nonneg small
      obtain ⟨digits, bottom, full⟩ := canonical
      cases sign with
      | negative =>
          have positive : (0 : ℚ) < mantissa * 2 ^ exponent := by positivity
          rw [valueOf_negative] at nonneg
          linarith
      | positive =>
          rw [valueOf_positive] at small ⊢
          refine ⟨mantissa, exponent, rfl, digits, bottom, ?_⟩
          by_contra high
          have large := (le_full_scaled (full (by omega)) exponent).trans_lt small
          have := (zpow_lt_zpow_iff_right₀ one_lt_two).mp large
          push_cast at this
          omega
  | _ => exact ⟨0, k, by simp [valueOf], by norm_num, least, le_rfl⟩

/-- Taking away a multiple of `2 ^ k` from a greater double below `2 ^ (53 + k)` is exact. -/
theorem nearestDouble_sub_multiple {n : ℕ} {k : ℤ} (least : -1074 ≤ k)
    (order : n * 2 ^ k ≤ valueOfDouble x) (small : valueOfDouble x < 2 ^ (53 + k)) :
    nearestDouble (valueOfDouble x - n * 2 ^ k) = valueOfDouble x - n * 2 ^ k := by
  have nonneg : (0 : ℚ) ≤ n * 2 ^ k := by positivity
  obtain ⟨m, e, value, digits, bottom, low⟩ := exists_digits least (nonneg.trans order) small
  obtain ⟨j, rfl⟩ := Int.le.dest low
  have multiple : (n * 2 ^ (e + j) : ℚ) = (n * 2 ^ j : ℕ) * 2 ^ e := by
    rw [zpow_add₀ two_ne_zero, zpow_natCast]
    push_cast
    ring
  rw [value, multiple] at order ⊢
  have within : n * 2 ^ j ≤ m := by
    have := le_of_mul_le_mul_right order (by positivity)
    exact_mod_cast this
  obtain ⟨rest, rfl⟩ := Nat.exists_eq_add_of_le within
  rw [← sub_mul, Nat.cast_add, add_sub_cancel_left]
  exact nearestDouble_of_digits (by omega) bottom

end Grapher
