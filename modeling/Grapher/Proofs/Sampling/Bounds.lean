import Grapher.Proofs.Number.Closest
import Grapher.Proofs.Sampling.Positions

namespace Grapher

variable {s : Settings} {i : ℕ}

theorem Settings.Accepted.min_le_max (accepted : s.Accepted) :
    valueOfDouble s.domainMin ≤ valueOfDouble s.domainMax := by
  have ordered := accepted.ordered
  rwa [double_lt_iff accepted.maxFinite accepted.minFinite, not_lt] at ordered

theorem min_le_position (accepted : s.Accepted) (below : i < s.sampleCount) :
    s.domainMin ≤ s.position i := by
  have most := (abs_lt.mp (abs_valueOfDouble_lt s.domainMin)).2
  have left : Reaches s.domainMin.toModel.unpack (valueOfDouble s.domainMin) :=
    .below (represents_of_isFinite accepted.minFinite) most
  rw [le_iff_of_reaches left (position_reaches accepted below), Settings.place]
  split_ifs
  · rw [capped, ← nearestDouble_valueOfDouble s.domainMin]
    refine le_min (nearestDouble_mono ?_) ?_
    · rw [nearestDouble_valueOfDouble]
      exact le_add_of_nonneg_right (offset_nonneg accepted i)
    · rw [nearestDouble_valueOfDouble]
      exact most.le
  · exact most.le

theorem position_le_max (accepted : s.Accepted) (below : i + 1 < s.sampleCount) :
    (s.position i).isFinite = true ∧ s.position i ≤ s.domainMax := by
  have reaches := position_reaches accepted (Nat.lt_of_succ_lt below)
  have small := place_lt_bound accepted below
  have right : Reaches s.domainMax.toModel.unpack (valueOfDouble s.domainMax) :=
    .below (represents_of_isFinite accepted.maxFinite) (abs_lt.mp (abs_valueOfDouble_lt _)).2
  refine ⟨reaches.isFinite_iff.mpr small, ?_⟩
  rw [le_iff_of_reaches reaches right, place_of_lt small]
  exact sum_le_max accepted below

theorem le_exact_width (accepted : s.Accepted) (below : i + 1 < s.sampleCount) :
    (i + 1 - 1 / 2 ^ 29 - 1 / 2 ^ 36) * valueOfDouble s.step ≤
      valueOfDouble s.domainMax - valueOfDouble s.domainMin := by
  have limit := accepted.sampleCount_le
  have positive := accepted.step_pos
  have wide := le_width accepted below
  have nonneg := sub_nonneg.mpr accepted.min_le_max
  have error := abs_nearestDouble_sub_le
    ((onGrid_valueOfDouble s.domainMax).add (onGrid_valueOfDouble s.domainMin).neg)
  rw [← sub_eq_add_neg, abs_of_nonneg nonneg] at error
  have above := (abs_le.mp error).2
  have bound : (i + 1 : ℚ) * valueOfDouble s.step ≤ 2 ^ 17 * valueOfDouble s.step := by
    gcongr
    exact_mod_cast (by omega : i + 1 ≤ 2 ^ 17)
  by_contra narrow
  linarith

theorem exact_sum_le (accepted : s.Accepted) (below : i < s.sampleCount) :
    valueOfDouble s.domainMin + nearestDouble (valueOfDouble s.step * i) ≤
      valueOfDouble s.domainMax + valueOfDouble s.step / 2 ^ 28 := by
  have limit := accepted.sampleCount_le
  have positive := accepted.step_pos
  cases i with
  | zero =>
      rw [Nat.cast_zero, mul_zero, nearestDouble_zero, add_zero]
      linarith [accepted.min_le_max]
  | succ i =>
      have wide := le_exact_width accepted below
      have error := (abs_le.mp (abs_product_sub_le (i := i + 1) accepted (by omega))).2
      push_cast at error ⊢
      linarith

/-- Rounding carries a sample at most twice as far beyond the right end. -/
theorem rounded_sum_le (accepted : s.Accepted) (below : i < s.sampleCount) :
    nearestDouble (valueOfDouble s.domainMin + nearestDouble (valueOfDouble s.step * i)) ≤
      valueOfDouble s.domainMax + valueOfDouble s.step / 2 ^ 27 := by
  have positive := accepted.step_pos
  have sum := exact_sum_le accepted below
  rcases le_or_gt (valueOfDouble s.domainMax)
    (valueOfDouble s.domainMin + nearestDouble (valueOfDouble s.step * i)) with beyond | inside
  · have rounded := nearestDouble_sub_le s.domainMax beyond
    linarith
  · have rounded := nearestDouble_mono inside.le
    rw [nearestDouble_valueOfDouble] at rounded
    linarith

theorem place_lt_iff :
    s.place i < overflowBound ↔
      valueOfDouble s.step * i < overflowMiddle ∧
        valueOfDouble s.domainMin + nearestDouble (valueOfDouble s.step * i) < overflowMiddle := by
  rw [← nearestDouble_lt_overflowBound, ← nearestDouble_lt_overflowBound]
  constructor
  · intro small
    have offset : s.offset i < overflowBound := by
      by_contra beyond
      rw [Settings.place, if_neg beyond] at small
      exact lt_irrefl _ small
    exact ⟨nearestDouble_of_capped_lt offset, (place_of_lt small).symm.trans_lt small⟩
  · rintro ⟨product, sum⟩
    have offset : s.offset i = nearestDouble (valueOfDouble s.step * i) := capped_of_lt product
    rw [Settings.place, offset, if_pos product, capped_of_lt sum]
    exact sum

theorem place_lt_of_moderate (accepted : s.Accepted) (below : i < s.sampleCount)
    (right : valueOfDouble s.domainMax ≤ overflowBound / 2)
    (wide : valueOfDouble (s.domainMax - s.domainMin) ≤ overflowBound / 2) :
    s.place i < overflowBound := by
  have limit := accepted.sampleCount_le
  have positive := accepted.step_pos
  have bound : 0 < overflowBound := by unfold overflowBound; positivity
  rw [place_lt_iff, ← nearestDouble_lt_overflowBound, ← nearestDouble_lt_overflowBound]
  generalize overflowBound = top at right wide bound ⊢
  cases i with
  | zero =>
      rw [Nat.cast_zero, mul_zero, nearestDouble_zero, add_zero, nearestDouble_valueOfDouble]
      exact ⟨bound, by linarith [accepted.min_le_max]⟩
  | succ i =>
      have reach := le_width accepted below
      rw [valueOfDouble, accepted.width_represents.value] at wide
      have error := (abs_le.mp (abs_product_sub_le (i := i + 1) accepted (by omega))).2
      have sum := rounded_sum_le accepted below
      have steps : 0 ≤ i * valueOfDouble s.step := by positivity
      push_cast at error sum ⊢
      constructor <;> linarith

theorem evaluate_of_finite {formula : Formula} {x : Float} (finite : x.isFinite = true) :
    formula.evaluate x = Machine.execute { unit := formula.unit, x } formula.program := by
  have place : Scalar.isFinite x = true := finite
  rw [Formula.evaluate, Formula.evaluateOn, if_pos place]

/-- No sample stands before the left end. Every sample but the last is finite and stands at the right end
or before it. The last one, where it is finite, passes the right end by at most a millionth of a step. It is
not finite exactly when the product of step and index or the sum is rounded past the largest double, which
does not happen where the right end and the width are at most half of the bound of the doubles. Where a
position is finite, the value there is that of the program alone. -/
theorem samples_keep_to_domain (accepted : s.check = .ok ()) (below : i < s.sampleCount) :
    s.domainMin ≤ s.position i ∧
      (i + 1 < s.sampleCount → (s.position i).isFinite = true ∧ s.position i ≤ s.domainMax) ∧
      ((s.position i).isFinite = true →
        valueOfDouble (s.position i) ≤ valueOfDouble s.domainMax + valueOfDouble s.step / 10 ^ 6 ∧
          ∀ formula : Formula, formula.evaluate (s.position i) =
            Machine.execute { unit := formula.unit, x := s.position i } formula.program) ∧
      ((s.position i).isFinite = true ↔
        valueOfDouble s.step * i < overflowMiddle ∧
          valueOfDouble s.domainMin + nearestDouble (valueOfDouble s.step * i) < overflowMiddle) ∧
      (valueOfDouble s.domainMax ≤ overflowBound / 2 →
        valueOfDouble (s.domainMax - s.domainMin) ≤ overflowBound / 2 →
          (s.position i).isFinite = true) := by
  have accepted := check_eq_ok.mp accepted
  have positive := accepted.step_pos
  have reaches := position_reaches accepted below
  refine ⟨min_le_position accepted below, position_le_max accepted, ?_,
    reaches.isFinite_iff.trans place_lt_iff, fun right wide =>
      reaches.isFinite_iff.mpr (place_lt_of_moderate accepted below right wide)⟩
  intro finite
  have small := reaches.isFinite_iff.mp finite
  have sum := rounded_sum_le accepted below
  refine ⟨?_, fun formula => evaluate_of_finite finite⟩
  rw [valueOfDouble, reaches.value finite, place_of_lt small]
  linarith

theorem samples_keep_to_domain_quarters :
    let s : Settings := { domainMin := -1, domainMax := 1, step := 0.25 }
    s.check = .ok () ∧ s.sampleCount = 9 ∧ s.position 7 ≤ s.domainMax ∧
      (s.position 8).isFinite = true ∧
      valueOfDouble (s.position 8) ≤ valueOfDouble s.domainMax + valueOfDouble s.step / 10 ^ 6 := by
  have accepted : Settings.check { domainMin := -1, domainMax := 1, step := 0.25 } = .ok () :=
    check_eq_ok.mpr (by constructor <;> decide +kernel)
  obtain ⟨-, inside, -⟩ := samples_keep_to_domain (i := 7) accepted (by decide +kernel)
  obtain ⟨-, -, beyond, -, moderate⟩ := samples_keep_to_domain (i := 8) accepted (by decide +kernel)
  have half : (2 : ℚ) ≤ overflowBound / 2 := by
    rw [le_div_iff₀ two_pos, overflowBound]
    calc (2 * 2 : ℚ) = 2 ^ (2 : ℤ) := by norm_num
      _ ≤ 2 ^ (1024 : ℤ) := zpow_le_zpow_right₀ one_le_two (by omega)
  have right : valueOfDouble 1 = 1 := by
    have bits : (1 : Float).toModel.unpack = .finite .positive (2 ^ 52) (-52) (by decide) := rfl
    rw [valueOfDouble, bits, valueOf_positive]
    norm_num
  have wide : valueOfDouble (1 - -1) = 2 := by
    have bits : (1 - -1 : Float).toModel.unpack = .finite .positive (2 ^ 52) (-51) (by decide) := rfl
    rw [valueOfDouble, bits, valueOf_positive]
    norm_num
  have finite := moderate (right.trans_le (one_le_two.trans half)) (wide.trans_le half)
  exact ⟨accepted, by decide +kernel, (inside (by decide +kernel)).2, finite, (beyond finite).1⟩

/-- The step is a third of the largest double, rounded up, so the last sample is infinite and a formula that
is defined everywhere has no value there. -/
theorem samples_leave_domain :
    let s : Settings :=
      { domainMin := 0, domainMax := 1.7976931348623157e308, step := 5.992310449541054e307 }
    s.check = .ok () ∧ s.sampleCount = 4 ∧ (s.position 3).isFinite = false ∧
      (s.run "1").result.toOption.map (·.definedCount) = some 3 :=
  ⟨check_eq_ok.mpr (by constructor <;> decide +kernel), by decide +kernel, by decide +kernel,
    by decide +kernel⟩

end Grapher
