import Grapher.Proofs.Number.Double
import Grapher.Sampling.Run

/-!
How many samples accepted settings take. The check bounds the span, but the count also adds the
tolerance to it, so a span just below the limit takes one sample more than the limit.
-/

namespace Grapher

structure Settings.Accepted (s : Settings) : Prop where
  minFinite : s.domainMin.isFinite = true
  maxFinite : s.domainMax.isFinite = true
  ordered : ¬s.domainMax < s.domainMin
  stepFinite : s.step.isFinite = true
  stepPositive : ¬s.step ≤ 0
  scaleFinite : s.scale.isFinite = true
  scalePositive : ¬s.scale ≤ 0
  thresholdNumber : s.threshold.isNaN = false
  thresholdPositive : ¬s.threshold ≤ 0
  spanFinite : s.span.isFinite = true
  spanBelow : ¬Float.ofNat Settings.sampleLimit ≤ s.span

/-- A run of an expression says that it took this many samples, with a curve or without. -/
def Settings.Reports (s : Settings) (expression : String) (samples : Nat) : Prop :=
  (∃ curve, (s.run expression).result = .ok curve ∧ curve.sampleCount = samples) ∨
    ∃ cause, (s.run expression).result = .error (.noValidPoints samples cause)

/-- The limit less the tolerance: the least accepted span that takes more samples than the limit. -/
def Settings.overlongSpan : Float := Float.ofNat Settings.sampleLimit - Settings.tolerance

variable {s : Settings}

theorem check_eq_ok {word : WordSize} : s.check word = .ok () ↔ s.Accepted := by
  unfold Settings.check
  split_ifs with domain step scale threshold span long
  all_goals simp only [Bool.or_eq_true, Bool.not_eq_true', decide_eq_true_eq, not_or, Bool.not_eq_false,
    Bool.not_eq_true] at *
  · refine iff_of_false nofun fun accepted => ?_
    simp only [accepted.minFinite, accepted.maxFinite, accepted.ordered, Bool.true_eq_false,
      or_self] at domain
  · refine iff_of_false nofun fun accepted => ?_
    simp only [accepted.stepFinite, accepted.stepPositive, Bool.true_eq_false, or_self] at step
  · refine iff_of_false nofun fun accepted => ?_
    simp only [accepted.scaleFinite, accepted.scalePositive, Bool.true_eq_false, or_self] at scale
  · refine iff_of_false nofun fun accepted => ?_
    simp only [accepted.thresholdNumber, accepted.thresholdPositive, Bool.false_eq_true,
      or_self] at threshold
  · refine iff_of_false nofun fun accepted => ?_
    simp only [accepted.spanFinite, Bool.true_eq_false] at span
  · exact iff_of_false nofun fun accepted => accepted.spanBelow long
  · exact iff_of_true trivial ⟨domain.1.1, domain.1.2, domain.2, step.1, step.2, scale.1, scale.2,
      threshold.1, threshold.2, span, long⟩

theorem run_reports (expression : String) : s.Reports expression s.sampleCount := by
  unfold Settings.Reports Settings.run
  cases Formula.ofText expression s.unit with
  | error fault => exact Or.inr ⟨some fault, rfl⟩
  | ok formula =>
      simp only [Settings.runFormula]
      cases ((List.range s.sampleCount).foldl (Progress.sample s formula) {}).segments with
      | nil => exact Or.inr ⟨_, rfl⟩
      | cons segment segments => exact Or.inl ⟨_, rfl, rfl⟩

theorem unpack_sampleLimit :
    (Float.ofNat Settings.sampleLimit).toModel.unpack =
      .finite .positive (100000 * 2 ^ 36) (-36) (by decide) := rfl

theorem unpack_overlongSpan :
    Settings.overlongSpan.toModel.unpack =
      .finite .positive (100000 * 2 ^ 36 - 69) (-36) (by decide) := rfl

theorem unpack_tolerance :
    Settings.tolerance.toModel.unpack =
      .finite .positive 4835703278458517 (-82) (by decide) := rfl

theorem value_sampleLimit : valueOfDouble (Float.ofNat Settings.sampleLimit) = 100000 := by
  rw [valueOfDouble, unpack_sampleLimit, valueOf_positive]
  norm_num

theorem value_overlongSpan : valueOfDouble Settings.overlongSpan = 100000 - 69 / 2 ^ 36 := by
  rw [valueOfDouble, unpack_overlongSpan, valueOf_positive]
  norm_num

theorem value_tolerance : valueOfDouble Settings.tolerance = 4835703278458517 / 2 ^ 82 := by
  rw [valueOfDouble, unpack_tolerance, valueOf_positive]
  norm_num

theorem Settings.Accepted.bounded (accepted : s.Accepted) :
    s.span.isFinite = true ∧ valueOfDouble s.span < 100000 := by
  have spanBelow := accepted.spanBelow
  rw [double_le_iff (by rfl) accepted.spanFinite, value_sampleLimit, not_le] at spanBelow
  exact ⟨accepted.spanFinite, spanBelow⟩

/-- The span and the tolerance, added exactly and then rounded. -/
def paddedSpan (x : Float) : ℚ :=
  nearestDouble (valueOfDouble x + valueOfDouble Settings.tolerance)

theorem le_paddedSpan (x : Float) : valueOfDouble x ≤ paddedSpan x := by
  calc valueOfDouble x = nearestDouble (valueOfDouble x) := (nearestDouble_valueOfDouble x).symm
    _ ≤ paddedSpan x := by
        apply nearestDouble_mono
        rw [value_tolerance]
        linarith

theorem paddedSpan_mono {x y : Float} (le : valueOfDouble x ≤ valueOfDouble y) :
    paddedSpan x ≤ paddedSpan y :=
  nearestDouble_mono (by linarith)

theorem paddedSpan_le {x : Float} (below : valueOfDouble x < 100000) : paddedSpan x ≤ 200001 / 2 := by
  -- Half a step beyond the limit is a double, so rounding does not pass it.
  have own := nearestDouble_of_digits (n := 200001) (e := -1) (by norm_num) (by norm_num)
  have half : ((200001 : ℕ) * 2 ^ (-1 : ℤ) : ℚ) = 200001 / 2 := by norm_num
  rw [half] at own
  rw [← own]
  apply nearestDouble_mono
  rw [value_tolerance]
  linarith

theorem paddedSpan_lt_word {x : Float} (below : valueOfDouble x < 2 ^ 53) : paddedSpan x < 2 ^ 64 := by
  have own := nearestDouble_of_digits (n := 1) (e := 54) (by norm_num) (by norm_num)
  have above : ((1 : ℕ) * 2 ^ (54 : ℤ) : ℚ) = 2 ^ 54 := by norm_num
  rw [above] at own
  have upper : paddedSpan x ≤ 2 ^ 54 := by
    rw [← own]
    apply nearestDouble_mono
    rw [value_tolerance]
    linarith
  exact upper.trans_lt (by norm_num)

theorem add_tolerance {x : Float} (finite : x.isFinite = true) (below : valueOfDouble x < 2 ^ 53) :
    (x + Settings.tolerance).isFinite = true ∧
      valueOfDouble (x + Settings.tolerance) = paddedSpan x := by
  have ⟨negative, _⟩ := abs_lt.mp (abs_valueOfDouble_lt x)
  have lower := le_paddedSpan x
  have small : |paddedSpan x| < overflowBound := by
    refine abs_lt.mpr ⟨negative.trans_le lower, ?_⟩
    calc paddedSpan x < 2 ^ 64 := paddedSpan_lt_word below
      _ = 2 ^ (64 : ℤ) := by norm_cast
      _ ≤ overflowBound := zpow_le_zpow_right₀ one_le_two (by omega)
  exact double_add finite (by rfl) small

theorem sampleCount_of_span (finite : s.span.isFinite = true) (below : valueOfDouble s.span < 2 ^ 53) :
    s.sampleCount = ⌊paddedSpan s.span⌋₊ + 1 := by
  have ⟨sumFinite, sum⟩ := add_tolerance finite below
  rw [Settings.sampleCount, Settings.wholePart, toNat_toUInt64 sumFinite, sum]
  rw [sum]
  exact paddedSpan_lt_word below

theorem sampleCount_eq (finite : s.span.isFinite = true) (below : valueOfDouble s.span < 100000) :
    s.sampleCount = ⌊paddedSpan s.span⌋₊ + 1 :=
  sampleCount_of_span finite (below.trans (by norm_num))

theorem Settings.Accepted.sampleCount_le (accepted : s.Accepted) : s.sampleCount ≤ 100001 := by
  have ⟨finite, below⟩ := accepted.bounded
  have floor : ⌊paddedSpan s.span⌋₊ < 100001 := by
    rw [Nat.floor_lt' (by decide)]
    exact (paddedSpan_le below).trans_lt (by norm_num)
  rw [sampleCount_eq finite below]
  omega

theorem limit_le_paddedSpan {x : Float} (long : valueOfDouble Settings.overlongSpan ≤ valueOfDouble x) :
    100000 ≤ paddedSpan x := by
  have sum : Settings.overlongSpan + Settings.tolerance = Float.ofNat Settings.sampleLimit := by
    decide +kernel
  have below : valueOfDouble Settings.overlongSpan < 2 ^ 53 := by
    rw [value_overlongSpan]
    norm_num
  have padded := (add_tolerance (by rfl) below).2
  rw [sum, value_sampleLimit] at padded
  rw [padded]
  exact paddedSpan_mono long

theorem paddedSpan_lt_limit {x : Float} (short : valueOfDouble x < valueOfDouble Settings.overlongSpan) :
    paddedSpan x < 100000 := by
  -- Doubles below the overlong span lie `2 ^ -36` apart, and the tolerance is less than 69 times that.
  have step : valueOfDouble x ≤ 100000 - 70 / 2 ^ 36 := by
    rw [value_overlongSpan] at short
    by_cases large : (2 : ℚ) ^ (-36 + 52 : ℤ) ≤ valueOfDouble x
    · have ⟨n, multiple⟩ := exists_multiple large
      have unit : (2 : ℚ) ^ (-36 : ℤ) = 1 / 2 ^ 36 := by norm_num
      rw [multiple, unit] at short ⊢
      have less : (n : ℚ) < (6871947673599931 : ℕ) := by
        rw [Nat.cast_ofNat]
        linarith
      have last : (n : ℚ) ≤ (6871947673599930 : ℕ) := by
        have := Nat.cast_lt.mp less
        exact Nat.cast_le.mpr (by omega)
      rw [Nat.cast_ofNat] at last
      linarith
    · have : (2 : ℚ) ^ (-36 + 52 : ℤ) = 65536 := by norm_num
      linarith
  have own := nearestDouble_of_digits (n := 100000 * 2 ^ 36 - 1) (e := -36) (by norm_num) (by norm_num)
  have previous : ((100000 * 2 ^ 36 - 1 : ℕ) * 2 ^ (-36 : ℤ) : ℚ) = 100000 - 1 / 2 ^ 36 := by norm_num
  rw [previous] at own
  calc paddedSpan x ≤ nearestDouble (100000 - 1 / 2 ^ 36) := by
        apply nearestDouble_mono
        rw [value_tolerance]
        linarith
    _ = 100000 - 1 / 2 ^ 36 := own
    _ < 100000 := by norm_num

/-- Accepted settings keep to the limit exactly when their span is less than the overlong one.
Otherwise they take one sample more, and every run reports it. -/
theorem sampleCount_le_limit_iff (accepted : s.check = .ok ()) :
    (s.sampleCount ≤ Settings.sampleLimit ↔ s.span < Settings.overlongSpan) ∧
      s.sampleCount ≤ Settings.sampleLimit + 1 ∧
        ∀ expression, s.Reports expression s.sampleCount := by
  have ⟨finite, spanBelow⟩ := (check_eq_ok.mp accepted).bounded
  have count := sampleCount_eq finite spanBelow
  refine ⟨?_, ?_, run_reports⟩
  · rw [count, double_lt_iff finite (by rfl), Settings.sampleLimit, Nat.succ_le_iff,
      Nat.floor_lt' (by decide), Nat.cast_ofNat]
    constructor
    · intro short
      by_contra long
      exact absurd (limit_le_paddedSpan (not_lt.mp long)) short.not_ge
    · exact paddedSpan_lt_limit
  · have floor : ⌊paddedSpan s.span⌋₊ < 100001 := by
      rw [Nat.floor_lt' (by decide)]
      exact (paddedSpan_le spanBelow).trans_lt (by norm_num)
    rw [count, Settings.sampleLimit]
    omega

theorem sampleCount_le_limit_iff_last_step :
    let s : Settings := { domainMin := 0, domainMax := 99999, step := 1 }
    s.check = .ok () ∧ s.sampleCount ≤ Settings.sampleLimit :=
  ⟨rfl, (sampleCount_le_limit_iff rfl).1.mpr (by decide +kernel)⟩

theorem sampleCount_exceeds_limit :
    let s : Settings := { domainMin := 0, domainMax := 99999.99999999999, step := 1 }
    s.check = .ok () ∧ s.sampleCount = Settings.sampleLimit + 1 ∧
      s.Reports "1" (Settings.sampleLimit + 1) := by
  have count : ({ domainMin := 0, domainMax := 99999.99999999999, step := 1 } : Settings).sampleCount =
      Settings.sampleLimit + 1 := by decide +kernel
  have reported := run_reports (s := { domainMin := 0, domainMax := 99999.99999999999, step := 1 }) "1"
  rw [count] at reported
  exact ⟨rfl, count, reported⟩

end Grapher
