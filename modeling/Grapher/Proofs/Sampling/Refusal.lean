import Grapher.Proofs.Number.Closest
import Grapher.Proofs.Sampling.Count

/-!
How many samples a refusal asks for. It counts the whole steps of the span and leaves the tolerance out,
so it tells one sample too few where the tolerance reaches the next whole step.
-/

namespace Grapher

/-- Settings of which only the number of samples may be wrong. -/
structure Settings.Sound (s : Settings) : Prop where
  minFinite : s.domainMin.isFinite = true
  maxFinite : s.domainMax.isFinite = true
  ordered : ¬s.domainMax < s.domainMin
  stepFinite : s.step.isFinite = true
  stepPositive : ¬s.step ≤ 0
  scaleFinite : s.scale.isFinite = true
  scalePositive : ¬s.scale ≤ 0
  thresholdNumber : s.threshold.isNaN = false
  thresholdPositive : ¬s.threshold ≤ 0

variable {s : Settings} {x : Float}

theorem check_of_sound (sound : s.Sound) (finite : s.span.isFinite = true) :
    s.check =
      if Float.ofNat Settings.sampleLimit ≤ s.span then
        .error (.tooManySamples (WordSize.long.after (Settings.wholePart s.span)) Settings.sampleLimit)
      else .ok () := by
  simp only [Settings.check, sound.minFinite, sound.maxFinite, sound.ordered, sound.stepFinite,
    sound.stepPositive, sound.scaleFinite, sound.scalePositive, sound.thresholdNumber,
    sound.thresholdPositive, finite, Bool.not_true, decide_false, Bool.or_self, Bool.false_eq_true,
    if_false]

theorem after_of_lt {word : WordSize} {whole : ℕ} (within : whole + 1 < word.size) :
    word.after whole = whole + 1 := by
  rw [WordSize.after, Nat.min_eq_left (by omega), Nat.mod_eq_of_lt within]

/-- A number and the next whole one, both in the last places of the number: from one place to the next
is `2 ^ -d`. -/
structure Approaches (v : ℚ) (n whole d : ℕ) : Prop where
  value : v = n * 2 ^ (-d : ℤ)
  next : (⌊v⌋₊ + 1 : ℚ) = whole * 2 ^ (-d : ℤ)
  full : 2 ^ 52 ≤ n
  before : n < whole
  digits : whole ≤ 2 ^ 53
  coarse : d ≤ 52

theorem exists_approaches (large : 1 ≤ valueOfDouble x) (small : valueOfDouble x < 2 ^ 53) :
    ∃ n whole d, Approaches (valueOfDouble x) n whole d := by
  obtain ⟨n, d, value, full, digits⟩ := exists_fraction large small
  have fraction : valueOfDouble x = n / (2 ^ d : ℕ) := by
    rw [value, zpow_neg, zpow_natCast, ← div_eq_mul_inv, Nat.cast_pow, Nat.cast_ofNat]
  have floor : ⌊valueOfDouble x⌋₊ = n / 2 ^ d := by rw [fraction, Nat.floor_div_eq_div]
  have unit : 0 < 2 ^ d := by positivity
  have reached : 2 ^ d ≤ n := by
    have divides := Nat.le_floor (α := ℚ) (n := 1) (by exact_mod_cast large)
    rw [floor, Nat.le_div_iff_mul_le unit, one_mul] at divides
    exact divides
  have coarse : d ≤ 52 := by
    have := (Nat.pow_lt_pow_iff_right one_lt_two).mp (reached.trans_lt digits)
    omega
  refine ⟨n, (n / 2 ^ d + 1) * 2 ^ d, d, value, ?_, full, ?_, ?_, coarse⟩
  · rw [floor, zpow_neg, zpow_natCast, Nat.cast_mul, Nat.cast_pow, Nat.cast_ofNat,
      mul_inv_cancel_right₀ (by positivity), Nat.cast_add, Nat.cast_one]
  · rw [mul_comm]
    exact Nat.lt_mul_div_succ n unit
  · have split : 2 ^ 53 = 2 ^ (53 - d) * 2 ^ d := by
      rw [← pow_add]
      congr 1
      omega
    rw [split] at digits ⊢
    exact Nat.mul_le_mul_right _ ((Nat.div_lt_iff_lt_mul unit).mpr digits)

namespace Approaches

variable {v : ℚ} {n whole d : ℕ}

theorem unit_pos (d : ℕ) : (0 : ℚ) < 2 ^ (-d : ℤ) := by positivity

theorem ne_middle (near : Approaches v n whole d) :
    v + valueOfDouble Settings.tolerance ≠ whole * 2 ^ (-d : ℤ) - 2 ^ (-d : ℤ) / 2 := by
  intro tie
  obtain ⟨gap, rfl⟩ := Nat.exists_eq_add_of_lt near.before
  obtain ⟨k, rest⟩ := Nat.exists_eq_add_of_le near.coarse
  have places : (2 : ℚ) ^ (-d : ℤ) = 2 ^ (k + 30) / 2 ^ 82 := by
    rw [zpow_neg, zpow_natCast, eq_div_iff (by positivity), inv_mul_eq_iff_eq_mul₀ (by positivity),
      ← pow_add]
    congr 1
    omega
  rw [near.value, value_tolerance, places] at tie
  have scaled : (4835703278458517 : ℚ) = ((2 * gap + 1) * 2 ^ (k + 29) : ℕ) := by
    push_cast at tie ⊢
    rw [pow_add _ k 30] at tie
    rw [pow_add _ k 29]
    linarith
  have whole : 4835703278458517 = (2 * gap + 1) * 2 ^ (k + 29) := by exact_mod_cast scaled
  rw [pow_succ, ← mul_assoc] at whole
  omega

theorem paddedSpan_lt_iff (near : Approaches (valueOfDouble x) n whole d) :
    paddedSpan x < ⌊valueOfDouble x⌋₊ + 1 ↔
      valueOfDouble x + valueOfDouble Settings.tolerance <
        whole * 2 ^ (-d : ℤ) - 2 ^ (-d : ℤ) / 2 := by
  have unit := unit_pos d
  have least : (-1074 : ℤ) ≤ -d := by have := near.coarse; omega
  rw [near.next]
  constructor
  · intro short
    by_contra reached
    have past := lt_of_le_of_ne (not_lt.mp reached) near.ne_middle.symm
    have up := le_nearestDouble_of_middle_lt least (near.full.trans_lt near.before) near.digits past
    exact absurd short up.not_gt
  · intro short
    obtain ⟨previous, rfl⟩ := Nat.exists_eq_succ_of_ne_zero (Nat.ne_zero_of_lt near.before)
    push_cast at short ⊢
    have down := nearestDouble_le_of_lt_middle least (near.full.trans (Nat.lt_succ_iff.mp near.before))
      (Nat.lt_of_succ_le near.digits) (t := valueOfDouble x + valueOfDouble Settings.tolerance)
      (by linarith)
    rw [paddedSpan]
    linarith

theorem lt_nearestDouble_iff (near : Approaches v n whole d) :
    v < nearestDouble (⌊v⌋₊ + 1 - valueOfDouble Settings.tolerance) ↔
      v + valueOfDouble Settings.tolerance < whole * 2 ^ (-d : ℤ) - 2 ^ (-d : ℤ) / 2 := by
  have unit := unit_pos d
  have least : (-1074 : ℤ) ≤ -d := by have := near.coarse; omega
  have value := near.value
  rw [near.next]
  constructor
  · intro above
    by_contra reached
    have past := lt_of_le_of_ne (not_lt.mp reached) near.ne_middle.symm
    have down := nearestDouble_le_of_lt_middle least near.full (near.before.trans_le near.digits)
      (t := whole * 2 ^ (-d : ℤ) - valueOfDouble Settings.tolerance) (by linarith)
    rw [← value] at down
    exact absurd above down.not_gt
  · intro short
    have up := le_nearestDouble_of_middle_lt least (Nat.lt_succ_of_le near.full)
      (near.before.trans_le near.digits)
      (t := whole * 2 ^ (-d : ℤ) - valueOfDouble Settings.tolerance) (by push_cast; linarith)
    push_cast at up
    linarith

theorem short_of_large (near : Approaches v n whole d) (large : 2 ^ 24 ≤ v) :
    v + valueOfDouble Settings.tolerance < whole * 2 ^ (-d : ℤ) - 2 ^ (-d : ℤ) / 2 := by
  have unit := unit_pos d
  -- From `2 ^ 24` on the last place is `2 ^ -28` at least, and the tolerance is lost in it.
  have places : d ≤ 28 := by
    by_contra fine
    have small : v < 2 ^ 24 := by
      calc v = n * 2 ^ (-d : ℤ) := near.value
        _ < 2 ^ (53 + -d : ℤ) := digits_scaled_lt (near.before.trans_le near.digits) _
        _ ≤ 2 ^ (24 : ℤ) := zpow_le_zpow_right₀ one_le_two (by omega)
        _ = 2 ^ 24 := by norm_cast
    exact absurd large small.not_ge
  have wide : 1 / 2 ^ 28 ≤ (2 : ℚ) ^ (-d : ℤ) := by
    calc (1 / 2 ^ 28 : ℚ) = 2 ^ (-28 : ℤ) := by norm_num
      _ ≤ 2 ^ (-d : ℤ) := zpow_le_zpow_right₀ one_le_two (by omega)
  have apart : ((n + 1 : ℕ) * 2 ^ (-d : ℤ) : ℚ) ≤ whole * 2 ^ (-d : ℤ) := by
    gcongr
    exact near.before
  rw [near.value, value_tolerance]
  push_cast at apart
  linarith

theorem paddedSpan_lt_two (near : Approaches (valueOfDouble x) n whole d) :
    paddedSpan x < ⌊valueOfDouble x⌋₊ + 2 := by
  rcases le_or_gt (2 ^ 24) (valueOfDouble x) with large | small
  · have := near.paddedSpan_lt_iff.mpr (near.short_of_large large)
    linarith
  · have less := Nat.lt_floor_add_one (valueOfDouble x)
    have bound : ⌊valueOfDouble x⌋₊ < 2 ^ 24 := by
      rw [Nat.floor_lt' (by norm_num)]
      exact_mod_cast small
    have own := nearestDouble_of_digits (n := 2 * ⌊valueOfDouble x⌋₊ + 3) (e := -1) (by omega)
      (by norm_num)
    have half : ((2 * ⌊valueOfDouble x⌋₊ + 3 : ℕ) * 2 ^ (-1 : ℤ) : ℚ) = ⌊valueOfDouble x⌋₊ + 3 / 2 := by
      push_cast
      ring
    rw [half] at own
    have padded : paddedSpan x ≤ ⌊valueOfDouble x⌋₊ + 3 / 2 := by
      rw [← own]
      apply nearestDouble_mono
      rw [value_tolerance]
      linarith
    linarith

end Approaches

/-- Settings of which only the number of samples is wrong are refused for that, and the refusal asks for
more samples than the limit. It tells how many they take, or one too few. It is right exactly when the
span is less than the nearest double of what it tells less the tolerance, and so for every span from
`2 ^ 24` on. -/
theorem refusal_counts_samples (sound : s.Sound) (finite : s.span.isFinite = true)
    (small : s.span < 9007199254740992) {failure : Failure} (refused : s.check = .error failure) :
    ∃ requested, failure = .tooManySamples requested Settings.sampleLimit ∧
      Settings.sampleLimit < requested ∧
      (requested = s.sampleCount ∨ requested + 1 = s.sampleCount) ∧
      (requested = s.sampleCount ↔
        valueOfDouble s.span < nearestDouble (requested - valueOfDouble Settings.tolerance)) ∧
      (2 ^ 24 ≤ valueOfDouble s.span → requested = s.sampleCount) := by
  have below : valueOfDouble s.span < 2 ^ 53 := by
    have top : (9007199254740992 : Float).toModel.unpack = .finite .positive (2 ^ 52) 1 (by decide) := rfl
    rw [double_lt_iff finite (by rfl)] at small
    calc valueOfDouble s.span < valueOfDouble 9007199254740992 := small
      _ = 2 ^ 53 := by
          rw [valueOfDouble, top, valueOf_positive]
          norm_num
  rw [check_of_sound sound finite] at refused
  split_ifs at refused with long
  rw [double_le_iff (by rfl) finite, value_sampleLimit] at long
  obtain ⟨n, whole, d, near⟩ := exists_approaches (by linarith) below
  have told : Settings.wholePart s.span = ⌊valueOfDouble s.span⌋₊ :=
    toNat_toUInt64 finite (below.trans (by norm_num))
  have taken := sampleCount_of_span finite below
  have least : ⌊valueOfDouble s.span⌋₊ ≤ ⌊paddedSpan s.span⌋₊ := Nat.floor_mono (le_paddedSpan _)
  have same : ⌊valueOfDouble s.span⌋₊ + 1 = s.sampleCount ↔
      paddedSpan s.span < ⌊valueOfDouble s.span⌋₊ + 1 := by
    have short : ⌊paddedSpan s.span⌋₊ < ⌊valueOfDouble s.span⌋₊ + 1 ↔
        paddedSpan s.span < ⌊valueOfDouble s.span⌋₊ + 1 := by
      rw [Nat.floor_lt' (Nat.succ_ne_zero _), Nat.cast_succ]
    rw [← short, taken]
    omega
  have most : ⌊paddedSpan s.span⌋₊ < ⌊valueOfDouble s.span⌋₊ + 2 := by
    rw [Nat.floor_lt' (Nat.succ_ne_zero _)]
    exact_mod_cast near.paddedSpan_lt_two
  have beyond : Settings.sampleLimit ≤ ⌊valueOfDouble s.span⌋₊ := Nat.le_floor (by exact_mod_cast long)
  have within : ⌊valueOfDouble s.span⌋₊ + 1 < WordSize.long.size := by
    have floor : ⌊valueOfDouble s.span⌋₊ < 2 ^ 53 := by
      rw [Nat.floor_lt' (by norm_num)]
      exact_mod_cast below
    rw [WordSize.size, UInt64.size]
    omega
  rw [told, after_of_lt within] at refused
  refine ⟨_, (Except.error.inj refused).symm, Nat.lt_succ_of_le beyond, ?_, ?_, ?_⟩
  · omega
  · rw [same, near.paddedSpan_lt_iff, Nat.cast_succ, near.lt_nearestDouble_iff]
  · intro large
    exact same.mpr (near.paddedSpan_lt_iff.mpr (near.short_of_large large))

theorem refusal_counts_samples_half :
    let s : Settings := { domainMin := 0, domainMax := 100000.5, step := 1 }
    s.Sound ∧ s.span.isFinite = true ∧ s.span < 9007199254740992 ∧
      s.check = .error (.tooManySamples 100001 Settings.sampleLimit) ∧ s.sampleCount = 100001 := by
  intro s
  have sound : s.Sound := by constructor <;> decide +kernel
  have finite : s.span.isFinite = true := by decide +kernel
  have small : s.span < 9007199254740992 := by decide +kernel
  have refused : s.check = .error (.tooManySamples 100001 Settings.sampleLimit) := by decide +kernel
  obtain ⟨requested, told, -, -, right, -⟩ := refusal_counts_samples sound finite small refused
  cases told
  have span : s.span = 100000.5 := by decide +kernel
  have unpacked : (100000.5 : Float).toModel.unpack =
      .finite .positive (200001 * 2 ^ 35) (-36) (by decide) := rfl
  refine ⟨sound, finite, small, refused, (right.mpr ?_).symm⟩
  have own := nearestDouble_of_digits (n := 400003) (e := -2) (by norm_num) (by norm_num)
  calc valueOfDouble s.span = 200001 / 2 := by
        rw [span, valueOfDouble, unpacked, valueOf_positive]
        norm_num
    _ < (400003 : ℕ) * 2 ^ (-2 : ℤ) := by norm_num
    _ = nearestDouble ((400003 : ℕ) * 2 ^ (-2 : ℤ)) := own.symm
    _ ≤ nearestDouble ((100001 : ℕ) - valueOfDouble Settings.tolerance) := by
        apply nearestDouble_mono
        rw [value_tolerance]
        norm_num

/-- The last double before a whole number of steps: the tolerance makes it one sample more. -/
theorem refusal_miscounts_samples :
    let s : Settings := { domainMin := 0, domainMax := 100000.99999999999, step := 1 }
    s.Sound ∧ s.span.isFinite = true ∧ s.span < 9007199254740992 ∧
      s.check = .error (.tooManySamples 100001 Settings.sampleLimit) ∧ s.sampleCount = 100002 :=
  ⟨by constructor <;> decide +kernel, by decide +kernel, by decide +kernel, by decide +kernel,
    by decide +kernel⟩

end Grapher
