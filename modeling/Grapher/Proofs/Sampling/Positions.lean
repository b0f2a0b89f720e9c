import Grapher.Proofs.Number.Error
import Grapher.Proofs.Number.Overflow
import Grapher.Proofs.Sampling.Count
import Grapher.Proofs.Sampling.Segmentation

namespace Grapher

open Float.Model Float.Model.UnpackedFloat

variable {s : Settings} {i j : ℕ}

/-- Every sample stands to the right of the ones before it. -/
def Settings.Ascends (s : Settings) : Prop :=
  ∀ i j, i < j → j < s.sampleCount → s.position i < s.position j

/-- How far a sample stands from the left end. -/
def Settings.offset (s : Settings) (index : ℕ) : ℚ :=
  capped (valueOfDouble s.step * index)

/-- The number at the position of a sample: two roundings, each of which may pass the largest double. -/
def Settings.place (s : Settings) (index : ℕ) : ℚ :=
  if s.offset index < overflowBound then capped (valueOfDouble s.domainMin + s.offset index)
  else overflowBound

theorem Settings.Accepted.step_pos (accepted : s.Accepted) : 0 < valueOfDouble s.step := by
  have positive := accepted.stepPositive
  rwa [double_le_iff accepted.stepFinite (by rfl), show valueOfDouble 0 = 0 from rfl, not_le] at positive

theorem index_represents (digits : i < 2 ^ 53) :
    Represents i.toUInt64.toFloat.toModel.unpack i := by
  have word : i.toUInt64.toNat = i := Nat.mod_eq_of_lt (by omega)
  have small : |(i : ℚ)| < overflowBound := by
    rw [Nat.abs_cast]
    calc (i : ℚ) < 2 ^ (53 : ℤ) := by exact_mod_cast digits
      _ ≤ overflowBound := zpow_le_zpow_right₀ one_le_two (by omega)
  have packed := (ofNat_represents digits).pack small
  change Represents (Float.Model.pack (UnpackedFloat.ofNat .binary64 i.toUInt64.toNat)).unpack i
  rwa [word]

theorem offset_nonneg (accepted : s.Accepted) (i : ℕ) : 0 ≤ s.offset i := by
  have positive := accepted.step_pos
  rw [Settings.offset, capped, ← nearestDouble_zero]
  exact le_min (nearestDouble_mono (by positivity)) (by simp [overflowBound])

theorem position_reaches (accepted : s.Accepted) (below : i < s.sampleCount) :
    Reaches (s.position i).toModel.unpack (s.place i) := by
  have limit := accepted.sampleCount_le
  have positive := accepted.step_pos
  have offset := mul_reaches (represents_of_isFinite accepted.stepFinite)
    (index_represents (i := i) (by omega)) (by positivity)
  exact add_reaches (represents_of_isFinite accepted.minFinite) offset (offset_nonneg accepted i)

theorem offset_mono (accepted : s.Accepted) (le : i ≤ j) : s.offset i ≤ s.offset j := by
  have := accepted.step_pos
  unfold Settings.offset
  apply capped_mono
  gcongr

theorem place_le_bound (s : Settings) (index : ℕ) : s.place index ≤ overflowBound := by
  unfold Settings.place
  split_ifs
  · exact min_le_right _ _
  · exact le_rfl

theorem place_mono (accepted : s.Accepted) (le : i ≤ j) : s.place i ≤ s.place j := by
  have offsets := offset_mono accepted le
  by_cases finite : s.offset j < overflowBound
  · rw [Settings.place, Settings.place, if_pos finite, if_pos (offsets.trans_lt finite)]
    exact capped_mono (by linarith)
  · have beyond : s.place j = overflowBound := if_neg finite
    rw [beyond]
    exact place_le_bound s i

theorem position_mono (accepted : s.Accepted) (le : i ≤ j) (below : j < s.sampleCount) :
    s.position i ≤ s.position j := by
  rw [le_iff_of_reaches (position_reaches accepted (le.trans_lt below))
    (position_reaches accepted below)]
  exact place_mono accepted le

theorem ascends_iff (accepted : s.Accepted) :
    s.Ascends ↔ ∀ i, i + 1 < s.sampleCount → (s.position i == s.position (i + 1)) = false := by
  constructor
  · intro ascends i below
    have less := ascends i (i + 1) (Nat.lt_succ_self i) below
    have here := position_reaches accepted (Nat.lt_of_succ_lt below)
    have there := position_reaches accepted below
    rw [lt_iff_of_reaches here there] at less
    rw [Bool.eq_false_iff, ne_eq, beq_iff_of_reaches here there]
    exact less.ne
  · intro apart i j before below
    have next : i + 1 < s.sampleCount := by omega
    have here := position_reaches accepted (Nat.lt_of_succ_lt next)
    have differ := apart i next
    rw [Bool.eq_false_iff, ne_eq, beq_iff_of_reaches here (position_reaches accepted next)] at differ
    rw [lt_iff_of_reaches here (position_reaches accepted below)]
    calc s.place i < s.place (i + 1) :=
          lt_of_le_of_ne (place_mono accepted (Nat.le_succ i)) differ
      _ ≤ s.place j := place_mono accepted before

theorem Settings.Accepted.width_represents (accepted : s.Accepted) :
    Represents (s.domainMax - s.domainMin).toModel.unpack
      (nearestDouble (valueOfDouble s.domainMax - valueOfDouble s.domainMin)) :=
  (sub_represents (represents_of_isFinite accepted.maxFinite)
    (represents_of_isFinite accepted.minFinite)).of_pack
    (isFinite_of_div accepted.stepFinite accepted.spanFinite)

theorem Settings.Accepted.span_represents (accepted : s.Accepted) :
    Represents s.span.toModel.unpack
      (nearestDouble (nearestDouble (valueOfDouble s.domainMax - valueOfDouble s.domainMin) /
        valueOfDouble s.step)) :=
  (div_represents accepted.width_represents (represents_of_isFinite accepted.stepFinite)
    accepted.step_pos.ne').of_pack accepted.spanFinite

theorem le_width (accepted : s.Accepted) (below : i + 1 < s.sampleCount) :
    (i + 1 - 1 / 2 ^ 29) * valueOfDouble s.step ≤
      nearestDouble (valueOfDouble s.domainMax - valueOfDouble s.domainMin) := by
  have ⟨spanFinite, spanBelow⟩ := accepted.bounded
  have limit := accepted.sampleCount_le
  have positive := accepted.step_pos
  have value := accepted.span_represents.value
  generalize nearestDouble (valueOfDouble s.domainMax - valueOfDouble s.domainMin) = width at *
  have reached : ((i + 1 : ℕ) : ℚ) ≤ paddedSpan s.span := by
    rw [sampleCount_eq spanFinite spanBelow, Nat.add_lt_add_iff_right, ← Nat.succ_le_iff] at below
    exact (Nat.le_floor_iff' (Nat.succ_ne_zero i)).mp below
  by_contra narrow
  have quotient : width / valueOfDouble s.step ≤ i + 1 - 1 / 2 ^ 29 := by
    rw [div_le_iff₀ positive]
    exact (not_le.mp narrow).le
  -- The doubles `2 ^ -29` and `2 ^ -31` below `i + 1` are too far apart for the tolerance to lead from the
  -- one to the other.
  have farther := nearestDouble_of_digits (n := 2 ^ 29 * i + (2 ^ 29 - 1)) (e := -29) (by omega) (by omega)
  have nearer := nearestDouble_of_digits (n := 2 ^ 31 * i + (2 ^ 31 - 1)) (e := -31) (by omega) (by omega)
  have farther_eq : ((2 ^ 29 * i + (2 ^ 29 - 1) : ℕ) * 2 ^ (-29 : ℤ) : ℚ) = i + 1 - 1 / 2 ^ 29 := by
    push_cast
    ring
  have nearer_eq : ((2 ^ 31 * i + (2 ^ 31 - 1) : ℕ) * 2 ^ (-31 : ℤ) : ℚ) = i + 1 - 1 / 2 ^ 31 := by
    push_cast
    ring
  rw [farther_eq] at farther
  rw [nearer_eq] at nearer
  have spanned : valueOfDouble s.span ≤ i + 1 - 1 / 2 ^ 29 := by
    rw [valueOfDouble, value, ← farther]
    exact nearestDouble_mono quotient
  have padded : paddedSpan s.span ≤ i + 1 - 1 / 2 ^ 31 := by
    rw [paddedSpan, ← nearer]
    apply nearestDouble_mono
    rw [value_tolerance]
    linarith
  push_cast at reached
  linarith

theorem exists_product (accepted : s.Accepted) (digits : i < 2 ^ 53) :
    ∃ u, Represents u (nearestDouble (valueOfDouble s.step * i)) :=
  ⟨_, mul_represents (represents_of_isFinite accepted.stepFinite) (index_represents digits)⟩

theorem abs_product_sub_le (accepted : s.Accepted) (small : i ≤ 100001) :
    |nearestDouble (valueOfDouble s.step * i) - valueOfDouble s.step * i| ≤
      valueOfDouble s.step / 2 ^ 36 := by
  have positive := accepted.step_pos
  have bound : (i : ℚ) ≤ 100001 := by exact_mod_cast small
  calc |nearestDouble (valueOfDouble s.step * i) - valueOfDouble s.step * i|
      ≤ |valueOfDouble s.step * i| / 2 ^ 53 :=
        abs_nearestDouble_sub_le ((onGrid_valueOfDouble s.step).mul_natCast i)
    _ ≤ valueOfDouble s.step * 2 ^ 17 / 2 ^ 53 := by
        rw [abs_of_nonneg (by positivity)]
        gcongr
        linarith
    _ = valueOfDouble s.step / 2 ^ 36 := by ring

theorem product_lt_width (accepted : s.Accepted) (below : i + 1 < s.sampleCount) :
    nearestDouble (valueOfDouble s.step * i) <
      nearestDouble (valueOfDouble s.domainMax - valueOfDouble s.domainMin) := by
  have limit := accepted.sampleCount_le
  have positive := accepted.step_pos
  have wide := le_width accepted below
  have error := (abs_le.mp (abs_product_sub_le (i := i) accepted (by omega))).2
  linarith

theorem sum_le_max (accepted : s.Accepted) (below : i + 1 < s.sampleCount) :
    nearestDouble (valueOfDouble s.domainMin + nearestDouble (valueOfDouble s.step * i)) ≤
      valueOfDouble s.domainMax := by
  have limit := accepted.sampleCount_le
  have short := product_lt_width accepted below
  obtain ⟨u, product⟩ := exists_product (i := i) accepted (by omega)
  rw [← nearestDouble_valueOfDouble s.domainMax]
  apply nearestDouble_mono
  -- The product is a double below the rounded width, so it cannot reach the width itself.
  by_contra beyond
  have le : valueOfDouble s.domainMax - valueOfDouble s.domainMin ≤
      nearestDouble (valueOfDouble s.step * i) := by
    linarith
  have rounded := nearestDouble_mono le
  rw [product.nearestDouble_eq] at rounded
  exact absurd short rounded.not_gt

theorem place_lt_bound (accepted : s.Accepted) (below : i + 1 < s.sampleCount) :
    s.place i < overflowBound := by
  have short := product_lt_width accepted below
  have inside := sum_le_max accepted below
  have finite : nearestDouble (valueOfDouble s.step * i) < overflowBound := by
    refine short.trans ?_
    rw [← accepted.width_represents.value]
    exact (abs_lt.mp (abs_valueOfDouble_lt _)).2
  have most := (abs_lt.mp (abs_valueOfDouble_lt s.domainMax)).2
  have offset : s.offset i = nearestDouble (valueOfDouble s.step * i) := capped_of_lt finite
  rw [Settings.place, offset, if_pos finite, capped_of_lt (inside.trans_lt most)]
  exact inside.trans_lt most

theorem place_of_lt (small : s.place i < overflowBound) :
    s.place i =
      nearestDouble (valueOfDouble s.domainMin + nearestDouble (valueOfDouble s.step * i)) := by
  have finite : s.offset i < overflowBound := by
    by_contra beyond
    rw [Settings.place, if_neg beyond] at small
    exact lt_irrefl _ small
  have offset : s.offset i = nearestDouble (valueOfDouble s.step * i) :=
    capped_of_lt (nearestDouble_of_capped_lt finite)
  rw [Settings.place, if_pos finite] at small ⊢
  rw [capped_of_lt (nearestDouble_of_capped_lt small), offset]

theorem abs_place_sub_le (accepted : s.Accepted) (small : i ≤ 100001)
    (near : |valueOfDouble s.domainMin| ≤ 2 ^ 51 * valueOfDouble s.step) :
    |nearestDouble (valueOfDouble s.domainMin + nearestDouble (valueOfDouble s.step * i)) -
      (valueOfDouble s.domainMin + valueOfDouble s.step * i)| ≤ 3 / 8 * valueOfDouble s.step := by
  have positive := accepted.step_pos
  have bound : (i : ℚ) ≤ 100001 := by exact_mod_cast small
  have product := abs_product_sub_le accepted small
  obtain ⟨u, rounded⟩ := exists_product (i := i) accepted (by omega)
  have sum := abs_nearestDouble_sub_le ((onGrid_valueOfDouble s.domainMin).add rounded.onGrid)
  have far : valueOfDouble s.step * i ≤ 100001 * valueOfDouble s.step := by
    rw [mul_comm]
    gcongr
  have nonneg : 0 ≤ valueOfDouble s.step * i := by positivity
  generalize nearestDouble (valueOfDouble s.step * i) = offset at *
  have size : |valueOfDouble s.domainMin + offset| ≤ (2 ^ 51 + 2 ^ 18) * valueOfDouble s.step := by
    have offsetSize : |offset| ≤ 2 ^ 18 * valueOfDouble s.step := by
      rw [abs_le] at product ⊢
      constructor <;> linarith
    linarith [abs_add_le (valueOfDouble s.domainMin) offset]
  have bounds := abs_le.mp sum
  have bounds' := abs_le.mp product
  rw [abs_le]
  constructor <;> linarith

theorem place_lt_succ (accepted : s.Accepted) (below : i + 1 < s.sampleCount)
    (near : |valueOfDouble s.domainMin| ≤ 2 ^ 51 * valueOfDouble s.step) :
    s.place i < s.place (i + 1) := by
  have limit := accepted.sampleCount_le
  have positive := accepted.step_pos
  have inside := place_lt_bound accepted below
  rcases lt_or_ge (s.place (i + 1)) overflowBound with small | beyond
  · have here := abs_le.mp (abs_place_sub_le (i := i) accepted (by omega) near)
    have there := abs_le.mp (abs_place_sub_le (i := i + 1) accepted (by omega) near)
    rw [← place_of_lt inside] at here
    rw [← place_of_lt small] at there
    push_cast at there
    linarith
  · exact inside.trans_le beyond

theorem ascends_of_near (accepted : s.Accepted)
    (near : |valueOfDouble s.domainMin| ≤ 2 ^ 51 * valueOfDouble s.step) : s.Ascends := by
  rw [ascends_iff accepted]
  intro i below
  have here := position_reaches accepted (Nat.lt_of_succ_lt below)
  rw [Bool.eq_false_iff, ne_eq, beq_iff_of_reaches here (position_reaches accepted below)]
  exact (place_lt_succ accepted below near).ne

/-- Far from zero the first step is lost. -/
theorem place_one_of_far (accepted : s.Accepted)
    (far : 2 ^ 54 * valueOfDouble s.step < |valueOfDouble s.domainMin|) :
    s.place 1 = s.place 0 := by
  have positive := accepted.step_pos
  have own := nearestDouble_valueOfDouble s.step
  have stepSmall := (abs_lt.mp (abs_valueOfDouble_lt s.step)).2
  have absorbed := nearestDouble_absorbs (t := valueOfDouble s.step) (a := s.domainMin)
    (by rwa [abs_of_pos positive])
  have first : s.offset 0 = 0 := by
    rw [Settings.offset, Nat.cast_zero, mul_zero, capped, nearestDouble_zero]
    exact min_eq_left (by simp [overflowBound])
  have second : s.offset 1 = valueOfDouble s.step := by
    rw [Settings.offset, Nat.cast_one, mul_one, capped, own]
    exact min_eq_left stepSmall.le
  have bound : (0 : ℚ) < overflowBound := by simp [overflowBound]
  rw [Settings.place, Settings.place, first, second, if_pos bound, if_pos stepSmall, capped, capped,
    absorbed, add_zero, nearestDouble_valueOfDouble]

theorem not_ascends_of_far (accepted : s.Accepted) (several : 1 < s.sampleCount)
    (far : 2 ^ 54 * valueOfDouble s.step < |valueOfDouble s.domainMin|) : ¬s.Ascends := by
  intro ascends
  have less := ascends 0 1 Nat.one_pos several
  rw [lt_iff_of_reaches (position_reaches accepted (Nat.succ_pos _))
    (position_reaches accepted several), place_one_of_far accepted far] at less
  exact lt_irrefl _ less

theorem curve_points_pairwise {formula : Formula} {curve : Curve} {before : Float → Float → Prop}
    (drawn : (s.runFormula formula).result = .ok curve)
    (ordered : ∀ i j, i < j → j < s.sampleCount → before (s.position i) (s.position j)) :
    curve.points.Pairwise fun a b => before a.x b.x := by
  rw [curve_points drawn, List.pairwise_filterMap]
  refine List.pairwise_lt_range.imp_of_mem ?_
  intro i j member member' less a here b there
  rw [(pointAt_eq_some.mp here).1, (pointAt_eq_some.mp there).1]
  exact ordered i j less (List.mem_range.mp member')

theorem curve_segments_pairwise {curve : Curve} {before : Float → Float → Prop}
    (ordered : curve.points.Pairwise fun a b => before a.x b.x) :
    (∀ segment ∈ curve.segments, segment.points.Pairwise fun a b => before a.x b.x) ∧
      curve.segments.Pairwise fun a b => before a.last.x b.first.x := by
  obtain ⟨within, across⟩ := List.pairwise_flatMap.mp ordered
  refine ⟨within, across.imp ?_⟩
  intro a b apart
  exact apart a.last a.last_mem b.first (by simp [Segment.points])

/-- Positions never decrease from one sample to a later one. They increase strictly unless two
neighbours share one, which does not happen where the left end is at most `2 ^ 51` steps away from zero,
and always happens where it is more than `2 ^ 54` steps away. Where they increase, the points of every
segment do, and segments stand apart. -/
theorem positions_increase (accepted : s.check = .ok ()) :
    (∀ i j, i ≤ j → j < s.sampleCount → s.position i ≤ s.position j) ∧
      (s.Ascends ↔
        ∀ i, i + 1 < s.sampleCount → (s.position i == s.position (i + 1)) = false) ∧
      (|valueOfDouble s.domainMin| ≤ 2 ^ 51 * valueOfDouble s.step → s.Ascends) ∧
      (1 < s.sampleCount → 2 ^ 54 * valueOfDouble s.step < |valueOfDouble s.domainMin| →
        ¬s.Ascends) ∧
      ∀ formula curve, (s.runFormula formula).result = .ok curve →
        ((∀ segment ∈ curve.segments, segment.points.Pairwise (·.x ≤ ·.x)) ∧
          curve.segments.Pairwise (·.last.x ≤ ·.first.x)) ∧
        (s.Ascends →
          (∀ segment ∈ curve.segments, segment.points.Pairwise (·.x < ·.x)) ∧
            curve.segments.Pairwise (·.last.x < ·.first.x)) := by
  have accepted := check_eq_ok.mp accepted
  refine ⟨fun i j => position_mono accepted, ascends_iff accepted, ascends_of_near accepted,
    not_ascends_of_far accepted, ?_⟩
  intro formula curve drawn
  refine ⟨curve_segments_pairwise (curve_points_pairwise drawn fun i j less below => ?_), ?_⟩
  · exact position_mono accepted less.le below
  · intro ascends
    exact curve_segments_pairwise (curve_points_pairwise drawn ascends)

theorem positions_increase_quarters :
    let s : Settings := { domainMin := -1, domainMax := 1, step := 0.25 }
    s.check = .ok () ∧ s.sampleCount = 9 ∧ s.Ascends := by
  have accepted : Settings.check { domainMin := -1, domainMax := 1, step := 0.25 } = .ok () :=
    check_eq_ok.mpr (by constructor <;> decide +kernel)
  refine ⟨accepted, by decide +kernel, (positions_increase accepted).2.2.1 ?_⟩
  have left : (-1 : Float).toModel.unpack = .finite .negative (2 ^ 52) (-52) (by decide) := rfl
  have step : (0.25 : Float).toModel.unpack = .finite .positive (2 ^ 52) (-54) (by decide) := rfl
  change |valueOf (-1 : Float).toModel.unpack| ≤ 2 ^ 51 * valueOf (0.25 : Float).toModel.unpack
  rw [left, step, abs_valueOf, valueOf_positive]
  norm_num

/-- Beyond `2 ^ 53` every other whole number is a double. -/
theorem positions_coincide :
    let s : Settings := { domainMin := 9007199254740992, domainMax := 9007199254740994, step := 1 }
    s.check = .ok () ∧ s.sampleCount = 3 ∧ ¬s.position 0 < s.position 1 :=
  ⟨check_eq_ok.mpr (by constructor <;> decide +kernel), by decide +kernel, by decide +kernel⟩

end Grapher
