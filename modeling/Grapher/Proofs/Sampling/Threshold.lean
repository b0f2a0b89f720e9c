import Grapher.Proofs.Number.Infinity
import Grapher.Proofs.Sampling.Cause
import Grapher.Proofs.Sampling.Comparison
import Mathlib.Algebra.Order.BigOperators.Group.List

namespace Grapher

/-- The same samples, drawn in segments each of which joins one or more segments that follow each other. -/
structure Curve.JoinedFrom (joined curve : Curve) : Prop where
  expression : joined.expression = curve.expression
  points : joined.points = curve.points
  sampleCount : joined.sampleCount = curve.sampleCount
  definedCount : joined.definedCount = curve.definedCount
  segments : ∃ groups : List (List Segment), groups.flatten = curve.segments ∧
    (∀ group ∈ groups, group ≠ []) ∧
    joined.segments.map Segment.points = groups.map (·.flatMap Segment.points)

section Groups

variable {α β : Type} {f : α → β}

theorem exists_parts {items : List α} {groups : List (List β)} (same : items.map f = groups.flatten) :
    ∃ parts : List (List α), parts.flatten = items ∧ parts.map (·.map f) = groups := by
  induction groups generalizing items with
  | nil => exact ⟨[], (List.map_eq_nil_iff.mp same).symm, rfl⟩
  | cons group groups ih =>
      rw [List.flatten_cons] at same
      obtain ⟨part, rest, rfl, own, others⟩ := List.map_eq_append_iff.mp same
      obtain ⟨parts, rfl, grouped⟩ := ih others
      exact ⟨part :: parts, List.flatten_cons, by rw [List.map_cons, own, grouped]⟩

theorem length_le_flatten {groups : List (List α)} (filled : ∀ group ∈ groups, group ≠ []) :
    groups.length ≤ groups.flatten.length := by
  rw [List.length_flatten, ← List.length_map List.length]
  refine List.length_le_sum_of_one_le _ fun length present => ?_
  obtain ⟨group, own, rfl⟩ := List.mem_map.mp present
  exact List.length_pos_iff.mpr (filled group own)

end Groups

theorem Curve.JoinedFrom.length_le {joined curve : Curve} (joins : joined.JoinedFrom curve) :
    joined.segments.length ≤ curve.segments.length := by
  obtain ⟨groups, flatten, filled, points⟩ := joins.segments
  have count := congrArg List.length points
  rw [List.length_map, List.length_map] at count
  rw [count, ← flatten]
  exact length_le_flatten filled

variable {s : Settings} {t : Float} {formula : Formula} {curve joined : Curve}

theorem accepted_of_threshold_le (accepted : s.Accepted) (le : s.threshold ≤ t) :
    Settings.Accepted { s with threshold := t } where
  minFinite := accepted.minFinite
  maxFinite := accepted.maxFinite
  ordered := accepted.ordered
  stepFinite := accepted.stepFinite
  stepPositive := accepted.stepPositive
  scaleFinite := accepted.scaleFinite
  scalePositive := accepted.scalePositive
  thresholdNumber := (isNaN_of_le ((double_le_unpack _ _).mp le)).2
  thresholdPositive := fun small => accepted.thresholdPositive (double_le_trans le small)
  spanFinite := accepted.spanFinite
  spanBelow := accepted.spanBelow

theorem joinsNext_of_threshold_le (le : s.threshold ≤ t) {i : Nat} (joins : s.JoinsNext formula i) :
    Settings.JoinsNext { s with threshold := t } formula i := by
  obtain ⟨a, b, here, there, near⟩ := joins
  exact ⟨a, b, here, there, double_le_trans near le⟩

theorem exists_segment_groups (le : s.threshold ≤ t) (drawn : (s.runFormula formula).result = .ok curve)
    (drawn' : (Settings.runFormula { s with threshold := t } formula).result = .ok joined) :
    ∃ groups : List (List Segment), groups.flatten = curve.segments ∧
      (∀ group ∈ groups, group ≠ []) ∧
      joined.segments.map Segment.points = groups.map (·.flatMap Segment.points) := by
  obtain ⟨runs, fine, same⟩ := curve_cut drawn
  obtain ⟨runs', coarse, same'⟩ := curve_cut drawn'
  -- The runs are grouped, and the segments, which show them point by point, are grouped as they are.
  obtain ⟨groups, rfl, rfl, filled⟩ :=
    fine.exists_groups coarse fun i => joinsNext_of_threshold_le le
  rw [List.map_flatten] at same
  obtain ⟨parts, flatten, grouped⟩ := exists_parts same
  refine ⟨parts, flatten, ?_, ?_⟩
  · rintro part present rfl
    have empty : [] ∈ groups.map (List.map (List.map (s.pointAt formula))) := by
      rw [← grouped]
      exact List.mem_map.mpr ⟨[], present, rfl⟩
    obtain ⟨group, own, none⟩ := List.mem_map.mp empty
    exact filled group own (List.map_eq_nil_iff.mp none)
  · have points : (joined.segments.map Segment.points).map (List.map some) =
        (parts.map (·.flatMap Segment.points)).map (List.map some) := by
      calc
        _ = (groups.map List.flatten).map (List.map (s.pointAt formula)) := by
          rw [List.map_map]
          exact same'
        _ = (groups.map (List.map (List.map (s.pointAt formula)))).map List.flatten := by
          simp [Function.comp_def, List.map_flatten]
        _ = (parts.map (List.map (·.points.map some))).map List.flatten := by rw [grouped]
        _ = _ := by simp [Function.comp_def, List.flatMap_def]
    exact (List.map_inj_right fun _ _ => (List.map_inj_right fun _ _ => Option.some.inj).mp).mp points

theorem joinedFrom_of_drawn (le : s.threshold ≤ t) (drawn : (s.runFormula formula).result = .ok curve)
    (drawn' : (Settings.runFormula { s with threshold := t } formula).result = .ok joined) :
    joined.JoinedFrom curve where
  expression := (curve_expression drawn').trans (curve_expression drawn).symm
  points := (curve_points drawn').trans (curve_points drawn).symm
  sampleCount := (curve_sampleCount drawn').trans (curve_sampleCount drawn).symm
  definedCount := by
    obtain ⟨-, -, -, defined⟩ := (runFormula_segments s formula).1 curve drawn
    obtain ⟨-, -, -, defined'⟩ := (runFormula_segments { s with threshold := t } formula).1 joined drawn'
    exact defined'.trans defined.symm
  segments := exists_segment_groups le drawn drawn'

theorem runFormula_failure_threshold (t : Float) {failure : Failure}
    (failed : (s.runFormula formula).result = .error failure) :
    (Settings.runFormula { s with threshold := t } formula).result = .error failure := by
  cases result : (Settings.runFormula { s with threshold := t } formula).result with
  | ok curve =>
      obtain ⟨joined, drawn⟩ := exists_curve_of_more s result rfl le_rfl
      rw [failed] at drawn
      cases drawn
  | error failure' =>
      obtain ⟨fault, rfl, same⟩ := exists_common_cause failed result rfl
      rw [same]
      rfl

theorem run_failure_threshold (t : Float) {expression : String} {failure : Failure}
    (failed : (s.run expression).result = .error failure) :
    (Settings.run { s with threshold := t } expression).result = .error failure := by
  cases read : Formula.ofText expression s.unit with
  | error fault =>
      rw [run_of_error read] at failed
      rw [run_of_error (s := { s with threshold := t }) read]
      exact failed
  | ok formula =>
      rw [run_of_ok read] at failed
      rw [run_of_ok (s := { s with threshold := t }) read]
      exact runFormula_failure_threshold t failed

/-- A greater threshold is accepted too. It leaves the same texts without a curve, for the same reason, and
where there is a curve it has the same points and counts. Only its segments may be joined, so it has no more
of them. -/
theorem threshold_joins_segments (accepted : s.check = .ok ()) (le : s.threshold ≤ t)
    (expression : String) :
    let looser : Settings := { s with threshold := t }
    looser.check = .ok () ∧
      (∀ failure,
        s.sample expression = .error failure ↔ looser.sample expression = .error failure) ∧
      ∀ curve, s.sample expression = .ok curve →
        ∃ joined, looser.sample expression = .ok joined ∧ joined.JoinedFrom curve ∧
          joined.segments.length ≤ curve.segments.length := by
  intro looser
  have accepted' : looser.check = .ok () :=
    check_eq_ok.mpr (accepted_of_threshold_le (check_eq_ok.mp accepted) le)
  refine ⟨accepted', fun failure => ?_, fun curve drawn => ?_⟩
  · rw [sample_of_accepted accepted, sample_of_accepted accepted']
    exact ⟨run_failure_threshold t, run_failure_threshold (s := looser) s.threshold⟩
  · rw [sample_of_accepted accepted] at drawn
    rw [sample_of_accepted accepted']
    cases read : Formula.ofText expression s.unit with
    | error fault =>
        rw [run_of_error read] at drawn
        cases drawn
    | ok formula =>
        rw [run_of_ok read] at drawn
        rw [run_of_ok (s := looser) read]
        obtain ⟨joined, drawn'⟩ := exists_curve_of_more looser drawn rfl le_rfl
        have joins := joinedFrom_of_drawn le drawn drawn'
        exact ⟨joined, drawn', joins, joins.length_le⟩

theorem threshold_joins_segments_square :
    let s : Settings := { domainMin := 0, domainMax := 3, step := 1, threshold := 50 }
    let looser : Settings := { s with threshold := 70 }
    let curve : Curve :=
      { expression := "x*x", segments := [⟨⟨0, 0⟩, #[⟨1, 1⟩]⟩, ⟨⟨2, 4⟩, #[]⟩, ⟨⟨3, 9⟩, #[]⟩]
        sampleCount := 4, definedCount := 4 }
    let joined : Curve :=
      { curve with segments := [⟨⟨0, 0⟩, #[⟨1, 1⟩, ⟨2, 4⟩]⟩, ⟨⟨3, 9⟩, #[]⟩] }
    s.check = .ok () ∧ s.threshold ≤ 70 ∧ s.sample "x*x" = .ok curve ∧
      looser.sample "x*x" = .ok joined ∧ joined.JoinedFrom curve := by
  intro s looser curve joined
  have accepted : s.check = .ok () := check_eq_ok.mpr (by constructor <;> decide +kernel)
  have le : s.threshold ≤ 70 := by decide +kernel
  have drawn : s.sample "x*x" = .ok curve := by decide +kernel
  have drawn' : looser.sample "x*x" = .ok joined := by decide +kernel
  obtain ⟨-, -, joins⟩ := threshold_joins_segments accepted le "x*x"
  obtain ⟨other, drawn'', joins, -⟩ := joins curve drawn
  cases drawn'.symm.trans drawn''
  exact ⟨accepted, le, drawn, drawn', joins⟩

end Grapher
