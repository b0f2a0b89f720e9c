import Grapher.Proofs.Sampling.Cause
import Grapher.Proofs.Sampling.Comparison

namespace Grapher

/-- One curve goes on where the other ends. Both have the points of the same samples, the first of those
below its own count. Two of these samples are in one segment of the first curve exactly when they are in one
segment of the second. So the segments of the first curve are segments of the second, except that the last
one may be cut short. -/
structure Settings.Prolongs (s wider : Settings) (formula : Formula) (curve longer : Curve) : Prop where
  points : curve.points = (List.range s.sampleCount).filterMap (wider.pointAt formula)
  pointsLonger : longer.points = (List.range wider.sampleCount).filterMap (wider.pointAt formula)
  share : ∃ runs runs',
    s.Cuts formula s.sampleCount runs ∧ wider.Cuts formula wider.sampleCount runs' ∧
      curve.segments.map (·.points.map some) = runs.map (·.map (wider.pointAt formula)) ∧
      longer.segments.map (·.points.map some) = runs'.map (·.map (wider.pointAt formula)) ∧
      ∀ i j, i < s.sampleCount → j < s.sampleCount →
        ((∃ run ∈ runs, i ∈ run ∧ j ∈ run) ↔ ∃ run ∈ runs', i ∈ run ∧ j ∈ run)
  segments : ∃ front last grown later, curve.segments = front ++ [last] ∧
    longer.segments = front ++ grown :: later ∧ last.points <+: grown.points

theorem Segment.points_injective : Function.Injective fun segment : Segment =>
    segment.points.map some := by
  intro a b same
  have points : a.points = b.points := (List.map_inj_right fun _ _ => Option.some.inj).mp same
  obtain ⟨first, later⟩ := a
  obtain ⟨first', later'⟩ := b
  obtain ⟨rfl, rest⟩ := List.cons.inj points
  cases Array.toList_inj.mp rest
  rfl

variable {s : Settings} {max : Float} {formula : Formula} {curve longer : Curve}

theorem pointAt_domainMax : Settings.pointAt { s with domainMax := max } formula = s.pointAt formula := rfl

theorem segments_prefix {point : Nat → Option Point} {segments segments' : List Segment}
    {front later : List (List Nat)} {last rest : List Nat}
    (same : segments.map (·.points.map some) = (front ++ [last]).map (·.map point))
    (same' : segments'.map (·.points.map some) = (front ++ (last ++ rest) :: later).map (·.map point)) :
    ∃ front last grown later, segments = front ++ [last] ∧ segments' = front ++ grown :: later ∧
      last.points <+: grown.points := by
  rw [List.map_append, List.map_singleton] at same
  rw [List.map_append, List.map_cons, List.map_append] at same'
  obtain ⟨shown, final, rfl, front_eq, final_eq⟩ := List.map_eq_append_iff.mp same
  obtain ⟨segment, rfl, segment_eq⟩ := List.map_eq_singleton_iff.mp final_eq
  obtain ⟨shown', others, rfl, front_eq', others_eq⟩ := List.map_eq_append_iff.mp same'
  obtain ⟨grown, followers, rfl, grown_eq, -⟩ := List.map_eq_cons_iff.mp others_eq
  have fronts : shown' = shown :=
    Segment.points_injective.list_map (front_eq'.trans front_eq.symm)
  subst fronts
  refine ⟨shown', segment, grown, followers, rfl, rfl, ?_⟩
  rw [← segment_eq] at grown_eq
  obtain ⟨start, tail, points, start_eq, -⟩ := List.map_eq_append_iff.mp grown_eq
  rw [points, (List.map_inj_right fun _ _ => Option.some.inj).mp start_eq]
  exact List.prefix_append _ _

theorem prolongs_of_drawn (more : s.sampleCount ≤ Settings.sampleCount { s with domainMax := max })
    (drawn : (s.runFormula formula).result = .ok curve)
    (drawn' : (Settings.runFormula { s with domainMax := max } formula).result = .ok longer) :
    s.Prolongs { s with domainMax := max } formula curve longer := by
  obtain ⟨runs, cut, same⟩ := curve_cut drawn
  obtain ⟨runs', cut', same'⟩ := curve_cut drawn'
  have filled : runs ≠ [] := by
    rintro rfl
    exact segments_ne_nil drawn (List.map_eq_nil_iff.mp same)
  refine ⟨?points, curve_points drawn', ⟨runs, runs', cut, cut', same, same', ?share⟩, ?segments⟩
  case points =>
    rw [pointAt_domainMax]
    exact curve_points drawn
  case share => exact fun i j here there => cut.share_longer cut' more here there
  case segments =>
    obtain ⟨front, last, rest, later, rfl, rfl⟩ := cut.exists_longer cut' more filled
    exact segments_prefix same same'

theorem pointAt_of_failed {failure : Failure} (failed : (s.runFormula formula).result = .error failure)
    {i : Nat} (below : i < s.sampleCount) : s.pointAt formula i = none := by
  rw [← Option.not_isSome_iff_eq_none]
  intro is
  obtain ⟨curve, drawn⟩ := drawn_of_isSome below is
  rw [failed] at drawn
  cases drawn

/-- The samples of two accepted settings that differ in the right end of the domain are the same ones, but
one takes more of them. What that one draws goes on where the curve of the other one ends. Where the other
one has no curve, none of its samples has a value in the longer run either, and if that has no curve the
cause is the same. -/
theorem extension_prolongs_curve (accepted : s.check = .ok ())
    (accepted' : Settings.check { s with domainMax := max } = .ok ())
    (more : s.sampleCount ≤ Settings.sampleCount { s with domainMax := max }) (expression : String) :
    let wider : Settings := { s with domainMax := max }
    (∀ curve, s.sample expression = .ok curve →
      ∃ formula longer, Formula.ofText expression s.unit = .ok formula ∧
        wider.sample expression = .ok longer ∧ s.Prolongs wider formula curve longer) ∧
      ∀ failure, s.sample expression = .error failure →
        ∃ cause, failure = .noValidPoints s.sampleCount (some cause) ∧
          (∀ formula, Formula.ofText expression s.unit = .ok formula →
            ∀ i < s.sampleCount, wider.pointAt formula i = none) ∧
          ∀ failure', wider.sample expression = .error failure' →
            failure' = .noValidPoints wider.sampleCount (some cause) := by
  intro wider
  rw [sample_of_accepted accepted, sample_of_accepted accepted']
  cases read : Formula.ofText expression s.unit with
  | error fault =>
      rw [run_of_error read, run_of_error (s := wider) read]
      refine ⟨nofun, fun failure failed => ⟨fault, (Except.error.inj failed).symm, nofun, ?_⟩⟩
      exact fun failure' failed' => (Except.error.inj failed').symm
  | ok formula =>
      rw [run_of_ok read, run_of_ok (s := wider) read]
      refine ⟨fun curve drawn => ?_, fun failure failed => ?_⟩
      · obtain ⟨longer, drawn'⟩ := exists_curve_of_more wider drawn rfl more
        exact ⟨formula, longer, rfl, drawn', prolongs_of_drawn more drawn drawn'⟩
      · obtain ⟨fault, value, same⟩ := runFormula_failure failed
        refine ⟨fault, same, ?_, fun failure' failed' => ?_⟩
        · intro other read' i below
          cases read'
          exact (congrFun pointAt_domainMax i).trans (pointAt_of_failed failed below)
        · obtain ⟨cause, own, other⟩ := exists_common_cause failed failed' rfl
          rw [other, ← (Failure.noValidPoints.inj (same.symm.trans own)).2]

theorem extension_prolongs_curve_reciprocal :
    let s : Settings := { domainMin := -1, domainMax := 0.5, step := 0.5 }
    let wider : Settings := { s with domainMax := 1 }
    let curve : Curve :=
      { expression := "1/x", segments := [⟨⟨-1, -1⟩, #[⟨-0.5, -2⟩]⟩, ⟨⟨0.5, 2⟩, #[]⟩]
        sampleCount := 4, definedCount := 3 }
    let longer : Curve :=
      { expression := "1/x", segments := [⟨⟨-1, -1⟩, #[⟨-0.5, -2⟩]⟩, ⟨⟨0.5, 2⟩, #[⟨1, 1⟩]⟩]
        sampleCount := 5, definedCount := 4 }
    s.check = .ok () ∧ wider.check = .ok () ∧ s.sampleCount ≤ wider.sampleCount ∧
      s.sample "1/x" = .ok curve ∧ wider.sample "1/x" = .ok longer ∧
        ∃ formula, s.Prolongs wider formula curve longer := by
  intro s wider curve longer
  have accepted : s.check = .ok () := check_eq_ok.mpr (by constructor <;> decide +kernel)
  have accepted' : wider.check = .ok () := check_eq_ok.mpr (by constructor <;> decide +kernel)
  have more : s.sampleCount ≤ wider.sampleCount := by decide +kernel
  have drawn : s.sample "1/x" = .ok curve := by decide +kernel
  have drawn' : wider.sample "1/x" = .ok longer := by decide +kernel
  obtain ⟨kept, -⟩ := extension_prolongs_curve accepted accepted' more "1/x"
  obtain ⟨formula, other, -, drawn'', prolongs⟩ := kept curve drawn
  cases drawn'.symm.trans drawn''
  exact ⟨accepted, accepted', more, drawn, drawn', formula, prolongs⟩

end Grapher
