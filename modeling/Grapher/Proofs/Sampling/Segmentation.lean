import Grapher.Proofs.Sampling.Cut
import Grapher.Sampling.Run

/-!
The segments of a sampled curve are the longest runs of samples that are connected.
-/

namespace Grapher

/-- The point of a sample, if the formula has a value there. -/
def Settings.pointAt (s : Settings) (formula : Formula) (index : Nat) : Option Point :=
  match formula.evaluate (s.position index) with
  | .ok y => some ⟨s.position index, y⟩
  | .error _ => none

/-- A sample and the next one both have a value, and the curve does not jump between them. -/
def Settings.JoinsNext (s : Settings) (formula : Formula) (index : Nat) : Prop :=
  ∃ a b, s.pointAt formula index = some a ∧ s.pointAt formula (index + 1) = some b ∧
    (a.y * s.scale - b.y * s.scale).abs ≤ s.threshold

abbrev Settings.Cuts (s : Settings) (formula : Formula) (count : Nat) (runs : List (List Nat)) : Prop :=
  IsCut (fun i => (s.pointAt formula i).isSome) (s.JoinsNext formula) count runs

variable {s : Settings} {formula : Formula} {count : Nat} {progress : Progress}

theorem pointAt_ok {index : Nat} {y : Float} (value : formula.evaluate (s.position index) = .ok y) :
    s.pointAt formula index = some ⟨s.position index, y⟩ := by
  rw [Settings.pointAt, value]

theorem pointAt_error {index : Nat} {fault : Fault}
    (value : formula.evaluate (s.position index) = .error fault) :
    s.pointAt formula index = none := by
  rw [Settings.pointAt, value]

theorem pointAt_eq_some {index : Nat} {p : Point} :
    s.pointAt formula index = some p ↔
      p.x = s.position index ∧ formula.evaluate (s.position index) = .ok p.y := by
  obtain ⟨x, y⟩ := p
  cases value : formula.evaluate (s.position index) with
  | ok y' => simp [pointAt_ok value, eq_comm]
  | error fault => simp [pointAt_error value]

theorem pointAt_isSome {index : Nat} :
    (s.pointAt formula index).isSome = false ↔
      ∃ fault, formula.evaluate (s.position index) = .error fault := by
  cases value : formula.evaluate (s.position index) with
  | ok y => simp [pointAt_ok value]
  | error fault => simp [pointAt_error value]

theorem connects_iff (a b : Point) :
    Progress.connects s a b = true ↔ (a.y * s.scale - b.y * s.scale).abs ≤ s.threshold := by
  unfold Progress.connects
  exact decide_eq_true_iff

theorem Segment.getLast?_points (segment : Segment) :
    segment.points.getLast? = some segment.last := by
  unfold Segment.points Segment.last
  rw [List.getLast?_cons, Array.getLast?_toList]

theorem Segment.last_mem (segment : Segment) : segment.last ∈ segment.points :=
  List.mem_of_getLast? segment.getLast?_points

theorem sample_eq (s : Settings) (formula : Formula) (progress : Progress) (index : Nat) :
    ∃ stack, progress.sample s formula index =
      match formula.evaluate (s.position index) with
      | .ok y => { progress with stack }.through s ⟨s.position index, y⟩
      | .error fault => { progress with stack }.undefinedAt (s.position index) fault := by
  -- What a failed sample leaves on the stack is dropped by the next one.
  refine ⟨(formula.evaluateOn progress.stack (s.position index)).2, ?_⟩
  rw [← Formula.evaluateOn_fst formula progress.stack]
  rfl

theorem through_none (closed : progress.growing = none) (point : Point) :
    progress.through s point = { progress with growing := some ⟨point, #[]⟩ } := by
  have ⟨finished, growing, firstFault, events, stack⟩ := progress
  cases closed
  rfl

theorem through_growing {segment : Segment} (grown : progress.growing = some segment)
    (point : Point) :
    progress.through s point =
      if Progress.connects s segment.last point then
        { progress with growing := some (segment.push point) }
      else
        { progress with
          finished := progress.finished.push segment
          growing := some ⟨point, #[]⟩
          events := progress.events.push (.discontinuity point.x) } := by
  have ⟨finished, growing, firstFault, events, stack⟩ := progress
  cases grown
  rfl

/-- Where a run stands after some samples. Its finished segments are the closed runs of a cut, and the
segment that may still grow, if there is one, ends with the last sample. -/
structure Traces (s : Settings) (formula : Formula) (count : Nat) (progress : Progress)
    (closed : List (List Nat)) (last : Option (List Nat)) : Prop where
  cut : s.Cuts formula count (closed ++ last.toList)
  finished : progress.finished.toList.map (·.points.map some) =
    closed.map (·.map (s.pointAt formula))
  growing : progress.growing.map (·.points.map some) = last.map (·.map (s.pointAt formula))
  ends : ∀ run ∈ last, ∃ i, run.getLast? = some i ∧ i + 1 = count
  reaches : ∀ i, i + 1 = count → (s.pointAt formula i).isSome = true → last ≠ none

namespace Traces

variable {closed : List (List Nat)} {last : Option (List Nat)}

theorem initial : Traces s formula 0 {} [] none where
  cut := .empty
  finished := rfl
  growing := rfl
  ends := by simp
  reaches := by simp

theorem undefinedAt (traces : Traces s formula count progress closed last)
    (gap : s.pointAt formula count = none) (x : Float) (fault : Fault) :
    Traces s formula (count + 1) (progress.undefinedAt x fault) (closed ++ last.toList) none where
  cut := by
    simpa using traces.cut.skip (by rw [gap]; rfl)
  finished := by
    have := traces.finished
    have := traces.growing
    cases last <;> cases grown : progress.growing <;> simp_all [Progress.undefinedAt]
  growing := rfl
  ends := by simp
  reaches := by
    intro i next is
    cases next
    rw [gap] at is
    cases is

theorem opened (traces : Traces s formula count progress closed none) {point : Point}
    (here : s.pointAt formula count = some point) :
    Traces s formula (count + 1) (progress.through s point) closed (some [count]) where
  cut := by
    have apart : ∀ i, i + 1 = count → (s.pointAt formula i).isSome = true →
        ¬ s.JoinsNext formula i :=
      fun i next is => absurd rfl (traces.reaches i next is)
    simpa using traces.cut.start (by rw [here]; rfl) apart
  finished := by
    rw [through_none (Option.map_eq_none_iff.mp traces.growing)]
    exact traces.finished
  growing := by
    rw [through_none (Option.map_eq_none_iff.mp traces.growing)]
    simp [Segment.points, here]
  ends := by simp
  reaches := by simp

variable {run : List Nat}

theorem grown (traces : Traces s formula count progress closed (some run)) :
    ∃ segment i, progress.growing = some segment ∧
      segment.points.map some = run.map (s.pointAt formula) ∧ run.getLast? = some i ∧
      i + 1 = count ∧ s.pointAt formula i = some segment.last := by
  have ⟨i, tip, next⟩ := traces.ends run rfl
  have ⟨segment, grown, same⟩ := Option.map_eq_some_iff.mp traces.growing
  refine ⟨segment, i, grown, same, tip, next, ?_⟩
  have lasts := congrArg List.getLast? same
  rw [List.getLast?_map, List.getLast?_map, Segment.getLast?_points, tip] at lasts
  exact (Option.some.inj lasts).symm

theorem prolonged (traces : Traces s formula count progress closed (some run)) {point : Point}
    (here : s.pointAt formula count = some point) {segment : Segment}
    (grown : progress.growing = some segment)
    (connected : Progress.connects s segment.last point = true) :
    Traces s formula (count + 1) (progress.through s point) closed (some (run ++ [count])) where
  cut := by
    obtain ⟨other, i, same, -, tip, next, before⟩ := traces.grown
    cases grown.symm.trans same
    refine traces.cut.extend tip next (by rw [here]; rfl) ?_
    exact ⟨segment.last, point, before, next ▸ here, (connects_iff _ _).mp connected⟩
  finished := by
    rw [through_growing grown, if_pos connected]
    exact traces.finished
  growing := by
    obtain ⟨other, i, same, points, -⟩ := traces.grown
    cases grown.symm.trans same
    rw [through_growing grown, if_pos connected]
    simp [Segment.points_push, points, here]
  ends := by simp
  reaches := by simp

theorem broken (traces : Traces s formula count progress closed (some run)) {point : Point}
    (here : s.pointAt formula count = some point) {segment : Segment}
    (grown : progress.growing = some segment)
    (apart : Progress.connects s segment.last point ≠ true) :
    Traces s formula (count + 1) (progress.through s point) (closed ++ [run]) (some [count]) where
  cut := by
    obtain ⟨other, i, same, -, tip, next, before⟩ := traces.grown
    cases grown.symm.trans same
    refine traces.cut.start (by rw [here]; rfl) ?_
    rintro previous follows is ⟨a, b, left, right, joined⟩
    have : previous = i := by omega
    subst this
    rw [before] at left
    rw [next, here] at right
    cases left
    cases right
    exact apart ((connects_iff _ _).mpr joined)
  finished := by
    obtain ⟨other, i, same, points, -⟩ := traces.grown
    cases grown.symm.trans same
    rw [through_growing grown, if_neg apart]
    simp [traces.finished, points]
  growing := by
    rw [through_growing grown, if_neg apart]
    simp [Segment.points, here]
  ends := by simp
  reaches := by simp

theorem sample (traces : Traces s formula count progress closed last) :
    ∃ closed last, Traces s formula (count + 1) (progress.sample s formula count) closed last := by
  have ⟨stack, sampled⟩ := sample_eq s formula progress count
  have same : Traces s formula count { progress with stack } closed last :=
    ⟨traces.cut, traces.finished, traces.growing, traces.ends, traces.reaches⟩
  rw [sampled]
  cases value : formula.evaluate (s.position count) with
  | error fault => exact ⟨_, _, same.undefinedAt (pointAt_error value) _ fault⟩
  | ok y =>
      have here := pointAt_ok value
      cases last with
      | none => exact ⟨_, _, same.opened here⟩
      | some run =>
          obtain ⟨segment, -, grown, -⟩ := same.grown
          by_cases connected : Progress.connects s segment.last ⟨s.position count, y⟩ = true
          · exact ⟨_, _, same.prolonged here grown connected⟩
          · exact ⟨_, _, same.broken here grown connected⟩

end Traces

theorem samples_trace (s : Settings) (formula : Formula) (count : Nat) :
    ∃ closed last,
      Traces s formula count ((List.range count).foldl (Progress.sample s formula) {}) closed last := by
  induction count with
  | zero => exact ⟨[], none, .initial⟩
  | succ count ih =>
      have ⟨closed, last, traces⟩ := ih
      rw [List.range_succ, List.foldl_append]
      exact traces.sample

abbrev Settings.samples (s : Settings) (formula : Formula) : Progress :=
  (List.range s.sampleCount).foldl (Progress.sample s formula) {}

theorem samples_cut (s : Settings) (formula : Formula) :
    ∃ runs, s.Cuts formula s.sampleCount runs ∧
      (s.samples formula).segments.map (·.points.map some) =
        runs.map (·.map (s.pointAt formula)) := by
  have ⟨closed, last, traces⟩ := samples_trace s formula s.sampleCount
  refine ⟨closed ++ last.toList, traces.cut, ?_⟩
  rw [Progress.segments, List.map_append, List.map_append, traces.finished, ← Option.toList_map,
    ← Option.toList_map, traces.growing]

theorem runFormula_eq (s : Settings) (formula : Formula) :
    (s.runFormula formula).result =
      if (s.samples formula).segments.isEmpty then
        .error (.noValidPoints s.sampleCount (s.samples formula).firstFault)
      else .ok (.ofSegments formula.source (s.samples formula).segments s.sampleCount) := by
  unfold Settings.runFormula
  cases segments : (s.samples formula).segments with
  | nil => simp [segments]
  | cons segment more => simp [segments]

theorem filter_map_isSome {β : Type} (f : Nat → Option β) (numbers : List Nat) :
    (numbers.filter fun i => (f i).isSome).map f = (numbers.filterMap f).map some := by
  induction numbers with
  | nil => rfl
  | cons i numbers ih => cases value : f i <;> simp [value, ih]

theorem foldl_length (segments : List Segment) (count : Nat) :
    segments.foldl (· + ·.length) count = count + (segments.flatMap Segment.points).length := by
  induction segments generalizing count with
  | nil => rfl
  | cons segment segments ih =>
      rw [List.foldl_cons, ih, List.flatMap_cons, List.length_append, Segment.length_points,
        Nat.add_assoc]

theorem samples_points (s : Settings) (formula : Formula) :
    (s.samples formula).segments.flatMap Segment.points =
      (List.range s.sampleCount).filterMap (s.pointAt formula) := by
  have ⟨runs, cut, same⟩ := samples_cut s formula
  have points : ((s.samples formula).segments.flatMap Segment.points).map some =
      ((List.range s.sampleCount).filterMap (s.pointAt formula)).map some := by
    calc
      _ = ((s.samples formula).segments.map (·.points.map some)).flatten := by
        rw [List.map_flatMap, List.flatMap_def]
      _ = (runs.map (·.map (s.pointAt formula))).flatten := by rw [same]
      _ = runs.flatten.map (s.pointAt formula) := by rw [List.map_flatten]
      _ = _ := by rw [cut.flatten, filter_map_isSome]
  exact (List.map_inj_right fun _ _ => Option.some.inj).mp points

theorem curve_eq {curve : Curve} (drawn : (s.runFormula formula).result = .ok curve) :
    curve = .ofSegments formula.source (s.samples formula).segments s.sampleCount := by
  rw [runFormula_eq] at drawn
  by_cases empty : (s.samples formula).segments.isEmpty = true
  · rw [if_pos empty] at drawn
    cases drawn
  · rw [if_neg empty] at drawn
    exact (Except.ok.inj drawn).symm

theorem curve_segments {curve : Curve} (drawn : (s.runFormula formula).result = .ok curve) :
    curve.segments = (s.samples formula).segments :=
  congrArg Curve.segments (curve_eq drawn)

theorem curve_expression {curve : Curve} (drawn : (s.runFormula formula).result = .ok curve) :
    curve.expression = formula.source :=
  congrArg Curve.expression (curve_eq drawn)

theorem curve_sampleCount {curve : Curve} (drawn : (s.runFormula formula).result = .ok curve) :
    curve.sampleCount = s.sampleCount :=
  congrArg Curve.sampleCount (curve_eq drawn)

theorem segments_ne_nil {curve : Curve} (drawn : (s.runFormula formula).result = .ok curve) :
    curve.segments ≠ [] := by
  intro none
  rw [curve_segments drawn] at none
  rw [runFormula_eq, none] at drawn
  cases drawn

theorem curve_points {curve : Curve} (drawn : (s.runFormula formula).result = .ok curve) :
    curve.points = (List.range s.sampleCount).filterMap (s.pointAt formula) := by
  rw [curve_eq drawn]
  exact samples_points s formula

theorem curve_cut {curve : Curve} (drawn : (s.runFormula formula).result = .ok curve) :
    ∃ runs, s.Cuts formula s.sampleCount runs ∧
      curve.segments.map (·.points.map some) = runs.map (·.map (s.pointAt formula)) := by
  rw [curve_eq drawn]
  exact samples_cut s formula

theorem drawn_of_isSome {i : Nat} (below : i < s.sampleCount)
    (is : (s.pointAt formula i).isSome = true) :
    ∃ curve, (s.runFormula formula).result = .ok curve := by
  have ⟨runs, cut, same⟩ := samples_cut s formula
  rw [runFormula_eq]
  cases segments : (s.samples formula).segments with
  | nil =>
      rw [segments, List.map_nil, eq_comm, List.map_eq_nil_iff] at same
      rw [cut.eq_nil_iff.mp same i below] at is
      cases is
  | cons segment more => exact ⟨_, rfl⟩

/-- A run succeeds unless no sample has a value, and then its segments are exactly the longest runs of
connected samples. Each sample is evaluated as if it were the only one. -/
theorem runFormula_segments (s : Settings) (formula : Formula) :
    (∀ curve, (s.runFormula formula).result = .ok curve →
      curve.points = (List.range s.sampleCount).filterMap (s.pointAt formula) ∧
        (∃ runs, s.Cuts formula s.sampleCount runs ∧
          curve.segments.map (·.points.map some) = runs.map (·.map (s.pointAt formula))) ∧
        curve.sampleCount = s.sampleCount ∧
        curve.definedCount =
          (List.range s.sampleCount).countP fun i => (s.pointAt formula i).isSome) ∧
      ((∃ failure, (s.runFormula formula).result = .error failure) ↔
        ∀ i < s.sampleCount, ∃ fault, formula.evaluate (s.position i) = .error fault) := by
  have ⟨runs, cut, same⟩ := samples_cut s formula
  rw [runFormula_eq]
  constructor
  · intro curve ok
    by_cases empty : (s.samples formula).segments.isEmpty = true
    · rw [if_pos empty] at ok
      cases ok
    · rw [if_neg empty] at ok
      cases ok
      refine ⟨samples_points s formula, ⟨runs, cut, same⟩, rfl, ?_⟩
      rw [Curve.ofSegments, foldl_length, samples_points, Nat.zero_add,
        List.length_filterMap_eq_countP]
  · have none : (s.samples formula).segments.isEmpty = true ↔ runs = [] := by
      have lengths := congrArg List.length same
      rw [List.length_map, List.length_map] at lengths
      rw [List.isEmpty_iff_length_eq_zero, lengths, List.length_eq_zero_iff]
    have failed := none.trans cut.eq_nil_iff
    simp only [pointAt_isSome] at failed
    rw [← failed]
    by_cases empty : (s.samples formula).segments.isEmpty = true
    · simp [empty]
    · simp [empty]

example :
    let s : Settings := { domainMin := -2, domainMax := 2, step := 1, threshold := 10 }
    let formula : Formula :=
      { source := "1/x", program := [.const 1, .load, .binary .div], unit := .radians }
    (s.runFormula formula).result.toOption.map (·.segments.map (·.points.map (·.x))) =
      some [[-2, -1], [1, 2]] := by
  decide +kernel

end Grapher
