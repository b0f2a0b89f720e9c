import Grapher.Proofs.Number.Sameness
import Grapher.Proofs.Sampling.Count
import Grapher.Proofs.Sampling.Segmentation
import Grapher.Proofs.Number.Infinity
import Grapher.Proofs.Sampling.Coordinates

namespace Grapher

section Level

variable {s : Settings} {formula : Formula}

theorem joins_level_iff (accepted : s.Accepted) {i : Nat} {a b : Point} {y : Float}
    (here : s.pointAt formula i = some a) (there : s.pointAt formula (i + 1) = some b)
    (left : (a.y == y) = true) (right : (b.y == y) = true) :
    s.JoinsNext formula i ↔ (y * s.scale).isFinite = true := by
  rw [← level_rise left right accepted.scaleFinite accepted.thresholdNumber accepted.thresholdPositive]
  constructor
  · rintro ⟨a', b', here', there', joined⟩
    rw [here] at here'
    rw [there] at there'
    cases here'
    cases there'
    exact joined
  · intro joined
    exact ⟨a, b, here, there, joined⟩

/-- The formula has a value at every sample, and all values are equal to this one. -/
def Settings.Level (s : Settings) (formula : Formula) (y : Float) : Prop :=
  ∀ i < s.sampleCount, ∃ z, formula.evaluate (s.position i) = .ok z ∧ (z == y) = true

variable {y : Float}

theorem Settings.Level.point (level : s.Level formula y) {i : Nat} (below : i < s.sampleCount) :
    ∃ a, s.pointAt formula i = some a ∧ a.x = s.position i ∧ (a.y == y) = true := by
  obtain ⟨z, value, same⟩ := level i below
  exact ⟨⟨s.position i, z⟩, pointAt_ok value, rfl, same⟩

theorem Settings.Level.isSome (level : s.Level formula y) {i : Nat} (below : i < s.sampleCount) :
    (s.pointAt formula i).isSome = true := by
  obtain ⟨a, here, -⟩ := level.point below
  rw [here]
  rfl

theorem Settings.Level.joins_iff (accepted : s.Accepted) (level : s.Level formula y) {i : Nat}
    (below : i + 1 < s.sampleCount) : s.JoinsNext formula i ↔ (y * s.scale).isFinite = true := by
  obtain ⟨a, here, -, left⟩ := level.point (Nat.lt_of_succ_lt below)
  obtain ⟨b, there, -, right⟩ := level.point below
  exact joins_level_iff accepted here there left right

theorem Settings.Level.runs (accepted : s.Accepted) (level : s.Level formula y)
    {runs : List (List Nat)} (cut : s.Cuts formula s.sampleCount runs) :
    runs.map List.length =
      if (y * s.scale).isFinite then [s.sampleCount] else List.replicate s.sampleCount 1 := by
  split_ifs with scaled
  · have join : ∀ i, i + 1 < s.sampleCount → s.JoinsNext formula i :=
      fun i below => (level.joins_iff accepted below).mpr scaled
    rw [cut.whole (Nat.succ_pos _) (fun i below => level.isSome below) join]
    simp
  · have apart : ∀ i, i + 1 < s.sampleCount → ¬s.JoinsNext formula i :=
      fun i below joined => scaled ((level.joins_iff accepted below).mp joined)
    have all : (List.range s.sampleCount).filter (fun i => (s.pointAt formula i).isSome) =
        List.range s.sampleCount :=
      List.filter_eq_self.mpr fun i member => level.isSome (List.mem_range.mp member)
    rw [cut.scattered apart, all, List.map_map, List.eq_replicate_iff]
    simp

theorem Settings.Level.segments (accepted : s.Accepted) (level : s.Level formula y) :
    ∃ curve, (s.runFormula formula).result = .ok curve ∧
      curve.points.map (·.x) = (List.range s.sampleCount).map s.position ∧
        curve.segments.map Segment.length =
          if (y * s.scale).isFinite then [s.sampleCount] else List.replicate s.sampleCount 1 := by
  have first : 0 < s.sampleCount := Nat.succ_pos _
  obtain ⟨curve, drawn⟩ := drawn_of_isSome first (level.isSome first)
  obtain ⟨runs, cut, same⟩ := curve_cut drawn
  refine ⟨curve, drawn, ?_, ?_⟩
  · rw [curve_points drawn, List.map_filterMap, ← List.filterMap_eq_map]
    refine List.filterMap_congr fun i member => ?_
    obtain ⟨a, here, place, -⟩ := level.point (List.mem_range.mp member)
    rw [here, Option.map_some, place]
    rfl
  · have lengths := congrArg (List.map List.length) same
    simp only [List.map_map, Function.comp_def, List.length_map, Segment.length_points] at lengths
    rw [← level.runs accepted cut, ← lengths]

/-- Neighbouring samples of one height share a segment unless the height, scaled, is too large for a
double. So a formula with the same value everywhere is drawn in one segment, whatever the step and the
threshold are, or else, when that value overflows, every sample is a segment of its own. -/
theorem level_samples_connected (accepted : s.check = .ok ()) (formula : Formula) :
    (∀ curve, (s.runFormula formula).result = .ok curve →
      ∃ runs, s.Cuts formula s.sampleCount runs ∧
        curve.segments.map (·.points.map some) = runs.map (·.map (s.pointAt formula)) ∧
        ∀ i a b, i + 1 < s.sampleCount → s.pointAt formula i = some a →
          s.pointAt formula (i + 1) = some b → (a.y == b.y) = true →
            ((∃ run ∈ runs, i ∈ run ∧ i + 1 ∈ run) ↔ (a.y * s.scale).isFinite = true)) ∧
      ∀ y, s.Level formula y →
        ∃ curve, (s.runFormula formula).result = .ok curve ∧
          curve.points.map (·.x) = (List.range s.sampleCount).map s.position ∧
          curve.segments.map Segment.length =
            if (y * s.scale).isFinite then [s.sampleCount] else List.replicate s.sampleCount 1 := by
  have accepted := check_eq_ok.mp accepted
  refine ⟨?_, fun y level => level.segments accepted⟩
  intro curve drawn
  obtain ⟨runs, cut, same⟩ := curve_cut drawn
  refine ⟨runs, cut, same, ?_⟩
  intro i a b below here there level
  have is : (s.pointAt formula i).isSome = true := by rw [here]; rfl
  have is' : (s.pointAt formula (i + 1)).isSome = true := by rw [there]; rfl
  rw [cut.together i below is is']
  exact joins_level_iff accepted here there (double_beq_self level) (double_beq_symm level)

theorem level_samples_connected_constant :
    let s : Settings := { domainMin := 0, domainMax := 3, step := 1, scale := 1e305, threshold := 1 }
    let formula : Formula :=
      { source := "0*x+999",
        program := [.const 0, .load, .binary .mul, .const 999, .binary .add], unit := .radians }
    s.check = .ok () ∧ s.Level formula 999 ∧
      ∃ curve, (s.runFormula formula).result = .ok curve ∧
        curve.points.map (·.x) = (List.range s.sampleCount).map s.position ∧
        curve.segments.map Segment.length = [4] := by
  intro s formula
  have accepted : s.check = .ok () := check_eq_ok.mpr (by constructor <;> decide +kernel)
  have count : s.sampleCount = 4 := by decide +kernel
  have fits : ((999 : Float) * s.scale).isFinite = true := by decide +kernel
  have level : s.Level formula 999 := by
    intro i below
    rw [count] at below
    interval_cases i <;> exact ⟨999, by decide +kernel, by decide +kernel⟩
  have drawn := (level_samples_connected accepted formula).2 999 level
  rw [if_pos fits, count] at drawn
  exact ⟨accepted, level, count ▸ drawn⟩

theorem level_samples_scattered :
    let s : Settings := { domainMin := 0, domainMax := 3, step := 1, scale := 1e306 }
    s.check = .ok () ∧
      (s.run "0*x+999").result.toOption.map (·.segments.map Segment.length) = some [1, 1, 1, 1] := by
  exact ⟨check_eq_ok.mpr (by constructor <;> decide +kernel), by decide +kernel⟩

end Level

section Boundless

variable {s : Settings} {formula : Formula}

/-- The heights of a sample and the next one, scaled, are the same infinity. -/
def Settings.Saturates (s : Settings) (formula : Formula) (index : Nat) : Prop :=
  ∃ a b, s.pointAt formula index = some a ∧ s.pointAt formula (index + 1) = some b ∧
    (a.y * s.scale).isInf = true ∧ (a.y * s.scale == b.y * s.scale) = true

theorem scaled_isNaN (accepted : s.Accepted) {i : Nat} {p : Point}
    (here : s.pointAt formula i = some p) : (p.y * s.scale).isNaN = false :=
  isNaN_mul (pointAt_finite here).2 accepted.scaleFinite

theorem joinsNext_iff (accepted : s.Accepted) (infinite : s.threshold = .inf) {i : Nat} {a b : Point}
    (here : s.pointAt formula i = some a) (there : s.pointAt formula (i + 1) = some b) :
    s.JoinsNext formula i ↔ ¬s.Saturates formula i := by
  have near := distance_le_inf (scaled_isNaN accepted here) (scaled_isNaN accepted there)
  unfold Settings.JoinsNext Settings.Saturates
  rw [here, there, infinite]
  simpa using near

/-- With an infinite threshold neighbours that have values share a segment, unless both heights, scaled,
are too large for a double and of one sign. So the segments are the longest runs of samples with a value
exactly when no neighbours are like that. -/
theorem infinite_threshold_cuts (accepted : s.check = .ok ()) (infinite : s.threshold = .inf)
    (formula : Formula) :
    ∀ curve, (s.runFormula formula).result = .ok curve →
      ∃ runs, curve.segments.map (·.points.map some) = runs.map (·.map (s.pointAt formula)) ∧
        IsCut (fun i => (s.pointAt formula i).isSome) (fun i => ¬s.Saturates formula i) s.sampleCount
          runs ∧
        (IsCut (fun i => (s.pointAt formula i).isSome) (fun _ => True) s.sampleCount runs ↔
          ∀ i, i + 1 < s.sampleCount → ¬s.Saturates formula i) := by
  intro curve drawn
  have accepted := check_eq_ok.mp accepted
  obtain ⟨runs, cut, same⟩ := curve_cut drawn
  have bounded : IsCut (fun i => (s.pointAt formula i).isSome) (fun i => ¬s.Saturates formula i)
      s.sampleCount runs := by
    refine cut.iff_joins.mpr fun i below here there => ?_
    obtain ⟨a, here⟩ := Option.isSome_iff_exists.mp here
    obtain ⟨b, there⟩ := Option.isSome_iff_exists.mp there
    exact joinsNext_iff accepted infinite here there
  refine ⟨runs, same, bounded, ?_⟩
  rw [bounded.iff_joins]
  constructor
  · rintro all i below ⟨a, b, here, there, saturated⟩
    have apart := (all i below (by rw [here]; rfl) (by rw [there]; rfl)).mpr trivial
    exact apart ⟨a, b, here, there, saturated⟩
  · intro none i below _ _
    exact iff_of_true (none i below) trivial

theorem infinite_threshold_cuts_reciprocal :
    let s : Settings := { domainMin := -2, domainMax := 2, step := 1, threshold := .inf }
    let formula : Formula :=
      { source := "1e300/x", program := [.const 1e300, .load, .binary .div], unit := .radians }
    s.check = .ok () ∧ s.threshold = .inf ∧
      (s.runFormula formula).result.toOption.map (·.segments.map (·.points.map (·.x))) =
        some [[-2, -1], [1, 2]] ∧
      ∃ curve runs, (s.runFormula formula).result = .ok curve ∧
        curve.segments.map (·.points.map some) = runs.map (·.map (s.pointAt formula)) ∧
        IsCut (fun i => (s.pointAt formula i).isSome) (fun _ => True) 5 runs := by
  intro s formula
  have accepted : s.check = .ok () := check_eq_ok.mpr (by constructor <;> decide +kernel)
  have count : s.sampleCount = 5 := by decide +kernel
  have shape : (s.runFormula formula).result.toOption.map (·.segments.map (·.points.map (·.x))) =
      some [[-2, -1], [1, 2]] := by decide +kernel
  obtain ⟨curve, drawn⟩ : ∃ curve, (s.runFormula formula).result = .ok curve :=
    drawn_of_isSome (Nat.succ_pos _) (by decide +kernel)
  obtain ⟨runs, same, -, whole⟩ := infinite_threshold_cuts accepted rfl formula curve drawn
  refine ⟨accepted, rfl, shape, curve, runs, drawn, same, count ▸ whole.mpr ?_⟩
  rintro i below ⟨a, b, here, -, infinite, -⟩
  rw [count] at below
  have bounded : ∀ i < 4, ∀ p ∈ s.pointAt formula i, (p.y * s.scale).isInf = false := by
    decide +kernel
  rw [bounded i (by omega) a here] at infinite
  cases infinite

theorem infinite_threshold_cuts_saturated :
    let s : Settings := { domainMin := 0, domainMax := 3, step := 1, scale := 1e306, threshold := .inf }
    s.check = .ok () ∧ s.threshold = .inf ∧
      (s.run "x+999").result.toOption.map
        (fun curve => (curve.definedCount, curve.segments.map Segment.length)) =
          some (4, [1, 1, 1, 1]) :=
  ⟨check_eq_ok.mpr (by constructor <;> decide +kernel), rfl, by decide +kernel⟩

end Boundless

end Grapher
