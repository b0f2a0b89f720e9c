import Grapher.Proofs.Formula.Step
import Grapher.Proofs.Number.Overflow
import Grapher.Proofs.Sampling.Cause
import Grapher.Proofs.Sampling.Rows

namespace Grapher

/-- The lines that a curve is drawn as. -/
def Curve.lines (m : Magnification) (curve : Curve) : List (List ScreenPoint) :=
  curve.segments.map fun segment => segment.points.map m.toScreen

/-- What can be read off a row of coordinates: how long it is, which of its numbers are NaN, which lines
it holds, and that none of the lines jumps. -/
structure Settings.Draws (s : Settings) (curve : Curve) (row : List Float) : Prop where
  length : row.length = 2 * (curve.definedCount + curve.segments.length - 1)
  breaks : ∀ (i : Nat) (v : Float), row[i]? = some v →
    (v.isNaN = true ↔ ∃ k, k + 1 < curve.segments.length ∧
      i / 2 = breakIndex (curve.segments.map Segment.length) k)
  ends : ∀ v, row.head? = some v ∨ row.getLast? = some v → v.isNaN = false
  lines : linesOfRow row = curve.lines s.magnification
  close : ∀ (i : Nat) (y y' : Float), row[2 * i + 1]? = some y → row[2 * i + 3]? = some y' →
    y.isNaN = false → y'.isNaN = false → (y - y').abs ≤ s.threshold

variable {s : Settings} {formula : Formula} {curve : Curve} {segment : Segment}

theorem pointAt_finite {index : Nat} {p : Point} (here : s.pointAt formula index = some p) :
    p.x.isFinite = true ∧ p.y.isFinite = true := by
  have ⟨place, value⟩ := pointAt_eq_some.mp here
  rw [place]
  exact evaluate_finite value

theorem points_finite (drawn : (s.runFormula formula).result = .ok curve) {p : Point}
    (present : segment ∈ curve.segments) (member : p ∈ segment.points) :
    p.x.isFinite = true ∧ p.y.isFinite = true := by
  have inside : p ∈ curve.points := List.mem_flatMap.mpr ⟨segment, present, member⟩
  rw [curve_points drawn, List.mem_filterMap] at inside
  obtain ⟨index, -, here⟩ := inside
  exact pointAt_finite here

theorem definedCount_eq (drawn : (s.runFormula formula).result = .ok curve) :
    curve.definedCount = (curve.segments.map Segment.length).sum := by
  rw [curve_eq drawn]
  simp only [Curve.ofSegments, foldl_length, List.length_flatMap, Segment.length_points, Nat.zero_add]

theorem joined_of_run {runs : List (List Nat)} {run : List Nat}
    (cut : s.Cuts formula s.sampleCount runs) (member : run ∈ runs) :
    run.IsChain fun i j => ∀ a b, s.pointAt formula i = some a → s.pointAt formula j = some b →
      (a.y * s.scale - b.y * s.scale).abs ≤ s.threshold := by
  refine (cut.isChain_run member).imp fun i j ⟨next, a, b, left, right, near⟩ => ?_
  subst next
  intro a' b' left' right'
  rw [left] at left'
  rw [right] at right'
  cases left'
  cases right'
  exact near

theorem points_chain (drawn : (s.runFormula formula).result = .ok curve)
    (present : segment ∈ curve.segments) :
    segment.points.IsChain fun a b => (a.y * s.scale - b.y * s.scale).abs ≤ s.threshold := by
  obtain ⟨runs, cut, same⟩ := curve_cut drawn
  have own : segment.points.map some ∈ runs.map (·.map (s.pointAt formula)) := by
    rw [← same]
    exact List.mem_map_of_mem present
  obtain ⟨run, member, points⟩ := List.mem_map.mp own
  have chain : (segment.points.map some).IsChain fun a b => ∀ p q : Point, a = some p → b = some q →
      (p.y * s.scale - q.y * s.scale).abs ≤ s.threshold := by
    rw [← points, List.isChain_map]
    exact joined_of_run cut member
  rw [List.isChain_map] at chain
  exact chain.imp fun a b near => near a b rfl rfl

theorem coordinates_eq (m : Magnification) (curve : Curve) :
    curve.coordinates m = rowOfPoints ([breakPoint].intercalate (curve.lines m)) := by
  rw [← rowOfPoints_joined, Curve.lines, List.map_map]
  have row (segment : Segment) :
      Segment.coordinates m segment = rowOfPoints (segment.points.map m.toScreen) := by
    rw [rowOfPoints, List.flatMap_map, Segment.coordinates]
  exact congrArg _ (List.map_congr_left fun segment _ => row segment)

theorem lengths_lines (m : Magnification) (curve : Curve) :
    (curve.lines m).map List.length = curve.segments.map Segment.length := by
  simp [Curve.lines, Segment.length_points]

theorem lines_full (m : Magnification) (curve : Curve) : ∀ line ∈ curve.lines m, line ≠ [] := by
  simp [Curve.lines, Segment.points]

theorem lines_ne_nil (drawn : (s.runFormula formula).result = .ok curve) (m : Magnification) :
    curve.lines m ≠ [] := by
  rw [Curve.lines, ne_eq, List.map_eq_nil_iff]
  exact segments_ne_nil drawn

theorem lines_whole (accepted : s.Accepted) (drawn : (s.runFormula formula).result = .ok curve) :
    ∀ line ∈ curve.lines s.magnification, ∀ p ∈ line, p.Whole := by
  intro line present p inside
  obtain ⟨segment, own, rfl⟩ := List.mem_map.mp present
  obtain ⟨point, member, rfl⟩ := List.mem_map.mp inside
  obtain ⟨x, y⟩ := points_finite drawn own member
  exact ⟨isNaN_mul x accepted.scaleFinite, isNaN_mul y accepted.scaleFinite⟩

theorem lines_chain (drawn : (s.runFormula formula).result = .ok curve) :
    ∀ line ∈ curve.lines s.magnification, line.IsChain fun p q => p.rise q ≤ s.threshold := by
  intro line present
  obtain ⟨segment, own, rfl⟩ := List.mem_map.mp present
  rw [List.isChain_map]
  exact points_chain drawn own

theorem draws_of_drawn (accepted : s.Accepted) (drawn : (s.runFormula formula).result = .ok curve) :
    s.Draws curve (curve.coordinates s.magnification) := by
  have nonempty := lines_ne_nil drawn s.magnification
  have full := lines_full s.magnification curve
  have whole := lines_whole accepted drawn
  have count : (curve.lines s.magnification).length = curve.segments.length := List.length_map _
  rw [coordinates_eq]
  refine ⟨?length, ?breaks, ?ends, ?lines, ?close⟩
  case length =>
    have joined := length_joined breakPoint nonempty
    rw [lengths_lines, ← definedCount_eq drawn, count] at joined
    rw [length_rowOfPoints]
    exact congrArg (2 * ·) (Nat.eq_sub_of_add_eq joined)
  case breaks =>
    intro i v here
    rw [isNaN_row nonempty whole here, lengths_lines, count]
  case ends => exact fun v outer => isNaN_ends nonempty full whole outer
  case lines => exact linesOfRow_joined nonempty whole
  case close => exact fun i y y' here there => close_row nonempty whole (lines_chain drawn) here there

/-- The row of coordinates of a curve that was sampled with accepted settings holds its points and the
breaks between its segments. NaN stands in both coordinates of a break and nowhere else, so the segments can
be read back, and the difference of the heights of points that follow each other without a break is at most
the threshold. -/
theorem coordinates_draw (accepted : s.check = .ok ()) :
    (∀ formula curve, (s.runFormula formula).result = .ok curve →
      s.Draws curve (curve.coordinates s.magnification)) ∧
    ∀ expression curve, s.sample expression = .ok curve →
      s.Draws curve (curve.coordinates s.magnification) := by
  refine ⟨fun formula curve drawn => draws_of_drawn (check_eq_ok.mp accepted) drawn, ?_⟩
  intro expression curve drawn
  rw [sample_of_accepted accepted] at drawn
  cases read : Formula.ofText expression s.unit with
  | error fault =>
      rw [run_of_error read] at drawn
      cases drawn
  | ok formula =>
      rw [run_of_ok read] at drawn
      exact draws_of_drawn (check_eq_ok.mp accepted) drawn

theorem coordinates_draw_reciprocal :
    let s : Settings := { domainMin := -1, domainMax := 1, step := 0.5, scale := 10 }
    let curve : Curve :=
      { expression := "1/x", segments := [⟨⟨-1, -1⟩, #[⟨-0.5, -2⟩]⟩, ⟨⟨0.5, 2⟩, #[⟨1, 1⟩]⟩]
        sampleCount := 5, definedCount := 4 }
    s.check = .ok () ∧ s.sample "1/x" = .ok curve ∧ s.Draws curve (curve.coordinates s.magnification) := by
  intro s curve
  have accepted : s.check = .ok () := check_eq_ok.mpr (by constructor <;> decide +kernel)
  have drawn : s.sample "1/x" = .ok curve := by decide +kernel
  exact ⟨accepted, drawn, (coordinates_draw accepted).2 _ _ drawn⟩

end Grapher
