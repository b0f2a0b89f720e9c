import Grapher.Sampling.Curve
import Mathlib.Algebra.Ring.Nat
import Mathlib.Data.List.Chain
import Mathlib.Data.List.Induction

namespace Grapher

def pointsOfRow : List Float → List ScreenPoint
  | x :: y :: row => ⟨x, y⟩ :: pointsOfRow row
  | _ => []

def rowOfPoints (points : List ScreenPoint) : List Float :=
  points.flatMap fun p => [p.x, p.y]

def ScreenPoint.isBreak (p : ScreenPoint) : Bool := p.x.isNaN && p.y.isNaN

/-- The lines that a row is made of: its pairs, split at the pairs of NaN. -/
def linesOfRow (row : List Float) : List (List ScreenPoint) :=
  (pointsOfRow row).splitOnP ScreenPoint.isBreak

/-- The place of a break: before it stand the lines up to its own and one break less than those. -/
def breakIndex (lengths : List Nat) (line : Nat) : Nat :=
  (lengths.take (line + 1)).sum + line

section Joined

variable {α : Type} {isBreak : α → Bool} {gap : α} {lines : List (List α)}

theorem breakIndex_zero (first : Nat) (lengths : List Nat) :
    breakIndex (first :: lengths) 0 = first := by
  simp [breakIndex]

theorem breakIndex_succ (first line : Nat) (lengths : List Nat) :
    breakIndex (first :: lengths) (line + 1) = first + 1 + breakIndex lengths line := by
  rw [breakIndex, breakIndex, List.take_succ_cons, List.sum_cons]
  omega

theorem joined_cons (line : List α) (drawn : lines ≠ []) :
    [gap].intercalate (line :: lines) = line ++ gap :: [gap].intercalate lines := by
  obtain ⟨next, others, rfl⟩ := List.exists_cons_of_ne_nil drawn
  rw [List.intercalate_cons_cons, List.append_assoc, List.singleton_append]

theorem length_joined (gap : α) (drawn : lines ≠ []) :
    ([gap].intercalate lines).length + 1 = (lines.map List.length).sum + lines.length := by
  induction lines, drawn using List.recNeNil with
  | singleton line => simp
  | cons line lines drawn ih =>
      rw [joined_cons line drawn, List.length_append, List.length_cons, ih, List.map_cons, List.sum_cons,
        List.length_cons]
      omega

theorem mem_joined (drawn : lines ≠ []) {a : α} (member : a ∈ [gap].intercalate lines) :
    a = gap ∨ ∃ line ∈ lines, a ∈ line := by
  induction lines, drawn using List.recNeNil with
  | singleton line => exact .inr ⟨line, by simp, by simpa using member⟩
  | cons line lines drawn ih =>
      rw [joined_cons line drawn, List.mem_append, List.mem_cons] at member
      rcases member with here | own | there
      · exact .inr ⟨line, by simp, here⟩
      · exact .inl own
      · exact (ih there).imp_right fun ⟨other, present, inside⟩ => ⟨other, by simp [present], inside⟩

theorem joined_ne_nil (drawn : lines ≠ []) (full : ∀ line ∈ lines, line ≠ []) :
    [gap].intercalate lines ≠ [] := by
  induction lines, drawn using List.recNeNil with
  | singleton line => simpa using full
  | cons line lines drawn ih =>
      rw [joined_cons line drawn]
      simp

theorem head_joined (drawn : lines ≠ []) (full : ∀ line ∈ lines, line ≠ []) {a : α}
    (first : ([gap].intercalate lines).head? = some a) : ∃ line ∈ lines, a ∈ line := by
  induction lines, drawn using List.recNeNil with
  | singleton line =>
      rw [List.intercalate_singleton] at first
      exact ⟨line, by simp, List.mem_of_head? first⟩
  | cons line lines drawn ih =>
      rw [joined_cons line drawn, List.head?_append_of_ne_nil _ (full line (by simp))] at first
      exact ⟨line, by simp, List.mem_of_head? first⟩

theorem getLast_joined (drawn : lines ≠ []) (full : ∀ line ∈ lines, line ≠ []) {a : α}
    (last : ([gap].intercalate lines).getLast? = some a) : ∃ line ∈ lines, a ∈ line := by
  induction lines, drawn using List.recNeNil with
  | singleton line =>
      rw [List.intercalate_singleton] at last
      exact ⟨line, by simp, List.mem_of_getLast? last⟩
  | cons line lines drawn ih =>
      have full' : ∀ other ∈ lines, other ≠ [] := fun other present => full other (by simp [present])
      rw [joined_cons line drawn, List.getLast?_append_of_ne_nil _ (List.cons_ne_nil _ _),
        List.getLast?_cons_of_ne_nil (joined_ne_nil drawn full')] at last
      obtain ⟨other, present, inside⟩ := ih full' last
      exact ⟨other, by simp [present], inside⟩

theorem split_joined (breaks : isBreak gap = true) (drawn : lines ≠ [])
    (whole : ∀ line ∈ lines, ∀ a ∈ line, isBreak a = false) :
    ([gap].intercalate lines).splitOnP isBreak = lines := by
  induction lines, drawn using List.recNeNil with
  | singleton line =>
      rw [List.intercalate_singleton]
      exact List.splitOnP_eq_singleton (whole line (by simp))
  | cons line lines drawn ih =>
      rw [joined_cons line drawn, List.splitOnP_append_cons _ _ breaks,
        List.splitOnP_eq_singleton (whole line (by simp)),
        ih fun other present => whole other (by simp [present])]
      rfl

theorem exists_breakIndex_cons (line : List α) (drawn : lines ≠ []) (i : Nat) :
    (∃ k, k + 1 < (line :: lines).length ∧ i = breakIndex ((line :: lines).map List.length) k) ↔
      i = line.length ∨ ∃ k, k + 1 < lines.length ∧
        i = line.length + 1 + breakIndex (lines.map List.length) k := by
  have more := List.length_pos_iff.mpr drawn
  rw [← Nat.or_exists_add_one, List.map_cons, breakIndex_zero, List.length_cons]
  simp only [breakIndex_succ, Nat.add_lt_add_iff_right]
  exact or_congr_left (and_iff_right more)

theorem isBreak_joined (breaks : isBreak gap = true) (drawn : lines ≠ [])
    (whole : ∀ line ∈ lines, ∀ a ∈ line, isBreak a = false) {i : Nat} {a : α}
    (here : ([gap].intercalate lines)[i]? = some a) :
    isBreak a = true ↔
      ∃ k, k + 1 < lines.length ∧ i = breakIndex (lines.map List.length) k := by
  induction lines, drawn using List.recNeNil generalizing i with
  | singleton line =>
      rw [List.intercalate_singleton] at here
      rw [whole line (by simp) a (List.mem_of_getElem? here)]
      simp
  | cons line lines drawn ih =>
      rw [exists_breakIndex_cons line drawn]
      rw [joined_cons line drawn] at here
      -- The place is in the first line, right behind it, or in the lines that follow.
      rcases Nat.lt_trichotomy i line.length with inside | rfl | behind
      · rw [List.getElem?_append_left inside] at here
        rw [whole line (by simp) a (List.mem_of_getElem? here)]
        refine iff_of_false nofun ?_
        rintro (place | ⟨k, -, place⟩) <;> omega
      · rw [List.getElem?_append_right le_rfl, Nat.sub_self] at here
        cases here
        exact iff_of_true breaks (.inl rfl)
      · obtain ⟨j, rfl⟩ := Nat.exists_eq_add_of_lt behind
        have shift : line.length + j + 1 - line.length = j + 1 := by omega
        rw [List.getElem?_append_right (by omega), shift, List.getElem?_cons_succ] at here
        rw [ih (fun other present => whole other (by simp [present])) here]
        constructor
        · rintro ⟨k, below, place⟩
          exact .inr ⟨k, below, by omega⟩
        · rintro (place | ⟨k, below, place⟩)
          · omega
          · exact ⟨k, below, by omega⟩

theorem chain_joined {R : α → α → Prop} (breaks : isBreak gap = true) (drawn : lines ≠ [])
    (chains : ∀ line ∈ lines, line.IsChain R) :
    ([gap].intercalate lines).IsChain
      fun a b => isBreak a = false → isBreak b = false → R a b := by
  have apart {P : Prop} (whole : isBreak gap = false) : P := by
    rw [breaks] at whole
    cases whole
  induction lines, drawn using List.recNeNil with
  | singleton line =>
      rw [List.intercalate_singleton]
      exact (chains line (by simp)).imp fun _ _ related _ _ => related
  | cons line lines drawn ih =>
      have rest := ih fun other present => chains other (by simp [present])
      rw [joined_cons line drawn]
      refine List.IsChain.append ?_ (rest.cons fun b _ whole => apart whole) ?_
      · exact (chains line (by simp)).imp fun _ _ related _ _ => related
      · intro a _ b head _ whole
        cases head
        exact apart whole

end Joined

section Rows

variable (points : List ScreenPoint)

theorem pointsOfRow_rowOfPoints : pointsOfRow (rowOfPoints points) = points := by
  induction points with
  | nil => rfl
  | cons p points ih => exact congrArg (p :: ·) ih

theorem length_rowOfPoints : (rowOfPoints points).length = 2 * points.length := by
  induction points with
  | nil => rfl
  | cons p points ih =>
      rw [rowOfPoints, List.flatMap_cons, List.length_append, ← rowOfPoints, ih, List.length_cons]
      simp only [List.length_cons, List.length_nil]
      omega

theorem rowOfPoints_even (i : Nat) : (rowOfPoints points)[2 * i]? = points[i]?.map (·.x) := by
  induction points generalizing i with
  | nil => rfl
  | cons p points ih =>
      cases i with
      | zero => rfl
      | succ i => exact ih i

theorem rowOfPoints_odd (i : Nat) : (rowOfPoints points)[2 * i + 1]? = points[i]?.map (·.y) := by
  induction points generalizing i with
  | nil => rfl
  | cons p points ih =>
      cases i with
      | zero => rfl
      | succ i => exact ih i

theorem rowOfPoints_joined (gap : ScreenPoint) (lines : List (List ScreenPoint)) :
    [gap.x, gap.y].intercalate (lines.map rowOfPoints) = rowOfPoints ([gap].intercalate lines) := by
  match lines with
  | [] => rfl
  | [line] => rw [List.map_singleton, List.intercalate_singleton, List.intercalate_singleton]
  | line :: next :: lines =>
      have rest := rowOfPoints_joined gap (next :: lines)
      rw [List.map_cons, List.map_cons, List.intercalate_cons_cons, ← List.map_cons, rest,
        List.intercalate_cons_cons]
      simp [rowOfPoints]

theorem exists_point {i : Nat} {v : Float} (here : (rowOfPoints points)[i]? = some v) :
    ∃ p, points[i / 2]? = some p ∧ (v = p.x ∨ v = p.y) := by
  obtain ⟨j, rfl | rfl⟩ : ∃ j, i = 2 * j ∨ i = 2 * j + 1 := ⟨i / 2, by omega⟩
  · rw [rowOfPoints_even, Option.map_eq_some_iff] at here
    obtain ⟨p, point, rfl⟩ := here
    exact ⟨p, by rwa [show 2 * j / 2 = j by omega], .inl rfl⟩
  · rw [rowOfPoints_odd, Option.map_eq_some_iff] at here
    obtain ⟨p, point, rfl⟩ := here
    exact ⟨p, by rwa [show (2 * j + 1) / 2 = j by omega], .inr rfl⟩

end Rows

section Lines

def breakPoint : ScreenPoint := ⟨notANumber, notANumber⟩

theorem isBreak_breakPoint : breakPoint.isBreak = true := by decide +kernel

def ScreenPoint.Whole (p : ScreenPoint) : Prop := p.x.isNaN = false ∧ p.y.isNaN = false

theorem ScreenPoint.Whole.isBreak {p : ScreenPoint} (whole : p.Whole) : p.isBreak = false := by
  rw [ScreenPoint.isBreak, whole.1, Bool.false_and]

theorem ScreenPoint.Whole.isNaN {p : ScreenPoint} (whole : p.Whole) {v : Float} (own : v = p.x ∨ v = p.y) :
    v.isNaN = false := by
  rcases own with rfl | rfl
  · exact whole.1
  · exact whole.2

variable {lines : List (List ScreenPoint)}

theorem isNaN_joined (drawn : lines ≠ []) (whole : ∀ line ∈ lines, ∀ p ∈ line, p.Whole) {p : ScreenPoint}
    (member : p ∈ [breakPoint].intercalate lines) {v : Float} (own : v = p.x ∨ v = p.y) :
    v.isNaN = p.isBreak := by
  rcases mem_joined drawn member with rfl | ⟨line, present, inside⟩
  · rcases own with rfl | rfl <;> decide +kernel
  · have numbers := whole line present p inside
    rw [numbers.isBreak, numbers.isNaN own]

theorem linesOfRow_joined (drawn : lines ≠ []) (whole : ∀ line ∈ lines, ∀ p ∈ line, p.Whole) :
    linesOfRow (rowOfPoints ([breakPoint].intercalate lines)) = lines := by
  rw [linesOfRow, pointsOfRow_rowOfPoints]
  exact split_joined isBreak_breakPoint drawn fun line present p inside =>
    (whole line present p inside).isBreak

theorem isNaN_row (drawn : lines ≠ []) (whole : ∀ line ∈ lines, ∀ p ∈ line, p.Whole) {i : Nat} {v : Float}
    (here : (rowOfPoints ([breakPoint].intercalate lines))[i]? = some v) :
    v.isNaN = true ↔
      ∃ k, k + 1 < lines.length ∧ i / 2 = breakIndex (lines.map List.length) k := by
  obtain ⟨p, point, own⟩ := exists_point _ here
  rw [isNaN_joined drawn whole (List.mem_of_getElem? point) own]
  exact isBreak_joined isBreak_breakPoint drawn
    (fun line present p inside => (whole line present p inside).isBreak) point

theorem isNaN_ends (drawn : lines ≠ []) (full : ∀ line ∈ lines, line ≠ [])
    (whole : ∀ line ∈ lines, ∀ p ∈ line, p.Whole) {v : Float}
    (outer : (rowOfPoints ([breakPoint].intercalate lines)).head? = some v ∨
      (rowOfPoints ([breakPoint].intercalate lines)).getLast? = some v) : v.isNaN = false := by
  rcases outer with first | last
  · rw [List.head?_eq_getElem?] at first
    obtain ⟨p, point, own⟩ := exists_point _ first
    obtain ⟨line, present, inside⟩ := head_joined drawn full (List.head?_eq_getElem?.trans point)
    exact (whole line present p inside).isNaN own
  · rw [List.getLast?_eq_getElem?, length_rowOfPoints] at last
    obtain ⟨p, point, own⟩ := exists_point _ last
    rw [show ∀ n, (2 * n - 1) / 2 = n - 1 by omega] at point
    obtain ⟨line, present, inside⟩ := getLast_joined drawn full (List.getLast?_eq_getElem?.trans point)
    exact (whole line present p inside).isNaN own

theorem close_row {limit : Float} (drawn : lines ≠ [])
    (whole : ∀ line ∈ lines, ∀ p ∈ line, p.Whole)
    (chains : ∀ line ∈ lines, line.IsChain fun p q => p.rise q ≤ limit) {i : Nat} {y y' : Float}
    (here : (rowOfPoints ([breakPoint].intercalate lines))[2 * i + 1]? = some y)
    (there : (rowOfPoints ([breakPoint].intercalate lines))[2 * i + 3]? = some y')
    (number : y.isNaN = false) (number' : y'.isNaN = false) : (y - y').abs ≤ limit := by
  rw [rowOfPoints_odd, Option.map_eq_some_iff] at here
  rw [show 2 * i + 3 = 2 * (i + 1) + 1 by omega, rowOfPoints_odd, Option.map_eq_some_iff] at there
  obtain ⟨p, point, rfl⟩ := here
  obtain ⟨q, point', rfl⟩ := there
  rw [isNaN_joined drawn whole (List.mem_of_getElem? point) (.inr rfl)] at number
  rw [isNaN_joined drawn whole (List.mem_of_getElem? point') (.inr rfl)] at number'
  have chain := List.isChain_iff_getElem.mp (chain_joined isBreak_breakPoint drawn chains)
  obtain ⟨below, rfl⟩ := List.getElem?_eq_some_iff.mp point
  obtain ⟨below', rfl⟩ := List.getElem?_eq_some_iff.mp point'
  exact chain i below' number number'

end Lines

end Grapher
