import Grapher.Proofs.Sampling.Cut
import Mathlib.Data.List.SplitBy

/-!
Two cuts compared. Where more neighbours join, runs are joined, and where more numbers are cut, only the
last run may grow.
-/

namespace Grapher

section Split

variable {α : Type} {r r' : α → α → Bool}

theorem splitBy_flatten_eq {pieces : List (List α)} (filled : [] ∉ pieces)
    (apart : pieces.IsChain fun a b => ∃ ha hb, r (a.getLast ha) (b.head hb) = false) :
    pieces.flatten.splitBy r = (pieces.map (List.splitBy r)).flatten := by
  induction pieces with
  | nil => rfl
  | cons piece pieces ih =>
      rw [List.mem_cons, not_or] at filled
      have boundary : ∀ x ∈ piece.getLast?, ∀ y ∈ pieces.flatten.head?, r x y = false := by
        cases pieces with
        | nil => simp
        | cons next pieces =>
            obtain ⟨⟨ends, starts, apart⟩, -⟩ := List.isChain_cons_cons.mp apart
            intro x last y first
            rw [List.flatten_cons, List.head?_append_of_ne_nil _ starts] at first
            rwa [List.getLast_of_mem_getLast? last, List.head_of_mem_head? first] at apart
      rw [List.flatten_cons, List.splitBy_append boundary, ih filled.2 apart.tail, List.map_cons,
        List.flatten_cons]

theorem splitBy_eq_flatten_map (coarser : ∀ a b, r a b = true → r' a b = true) (l : List α) :
    l.splitBy r = ((l.splitBy r').map (List.splitBy r)).flatten := by
  rw [← splitBy_flatten_eq (List.nil_notMem_splitBy r' l) ?_, List.flatten_splitBy]
  refine (List.isChain_getLast_head_splitBy r' l).imp fun a b ⟨ends, starts, apart⟩ => ?_
  rw [Bool.eq_false_iff] at apart
  exact ⟨ends, starts, Bool.eq_false_iff.mpr fun joined => apart (coarser _ _ joined)⟩

theorem exists_splitBy_append {piece : List α} (filled : piece ≠ [])
    (chain : piece.IsChain fun x y => r x y = true) (m : List α) :
    ∃ rest later, (piece ++ m).splitBy r = (piece ++ rest) :: later := by
  -- What follows is taken up one by one: the piece grows until something does not join.
  induction m generalizing piece with
  | nil => exact ⟨[], [], by rw [List.append_nil, List.splitBy_of_isChain filled chain]⟩
  | cons y m ih =>
      by_cases joined : r (piece.getLast filled) y = true
      · have longer : (piece ++ [y]).IsChain fun x y => r x y = true := by
          rw [List.isChain_append]
          refine ⟨chain, .singleton y, fun x last z first => ?_⟩
          cases first
          rwa [← List.getLast_of_mem_getLast? last]
        obtain ⟨rest, later, split⟩ := ih (List.append_ne_nil_of_left_ne_nil filled _) longer
        refine ⟨y :: rest, later, ?_⟩
        rwa [List.append_assoc, List.append_assoc] at split
      · refine ⟨[], (y :: m).splitBy r, ?_⟩
        rw [List.splitBy_append_cons m, List.splitBy_of_isChain filled chain, List.append_nil]
        · rfl
        · intro x last
          rw [← List.getLast_of_mem_getLast? last]
          exact Bool.eq_false_iff.mpr joined

theorem splitBy_append_last {front : List (List α)} {l last : List α}
    (split : l.splitBy r = front ++ [last]) (m : List α) :
    (l ++ m).splitBy r = front ++ (last ++ m).splitBy r := by
  obtain ⟨flatten, filled, chains, apart⟩ := List.splitBy_eq_iff.mp split
  rw [List.mem_append, List.mem_singleton, not_or] at filled
  rw [List.isChain_append] at apart
  have own : front.flatten.splitBy r = front :=
    List.splitBy_flatten filled.1 (fun piece present => chains piece (by simp [present])) apart.1
  have boundary : ∀ x ∈ front.flatten.getLast?, ∀ y ∈ (last ++ m).head?, r x y = false := by
    rcases List.eq_nil_or_concat' front with rfl | ⟨others, piece, rfl⟩
    · simp
    · obtain ⟨ends, starts, apart⟩ := apart.2.2 piece (by simp) last rfl
      intro x final y first
      rw [List.flatten_append, List.flatten_singleton, List.getLast?_append_of_ne_nil _ ends] at final
      rw [List.head?_append_of_ne_nil _ starts] at first
      rwa [List.getLast_of_mem_getLast? final, List.head_of_mem_head? first] at apart
  rw [flatten, List.flatten_append, List.flatten_singleton, List.append_assoc,
    List.splitBy_append boundary, own]

/-- When a list is prolonged, its last piece may grow and pieces may follow. The others stay. -/
theorem exists_splitBy_longer {l : List α} (filled : l ≠ []) (m : List α) :
    ∃ front last rest later, l.splitBy r = front ++ [last] ∧
      (l ++ m).splitBy r = front ++ (last ++ rest) :: later := by
  obtain ⟨front, last, split⟩ :=
    (List.eq_nil_or_concat' (l.splitBy r)).resolve_left (List.splitBy_ne_nil.mpr filled)
  have present : last ∈ l.splitBy r := by simp [split]
  obtain ⟨rest, later, longer⟩ := exists_splitBy_append (List.ne_nil_of_mem_splitBy present)
    (List.isChain_of_mem_splitBy present) m
  exact ⟨front, last, rest, later, split, by rw [splitBy_append_last split, longer]⟩

end Split

namespace IsCut

variable {defined : Nat → Bool} {joins joins' : Nat → Prop} {short count : Nat}
  {runs runs' kept : List (List Nat)}

theorem isChain_runs (cut : IsCut defined joins count runs) :
    runs.IsChain fun a b => ∃ ha hb, ¬(b.head hb = a.getLast ha + 1 ∧ joins (a.getLast ha)) := by
  refine cut.disjoint.isChain.imp_of_mem_imp fun a b here there apart => ?_
  refine ⟨cut.ne_nil here, cut.ne_nil there, ?_⟩
  rintro ⟨next, joined⟩
  have last := List.getLast_mem (cut.ne_nil here)
  have first := List.head_mem (cut.ne_nil there)
  obtain ⟨-, is⟩ := cut.mem_iff.mp ⟨a, here, last⟩
  rw [next] at first
  obtain ⟨below, is'⟩ := cut.mem_iff.mp ⟨b, there, first⟩
  obtain ⟨run, present, left, right⟩ := (cut.together _ below is is').mpr joined
  rw [cut.eq_of_mem present here left last] at right
  exact apart right first

theorem eq_splitBy [DecidablePred joins] (cut : IsCut defined joins count runs) :
    runs = ((List.range count).filter defined).splitBy fun i j => decide (j = i + 1 ∧ joins i) := by
  rw [← cut.flatten, List.splitBy_flatten]
  · exact fun empty => cut.ne_nil empty rfl
  · intro run present
    simpa only [decide_eq_true_eq] using cut.isChain_run present
  · simpa only [decide_eq_false_iff_not] using cut.isChain_runs

/-- Where more neighbours join, runs that follow each other are joined and no run is split. -/
theorem exists_groups (fine : IsCut defined joins count runs) (coarse : IsCut defined joins' count runs')
    (more : ∀ i, joins i → joins' i) :
    ∃ groups : List (List (List Nat)), groups.flatten = runs ∧ groups.map List.flatten = runs' ∧
      ∀ group ∈ groups, group ≠ [] := by
  classical
  refine ⟨runs'.map (List.splitBy fun i j => decide (j = i + 1 ∧ joins i)), ?_, ?_, ?_⟩
  · rw [fine.eq_splitBy, coarse.eq_splitBy, ← splitBy_eq_flatten_map]
    intro i j joined
    rw [decide_eq_true_eq] at joined ⊢
    exact joined.imp_right (more i)
  · simp [Function.comp_def, List.flatten_splitBy]
  · intro group present
    obtain ⟨run, own, rfl⟩ := List.mem_map.mp present
    exact List.splitBy_ne_nil.mpr (coarse.ne_nil own)

theorem exists_longer (cut : IsCut defined joins short kept) (longer : IsCut defined joins count runs)
    (le : short ≤ count) (filled : kept ≠ []) :
    ∃ front last rest later, kept = front ++ [last] ∧ runs = front ++ (last ++ rest) :: later := by
  classical
  obtain ⟨more, rfl⟩ := Nat.exists_eq_add_of_le le
  rw [cut.eq_splitBy] at filled ⊢
  rw [longer.eq_splitBy, List.range_add, List.filter_append]
  exact exists_splitBy_longer (List.splitBy_ne_nil.mp filled) _

/-- Two numbers share a run exactly when all from the one to the other are defined and join. -/
theorem share_iff (cut : IsCut defined joins count runs) {i j : Nat} (le : i ≤ j) (below : j < count) :
    (∃ run ∈ runs, i ∈ run ∧ j ∈ run) ↔
      (∀ k, i ≤ k → k ≤ j → defined k = true) ∧ ∀ k, i ≤ k → k < j → joins k := by
  constructor
  · rintro ⟨run, present, here, there⟩
    obtain ⟨first, length, rfl⟩ := cut.consecutive run present
    have inside : ∀ k, i ≤ k → k ≤ j → k ∈ List.range' first (length + 1) := by
      intro k after before
      rw [List.mem_range'_1] at here there ⊢
      omega
    have defined : ∀ k, i ≤ k → k ≤ j → defined k = true := fun k after before =>
      (cut.mem_iff.mp ⟨_, present, inside k after before⟩).2
    refine ⟨defined, fun k after before => ?_⟩
    exact (cut.together k (by omega) (defined k after before.le) (defined (k + 1) (by omega) before)).mp
      ⟨_, present, inside k after before.le, inside (k + 1) (by omega) before⟩
  · rintro ⟨defined, joined⟩
    -- Each next number stands in a run with the one before it, and that is in one run only.
    induction j, le using Nat.le_induction with
    | base =>
        obtain ⟨run, present, here⟩ := cut.mem_iff.mpr ⟨below, defined i le_rfl le_rfl⟩
        exact ⟨run, present, here, here⟩
    | succ j le ih =>
        obtain ⟨run, present, here, there⟩ := ih (Nat.lt_of_succ_lt below)
          (fun k after before => defined k after (before.trans (Nat.le_succ j)))
          (fun k after before => joined k after (before.trans (Nat.lt_succ_self j)))
        obtain ⟨other, present', there', next⟩ := (cut.together j below
          (defined j le (Nat.le_succ j)) (defined (j + 1) (by omega) le_rfl)).mpr
            (joined j le (Nat.lt_succ_self j))
        rw [cut.eq_of_mem present' present there' there] at next
        exact ⟨run, present, here, next⟩

theorem share_longer (cut : IsCut defined joins short kept) (longer : IsCut defined joins count runs)
    (le : short ≤ count) {i j : Nat} (here : i < short) (there : j < short) :
    (∃ run ∈ kept, i ∈ run ∧ j ∈ run) ↔ ∃ run ∈ runs, i ∈ run ∧ j ∈ run := by
  wlog order : i ≤ j generalizing i j
  · have swapped := this there here (Nat.le_of_not_le order)
    simpa only [and_comm] using swapped
  · rw [cut.share_iff order there, longer.share_iff order (there.trans_le le)]

end IsCut
end Grapher
