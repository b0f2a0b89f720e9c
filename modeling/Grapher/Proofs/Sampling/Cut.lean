import Mathlib.Data.List.Nodup
import Mathlib.Data.List.Range

namespace Grapher

/-- The defined numbers below `count`, in order, in runs of consecutive ones. Defined neighbours share
a run when they join, and only then. -/
structure IsCut (defined : Nat → Bool) (joins : Nat → Prop) (count : Nat)
    (runs : List (List Nat)) : Prop where
  flatten : runs.flatten = (List.range count).filter defined
  consecutive : ∀ run ∈ runs, ∃ first length, run = List.range' first (length + 1)
  together : ∀ i, i + 1 < count → defined i = true → defined (i + 1) = true →
    ((∃ run ∈ runs, i ∈ run ∧ i + 1 ∈ run) ↔ joins i)

/-- Whether the number and the one before it are defined and stand in different runs. -/
def breaksAt (defined : Nat → Bool) (runs : List (List Nat)) : Nat → Bool
  | 0 => false
  | i + 1 => defined i && defined (i + 1) && !runs.any fun run => run.contains i && run.contains (i + 1)

namespace IsCut

variable {defined : Nat → Bool} {joins : Nat → Prop} {count : Nat} {runs : List (List Nat)}
  {run : List Nat}

theorem empty : IsCut defined joins 0 [] where
  flatten := rfl
  consecutive := by simp
  together := by simp

theorem mem_iff (cut : IsCut defined joins count runs) {i : Nat} :
    (∃ run ∈ runs, i ∈ run) ↔ i < count ∧ defined i = true := by
  rw [← List.mem_flatten, cut.flatten, List.mem_filter, List.mem_range]

theorem lt_of_mem (cut : IsCut defined joins count runs) {i : Nat} (present : run ∈ runs)
    (member : i ∈ run) : i < count :=
  (cut.mem_iff.mp ⟨run, present, member⟩).1

theorem ne_nil (cut : IsCut defined joins count runs) (present : run ∈ runs) : run ≠ [] := by
  obtain ⟨first, length, rfl⟩ := cut.consecutive run present
  simp

theorem eq_nil_iff (cut : IsCut defined joins count runs) :
    runs = [] ↔ ∀ i < count, defined i = false := by
  constructor
  · rintro rfl i below
    cases is : defined i with
    | false => rfl
    | true =>
        have ⟨run, impossible, _⟩ := cut.mem_iff.mpr ⟨below, is⟩
        cases impossible
  · intro undefined
    rw [List.eq_nil_iff_forall_not_mem]
    intro run present
    have ⟨i, member⟩ := List.exists_mem_of_ne_nil run (cut.ne_nil present)
    have ⟨below, is⟩ := cut.mem_iff.mp ⟨run, present, member⟩
    rw [undefined i below] at is
    cases is

theorem iff_joins {joins' : Nat → Prop} (cut : IsCut defined joins count runs) :
    IsCut defined joins' count runs ↔
      ∀ i, i + 1 < count → defined i = true → defined (i + 1) = true → (joins i ↔ joins' i) := by
  constructor
  · intro other i below here there
    rw [← cut.together i below here there, other.together i below here there]
  · intro same
    refine ⟨cut.flatten, cut.consecutive, ?_⟩
    intro i below here there
    rw [cut.together i below here there]
    exact same i below here there

theorem breaksAt_iff (cut : IsCut defined joins count runs) {i : Nat} (below : i < count) :
    breaksAt defined runs i = true ↔ ∃ p, p + 1 = i ∧ defined p = true ∧ defined i = true ∧ ¬joins p := by
  cases i with
  | zero => simp [breaksAt]
  | succ p =>
      by_cases both : defined p = true ∧ defined (p + 1) = true
      · have together := cut.together p below both.1 both.2
        simp [breaksAt, both, ← together]
      · constructor
        · intro broken
          simp only [breaksAt, Bool.and_eq_true] at broken
          exact absurd broken.1 both
        · rintro ⟨q, next, before, is, -⟩
          cases next
          exact absurd ⟨before, is⟩ both

theorem skip (cut : IsCut defined joins count runs) (undefined : defined count = false) :
    IsCut defined joins (count + 1) runs where
  flatten := by
    rw [cut.flatten, List.range_succ, List.filter_append]
    simp [undefined]
  consecutive := cut.consecutive
  together := by
    intro i below here there
    by_cases last : i + 1 = count
    · rw [last, undefined] at there
      cases there
    · exact cut.together i (by omega) here there

theorem start (cut : IsCut defined joins count runs) (is : defined count = true)
    (apart : ∀ i, i + 1 = count → defined i = true → ¬ joins i) :
    IsCut defined joins (count + 1) (runs ++ [[count]]) where
  flatten := by
    rw [List.flatten_append, cut.flatten, List.range_succ, List.filter_append]
    simp [is]
  consecutive := by
    intro run present
    rcases List.mem_append.mp present with old | new
    · exact cut.consecutive run old
    · exact ⟨count, 0, List.mem_singleton.mp new⟩
  together := by
    intro i below here there
    have old : (∃ run ∈ runs ++ [[count]], i ∈ run ∧ i + 1 ∈ run) ↔
        ∃ run ∈ runs, i ∈ run ∧ i + 1 ∈ run := by
      constructor
      · rintro ⟨run, present, member, next⟩
        rcases List.mem_append.mp present with old | new
        · exact ⟨run, old, member, next⟩
        · cases List.mem_singleton.mp new
          rw [List.mem_singleton] at member next
          omega
      · rintro ⟨run, present, both⟩
        exact ⟨run, List.mem_append_left _ present, both⟩
    rw [old]
    by_cases last : i + 1 = count
    · constructor
      · rintro ⟨run, present, -, next⟩
        have := cut.lt_of_mem present next
        omega
      · intro joined
        exact absurd joined (apart i last here)
    · exact cut.together i (by omega) here there

theorem extend {previous : Nat} (cut : IsCut defined joins count (runs ++ [run]))
    (tip : run.getLast? = some previous) (next : previous + 1 = count)
    (is : defined count = true) (joined : joins previous) :
    IsCut defined joins (count + 1) (runs ++ [run ++ [count]]) where
  flatten := by
    have before := cut.flatten
    rw [List.flatten_append, List.flatten_singleton] at before
    rw [List.flatten_append, List.flatten_singleton, ← List.append_assoc, before, List.range_succ,
      List.filter_append]
    simp [is]
  consecutive := by
    intro other present
    rcases List.mem_append.mp present with old | new
    · exact cut.consecutive other (List.mem_append_left _ old)
    · cases List.mem_singleton.mp new
      obtain ⟨first, length, rfl⟩ := cut.consecutive run (by simp)
      refine ⟨first, length + 1, ?_⟩
      have reaches : first + length = previous := by
        rw [List.range'_1_concat, List.getLast?_append] at tip
        simpa using tip
      rw [@List.range'_1_concat first (length + 1), ← next, ← reaches, Nat.add_assoc]
  together := by
    intro i below here there
    by_cases last : i + 1 = count
    · have same : i = previous := by omega
      subst same
      constructor
      · intro _
        exact joined
      · intro _
        refine ⟨run ++ [count], by simp, ?_, by simp [last]⟩
        exact List.mem_append_left _ (List.mem_of_getLast? tip)
    · rw [← cut.together i (by omega) here there]
      have outside : i ≠ count ∧ i + 1 ≠ count := by omega
      simp [outside, or_and_right, exists_or]

theorem tip {last : Nat} (cut : IsCut defined joins (last + 1) runs) (is : defined last = true) :
    ∃ front run, runs = front ++ [run] ∧ run.getLast? = some last := by
  have flatten := cut.flatten
  rw [List.range_succ, List.filter_append, List.filter_singleton, is] at flatten
  rcases List.eq_nil_or_concat' runs with rfl | ⟨front, run, rfl⟩
  · simp at flatten
  · refine ⟨front, run, rfl, ?_⟩
    have present : run ∈ front ++ [run] := by simp
    have filled := cut.ne_nil present
    have lasts := congrArg List.getLast? flatten
    rw [List.flatten_append, List.flatten_singleton, List.getLast?_append_of_ne_nil _ filled] at lasts
    simpa using lasts

theorem exists_cut (defined : Nat → Bool) (joins : Nat → Prop) (count : Nat) :
    ∃ runs, IsCut defined joins count runs := by
  induction count with
  | zero => exact ⟨[], .empty⟩
  | succ count ih =>
      obtain ⟨runs, cut⟩ := ih
      by_cases is : defined count = true
      · by_cases joined : ∃ previous, previous + 1 = count ∧ defined previous = true ∧ joins previous
        · obtain ⟨previous, rfl, before, joined⟩ := joined
          obtain ⟨front, run, rfl, last⟩ := cut.tip before
          exact ⟨_, cut.extend last rfl is joined⟩
        · exact ⟨_, cut.start is fun i next before joins => joined ⟨i, next, before, joins⟩⟩
      · exact ⟨runs, cut.skip (Bool.eq_false_iff.mpr is)⟩

theorem disjoint (cut : IsCut defined joins count runs) : runs.Pairwise List.Disjoint := by
  have nodup : runs.flatten.Nodup := by
    rw [cut.flatten]
    exact List.nodup_range.filter _
  exact (List.nodup_flatten.mp nodup).2

theorem eq_of_mem (cut : IsCut defined joins count runs) {other : List Nat} {i : Nat}
    (present : run ∈ runs) (present' : other ∈ runs) (member : i ∈ run) (member' : i ∈ other) :
    run = other := by
  have : Std.Symm (@List.Disjoint Nat) := ⟨fun _ _ => List.disjoint_symm⟩
  by_contra apart
  exact cut.disjoint.forall present present' apart member member'

theorem isChain_run (cut : IsCut defined joins count runs) (present : run ∈ runs) :
    run.IsChain fun i j => j = i + 1 ∧ joins i := by
  obtain ⟨first, length, rfl⟩ := cut.consecutive run present
  refine (List.isChain_range' first (length + 1) 1).imp_of_mem_imp fun i j here there next => ?_
  subst next
  obtain ⟨below, is'⟩ := cut.mem_iff.mp ⟨_, present, there⟩
  obtain ⟨-, is⟩ := cut.mem_iff.mp ⟨_, present, here⟩
  exact ⟨rfl, (cut.together i below is is').mp ⟨_, present, here, there⟩⟩

theorem mem_heads (cut : IsCut defined joins count runs) {i : Nat} :
    i ∈ runs.map (·.headD 0) ↔
      i < count ∧ defined i = true ∧ ∀ p, p + 1 = i → defined p = true → ¬joins p := by
  constructor
  · intro member
    obtain ⟨run, present, head⟩ := List.mem_map.mp member
    obtain ⟨first, length, rfl⟩ := cut.consecutive run present
    have own : first = i := head
    subst own
    have inside : first ∈ List.range' first (length + 1) := by simp
    obtain ⟨below, is⟩ := cut.mem_iff.mp ⟨_, present, inside⟩
    refine ⟨below, is, ?_⟩
    intro p next before joined
    subst next
    obtain ⟨other, present', here, there⟩ := (cut.together p below before is).mpr joined
    rw [cut.eq_of_mem present' present there inside, List.mem_range'_1] at here
    omega
  · rintro ⟨below, is, apart⟩
    obtain ⟨run, present, inside⟩ := cut.mem_iff.mpr ⟨below, is⟩
    obtain ⟨first, length, rfl⟩ := cut.consecutive run present
    refine List.mem_map.mpr ⟨_, present, ?_⟩
    change first = i
    by_contra later
    rw [List.mem_range'_1] at inside
    have before : i - 1 ∈ List.range' first (length + 1) := List.mem_range'_1.mpr (by omega)
    have next : i - 1 + 1 = i := by omega
    have inside : i - 1 + 1 ∈ List.range' first (length + 1) := List.mem_range'_1.mpr (by omega)
    obtain ⟨-, here⟩ := cut.mem_iff.mp ⟨_, present, before⟩
    have joined := (cut.together (i - 1) (by omega) here (by rwa [next])).mp ⟨_, present, before, inside⟩
    exact apart (i - 1) next here joined

theorem heads_nodup (cut : IsCut defined joins count runs) : (runs.map (·.headD 0)).Nodup := by
  rw [List.Nodup, List.pairwise_map]
  refine cut.disjoint.imp_of_mem ?_
  intro run other present present' apart same
  obtain ⟨first, length, rfl⟩ := cut.consecutive run present
  obtain ⟨first', length', rfl⟩ := cut.consecutive other present'
  have heads : first = first' := same
  subst heads
  exact apart (a := first) (by simp) (by simp)

/-- A cut into the longest runs of neighbours, and one more run for each break within them. -/
theorem length_eq {whole : List (List Nat)} (cut : IsCut defined joins count runs)
    (wholes : IsCut defined (fun _ => True) count whole) :
    runs.length = (List.range count).countP (breaksAt defined runs) + whole.length := by
  have heads : (runs.map (·.headD 0)).Perm
      ((List.range count).filter (breaksAt defined runs) ++ whole.map (·.headD 0)) := by
    refine (List.perm_ext_iff_of_nodup cut.heads_nodup ?_).mpr ?_
    · refine List.Nodup.append (List.nodup_range.filter _) wholes.heads_nodup ?_
      intro i broken first
      obtain ⟨below, broken⟩ := List.mem_filter.mp broken
      obtain ⟨p, next, before, -⟩ := (cut.breaksAt_iff (List.mem_range.mp below)).mp broken
      exact (wholes.mem_heads.mp first).2.2 p next before trivial
    · intro i
      rw [List.mem_append, List.mem_filter, List.mem_range, cut.mem_heads, wholes.mem_heads]
      constructor
      · rintro ⟨below, is, apart⟩
        by_cases start : ∃ p, p + 1 = i ∧ defined p = true
        · obtain ⟨p, next, before⟩ := start
          exact .inl ⟨below, (cut.breaksAt_iff below).mpr ⟨p, next, before, is, apart p next before⟩⟩
        · exact .inr ⟨below, is, fun p next before => absurd ⟨p, next, before⟩ start⟩
      · rintro (⟨below, broken⟩ | ⟨below, is, apart⟩)
        · obtain ⟨p, next, before, is, broken⟩ := (cut.breaksAt_iff below).mp broken
          refine ⟨below, is, fun q next' _ => ?_⟩
          have same : q = p := by omega
          rwa [same]
        · exact ⟨below, is, fun p next before => absurd trivial (apart p next before)⟩
  have lengths := heads.length_eq
  rwa [List.length_map, List.length_append, List.length_map, ← List.countP_eq_length_filter] at lengths

theorem whole (cut : IsCut defined joins count runs) (positive : 0 < count)
    (all : ∀ i < count, defined i = true) (join : ∀ i, i + 1 < count → joins i) :
    runs = [List.range count] := by
  obtain ⟨run, present, zero⟩ := cut.mem_iff.mpr ⟨positive, all 0 positive⟩
  have members : ∀ i < count, i ∈ run := by
    intro i
    induction i with
    | zero => exact fun _ => zero
    | succ i ih =>
        intro below
        obtain ⟨other, present', member, next⟩ := (cut.together i below (all i (by omega))
          (all (i + 1) below)).mpr (join i below)
        rwa [cut.eq_of_mem present present' (ih (by omega)) member]
  have only : ∀ other ∈ runs, other = run := by
    intro other present'
    obtain ⟨i, member⟩ := List.exists_mem_of_ne_nil other (cut.ne_nil present')
    exact cut.eq_of_mem present' present member (members i (cut.lt_of_mem present' member))
  have flatten : runs.flatten = List.range count := by
    rw [cut.flatten, List.filter_eq_self]
    exact fun i member => all i (List.mem_range.mp member)
  match runs, cut.disjoint, only, flatten with
  | [], _, _, flatten => simp [Nat.ne_of_gt positive] at flatten
  | [first], _, _, flatten => simpa using flatten
  | first :: second :: more, disjoint, only, _ =>
      have same : first = run := only first (by simp)
      have same' : second = run := only second (by simp)
      have apart : first.Disjoint second := (List.pairwise_cons.mp disjoint).1 second (by simp)
      exact absurd (same' ▸ zero) (apart (same ▸ zero))

theorem map_singleton_flatten {runs : List (List Nat)} (alone : ∀ run ∈ runs, ∃ i, run = [i]) :
    runs = runs.flatten.map ([·]) := by
  induction runs with
  | nil => rfl
  | cons run runs ih =>
      obtain ⟨i, rfl⟩ := alone run (by simp)
      rw [List.flatten_cons, List.map_append, ← ih fun other member => alone other (by simp [member])]
      rfl

theorem scattered (cut : IsCut defined joins count runs) (apart : ∀ i, i + 1 < count → ¬joins i) :
    runs = ((List.range count).filter defined).map ([·]) := by
  rw [← cut.flatten]
  apply map_singleton_flatten
  intro run present
  obtain ⟨first, length, rfl⟩ := cut.consecutive run present
  cases length with
  | zero => exact ⟨first, rfl⟩
  | succ length =>
      have member : first ∈ List.range' first (length + 1 + 1) := by simp
      have next : first + 1 ∈ List.range' first (length + 1 + 1) := by simp
      obtain ⟨-, here⟩ := cut.mem_iff.mp ⟨_, present, member⟩
      have ⟨below, there⟩ := cut.mem_iff.mp ⟨_, present, next⟩
      have joined := (cut.together first below here there).mp ⟨_, present, member, next⟩
      exact absurd joined (apart first below)

end IsCut
end Grapher
