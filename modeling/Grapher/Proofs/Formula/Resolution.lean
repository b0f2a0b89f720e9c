import Grapher.Formula.Meaning
import Grapher.Proofs.Formula.Compilation
import Mathlib.Data.List.Forall2

namespace Grapher

variable {free text : String} {first second : List Mention} {fault : Fault} {β γ : Type}

theorem FirstUnknown.append_left (unknown : FirstUnknown free first fault) (second : List Mention) :
    FirstUnknown free (first ++ second) fault := by
  obtain ⟨before, mention, after, rfl, known, bad, rfl⟩ := unknown
  exact ⟨before, mention, after ++ second, by simp, known, bad, rfl⟩

theorem FirstUnknown.append_right (known : ∀ mention ∈ first, mention.Known free)
    (unknown : FirstUnknown free second fault) : FirstUnknown free (first ++ second) fault := by
  obtain ⟨before, mention, after, rfl, known', bad, rfl⟩ := unknown
  refine ⟨first ++ before, mention, after, by simp, ?_, bad, rfl⟩
  intro other member
  rcases List.mem_append.mp member with member | member
  · exact known other member
  · exact known' other member

theorem FirstUnknown.not_known (unknown : FirstUnknown free first fault) :
    ¬∀ mention ∈ first, mention.Known free := by
  obtain ⟨before, mention, after, rfl, -, bad, -⟩ := unknown
  exact fun known => bad (known mention (by simp))

theorem FirstUnknown.unique {other : Fault} (unknown : FirstUnknown free first fault)
    (unknown' : FirstUnknown free first other) : fault = other := by
  obtain ⟨before, mention, after, rfl, known, bad, rfl⟩ := unknown
  obtain ⟨before', mention', after', split, known', bad', rfl⟩ := unknown'
  -- The two rows of known names in front are equally long.
  rcases List.append_eq_append_iff.mp split with ⟨rest, rfl, same⟩ | ⟨rest, rfl, same⟩
  · cases rest with
    | nil =>
        cases same
        rfl
    | cons next rest =>
        cases same
        exact absurd (known' mention (by simp)) bad
  · cases rest with
    | nil =>
        cases same
        rfl
    | cons next rest =>
        cases same
        exact absurd (known mention' (by simp)) bad'

/-- A result that is right for the names mentioned: it is there if all of them are known, and else it has
the fault of the first that is not. -/
inductive Answers (free : String) (mentions : List Mention) : Except Fault β → Prop where
  | ok {value : β} (known : ∀ mention ∈ mentions, mention.Known free) : Answers free mentions (.ok value)
  | error {fault : Fault} (unknown : FirstUnknown free mentions fault) :
      Answers free mentions (.error fault)

namespace Answers

theorem after {result : Except Fault β} (known : ∀ mention ∈ first, mention.Known free)
    (answers : Answers free second result) : Answers free (first ++ second) result := by
  cases answers with
  | ok known' =>
      refine .ok fun mention member => ?_
      rcases List.mem_append.mp member with member | member
      · exact known mention member
      · exact known' mention member
  | error unknown => exact .error (.append_right known unknown)

theorem bind {result : Except Fault β} {next : β → Except Fault γ} (answers : Answers free first result)
    (goes : ∀ value, Answers free second (next value)) :
    Answers free (first ++ second) (result >>= next) := by
  cases answers with
  | ok known => exact after known (goes _)
  | error unknown => exact .error (unknown.append_left second)

theorem map {result : Except Fault β} (answers : Answers free first result) (change : β → γ) :
    Answers free first (result >>= fun value => .ok (change value)) := by
  cases answers with
  | ok known => exact .ok known
  | error unknown => exact .error unknown

end Answers

theorem constant?_eq_none (unknown : constant? text = none) : text ≠ "pi" ∧ text ≠ "e" := by
  constructor
  · rintro rfl
    cases unknown
  · rintro rfl
    cases unknown

theorem constant?_eq_some {value : Float} (known : constant? text = some value) :
    text = "pi" ∧ value = pi ∨ text = "e" ∧ value = euler := by
  unfold constant? at known
  split at known
  · cases known
    exact .inl ⟨rfl, rfl⟩
  · cases known
    exact .inr ⟨rfl, rfl⟩
  · cases known

theorem compile_answers (free : String) (tree : Expr) :
    Answers free tree.mentions (tree.compile free) := by
  induction tree with
  | number value => exact .ok (List.forall_mem_nil _)
  | name text =>
      unfold Expr.compile
      by_cases same : text = free
      · rw [if_pos same]
        exact .ok (by simp [Expr.mentions, Mention.Known, same])
      · rw [if_neg same]
        cases known : constant? text with
        | none =>
            obtain ⟨notPi, notE⟩ := constant?_eq_none known
            exact .error ⟨[], .value text, [], rfl, List.forall_mem_nil _,
              by simp [Mention.Known, same, notPi, notE], rfl⟩
        | some value =>
            refine .ok ?_
            rcases constant?_eq_some known with ⟨rfl, -⟩ | ⟨rfl, -⟩ <;>
              simp [Expr.mentions, Mention.Known]
  | binary left op right ihLeft ihRight =>
      exact ihLeft.bind fun ahead => ihRight.map fun second => ahead ++ second ++ [Op.binary op]
  | neg operand ih => exact ih.map fun inner => inner ++ [Op.neg]
  | call text argument ih =>
      unfold Expr.compile
      cases known : Elementary.ofName? text with
      | none =>
          exact .error ⟨[], .function text, argument.mentions, rfl, List.forall_mem_nil _,
            by simp [Mention.Known, known], rfl⟩
      | some function =>
          have own : ∀ mention ∈ [Mention.function text], mention.Known free := by
            simp [Mention.Known, known]
          exact (ih.map fun inner => inner ++ [Op.call function]).after own

/-- Constants and the variable are put on the stack in the order of the leaves. -/
theorem compile_loads {tree : Expr} {program : Program} (compiled : tree.compile free = .ok program) :
    List.Forall₂ (Expr.Loads free) tree.leaves (program.filter Op.loads) := by
  induction tree generalizing program with
  | number value =>
      cases compiled
      exact .cons (.number value) .nil
  | name text =>
      rcases compile_name compiled with ⟨rfl, rfl⟩ | ⟨different, value, known, rfl⟩
      · exact .cons .variable .nil
      · rcases constant?_eq_some known with ⟨rfl, rfl⟩ | ⟨rfl, rfl⟩
        · exact .cons (.pi different) .nil
        · exact .cons (.euler different) .nil
  | binary left op right ihLeft ihRight =>
      obtain ⟨first, second, compiledLeft, compiledRight, rfl⟩ := compile_binary compiled
      rw [List.filter_append, List.filter_append, List.filter_cons_of_neg (by simp [Op.loads]),
        List.filter_nil, List.append_nil]
      exact List.rel_append (ihLeft compiledLeft) (ihRight compiledRight)
  | neg operand ih =>
      obtain ⟨inner, compiledInner, rfl⟩ := compile_neg compiled
      rw [List.filter_append, List.filter_cons_of_neg (by simp [Op.loads]), List.filter_nil,
        List.append_nil]
      exact ih compiledInner
  | call text argument ih =>
      obtain ⟨function, inner, known, compiledInner, rfl⟩ := compile_call compiled
      rw [List.filter_append, List.filter_cons_of_neg (by simp [Op.loads]), List.filter_nil,
        List.append_nil]
      exact ih compiledInner

/-- A tree compiles exactly when every name in it is known: the functions it calls, and the free variable
and the constants as values. The program then loads the variable for the leaves of its name, and for no
other leaf. Otherwise the fault is that of the first unknown name in reading order, whatever follows. -/
theorem compile_resolves_names (free : String) (tree : Expr) :
    ((∃ program, tree.compile free = .ok program) ↔
        ∀ mention ∈ tree.mentions, mention.Known free) ∧
      (∀ program, tree.compile free = .ok program →
        List.Forall₂ (Expr.Loads free) tree.leaves (program.filter Op.loads)) ∧
      ∀ fault, tree.compile free = .error fault ↔ FirstUnknown free tree.mentions fault := by
  have answers := compile_answers free tree
  refine ⟨?_, fun program => compile_loads, fun fault => ?_⟩
  all_goals
    generalize tree.compile free = result at answers
    cases answers with
    | ok known => ?_
    | error unknown => ?_
  · exact iff_of_true ⟨_, rfl⟩ known
  · exact iff_of_false nofun unknown.not_known
  · exact iff_of_false nofun fun unknown => unknown.not_known known
  · exact ⟨fun same => Except.error.inj same ▸ unknown, fun other => congrArg _ (unknown.unique other)⟩

theorem compile_resolves_names_shadowed :
    ((∃ program, (Expr.binary (.call "sin" (.name "pi")) .add (.name "e")).compile "pi" = .ok program) ↔
        ∀ mention ∈ (Expr.binary (.call "sin" (.name "pi")) .add (.name "e")).mentions,
          mention.Known "pi") ∧
      List.Forall₂ (Expr.Loads "pi") [.name "pi", .name "e"] [.load, .const euler] ∧
      (Expr.binary (.call "bogus" (.name "y")) .add (.call "sin" (.name "z"))).compile "x" =
        .error (.unknownFunction "bogus") :=
  ⟨(compile_resolves_names "pi" (.binary (.call "sin" (.name "pi")) .add (.name "e"))).1,
    (compile_resolves_names "pi" (.binary (.call "sin" (.name "pi")) .add (.name "e"))).2.1
      [.load, .call .sin, .const euler, .binary .add] rfl,
    ((compile_resolves_names "x" (.binary (.call "bogus" (.name "y")) .add (.call "sin" (.name "z")))).2.2
      _).2 ⟨[], .function "bogus", _, rfl, nofun, by simp [Mention.Known]; decide, rfl⟩⟩

end Grapher
