import Grapher.Formula.Meaning
import Grapher.Proofs.Formula.Depth
import Grapher.Proofs.Formula.Resolution
import Grapher.Proofs.Formula.Step

namespace Grapher

open Reader

variable {part : Part} {depth room : Nat} {input rest tokens : List Token} {tree : Expr} {free : String}
  {program : Program}

theorem Named.length_pos {front : List Token} {text : String} (named : Named front text) :
    0 < front.length := by
  cases named <;> simp

theorem Nested.nodes_le (nested : Nested part depth input tree) : tree.nodes ≤ input.length := by
  induction nested with
  | number value => simp [Expr.nodes]
  | name named => exact named.length_pos
  | bracketed inner ih | call named inner ih | minus inner ih | plus inner ih =>
      simp [Expr.nodes]
      omega
  | base inner ih | power inner ih | factor inner ih | term inner ih => exact ih
  | raised before last own ih ih' | factors before sign last ih ih' | terms before sign last ih ih' =>
      simp [Expr.nodes]
      omega

/-- Between two leaves stands an operator. -/
theorem Nested.leaves_le (nested : Nested part depth input tree) :
    2 * tree.leaves.length ≤ input.length + 1 := by
  induction nested with
  | number value => simp [Expr.leaves]
  | name named =>
      have filled := named.length_pos
      simp [Expr.leaves]
      omega
  | bracketed inner ih | call named inner ih | minus inner ih | plus inner ih =>
      simp [Expr.leaves]
      omega
  | base inner ih | power inner ih | factor inner ih | term inner ih => exact ih
  | raised before last own ih ih' | factors before sign last ih ih' | terms before sign last ih ih' =>
      simp [Expr.leaves]
      omega

theorem height_pos (tree : Expr) : 0 < tree.height := by
  cases tree <;> simp [Expr.height]

theorem height_le_nodes (tree : Expr) : tree.height ≤ tree.nodes := by
  induction tree with
  | number value => simp [Expr.height, Expr.nodes]
  | name text => simp [Expr.height, Expr.nodes]
  | binary left op right ihLeft ihRight =>
      simp [Expr.height, Expr.nodes]
      omega
  | neg operand ih => simpa [Expr.height, Expr.nodes] using ih
  | call text argument ih => simpa [Expr.height, Expr.nodes] using ih

theorem nodes_pos (tree : Expr) : 0 < tree.nodes :=
  (height_pos tree).trans_le (height_le_nodes tree)

theorem Part.phrase_hasDepth (part : Part) (room : Nat) : HasDepth part (part.phrase room) := by
  have operands := operand_hasDepth room
  cases part with
  | sum => exact sum_hasDepth operands
  | product => exact product_hasDepth operands
  | operand => exact operands
  | power => exact power_hasDepth operands
  | primary => exact primary_hasDepth operands

theorem Part.reader_sound (part : Part) (room : Nat) : Sound (part.reader room) (part.phrase room) := by
  have sound := operand_sound room
  cases part with
  | sum => exact expression_sound sound
  | product => exact chain_sound sound
  | operand => exact sound
  | power => exact power_sound sound
  | primary =>
      intro input tree rest read
      have ⟨used, split, isPrimary, _⟩ := primary_sound sound read
      exact ⟨used, split, isPrimary⟩

theorem Part.reader_consumes (read : part.reader room input = .ok (tree, rest)) :
    ∃ used, input = used ++ rest ∧ 0 < used.length ∧ tree.nodes ≤ used.length ∧
      2 * tree.leaves.length ≤ used.length + 1 := by
  have ⟨used, split, isPhrase⟩ := part.reader_sound room input tree rest read
  have ⟨depth, nested⟩ := part.phrase_hasDepth room used tree isPhrase
  exact ⟨used, split, Nat.lt_of_lt_of_le (nodes_pos tree) nested.nodes_le, nested.nodes_le,
    nested.leaves_le⟩

theorem scan_length_le {text : List Char} (scanned : Token.scan room text = .ok tokens) :
    tokens.length ≤ room := by
  have told := scan_eq (spells_of_scan scanned) room
  by_contra long
  rw [if_neg long, scanned] at told
  cases told

/-- The calls around the innermost one leave it the height that its tree has. -/
theorem Expr.Compiling.fits {calls : List Expr} (compiling : tree.Compiling free calls) :
    ∃ inner outer, calls = inner :: outer ∧ inner.height + outer.length ≤ tree.height := by
  induction compiling with
  | whole => exact ⟨tree, [], rfl, Nat.le_refl _⟩
  | left above ih | right above done ih | operand above ih | argument above known ih =>
      obtain ⟨inner, outer, same, fits⟩ := ih
      cases same
      refine ⟨_, _, rfl, ?_⟩
      simp [Expr.height] at fits ⊢
      omega

theorem Expr.Compiling.length_le {calls : List Expr} (compiling : tree.Compiling free calls) :
    calls.length ≤ tree.height := by
  obtain ⟨inner, outer, rfl, fits⟩ := compiling.fits
  have filled := height_pos inner
  rw [List.length_cons]
  omega

theorem compile_length (compiled : tree.compile free = .ok program) : program.length = tree.nodes := by
  induction tree generalizing program with
  | number value =>
      cases compiled
      rfl
  | name text =>
      rcases compile_name compiled with ⟨-, rfl⟩ | ⟨-, value, -, rfl⟩ <;> rfl
  | binary left op right ihLeft ihRight =>
      have ⟨first, second, compiledLeft, compiledRight, same⟩ := compile_binary compiled
      simp [same, ihLeft compiledLeft, ihRight compiledRight, Expr.nodes, Nat.add_assoc]
  | neg operand ih =>
      have ⟨inner, compiledInner, same⟩ := compile_neg compiled
      simp [same, ih compiledInner, Expr.nodes]
  | call text argument ih =>
      have ⟨function, inner, _, compiledInner, same⟩ := compile_call compiled
      simp [same, ih compiledInner, Expr.nodes]

theorem compile_countP_loads (compiled : tree.compile free = .ok program) :
    program.countP Op.loads = tree.leaves.length := by
  rw [List.countP_eq_length_filter]
  exact (compile_loads compiled).length_eq.symm

variable {α : Type} [Scalar α] {machine next : Machine α} {op : Op}

theorem loads_or_takes (op : Op) : 1 ≤ op.arity + if op.loads then 1 else 0 := by
  cases op <;> simp [Op.arity, Op.loads]

theorem step_length_le (stepped : machine.step op = .ok next) :
    next.stack.length ≤ machine.stack.length + if op.loads then 1 else 0 := by
  by_cases lacks : machine.stack.length < op.arity
  · rw [step_of_outcome (outcome_lacking lacks)] at stepped
    cases stepped
  · obtain ⟨value, -, -, rfl⟩ := step_eq_ok stepped
    have added := loads_or_takes op
    rw [List.length_cons, List.length_drop]
    omega

theorem run_length_le (ran : machine.run program = .ok next) :
    next.stack.length ≤ machine.stack.length + program.countP Op.loads := by
  induction program generalizing machine with
  | nil =>
      cases ran
      simp
  | cons op program ih =>
      obtain ⟨between, stepped, ran⟩ := bind_eq_ok.mp ran
      have first := step_length_le stepped
      have others := ih ran
      rw [List.countP_cons]
      omega

/-- The stack never holds more values than the program loads. -/
theorem run_take_length_le {count : Nat} (ran : machine.emptied.run (program.take count) = .ok next) :
    next.stack.length ≤ program.countP Op.loads := by
  calc next.stack.length
      ≤ machine.emptied.stack.length + (program.take count).countP Op.loads := run_length_le ran
    _ = (program.take count).countP Op.loads := Nat.zero_add _
    _ ≤ program.countP Op.loads := (List.take_sublist count program).countP_le

/-- A text that is read has a tree with a token for each of its nodes and one between any two leaves, and
no more than so many steps, calls and values come of it. Every reader that succeeds takes at least one token
off the input, and no more than there are. -/
theorem tokens_bound_formula :
    (∀ text tree, Expr.ofText text = .ok tree →
      ∃ tokens, Token.ofText text = .ok tokens ∧ tokens.length ≤ 1024 ∧
        tree.nodes ≤ tokens.length ∧ tree.height ≤ 1024 ∧ tree.leaves.length ≤ 512 ∧
        ∀ free, (∀ calls, tree.Compiling free calls → calls.length ≤ 1024) ∧
          ∀ program, tree.compile free = .ok program →
            program.length = tree.nodes ∧ program.length ≤ 1024 ∧
              ∀ {α : Type} [Scalar α] (machine : Machine α) count found,
                machine.emptied.run (program.take count) = .ok found → found.stack.length ≤ 512) ∧
      ∀ (part : Part) room input tree rest, part.reader room input = .ok (tree, rest) →
        ∃ used, input = used ++ rest ∧ 0 < used.length := by
  constructor
  · intro text tree read
    obtain ⟨tokens, scanned, parsed⟩ := bind_eq_ok.mp read
    have few : tokens.length ≤ 1024 := scan_length_le scanned
    have reading : Part.sum.reader nestingLimit tokens = .ok (tree, []) := whole_ok.mp parsed
    obtain ⟨used, split, -, nodes, leaves⟩ := Part.reader_consumes reading
    rw [List.append_nil] at split
    subst split
    have tall := height_le_nodes tree
    have height : tree.height ≤ 1024 := by omega
    have narrow : tree.leaves.length ≤ 512 := by omega
    refine ⟨tokens, scanned, few, nodes, height, narrow, fun free => ⟨fun calls compiling =>
      compiling.length_le.trans height, fun program compiled => ?_⟩⟩
    have steps := compile_length compiled
    refine ⟨steps, by omega, fun machine count found ran => ?_⟩
    have loads := compile_countP_loads compiled
    have held := run_take_length_le ran
    omega
  · intro part room input tree rest read
    obtain ⟨used, split, filled, -⟩ := Part.reader_consumes read
    exact ⟨used, split, filled⟩

theorem tokens_bound_formula_marked :
    let call : Expr := .call "atan" (.name "x")
    let tree : Expr := .binary (.number 2) .sub call
    let program : Program := [.const 2, .load, .call .atan, .binary .sub]
    let machine : Machine Float := { unit := .radians, x := 3, stack := [7] }
    let found : Machine Float := { unit := .radians, x := 3, stack := [3, 2] }
    (Expr.ofText "2 - tan^-1(+(x))" = .ok tree ∧ tree.nodes ≤ 12 ∧ tree.leaves.length ≤ 512) ∧
      (tree.Compiling "x" [call, tree] ∧ [call, tree].length ≤ 1024) ∧
      (tree.compile "x" = .ok program ∧ program.length = tree.nodes) ∧
      (machine.emptied.run (program.take 2) = .ok found ∧ found.stack.length ≤ 512) ∧
      Part.primary.reader 2 [.opening, .name "x", .closing, .plus] = .ok (.name "x", [.plus]) ∧
        ∃ used, [.opening, .name "x", .closing, .plus] = used ++ [Token.plus] ∧ 0 < used.length := by
  have ran : ({ unit := .radians, x := 3, stack := [7] } : Machine Float).emptied.run
      [.const 2, .load] = .ok { unit := .radians, x := 3, stack := [3, 2] } := rfl
  intro call tree program machine found
  have read : Expr.ofText "2 - tan^-1(+(x))" = .ok tree := by decide +kernel
  have scanned : Token.ofText "2 - tan^-1(+(x))" = .ok [.number 2, .minus, .name "tan", .caret, .minus,
      .number 1, .opening, .plus, .opening, .name "x", .closing, .closing] := by decide +kernel
  have compiling : tree.Compiling "x" [call, tree] := .right .whole rfl
  have compiled : tree.compile "x" = .ok program := rfl
  have inside : Part.primary.reader 2 [.opening, .name "x", .closing, .plus] =
      .ok (.name "x", [.plus]) := rfl
  obtain ⟨tokens, scanned', -, nodes, -, leaves, bounds⟩ := tokens_bound_formula.1 _ _ read
  cases scanned.symm.trans scanned'
  obtain ⟨calls, steps⟩ := bounds "x"
  obtain ⟨same, -, held⟩ := steps program compiled
  exact ⟨⟨read, nodes, leaves⟩, ⟨compiling, calls _ compiling⟩, ⟨compiled, same⟩,
    ⟨ran, held machine 2 found ran⟩, inside, tokens_bound_formula.2 .primary _ _ _ _ inside⟩

end Grapher
