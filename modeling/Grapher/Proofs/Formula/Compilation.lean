import Grapher.Formula.Machine
import Grapher.Formula.Meaning
import Grapher.Proofs.Result

namespace Grapher

variable {α : Type} [Scalar α]

section Compile

variable {free text : String} {tree left right : Expr} {op : BinaryOp} {program : Program}

theorem compile_name (compiled : (Expr.name text).compile free = .ok program) :
    (text = free ∧ program = [.load]) ∨
      text ≠ free ∧ ∃ value, constant? text = some value ∧ program = [.const value] := by
  unfold Expr.compile at compiled
  by_cases same : text = free
  · rw [if_pos same] at compiled
    cases compiled
    exact .inl ⟨same, rfl⟩
  · rw [if_neg same] at compiled
    cases known : constant? text with
    | none =>
        rw [known] at compiled
        cases compiled
    | some value =>
        rw [known] at compiled
        cases compiled
        exact .inr ⟨same, value, rfl, rfl⟩

theorem compile_binary (compiled : (Expr.binary left op right).compile free = .ok program) :
    ∃ first second, left.compile free = .ok first ∧ right.compile free = .ok second ∧
      program = first ++ second ++ [.binary op] := by
  have ⟨first, compiledLeft, compiled⟩ := bind_eq_ok.mp compiled
  have ⟨second, compiledRight, compiled⟩ := bind_eq_ok.mp compiled
  cases compiled
  exact ⟨first, second, compiledLeft, compiledRight, rfl⟩

theorem compile_neg (compiled : (Expr.neg tree).compile free = .ok program) :
    ∃ inner, tree.compile free = .ok inner ∧ program = inner ++ [.neg] := by
  have ⟨inner, compiledInner, compiled⟩ := bind_eq_ok.mp compiled
  cases compiled
  exact ⟨inner, compiledInner, rfl⟩

theorem compile_call (compiled : (Expr.call text tree).compile free = .ok program) :
    ∃ function inner, Elementary.ofName? text = some function ∧ tree.compile free = .ok inner ∧
      program = inner ++ [.call function] := by
  unfold Expr.compile at compiled
  cases known : Elementary.ofName? text with
  | none =>
      rw [known] at compiled
      cases compiled
  | some function =>
      rw [known] at compiled
      have ⟨inner, compiledInner, compiled⟩ := bind_eq_ok.mp compiled
      cases compiled
      exact ⟨function, inner, rfl, compiledInner, rfl⟩

end Compile

section Run

variable {free : String} (unit : AngleUnit) (x : α)

theorem run_cons (machine : Machine α) (op : Op) (program : Program) :
    machine.run (op :: program) = machine.step op >>= (·.run program) := rfl

theorem push_bind {β : Type} (machine : Machine α) (stack : List α) (value : α)
    (next : Machine α → Except Fault β) :
    machine.push stack value >>= next =
      settle value >>= fun value => next { machine with stack := value :: stack } := by
  simp only [Machine.push, bind_assoc, pure_bind]

theorem run_compile {tree : Expr} {program : Program} (compiled : tree.compile free = .ok program)
    (rest : Program) (stack : List α) :
    ({ unit, x, stack } : Machine α).run (program ++ rest) =
      tree.eval free unit x >>= fun value =>
        ({ unit, x, stack := value :: stack } : Machine α).run rest := by
  -- The code that follows and the stack below stay free: the right operand runs on the value of the left
  -- one.
  induction tree generalizing program rest stack with
  | number value =>
      cases compiled
      rw [List.singleton_append, run_cons, Machine.step, push_bind, Expr.eval]
  | name text =>
      rcases compile_name compiled with ⟨same, rfl⟩ | ⟨different, value, known, rfl⟩
      · rw [List.singleton_append, run_cons, Machine.step, push_bind, Expr.eval, if_pos same]
      · rw [List.singleton_append, run_cons, Machine.step, push_bind, Expr.eval, if_neg different,
          known]
  | binary left op right ihLeft ihRight =>
      obtain ⟨first, second, compiledLeft, compiledRight, rfl⟩ := compile_binary compiled
      rw [List.append_assoc, List.append_assoc, ihLeft compiledLeft, Expr.eval, bind_assoc]
      congr 1
      funext a
      rw [ihRight compiledRight, bind_assoc]
      congr 1
      funext b
      rw [List.singleton_append, run_cons, Machine.step, bind_assoc, bind_assoc]
      congr 1
      funext value
      rw [push_bind]
  | neg operand ih =>
      obtain ⟨inner, compiledInner, rfl⟩ := compile_neg compiled
      rw [List.append_assoc, ih compiledInner, Expr.eval, bind_assoc]
      congr 1
      funext a
      rw [List.singleton_append, run_cons, Machine.step, push_bind]
  | call text argument ih =>
      obtain ⟨function, inner, known, compiledInner, rfl⟩ := compile_call compiled
      rw [List.append_assoc, ih compiledInner, Expr.eval, known, bind_assoc]
      congr 1
      funext a
      rw [List.singleton_append, run_cons, Machine.step, bind_assoc, bind_assoc]
      congr 1
      funext value
      rw [push_bind]

theorem execute_eq_eval {tree : Expr} {program : Program}
    (compiled : tree.compile free = .ok program) (stack : List α) :
    ({ unit, x, stack } : Machine α).execute program = tree.eval free unit x := by
  have ran := run_compile unit x compiled [] []
  rw [List.append_nil] at ran
  rw [Machine.execute, Machine.emptied, ran]
  cases tree.eval free unit x <;> rfl

end Run

section Eval

variable {free : String} {unit : AngleUnit} {x value : α}

theorem settle_eq_ok {candidate : α} (settled : settle candidate = .ok value) :
    Scalar.isFinite value = true ∧ candidate = value := by
  unfold settle at settled
  by_cases finite : Scalar.isFinite candidate = true
  · rw [if_pos finite] at settled
    cases settled
    exact ⟨finite, rfl⟩
  · rw [if_neg finite] at settled
    cases settled

theorem settle_finite {candidate : α} (settled : settle candidate = .ok value) :
    Scalar.isFinite value = true := (settle_eq_ok settled).1

theorem settle_fault {fault : Fault} (stopped : settle value = .error fault) :
    fault = .nonFinite := by
  unfold settle at stopped
  by_cases finite : Scalar.isFinite value = true
  · rw [if_pos finite] at stopped
    cases stopped
  · rw [if_neg finite] at stopped
    cases stopped
    rfl

theorem binary_fault {op : BinaryOp} {a b : α} {fault : Fault} (stopped : op.apply a b = .error fault) :
    fault = .divisionByZero := by
  cases op with
  | div =>
      unfold BinaryOp.apply at stopped
      by_cases zero : (b == Scalar.zero) = true
      · rw [if_pos zero] at stopped
        cases stopped
        rfl
      · rw [if_neg zero] at stopped
        cases stopped
  | add | sub | mul | pow => cases stopped

theorem function_fault {function : Elementary} {fault : Fault}
    (stopped : function.apply unit x = .error fault) :
    fault = .domain function (Scalar.toFloat x) := by
  unfold Elementary.apply at stopped
  by_cases inside : function.defined unit x = true
  · rw [if_pos inside] at stopped
    cases stopped
  · rw [if_neg inside] at stopped
    cases stopped
    rfl

theorem eval_finite {tree : Expr} (evaluated : tree.eval free unit x = .ok value) :
    Scalar.isFinite value = true := by
  cases tree with
  | number constant => exact settle_finite evaluated
  | name text =>
      unfold Expr.eval at evaluated
      by_cases same : text = free
      · rw [if_pos same] at evaluated
        exact settle_finite evaluated
      · rw [if_neg same] at evaluated
        cases known : constant? text with
        | none =>
            rw [known] at evaluated
            cases evaluated
        | some constant =>
            rw [known] at evaluated
            exact settle_finite evaluated
  | binary left op right =>
      obtain ⟨a, -, evaluated⟩ := bind_eq_ok.mp evaluated
      obtain ⟨b, -, evaluated⟩ := bind_eq_ok.mp evaluated
      obtain ⟨candidate, -, settled⟩ := bind_eq_ok.mp evaluated
      exact settle_finite settled
  | neg operand =>
      obtain ⟨a, -, settled⟩ := bind_eq_ok.mp evaluated
      exact settle_finite settled
  | call text argument =>
      unfold Expr.eval at evaluated
      cases known : Elementary.ofName? text with
      | none =>
          rw [known] at evaluated
          cases evaluated
      | some function =>
          rw [known] at evaluated
          obtain ⟨a, -, evaluated⟩ := bind_eq_ok.mp evaluated
          obtain ⟨candidate, -, settled⟩ := bind_eq_ok.mp evaluated
          exact settle_finite settled

theorem eval_ne_malformed (tree : Expr) :
    tree.eval free unit x ≠ .error .malformedProgram := by
  induction tree with
  | number constant =>
      intro stopped
      cases settle_fault stopped
  | name text =>
      intro stopped
      unfold Expr.eval at stopped
      by_cases same : text = free
      · rw [if_pos same] at stopped
        cases settle_fault stopped
      · rw [if_neg same] at stopped
        cases known : constant? text with
        | none =>
            rw [known] at stopped
            cases stopped
        | some constant =>
            rw [known] at stopped
            cases settle_fault stopped
  | binary left op right ihLeft ihRight =>
      intro stopped
      rcases bind_eq_error.mp stopped with stopped | ⟨a, -, stopped⟩
      · exact ihLeft stopped
      rcases bind_eq_error.mp stopped with stopped | ⟨b, -, stopped⟩
      · exact ihRight stopped
      rcases bind_eq_error.mp stopped with stopped | ⟨candidate, -, stopped⟩
      · cases binary_fault stopped
      · cases settle_fault stopped
  | neg operand ih =>
      intro stopped
      rcases bind_eq_error.mp stopped with stopped | ⟨a, -, stopped⟩
      · exact ih stopped
      · cases settle_fault stopped
  | call text argument ih =>
      intro stopped
      unfold Expr.eval at stopped
      cases known : Elementary.ofName? text with
      | none =>
          rw [known] at stopped
          cases stopped
      | some function =>
          rw [known] at stopped
          rcases bind_eq_error.mp stopped with stopped | ⟨a, -, stopped⟩
          · exact ih stopped
          rcases bind_eq_error.mp stopped with stopped | ⟨candidate, -, stopped⟩
          · cases function_fault stopped
          · cases settle_fault stopped

end Eval

/-- A compiled program means what its tree means, on any stack that is handed to it. -/
theorem execute_compiled {free : String} {tree : Expr} {program : Program}
    (compiled : tree.compile free = .ok program) (unit : AngleUnit) (x : α) (stack : List α) :
    ({ unit, x, stack } : Machine α).execute program = tree.eval free unit x ∧
      ({ unit, x, stack } : Machine α).execute program ≠ .error .malformedProgram ∧
      ∀ value, ({ unit, x, stack } : Machine α).execute program = .ok value →
        Scalar.isFinite value = true := by
  rw [execute_eq_eval unit x compiled stack]
  exact ⟨rfl, eval_ne_malformed tree, fun value evaluated => eval_finite evaluated⟩

theorem execute_compiled_quotient :
    let tree : Expr := .binary (.number 1) .div (.binary (.name "x") .sub (.name "x"))
    let program : Program := [.const 1, .load, .load, .binary .sub, .binary .div]
    let machine : Machine Float := { unit := .degrees, x := 3, stack := [7] }
    tree.compile "x" = .ok program ∧
      (machine.execute program = tree.eval "x" .degrees 3 ∧
        machine.execute program ≠ .error .malformedProgram ∧
        ∀ value, machine.execute program = .ok value → Scalar.isFinite value = true) ∧
      machine.execute program = .error .divisionByZero :=
  ⟨rfl, execute_compiled rfl .degrees 3 [7], rfl⟩

end Grapher
