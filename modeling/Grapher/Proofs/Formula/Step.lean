import Grapher.Proofs.Formula.Compilation
import Grapher.Formula.Meaning
import Grapher.Formula.Machine

namespace Grapher

section Step

variable {α : Type} [Scalar α] {machine next : Machine α} {op : Op} {fault : Fault}

def Machine.outcome (machine : Machine α) : Op → Except Fault α
  | .const value => .ok (Scalar.ofFloat value)
  | .load => .ok machine.x
  | .binary op =>
    match machine.stack with
    | b :: a :: _ => op.apply a b
    | _ => .error .malformedProgram
  | .neg =>
    match machine.stack with
    | a :: _ => .ok (-a)
    | [] => .error .malformedProgram
  | .call function =>
    match machine.stack with
    | a :: _ => function.apply machine.unit a
    | [] => .error .malformedProgram

theorem step_eq (machine : Machine α) (op : Op) :
    machine.step op = machine.outcome op >>= machine.push (machine.stack.drop op.arity) := by
  obtain ⟨unit, x, stack⟩ := machine
  cases op with
  | const value => rfl
  | load => rfl
  | binary op =>
      cases stack with
      | nil => rfl
      | cons b stack => cases stack <;> rfl
  | neg => cases stack <;> rfl
  | call function => cases stack <;> rfl

theorem step_eq_ok (stepped : machine.step op = .ok next) :
    ∃ value, machine.outcome op = .ok value ∧ Scalar.isFinite value = true ∧
      next = { machine with stack := value :: machine.stack.drop op.arity } := by
  rw [step_eq] at stepped
  obtain ⟨value, found, pushed⟩ := bind_eq_ok.mp stepped
  obtain ⟨top, settled, same⟩ := bind_eq_ok.mp pushed
  cases same
  obtain ⟨finite, rfl⟩ := settle_eq_ok settled
  exact ⟨_, found, finite, rfl⟩

theorem step_eq_error (stopped : machine.step op = .error fault) :
    machine.outcome op = .error fault ∨ fault = .nonFinite := by
  rw [step_eq] at stopped
  rcases bind_eq_error.mp stopped with stopped | ⟨value, -, stopped⟩
  · exact .inl stopped
  · rcases bind_eq_error.mp stopped with stopped | ⟨top, -, impossible⟩
    · exact .inr (settle_fault stopped)
    · cases impossible

theorem step_of_outcome (stopped : machine.outcome op = .error fault) :
    machine.step op = .error fault := by
  rw [step_eq, stopped]
  rfl

theorem outcome_lacking (lacks : machine.stack.length < op.arity) :
    machine.outcome op = .error .malformedProgram := by
  obtain ⟨unit, x, stack⟩ := machine
  cases op with
  | const value => cases lacks
  | load => cases lacks
  | binary op =>
      cases stack with
      | nil => rfl
      | cons b stack =>
          cases stack with
          | nil => rfl
          | cons a stack => exact absurd lacks (Nat.not_lt.mpr (Nat.le_add_left 2 _))
  | neg =>
      cases stack with
      | nil => rfl
      | cons a stack => exact absurd lacks (Nat.not_lt.mpr (Nat.le_add_left 1 _))
  | call function =>
      cases stack with
      | nil => rfl
      | cons a stack => exact absurd lacks (Nat.not_lt.mpr (Nat.le_add_left 1 _))

/-- Why there is no value: a function has none at what is on top of the stack, a divisor is zero, or there
are too few operands. -/
theorem outcome_fault (stopped : machine.outcome op = .error fault) :
    (∃ function a below, op = .call function ∧ machine.stack = a :: below ∧
        function.apply machine.unit a = .error fault) ∨
      fault = .divisionByZero ∨
      fault = .malformedProgram ∧ machine.stack.length < op.arity := by
  obtain ⟨unit, x, stack⟩ := machine
  cases op with
  | const value => cases stopped
  | load => cases stopped
  | binary op =>
      cases stack with
      | nil =>
          cases stopped
          exact .inr (.inr ⟨rfl, by simp [Op.arity]⟩)
      | cons b stack =>
          cases stack with
          | nil =>
              cases stopped
              exact .inr (.inr ⟨rfl, by simp [Op.arity]⟩)
          | cons a stack => exact .inr (.inl (binary_fault stopped))
  | neg =>
      cases stack with
      | nil =>
          cases stopped
          exact .inr (.inr ⟨rfl, by simp [Op.arity]⟩)
      | cons a stack => cases stopped
  | call function =>
      cases stack with
      | nil =>
          cases stopped
          exact .inr (.inr ⟨rfl, by simp [Op.arity]⟩)
      | cons a stack => exact .inl ⟨function, a, stack, rfl, rfl, stopped⟩

end Step

section Course

variable {α : Type} [Scalar α] {machine next found : Machine α} {program : Program} {op first : Op}
  {index : Nat} {fault : Fault}

theorem meets_first (machine : Machine α) (op : Op) (program : Program) :
    machine.Meets (op :: program) 0 op machine :=
  ⟨rfl, rfl⟩

theorem Machine.Meets.at_first (meets : machine.Meets (first :: program) 0 op found) :
    op = first ∧ found = machine := by
  obtain ⟨here, came⟩ := meets
  cases here
  cases came
  exact ⟨rfl, rfl⟩

theorem meets_later (stepped : machine.step first = .ok next) :
    machine.Meets (first :: program) (index + 1) op found ↔ next.Meets program index op found := by
  constructor
  · rintro ⟨here, came⟩
    rw [List.take_succ_cons, run_cons, stepped] at came
    exact ⟨here, came⟩
  · rintro ⟨here, came⟩
    refine ⟨here, ?_⟩
    rw [List.take_succ_cons, run_cons, stepped]
    exact came

theorem not_meets_later (stopped : machine.step first = .error fault) :
    ¬machine.Meets (first :: program) (index + 1) op found := by
  rintro ⟨-, came⟩
  rw [List.take_succ_cons, run_cons, stopped] at came
  cases came

theorem raises_first (stopped : machine.step op = .error fault) :
    machine.Raises (op :: program) 0 fault :=
  ⟨op, machine, meets_first machine op program, stopped⟩

theorem raises_later (stepped : machine.step first = .ok next) :
    machine.Raises (first :: program) (index + 1) fault ↔ next.Raises program index fault := by
  unfold Machine.Raises
  simp only [meets_later stepped]

theorem not_raises_first (stepped : machine.step op = .ok next) :
    ¬machine.Raises (op :: program) 0 fault := by
  rintro ⟨other, found, meets, stopped⟩
  obtain ⟨rfl, rfl⟩ := meets.at_first
  rw [stepped] at stopped
  cases stopped

theorem run_eq_error_iff :
    machine.run program = .error fault ↔ ∃ index, machine.Raises program index fault := by
  induction program generalizing machine with
  | nil =>
      constructor
      · exact nofun
      · rintro ⟨index, op, found, ⟨here, -⟩, -⟩
        cases here
  | cons op program ih =>
      rw [run_cons]
      cases stepped : machine.step op with
      | error cause =>
          constructor
          · intro stopped
            cases stopped
            exact ⟨0, raises_first stepped⟩
          · rintro ⟨index, other, found, meets, stopped⟩
            cases index with
            | zero =>
                obtain ⟨rfl, rfl⟩ := meets.at_first
                exact stepped.symm.trans stopped
            | succ index => exact absurd meets (not_meets_later stepped)
      | ok next =>
          constructor
          · intro stopped
            obtain ⟨index, raises⟩ := ih.mp stopped
            exact ⟨index + 1, (raises_later stepped).mpr raises⟩
          · rintro ⟨index, raises⟩
            cases index with
            | zero => exact absurd raises (not_raises_first stepped)
            | succ index => exact ih.mpr ⟨index, (raises_later stepped).mp raises⟩

theorem execute_of_error (stopped : machine.emptied.run program = .error fault) :
    machine.execute program = .error fault := by
  rw [Machine.execute, stopped]
  rfl

theorem execute_of_ok {last : Machine α} (ran : machine.emptied.run program = .ok last) :
    (∃ value, last.stack = [value] ∧ machine.execute program = .ok value) ∨
      last.stack.length ≠ 1 ∧ machine.execute program = .error .malformedProgram := by
  rw [Machine.execute, ran]
  obtain ⟨unit, x, stack⟩ := last
  cases stack with
  | nil => exact .inr ⟨Nat.zero_ne_one, rfl⟩
  | cons value below =>
      cases below with
      | nil => exact .inl ⟨value, rfl, rfl⟩
      | cons => exact .inr ⟨by simp, rfl⟩

/-- Beyond the faults of its steps a run has that of the end only. -/
theorem raises_of_execute (stopped : machine.execute program = .error fault) :
    (∃ index, machine.emptied.Raises program index fault) ∨ fault = .malformedProgram := by
  cases ran : machine.emptied.run program with
  | error cause =>
      rw [execute_of_error ran] at stopped
      cases stopped
      exact .inl (run_eq_error_iff.mp ran)
  | ok last =>
      rcases execute_of_ok ran with ⟨value, -, executed⟩ | ⟨-, malformed⟩
      · rw [executed] at stopped
        cases stopped
      · rw [malformed] at stopped
        cases stopped
        exact .inr rfl

end Course

section Finite

variable {α : Type} [Scalar α] {machine next : Machine α}

def Machine.Settled (machine : Machine α) : Prop :=
  ∀ value ∈ machine.stack, Scalar.isFinite value = true

theorem emptied_settled (machine : Machine α) : machine.emptied.Settled := nofun

theorem step_settled {op : Op} (settled : machine.Settled) (stepped : machine.step op = .ok next) :
    next.Settled := by
  obtain ⟨top, -, finite, rfl⟩ := step_eq_ok stepped
  intro value member
  rcases List.mem_cons.mp member with rfl | below
  · exact finite
  · exact settled value (List.mem_of_mem_drop below)

theorem run_settled {program : Program} (settled : machine.Settled)
    (ran : machine.run program = .ok next) : next.Settled := by
  induction program generalizing machine with
  | nil =>
      cases ran
      exact settled
  | cons op program ih =>
      obtain ⟨between, stepped, ran⟩ := bind_eq_ok.mp ran
      exact ih (step_settled settled stepped) ran

theorem execute_finite {program : Program} {value : α}
    (executed : machine.execute program = .ok value) : Scalar.isFinite value = true := by
  obtain ⟨last, ran, executed⟩ := bind_eq_ok.mp executed
  have settled := run_settled (emptied_settled machine) ran
  split at executed
  · rename_i top alone
    cases executed
    exact settled _ (by simp [alone])
  · cases executed

theorem evaluate_finite {formula : Formula} {x y : α} (value : formula.evaluate x = .ok y) :
    Scalar.isFinite x = true ∧ Scalar.isFinite y = true := by
  unfold Formula.evaluate Formula.evaluateOn at value
  split at value
  · rename_i finite
    exact ⟨finite, execute_finite value⟩
  · cases value

end Finite

end Grapher
