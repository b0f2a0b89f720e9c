import Grapher.Formula.Meaning
import Grapher.Proofs.Formula.Step

namespace Grapher

variable {α : Type} [Scalar α] {machine next : Machine α} {program : Program} {op : Op}
  {height after index : Nat} {fault : Fault}

/-- A fault of a value on the way, none of the program. -/
def Fault.OfValue (fault : Fault) : Prop :=
  fault = .nonFinite ∨ fault = .divisionByZero ∨
    ∃ function argument, fault = .domain function argument

theorem Fault.OfValue.ne_malformed (ofValue : fault.OfValue) : fault ≠ .malformedProgram := by
  rcases ofValue with rfl | rfl | ⟨function, argument, rfl⟩ <;> exact nofun

theorem heightAfter?_eq (op : Op) (height : Nat) :
    op.heightAfter? height = if op.arity ≤ height then some (height - op.arity + 1) else none := by
  cases op with
  | const value => rfl
  | load => rfl
  | binary op =>
      cases height with
      | zero => rfl
      | succ height => cases height <;> simp [Op.heightAfter?, Op.arity]
  | neg => cases height <;> simp [Op.heightAfter?, Op.arity]
  | call function => cases height <;> simp [Op.heightAfter?, Op.arity]

theorem heightAfter?_eq_some (stands : op.heightAfter? height = some after) :
    op.arity ≤ height ∧ after = height - op.arity + 1 := by
  rw [heightAfter?_eq] at stands
  by_cases enough : op.arity ≤ height
  · rw [if_pos enough] at stands
    cases stands
    exact ⟨enough, rfl⟩
  · rw [if_neg enough] at stands
    cases stands

theorem heightAfter?_eq_none (lacks : op.heightAfter? height = none) : height < op.arity := by
  rw [heightAfter?_eq] at lacks
  by_cases enough : op.arity ≤ height
  · rw [if_pos enough] at lacks
    cases lacks
  · exact Nat.lt_of_not_le enough

theorem step_unsupported (lacks : op.heightAfter? machine.stack.length = none) :
    machine.step op = .error .malformedProgram :=
  step_of_outcome (outcome_lacking (heightAfter?_eq_none lacks))

theorem step_height (stands : op.heightAfter? machine.stack.length = some height)
    (stepped : machine.step op = .ok next) : next.stack.length = height := by
  obtain ⟨value, -, -, rfl⟩ := step_eq_ok stepped
  rw [(heightAfter?_eq_some stands).2]
  exact congrArg (· + 1) List.length_drop

theorem step_ofValue (stands : op.heightAfter? machine.stack.length = some height)
    (stopped : machine.step op = .error fault) : fault.OfValue := by
  rcases step_eq_error stopped with stopped | rfl
  · rcases outcome_fault stopped with ⟨function, a, below, -, -, stopped⟩ | rfl | ⟨rfl, lacks⟩
    · exact .inr (.inr ⟨function, _, function_fault stopped⟩)
    · exact .inr (.inl rfl)
    · exact absurd (heightAfter?_eq_some stands).1 (Nat.not_le.mpr lacks)
  · exact .inl rfl

theorem raises_ofValue (before : index < program.supported machine.stack.length)
    (raises : machine.Raises program index fault) : fault.OfValue := by
  induction program generalizing machine index with
  | nil => exact absurd before (Nat.not_lt_zero index)
  | cons op program ih =>
      unfold Program.supported at before
      cases stands : op.heightAfter? machine.stack.length with
      | none =>
          rw [stands] at before
          exact absurd before (Nat.not_lt_zero index)
      | some height =>
          rw [stands] at before
          cases stepped : machine.step op with
          | error cause =>
              obtain ⟨other, found, meets, stopped⟩ := raises
              cases index with
              | zero =>
                  obtain ⟨rfl, rfl⟩ := meets.at_first
                  exact step_ofValue stands stopped
              | succ index => exact absurd meets (not_meets_later stepped)
          | ok next =>
              cases index with
              | zero => exact absurd raises (not_raises_first stepped)
              | succ index =>
                  rw [← step_height stands stepped] at before
                  exact ih (Nat.lt_of_succ_lt_succ before) ((raises_later stepped).mp raises)

theorem run_height
    (calm : ∀ index < program.supported machine.stack.length, ∀ fault,
      ¬machine.Raises program index fault) :
    match program.heightAfter? machine.stack.length with
    | some height => ∃ last, machine.run program = .ok last ∧ last.stack.length = height
    | none => machine.run program = .error .malformedProgram := by
  -- As long as no value fails, the stack is as high as the program tells.
  induction program generalizing machine with
  | nil => exact ⟨machine, rfl, rfl⟩
  | cons op program ih =>
      unfold Program.supported at calm
      unfold Program.heightAfter?
      rw [run_cons]
      cases stands : op.heightAfter? machine.stack.length with
      | none =>
          rw [step_unsupported stands]
          rfl
      | some height =>
          rw [stands] at calm
          cases stepped : machine.step op with
          | error fault => exact absurd (raises_first stepped) (calm 0 (Nat.succ_pos _) fault)
          | ok next =>
              have below := step_height stands stepped
              subst below
              refine ih fun index before fault raises => ?_
              exact calm (index + 1) (Nat.succ_lt_succ before) fault ((raises_later stepped).mpr raises)

/-- A run fails through a value before any step lacks operands, or no value fails and the height alone
decides. -/
theorem execute_outcome (machine : Machine α) (program : Program) :
    (∃ index < program.supported 0, ∃ fault, machine.emptied.Raises program index fault ∧
        fault.OfValue ∧ machine.execute program = .error fault) ∨
      (∀ index < program.supported 0, ∀ fault, ¬machine.emptied.Raises program index fault) ∧
        (program.heightAfter? 0 = some 1 ∧ (∃ value, machine.execute program = .ok value) ∨
          program.heightAfter? 0 ≠ some 1 ∧ machine.execute program = .error .malformedProgram) := by
  by_cases raises : ∃ index < program.supported 0, ∃ fault, machine.emptied.Raises program index fault
  · obtain ⟨index, before, fault, raises⟩ := raises
    refine .inl ⟨index, before, fault, raises, ?_, ?_⟩
    · exact raises_ofValue (show index < program.supported machine.emptied.stack.length from before) raises
    · exact execute_of_error (run_eq_error_iff.mpr ⟨index, raises⟩)
  · have calm : ∀ index < program.supported machine.emptied.stack.length, ∀ fault,
        ¬machine.emptied.Raises program index fault :=
      fun index before fault found => raises ⟨index, before, fault, found⟩
    refine .inr ⟨calm, ?_⟩
    have ran := run_height calm
    have start : machine.emptied.stack.length = 0 := rfl
    rw [start] at ran
    cases told : program.heightAfter? 0 with
    | none =>
        rw [told] at ran
        exact .inr ⟨nofun, execute_of_error ran⟩
    | some height =>
        rw [told] at ran
        obtain ⟨last, ran, rfl⟩ := ran
        rcases execute_of_ok ran with ⟨value, alone, executed⟩ | ⟨other, malformed⟩
        · exact .inl ⟨by rw [alone]; rfl, value, executed⟩
        · exact .inr ⟨fun same => other (Option.some.inj same), malformed⟩

/-- The height told from a program decides whether a run of it can be malformed. If every step has its
operands and the height is one in the end, no run is, at no place, unit and precision. Otherwise no run
has a value: it is malformed, or a step before the first that lacks operands fails through its value. What
was on the stack before does not count. -/
theorem execute_by_height (machine : Machine α) (program : Program) :
    (program.heightAfter? 0 = some 1 → machine.execute program ≠ .error .malformedProgram) ∧
      (program.heightAfter? 0 ≠ some 1 →
        ∃ fault, machine.execute program = .error fault ∧
          ((∃ index < program.supported 0,
              machine.emptied.Raises program index fault ∧ fault.OfValue) ∨
            fault = .malformedProgram ∧
              ∀ index < program.supported 0, ∀ other, ¬machine.emptied.Raises program index other)) ∧
      ∀ stack, ({ machine with stack } : Machine α).execute program = machine.execute program := by
  refine ⟨?_, ?_, fun stack => rfl⟩
  all_goals
    rcases execute_outcome machine program with
      ⟨index, before, fault, raises, ofValue, stopped⟩ |
        ⟨calm, ⟨balanced, value, executed⟩ | ⟨unbalanced, malformed⟩⟩
  · rw [stopped]
    exact fun _ same => ofValue.ne_malformed (Except.error.inj same)
  · rw [executed]
    exact fun _ => nofun
  · exact fun balanced => absurd balanced unbalanced
  · exact fun _ => ⟨fault, stopped, .inl ⟨index, before, raises, ofValue⟩⟩
  · exact fun unbalanced => absurd balanced unbalanced
  · exact fun _ => ⟨.malformedProgram, malformed, .inr ⟨rfl, calm⟩⟩

theorem execute_by_height_quotient :
    let machine : Machine Float := { unit := .radians, x := 0, stack := [1, 2, 3] }
    let quotient : Program := [.const 1, .load, .binary .div]
    let lacking : Program := [.const 1, .load, .binary .div, .binary .add]
    (quotient.heightAfter? 0 = some 1 ∧ machine.execute quotient ≠ .error .malformedProgram) ∧
      lacking.heightAfter? 0 ≠ some 1 ∧ machine.execute lacking = .error .divisionByZero ∧
        ∃ index < 3, machine.emptied.Raises lacking index .divisionByZero := by
  refine ⟨⟨rfl, (execute_by_height _ _).1 rfl⟩, nofun, rfl, ?_⟩
  obtain ⟨fault, stopped, found⟩ := (execute_by_height
    ({ unit := .radians, x := 0, stack := [1, 2, 3] } : Machine Float)
    [.const 1, .load, .binary .div, .binary .add]).2.1 nofun
  cases stopped
  rcases found with ⟨index, before, raises, -⟩ | ⟨other, -⟩
  · exact ⟨index, before, raises⟩
  · cases other

end Grapher
