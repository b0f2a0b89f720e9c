import Grapher.Proofs.Formula.Step
import Grapher.Proofs.Number.Widening

namespace Grapher

variable {α : Type} [Scalar α] {machine next found : Machine α} {program : Program} {op : Op}
  {function : Elementary} {unit : AngleUnit} {a : α} {argument : Float}

namespace Elementary

/-- Whether a number is in the domain of the function. -/
def Admits (unit : AngleUnit) (a : α) : Elementary → Prop
  | tan => ¬(unit = .degrees ∧ isTangentPole a = true)
  | asin | acos => -1 ≤ Scalar.exact a ∧ Scalar.exact a ≤ 1
  | ln | log => 0 < Scalar.exact a
  | sqrt => 0 ≤ Scalar.exact a
  | sin | cos | atan | exp | abs => True

def Total : Elementary → Prop
  | sin | cos | atan | exp | abs => True
  | tan | asin | acos | ln | log | sqrt => False

theorem Total.admits (total : function.Total) : function.Admits unit a := by
  cases function with
  | sin | cos | atan | exp | abs => trivial
  | tan | asin | acos | ln | log | sqrt => cases total

theorem defined_iff [LawfulScalar α] (finite : Scalar.isFinite a = true) (function : Elementary) :
    function.defined unit a = true ↔ function.Admits unit a := by
  have within : (!(Scalar.less a (-Scalar.one) || Scalar.less Scalar.one a)) = true ↔
      -1 ≤ Scalar.exact a ∧ Scalar.exact a ≤ 1 := by
    have low := LawfulScalar.less_iff finite (LawfulScalar.minusOne (α := α)).1
    have high := LawfulScalar.less_iff (LawfulScalar.one (α := α)).1 finite
    rw [LawfulScalar.minusOne.2] at low
    rw [LawfulScalar.one.2] at high
    rw [Bool.not_eq_true', Bool.or_eq_false_iff, ← Bool.not_eq_true, ← Bool.not_eq_true, low, high,
      not_lt, not_lt]
  have positive : (!Scalar.lessEq a Scalar.zero) = true ↔ 0 < Scalar.exact a := by
    have sign := LawfulScalar.lessEq_iff finite (LawfulScalar.zero (α := α)).1
    rw [LawfulScalar.zero.2] at sign
    rw [Bool.not_eq_true', ← Bool.not_eq_true, sign, not_le]
  have nonneg : (!Scalar.less a Scalar.zero) = true ↔ 0 ≤ Scalar.exact a := by
    have sign := LawfulScalar.less_iff finite (LawfulScalar.zero (α := α)).1
    rw [LawfulScalar.zero.2] at sign
    rw [Bool.not_eq_true', ← Bool.not_eq_true, sign, not_lt]
  cases function with
  | tan => simp [defined, Admits, imp_iff_not_or]
  | asin | acos => exact within
  | ln | log => exact positive
  | sqrt => exact nonneg
  | sin | cos | atan | exp | abs => exact iff_of_true rfl trivial

theorem apply_of_admits [LawfulScalar α] (finite : Scalar.isFinite a = true)
    (inside : function.Admits unit a) : function.apply unit a = .ok (function.value unit a) :=
  if_pos ((defined_iff finite function).mpr inside)

theorem apply_of_not_admits [LawfulScalar α] (finite : Scalar.isFinite a = true)
    (outside : ¬function.Admits unit a) :
    function.apply unit a = .error (.domain function (Scalar.toFloat a)) :=
  if_neg fun inside => outside ((defined_iff finite function).mp inside)

end Elementary

theorem run_unit (ran : machine.run program = .ok next) : next.unit = machine.unit := by
  induction program generalizing machine with
  | nil =>
      cases ran
      rfl
  | cons op program ih =>
      obtain ⟨between, stepped, ran⟩ := bind_eq_ok.mp ran
      obtain ⟨value, -, -, rfl⟩ := step_eq_ok stepped
      exact (ih ran).trans rfl

/-- Only a call leaves a domain, with the number that it finds on top of the stack. -/
theorem step_domain :
    found.step op = .error (.domain function argument) ↔
      ∃ a below, op = .call function ∧ found.stack = a :: below ∧
        function.apply found.unit a = .error (.domain function argument) := by
  constructor
  · intro stopped
    rcases step_eq_error stopped with stopped | impossible
    · rcases outcome_fault stopped with
        ⟨called, a, below, rfl, top, stopped⟩ | impossible | ⟨impossible, -⟩
      · cases function_fault stopped
        exact ⟨a, below, rfl, top, stopped⟩
      · cases impossible
      · cases impossible
    · cases impossible
  · rintro ⟨a, below, rfl, top, stopped⟩
    refine step_of_outcome ?_
    rw [Machine.outcome, top]
    exact stopped

/-- A call in the run of an emptied machine finds a finite number. -/
theorem Machine.Calls.finite (calls : machine.emptied.Calls program function a) :
    Scalar.isFinite a = true := by
  obtain ⟨index, found, below, ⟨-, came⟩, top⟩ := calls
  exact run_settled (emptied_settled machine) came a (by simp [top])

theorem execute_domain :
    machine.execute program = .error (.domain function argument) ↔
      ∃ a, machine.emptied.Calls program function a ∧
        function.apply machine.unit a = .error (.domain function argument) := by
  constructor
  · intro stopped
    rcases raises_of_execute stopped with ⟨index, op, found, meets, stopped⟩ | impossible
    · obtain ⟨a, below, rfl, top, stopped⟩ := step_domain.mp stopped
      rw [run_unit meets.came] at stopped
      exact ⟨a, ⟨index, found, below, meets, top⟩, stopped⟩
    · cases impossible
  · rintro ⟨a, ⟨index, found, below, meets, top⟩, stopped⟩
    have unit : found.unit = machine.unit := (run_unit meets.came : _ = machine.emptied.unit)
    rw [← unit] at stopped
    exact execute_of_error (run_eq_error_iff.mpr
      ⟨index, _, found, meets, step_domain.mpr ⟨a, below, rfl, top, stopped⟩⟩)

/-- In every run each function is called with a finite number, and takes its value there exactly when the
number is in its domain. A run is left for a domain exactly when some call finds a number outside of it;
the fault tells the function and that number, which is finite, and the function is not a total one. -/
theorem execute_guards_domains [LawfulScalar α] (machine : Machine α) (program : Program) :
    (∀ function a, machine.emptied.Calls program function a →
        Scalar.isFinite a = true ∧
          (function.Admits machine.unit a ∧
              function.apply machine.unit a = .ok (function.value machine.unit a) ∨
            ¬function.Admits machine.unit a ∧
              function.apply machine.unit a = .error (.domain function (Scalar.toFloat a)))) ∧
      ∀ function argument,
        (machine.execute program = .error (.domain function argument) ↔
          ∃ a, machine.emptied.Calls program function a ∧ ¬function.Admits machine.unit a ∧
            argument = Scalar.toFloat a) ∧
        (machine.execute program = .error (.domain function argument) →
          argument.isFinite = true ∧ ¬function.Total ∧
            ∃ a, machine.emptied.Calls program function a ∧ ¬function.Admits machine.unit a ∧
              valueOfDouble argument = Scalar.exact a) := by
  have left (function argument) :
      machine.execute program = .error (.domain function argument) ↔
        ∃ a, machine.emptied.Calls program function a ∧ ¬function.Admits machine.unit a ∧
          argument = Scalar.toFloat a := by
    rw [execute_domain]
    refine exists_congr fun a => and_congr_right fun calls => ?_
    by_cases inside : function.Admits machine.unit a
    · rw [Elementary.apply_of_admits calls.finite inside]
      exact iff_of_false nofun fun outside => outside.1 inside
    · rw [Elementary.apply_of_not_admits calls.finite inside]
      constructor
      · intro same
        cases same
        exact ⟨inside, rfl⟩
      · rintro ⟨-, rfl⟩
        rfl
  refine ⟨fun function a calls => ⟨calls.finite, ?_⟩, fun function argument =>
    ⟨left function argument, fun stopped => ?_⟩⟩
  · by_cases inside : function.Admits machine.unit a
    · exact .inl ⟨inside, Elementary.apply_of_admits calls.finite inside⟩
    · exact .inr ⟨inside, Elementary.apply_of_not_admits calls.finite inside⟩
  · obtain ⟨a, calls, outside, rfl⟩ := (left function argument).mp stopped
    exact ⟨LawfulScalar.toFloat_finite calls.finite, fun total => outside total.admits,
      a, calls, outside, LawfulScalar.toFloat_value calls.finite⟩

theorem execute_guards_domains_root :
    Scalar.isFinite (-4 : Float) = true ∧
      (({ unit := .degrees, x := -4 } : Machine Float).execute [.load, .call .sqrt] =
          .error (.domain .sqrt (-4)) ∧
        (-4 : Float).isFinite = true) ∧
      ({ unit := .radians, x := -0, stack := [1] } : Machine Float32).execute [.load, .call .ln] =
          .error (.domain .ln (-0)) ∧
        ∃ a : Float32, valueOfDouble (-0) = Scalar.exact a := by
  have settled : settle (-4 : Float) = .ok (-4) := rfl
  have came : ({ unit := .degrees, x := -4 } : Machine Float).emptied.run [.load] =
      .ok { unit := .degrees, x := -4, stack := [-4] } := by
    rw [Machine.run, Machine.step, Machine.push, Machine.emptied, settled]
    rfl
  have outside : ({ unit := .degrees, x := -4 } : Machine Float).execute [.load, .call .sqrt] =
      .error (.domain .sqrt (-4)) := rfl
  have outside' : ({ unit := .radians, x := -0, stack := [1] } : Machine Float32).execute
      [.load, .call .ln] = .error (.domain .ln (-0)) := rfl
  obtain ⟨guarded, left⟩ := execute_guards_domains
    ({ unit := .degrees, x := -4 } : Machine Float) [.load, .call .sqrt]
  obtain ⟨-, left'⟩ := execute_guards_domains
    ({ unit := .radians, x := -0, stack := [1] } : Machine Float32) [.load, .call .ln]
  obtain ⟨a, -, -, same⟩ := ((left' .ln (-0)).2 outside').2.2
  exact ⟨(guarded .sqrt (-4) ⟨1, _, [], ⟨rfl, came⟩, rfl⟩).1,
    ⟨outside, ((left .sqrt (-4)).2 outside).1⟩, outside', a, same⟩

end Grapher
