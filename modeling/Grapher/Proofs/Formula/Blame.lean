import Grapher.Formula.Machine
import Grapher.Proofs.Formula.Parallel
import Grapher.Proofs.Formula.Step

/-!
Where faults come from. A text that is not read or not compiled is to blame itself, whatever the unit of
angles, and a program that was compiled never is.
-/

namespace Grapher

open Reader

/-- Every fault there may be is one of the text. -/
def BlamesText {β : Type} (result : Except Fault β) : Prop :=
  ∀ fault, result = .error fault → fault.kind = .parse

namespace BlamesText

variable {β γ : Type}

theorem ok (value : β) : BlamesText (.ok value) := nofun

theorem error {fault : Fault} (own : fault.kind = .parse) : BlamesText (.error fault : Except Fault β) := by
  intro other same
  cases same
  exact own

theorem bind {first : Except Fault β} {next : β → Except Fault γ} (blames : BlamesText first)
    (goes : ∀ value, BlamesText (next value)) : BlamesText (first >>= next) := by
  intro fault stopped
  rcases bind_eq_error.mp stopped with stopped | ⟨value, -, stopped⟩
  · exact blames fault stopped
  · exact goes value fault stopped

theorem map {result : Except Fault β} (blames : BlamesText result) (change : β → γ) :
    BlamesText (result.map change) := by
  cases result with
  | ok value => exact ok _
  | error fault => exact error (blames fault rfl)

end BlamesText

theorem first_blames (c : Char) (cs : List Char) : BlamesText (Token.first c cs) := by
  unfold Token.first
  split
  · refine BlamesText.map ?_ _
    unfold Token.ofNumber
    split
    · exact .ok _
    · exact .error rfl
  · split
    · exact .ok _
    · split
      · exact .ok _
      · exact .error rfl

theorem scan_blames (room : Nat) (text : List Char) : BlamesText (Token.scan room text) := by
  induction room generalizing text with
  | zero =>
      unfold Token.scan
      split
      · exact .ok _
      · split
        · rename_i fault read
          exact .error (first_blames _ _ fault read)
        · exact .error rfl
  | succ room ih =>
      unfold Token.scan
      split
      · exact .ok _
      · split
        · rename_i fault read
          exact .error (first_blames _ _ fault read)
        · exact (ih _).map _

theorem whole_blames (levels : Nat) (input : List Token) : BlamesText (whole levels input) := by
  intro fault stopped
  cases input with
  | nil =>
      cases stopped
      rfl
  | cons token input =>
      rcases whole_fault (List.cons_ne_nil token input) stopped with ⟨expected, found, rfl⟩ | rfl
      · rfl
      · rfl

theorem compile_blames (free : String) (tree : Expr) : BlamesText (tree.compile free) := by
  induction tree with
  | number value => exact .ok _
  | name text =>
      unfold Expr.compile
      split
      · exact .ok _
      · split
        · exact .ok _
        · exact .error rfl
  | binary left op right ihLeft ihRight =>
      exact ihLeft.bind fun _ => ihRight.bind fun _ => .ok _
  | neg operand ih => exact ih.bind fun _ => .ok _
  | call text argument ih =>
      unfold Expr.compile
      split
      · exact .error rfl
      · exact ih.bind fun _ => .ok _

theorem ofText_blames (source : String) (unit : AngleUnit) :
    BlamesText (Formula.ofText source unit) := by
  have read : BlamesText (Expr.ofText source) :=
    (scan_blames _ _).bind fun tokens => whole_blames _ tokens
  exact read.bind fun tree => (compile_blames _ tree).bind fun _ => .ok _

theorem ofText_unit (source : String) (unit other : AngleUnit) :
    Formula.ofText source other =
      (Formula.ofText source unit).map fun formula => { formula with unit := other } := by
  unfold Formula.ofText
  cases Expr.ofText source with
  | error fault => rfl
  | ok tree =>
      cases compiled : tree.compile Formula.variableName with
      | error fault => simp [bind, Except.bind, compiled, Except.map]
      | ok program => simp [bind, Except.bind, compiled, Except.map, pure, Except.pure]

section Machines

variable {α : Type} [Scalar α] {machine : Machine α} {fault : Fault}

/-- A fault that a running program may have: one of its values, or one of the program itself. -/
def Fault.OfMachine (fault : Fault) : Prop :=
  fault.kind = .domain ∨ fault.kind = .arithmetic ∨ fault = .malformedProgram

theorem step_fault {op : Op} (stopped : machine.step op = .error fault) : fault.OfMachine := by
  rcases step_eq_error stopped with stopped | rfl
  · rcases outcome_fault stopped with ⟨function, a, below, -, -, stopped⟩ | rfl | ⟨rfl, -⟩
    · cases function_fault stopped
      exact .inl rfl
    · exact .inr (.inl rfl)
    · exact .inr (.inr rfl)
  · exact .inr (.inl rfl)

theorem run_fault {program : Program} (stopped : machine.run program = .error fault) :
    fault.OfMachine := by
  induction program generalizing machine with
  | nil => cases stopped
  | cons op program ih =>
      rcases bind_eq_error.mp stopped with stopped | ⟨next, -, stopped⟩
      · exact step_fault stopped
      · exact ih stopped

theorem execute_fault {program : Program} (stopped : machine.execute program = .error fault) :
    fault.OfMachine := by
  rcases bind_eq_error.mp stopped with stopped | ⟨last, -, stopped⟩
  · exact run_fault stopped
  · split at stopped
    · cases stopped
    · cases stopped
      exact .inr (.inr rfl)

theorem evaluate_fault {source : String} {unit : AngleUnit} {formula : Formula}
    (read : Formula.ofText source unit = .ok formula) {x : α}
    (stopped : formula.evaluate x = .error fault) :
    fault.kind = .domain ∨ fault.kind = .arithmetic := by
  obtain ⟨tree, -, read⟩ := bind_eq_ok.mp read
  obtain ⟨program, compiled, same⟩ := bind_eq_ok.mp read
  cases same
  unfold Formula.evaluate Formula.evaluateOn at stopped
  split at stopped
  · change ({ unit, x, stack := [] } : Machine α).execute program = .error fault at stopped
    rcases execute_fault stopped with domain | arithmetic | rfl
    · exact .inl domain
    · exact .inr arithmetic
    · rw [execute_eq_eval unit x compiled []] at stopped
      exact absurd stopped (eval_ne_malformed tree)
  · cases stopped
    exact .inr rfl

end Machines

end Grapher
