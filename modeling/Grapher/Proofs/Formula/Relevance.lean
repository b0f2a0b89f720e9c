import Grapher.Formula.Machine
import Grapher.Formula.Meaning
import Grapher.Proofs.Formula.Step

namespace Grapher

/-- Whether the function takes or gives an angle. -/
def Elementary.Trigonometric : Elementary → Prop
  | sin | cos | tan | asin | acos | atan => True
  | exp | ln | log | sqrt | abs => False

def Program.Angleless (program : Program) : Prop :=
  ∀ function, Op.call function ∈ program → ¬function.Trigonometric

def Expr.Angleless (tree : Expr) : Prop :=
  ∀ text function, Mention.function text ∈ tree.mentions → Elementary.ofName? text = some function →
    ¬function.Trigonometric

section Machines

variable {α : Type} [Scalar α] {first second : Machine α} {program : Program} {op : Op}

/-- Two machines find the same at a step, whatever stack they have in common. -/
def Machine.AgreeOn (first second : Machine α) (op : Op) : Prop :=
  ∀ stack, ({ first with stack } : Machine α).outcome op =
    ({ second with stack } : Machine α).outcome op

theorem agreeOn_of_ne_load (other : op ≠ .load) (machine : Machine α) (x : α) :
    machine.AgreeOn { machine with x } op := by
  intro stack
  cases op with
  | load => exact absurd rfl other
  | const | binary | neg | call => rfl

theorem agreeOn_of_plain (plain : ∀ function, op = .call function → ¬function.Trigonometric)
    (machine : Machine α) (unit : AngleUnit) : machine.AgreeOn { machine with unit } op := by
  intro stack
  cases op with
  | call function =>
      cases stack with
      | nil => rfl
      | cons a stack =>
          cases function with
          | sin | cos | tan | asin | acos | atan => exact absurd trivial (plain _ rfl)
          | exp | ln | log | sqrt | abs => rfl
  | const | load | binary | neg => rfl

theorem step_agree (agree : first.AgreeOn second op) (stack : List α) :
    (∃ fault, ({ first with stack } : Machine α).step op = .error fault ∧
        ({ second with stack } : Machine α).step op = .error fault) ∨
      ∃ next, ({ first with stack } : Machine α).step op = .ok { first with stack := next } ∧
        ({ second with stack } : Machine α).step op = .ok { second with stack := next } := by
  rw [step_eq, step_eq, agree stack]
  cases ({ second with stack } : Machine α).outcome op with
  | error fault => exact .inl ⟨fault, rfl, rfl⟩
  | ok value =>
      cases settled : settle value with
      | error fault => exact .inl ⟨fault, by simp [bind, Except.bind, Machine.push, settled]⟩
      | ok top =>
          exact .inr ⟨top :: stack.drop op.arity, by
            simp [bind, Except.bind, Machine.push, settled, pure, Except.pure]⟩

theorem run_agree (agree : ∀ op ∈ program, first.AgreeOn second op) (stack : List α) :
    (∃ fault, ({ first with stack } : Machine α).run program = .error fault ∧
        ({ second with stack } : Machine α).run program = .error fault) ∨
      ∃ last, ({ first with stack } : Machine α).run program = .ok { first with stack := last } ∧
        ({ second with stack } : Machine α).run program = .ok { second with stack := last } := by
  induction program generalizing stack with
  | nil => exact .inr ⟨stack, rfl, rfl⟩
  | cons op program ih =>
      obtain ⟨here, others⟩ := List.forall_mem_cons.mp agree
      rw [run_cons, run_cons]
      rcases step_agree here stack with ⟨fault, stopped, stopped'⟩ | ⟨next, stepped, stepped'⟩
      · rw [stopped, stopped']
        exact .inl ⟨fault, rfl, rfl⟩
      · rw [stepped, stepped']
        exact ih others next

theorem execute_agree (agree : ∀ op ∈ program, first.AgreeOn second op) :
    first.execute program = second.execute program := by
  rcases run_agree agree [] with ⟨fault, stopped, stopped'⟩ | ⟨last, ran, ran'⟩
  · rw [execute_of_error stopped, execute_of_error stopped']
  · rw [Machine.execute, Machine.execute, Machine.emptied, Machine.emptied, ran, ran']
    rfl

theorem remains_agree (agree : ∀ op ∈ program, first.AgreeOn second op) (stack : List α) :
    ({ first with stack } : Machine α).remains program =
      ({ second with stack } : Machine α).remains program := by
  induction program generalizing stack with
  | nil => rfl
  | cons op program ih =>
      obtain ⟨here, others⟩ := List.forall_mem_cons.mp agree
      unfold Machine.remains
      rcases step_agree here stack with ⟨fault, stopped, stopped'⟩ | ⟨next, stepped, stepped'⟩
      · rw [stopped, stopped']
      · rw [stepped, stepped']
        exact ih others next

theorem agree_of_no_load (unread : .load ∉ program) (machine : Machine α) (x : α) :
    ∀ op ∈ program, machine.AgreeOn { machine with x } op :=
  fun _ member => agreeOn_of_ne_load (fun same => unread (same ▸ member)) machine x

theorem agree_of_angleless (angleless : program.Angleless) (machine : Machine α) (unit : AngleUnit) :
    ∀ op ∈ program, machine.AgreeOn { machine with unit } op :=
  fun _ member => agreeOn_of_plain (fun _ same => angleless _ (same ▸ member)) machine unit

theorem execute_variable (unread : .load ∉ program) (machine : Machine α) (x : α) :
    ({ machine with x } : Machine α).execute program = machine.execute program :=
  (execute_agree (agree_of_no_load unread machine x)).symm

theorem execute_angleless (angleless : program.Angleless) (machine : Machine α) (unit : AngleUnit) :
    ({ machine with unit } : Machine α).execute program = machine.execute program :=
  (execute_agree (agree_of_angleless angleless machine unit)).symm

end Machines

section Mentions

variable {free : String} {tree : Expr} {program : Program} {op : Op} {few more : List Mention}

def Op.MentionedIn (free : String) (mentions : List Mention) : Op → Prop
  | load => .value free ∈ mentions
  | call function => ∃ text, .function text ∈ mentions ∧ Elementary.ofName? text = some function
  | const _ | binary _ | neg => True

theorem Op.MentionedIn.mono (mentioned : op.MentionedIn free few) (within : few ⊆ more) :
    op.MentionedIn free more := by
  cases op with
  | load => exact within mentioned
  | call function =>
      obtain ⟨text, member, known⟩ := mentioned
      exact ⟨text, within member, known⟩
  | const | binary | neg => trivial

theorem compile_mentioned (compiled : tree.compile free = .ok program) (member : op ∈ program) :
    op.MentionedIn free tree.mentions := by
  induction tree generalizing program with
  | number value =>
      cases compiled
      cases List.mem_singleton.mp member
      trivial
  | name text =>
      rcases compile_name compiled with ⟨rfl, rfl⟩ | ⟨-, value, -, rfl⟩
      · cases List.mem_singleton.mp member
        exact List.mem_singleton_self _
      · cases List.mem_singleton.mp member
        trivial
  | binary left sign right ihLeft ihRight =>
      obtain ⟨first, second, compiledLeft, compiledRight, rfl⟩ := compile_binary compiled
      simp only [List.mem_append, List.mem_singleton] at member
      rcases member with (member | member) | rfl
      · exact (ihLeft compiledLeft member).mono (List.subset_append_left _ _)
      · exact (ihRight compiledRight member).mono (List.subset_append_right _ _)
      · trivial
  | neg operand ih =>
      obtain ⟨inner, compiledInner, rfl⟩ := compile_neg compiled
      simp only [List.mem_append, List.mem_singleton] at member
      rcases member with member | rfl
      · exact ih compiledInner member
      · trivial
  | call text argument ih =>
      obtain ⟨function, inner, known, compiledInner, rfl⟩ := compile_call compiled
      simp only [List.mem_append, List.mem_singleton] at member
      rcases member with member | rfl
      · exact (ih compiledInner member).mono (List.subset_cons_self _ _)
      · exact ⟨text, List.mem_cons_self, known⟩

theorem no_load_of_unmentioned (compiled : tree.compile free = .ok program)
    (unmentioned : .value free ∉ tree.mentions) : Op.load ∉ program :=
  fun member => unmentioned (compile_mentioned compiled member)

theorem angleless_of_tree (compiled : tree.compile free = .ok program) (angleless : tree.Angleless) :
    program.Angleless := by
  intro function member
  obtain ⟨text, mentioned, known⟩ := compile_mentioned compiled member
  exact angleless text function mentioned known

end Mentions

section Formulas

variable {α : Type} [Scalar α] {source : String} {unit : AngleUnit} {formula : Formula} {tree : Expr}

theorem ofText_eq_ok (read : Formula.ofText source unit = .ok formula) :
    ∃ tree, Expr.ofText source = .ok tree ∧
      tree.compile Formula.variableName = .ok formula.program := by
  obtain ⟨tree, parsed, read⟩ := bind_eq_ok.mp read
  obtain ⟨program, compiled, same⟩ := bind_eq_ok.mp read
  cases same
  exact ⟨tree, parsed, compiled⟩

theorem evaluate_variable (unread : .load ∉ formula.program) {x y : α}
    (finite : Scalar.isFinite x = true) (finite' : Scalar.isFinite y = true) :
    formula.evaluate x = formula.evaluate y := by
  unfold Formula.evaluate Formula.evaluateOn
  rw [if_pos finite, if_pos finite']
  exact execute_variable unread { unit := formula.unit, x := y } x

theorem evaluateOn_angleless (angleless : formula.program.Angleless) (unit : AngleUnit)
    (stack : List α) (x : α) :
    ({ formula with unit } : Formula).evaluateOn stack x = formula.evaluateOn stack x := by
  have agree := agree_of_angleless angleless ({ unit := formula.unit, x, stack } : Machine α) unit
  have executed := execute_agree agree
  have remains := remains_agree agree []
  unfold Formula.evaluateOn
  split
  · exact Prod.ext executed.symm remains.symm
  · rfl

end Formulas

end Grapher
