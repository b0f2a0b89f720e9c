import Grapher.Formula.Machine

/-!
What a tree and a program mean, said without running them on a stack.
-/

namespace Grapher

section Meaning

variable {α : Type} [Scalar α]

/-- The left operand comes before the right one, and the first fault ends the evaluation. -/
def Expr.eval (free : String) (unit : AngleUnit) (x : α) : Expr → Except Fault α
  | number value => settle (Scalar.ofFloat value)
  | name text =>
    if text = free then settle x
    else match constant? text with
      | some value => settle (Scalar.ofFloat value)
      | none => .error (.unknownVariable text)
  | binary left op right => do
    let a ← left.eval free unit x
    let b ← right.eval free unit x
    settle (← op.apply a b)
  | neg operand => do
    let a ← operand.eval free unit x
    settle (-a)
  | call text argument =>
    match Elementary.ofName? text with
    | none => .error (.unknownFunction text)
    | some function => do
      let a ← argument.eval free unit x
      settle (← function.apply unit a)

end Meaning

inductive Mention where
  | function (text : String)
  | value (text : String)
  deriving DecidableEq

namespace Mention

def Known (free : String) : Mention → Prop
  | function text => (Elementary.ofName? text).isSome
  | value text => text = free ∨ text = "pi" ∨ text = "e"

def fault : Mention → Fault
  | function text => .unknownFunction text
  | value text => .unknownVariable text

end Mention

/-- The fault is that of the first name that stands for nothing. -/
def FirstUnknown (free : String) (mentions : List Mention) (fault : Fault) : Prop :=
  ∃ before mention after, mentions = before ++ mention :: after ∧
    (∀ other ∈ before, other.Known free) ∧ ¬mention.Known free ∧ fault = mention.fault

namespace Expr

def mentions : Expr → List Mention
  | number _ => []
  | name text => [.value text]
  | binary left _ right => left.mentions ++ right.mentions
  | neg operand => operand.mentions
  | call text argument => .function text :: argument.mentions

/-- The numbers and names that stand for values, from left to right. -/
def leaves : Expr → List Expr
  | number value => [number value]
  | name text => [name text]
  | binary left _ right => left.leaves ++ right.leaves
  | neg operand => operand.leaves
  | call _ argument => argument.leaves

/-- The step that puts the value of a leaf on the stack. The free variable hides a constant of its
name. -/
inductive Loads (free : String) : Expr → Op → Prop where
  | number (value : Float) : Loads free (.number value) (.const value)
  | variable : Loads free (.name free) .load
  | pi (own : "pi" ≠ free) : Loads free (.name "pi") (.const pi)
  | euler (own : "e" ≠ free) : Loads free (.name "e") (.const euler)

end Expr

def Op.loads : Op → Bool
  | .const _ | .load => true
  | _ => false

namespace Expr

def nodes : Expr → Nat
  | number _ | name _ => 1
  | binary left _ right => left.nodes + right.nodes + 1
  | neg operand => operand.nodes + 1
  | call _ argument => argument.nodes + 1

def height : Expr → Nat
  | number _ | name _ => 1
  | binary left _ right => max left.height right.height + 1
  | neg operand => operand.height + 1
  | call _ argument => argument.height + 1

/-- The trees whose compilation is under way at some moment, the innermost one first. A right operand
waits for the left one, and the argument of a call for its name. -/
inductive Compiling (free : String) (tree : Expr) : List Expr → Prop where
  | whole : Compiling free tree [tree]
  | left {left op right outer} (above : Compiling free tree (.binary left op right :: outer)) :
      Compiling free tree (left :: .binary left op right :: outer)
  | right {left op right outer program} (above : Compiling free tree (.binary left op right :: outer))
      (done : left.compile free = .ok program) :
      Compiling free tree (right :: .binary left op right :: outer)
  | operand {operand outer} (above : Compiling free tree (.neg operand :: outer)) :
      Compiling free tree (operand :: .neg operand :: outer)
  | argument {text argument outer function} (above : Compiling free tree (.call text argument :: outer))
      (known : Elementary.ofName? text = some function) :
      Compiling free tree (argument :: .call text argument :: outer)

end Expr

/-- The height after a step, if a stack of the given height has its operands. -/
def Op.heightAfter? : Op → Nat → Option Nat
  | const _, height | load, height => some (height + 1)
  | binary _, height + 2 => some (height + 1)
  | neg, height + 1 | call _, height + 1 => some (height + 1)
  | _, _ => none

namespace Program

def heightAfter? (height : Nat) : Program → Option Nat
  | [] => some height
  | op :: program =>
    match op.heightAfter? height with
    | some next => heightAfter? next program
    | none => none

/-- How many steps have their operands, up to the first that has not. -/
def supported (height : Nat) : Program → Nat
  | [] => 0
  | op :: program =>
    match op.heightAfter? height with
    | some next => supported next program + 1
    | none => 0

end Program

section Course

variable {α : Type} [Scalar α]

namespace Machine

/-- A run comes to the step at an index and finds a machine there, all steps before it done. -/
structure Meets (machine : Machine α) (program : Program) (index : Nat) (op : Op)
    (found : Machine α) : Prop where
  here : program[index]? = some op
  came : machine.run (program.take index) = .ok found

/-- The step at an index is the one that a run fails at. -/
def Raises (machine : Machine α) (program : Program) (index : Nat) (fault : Fault) : Prop :=
  ∃ op found, machine.Meets program index op found ∧ found.step op = .error fault

/-- A run comes to a call of the function and finds the argument on top of the stack. -/
def Calls (machine : Machine α) (program : Program) (function : Elementary) (argument : α) : Prop :=
  ∃ index found below, machine.Meets program index (.call function) found ∧
    found.stack = argument :: below

end Machine

end Course

end Grapher
