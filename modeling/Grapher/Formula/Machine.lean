import Grapher.Formula.Syntax
import Grapher.Number.Scalar
import Grapher.Formula.Reading

/-!
Trees compiled to programs, and programs run on a stack.
-/

namespace Grapher

/-- Steps of a program: `load` pushes the variable and `const` a constant; the others take their
operands off the stack, the right one first. -/
inductive Op where
  | const (value : Float)
  | load
  | binary (op : BinaryOp)
  | neg
  | call (function : Elementary)
  deriving DecidableEq

def Op.arity : Op → Nat
  | const _ | load => 0
  | binary _ => 2
  | neg | call _ => 1

abbrev Program := List Op

def constant? : String → Option Float
  | "pi" => some pi
  | "e" => some euler
  | _ => none

namespace Expr

/-- The free variable hides a constant of the same name. A call's own name is looked up before the names
in its argument, so the first bad name in reading order is the one reported. -/
def compile (free : String) : Expr → Except Fault Program
  | number value => .ok [.const value]
  | name text =>
    if text = free then .ok [.load]
    else match constant? text with
      | some value => .ok [.const value]
      | none => .error (.unknownVariable text)
  | binary left op right => do
    let first ← left.compile free
    let second ← right.compile free
    return first ++ second ++ [.binary op]
  | neg operand => do
    return (← operand.compile free) ++ [.neg]
  | call text argument =>
    match Elementary.ofName? text with
    | none => .error (.unknownFunction text)
    | some function => do
      return (← argument.compile free) ++ [.call function]

end Expr

section Arithmetic

variable {α : Type} [Scalar α]

/-- Every value on the way to a result must be finite. -/
def settle (value : α) : Except Fault α :=
  if Scalar.isFinite value then .ok value else .error .nonFinite

/-- Ninety degrees away from a half turn, where the tangent has its poles. -/
def isTangentPole (degrees : α) : Bool :=
  match Scalar.decode? (degrees - Scalar.rightAngle) with
  | some angle => angle.isMultipleOf 180
  | none => false

namespace Elementary

def defined (unit : AngleUnit) (x : α) : Elementary → Bool
  | tan => !(unit == .degrees && isTangentPole x)
  | asin | acos => !(Scalar.less x (-Scalar.one) || Scalar.less Scalar.one x)
  | ln | log => !Scalar.lessEq x Scalar.zero
  | sqrt => !Scalar.less x Scalar.zero
  | _ => true

def value (unit : AngleUnit) (x : α) : Elementary → α
  | sin => Scalar.sin (unit.toRadians x)
  | cos => Scalar.cos (unit.toRadians x)
  | tan => Scalar.tan (unit.toRadians x)
  | asin => unit.ofRadians (Scalar.asin x)
  | acos => unit.ofRadians (Scalar.acos x)
  | atan => unit.ofRadians (Scalar.atan x)
  | exp => Scalar.exp x
  | ln => Scalar.ln x
  | log => Scalar.log10 x
  | sqrt => Scalar.sqrt x
  | abs => Scalar.abs x

def apply (function : Elementary) (unit : AngleUnit) (x : α) : Except Fault α :=
  if function.defined unit x then .ok (function.value unit x)
  else .error (.domain function (Scalar.toFloat x))

end Elementary

def BinaryOp.apply (a b : α) : BinaryOp → Except Fault α
  | add => .ok (a + b)
  | sub => .ok (a - b)
  | mul => .ok (a * b)
  | div => if b == Scalar.zero then .error .divisionByZero else .ok (a / b)
  | pow => .ok (Scalar.pow a b)

end Arithmetic

section Machine

variable {α : Type} [Scalar α]

structure Machine (α : Type) where
  unit : AngleUnit
  x : α
  stack : List α := []

namespace Machine

def push (machine : Machine α) (stack : List α) (value : α) : Except Fault (Machine α) := do
  return { machine with stack := (← settle value) :: stack }

def step (machine : Machine α) : Op → Except Fault (Machine α)
  | .const value => machine.push machine.stack (Scalar.ofFloat value)
  | .load => machine.push machine.stack machine.x
  | .binary op =>
    match machine.stack with
    | b :: a :: stack => do machine.push stack (← op.apply a b)
    | _ => .error .malformedProgram
  | .neg =>
    match machine.stack with
    | a :: stack => machine.push stack (-a)
    | [] => .error .malformedProgram
  | .call function =>
    match machine.stack with
    | a :: stack => do machine.push stack (← function.apply machine.unit a)
    | [] => .error .malformedProgram

def run (machine : Machine α) : Program → Except Fault (Machine α)
  | [] => .ok machine
  | op :: program => do (← machine.step op).run program

def emptied (machine : Machine α) : Machine α :=
  { machine with stack := [] }

/-- Runs the program on an emptied stack, which must hold one value in the end. -/
def execute (machine : Machine α) (program : Program) : Except Fault α := do
  let machine ← machine.emptied.run program
  match machine.stack with
  | [value] => return value
  | _ => throw .malformedProgram

/-- What a program leaves on the stack. A step that fails has taken its operands off, and in the end
the result is taken off. -/
def remains (machine : Machine α) : Program → List α
  | [] => machine.stack.tail
  | op :: program =>
    match machine.step op with
    | .ok next => next.remains program
    | .error _ => machine.stack.drop op.arity

end Machine

end Machine

structure Formula where
  source : String
  program : Program
  unit : AngleUnit

namespace Formula

def variableName : String := "x"

def ofText (source : String) (unit : AngleUnit) : Except Fault Formula := do
  let tree ← Expr.ofText source
  let program ← tree.compile variableName
  return { source, program, unit }

/-- Evaluates on a stack that may hold what an earlier evaluation left, and hands the stack back. -/
def evaluateOn {α : Type} [Scalar α] (formula : Formula) (stack : List α) (x : α) :
    Except Fault α × List α :=
  if Scalar.isFinite x then
    let machine : Machine α := { unit := formula.unit, x, stack }
    (machine.execute formula.program, machine.emptied.remains formula.program)
  else (.error .nonFinite, stack)

def evaluate {α : Type} [Scalar α] (formula : Formula) (x : α) : Except Fault α :=
  (formula.evaluateOn [] x).1

theorem evaluateOn_fst {α : Type} [Scalar α] (formula : Formula) (stack : List α) (x : α) :
    (formula.evaluateOn stack x).1 = formula.evaluate x := by
  unfold evaluate evaluateOn
  split <;> rfl

end Formula

/-- The value of a text at `x`, angles in degrees. -/
def evaluate (source : String) (x : Float) : Except Fault Float := do
  (← Formula.ofText source .degrees).evaluate x

end Grapher
