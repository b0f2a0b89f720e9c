import Grapher.Number.Decimal

namespace Grapher

inductive Elementary where
  | sin
  | cos
  | tan
  | asin
  | acos
  | atan
  | exp
  | ln
  | log
  | sqrt
  | abs
  deriving DecidableEq, Repr

namespace Elementary

def name : Elementary → String
  | sin => "sin"
  | cos => "cos"
  | tan => "tan"
  | asin => "asin"
  | acos => "acos"
  | atan => "atan"
  | exp => "exp"
  | ln => "ln"
  | log => "log"
  | sqrt => "sqrt"
  | abs => "abs"

def ofName? : String → Option Elementary
  | "sin" => some sin
  | "cos" => some cos
  | "tan" => some tan
  | "asin" | "arcsin" => some asin
  | "acos" | "arccos" => some acos
  | "atan" | "arctan" => some atan
  | "exp" => some exp
  | "ln" => some ln
  | "log" => some log
  | "sqrt" => some sqrt
  | "abs" => some abs
  | _ => none

def inverseName? : String → Option String
  | "sin" => some "asin"
  | "cos" => some "acos"
  | "tan" => some "atan"
  | _ => none

end Elementary

inductive Token where
  | number (value : Float)
  | name (text : String)
  | plus
  | minus
  | asterisk
  | slash
  | caret
  | opening
  | closing
  deriving DecidableEq

def Token.description : Token → String
  | number value => Decimal.text value
  | name text => "'" ++ text ++ "'"
  | plus => "'+'"
  | minus => "'-'"
  | asterisk => "'*'"
  | slash => "'/'"
  | caret => "'^'"
  | opening => "'('"
  | closing => "')'"

inductive BinaryOp where
  | add
  | sub
  | mul
  | div
  | pow
  deriving DecidableEq, Repr

inductive Expr where
  | number (value : Float)
  | name (text : String)
  | binary (left : Expr) (op : BinaryOp) (right : Expr)
  | neg (operand : Expr)
  | call (function : String) (argument : Expr)
  deriving DecidableEq

inductive Expected where
  | operand
  | closing
  | endOfInput
  deriving DecidableEq

def Expected.text : Expected → String
  | operand => "a number, name or '('"
  | closing => "')'"
  | endOfInput => "end of input"

inductive FaultKind where
  | parse
  | domain
  | arithmetic
  deriving DecidableEq

/-- An `unexpected` fault found no token at all when the input had ended. -/
inductive Fault where
  | empty
  | unexpectedChar (char : Char)
  | malformedNumber (text : String)
  | unexpected (expected : Expected) (found : Option Token)
  | unknownFunction (name : String)
  | unknownVariable (name : String)
  | tooDeep (limit : Nat)
  | tooLong (limit : Nat)
  | domain (function : Elementary) (argument : Float)
  | divisionByZero
  | nonFinite
  | malformedProgram
  deriving DecidableEq

namespace Fault

def kind : Fault → FaultKind
  | domain .. => .domain
  | divisionByZero | nonFinite => .arithmetic
  | _ => .parse

def message : Fault → String
  | empty => "empty expression"
  | unexpectedChar char => "unexpected character '" ++ char.toString ++ "'"
  | malformedNumber text => "malformed number '" ++ text ++ "'"
  | unexpected expected found =>
    "expected " ++ expected.text ++ ", found " ++ (found.map Token.description).getD "end of input"
  | unknownFunction name => "unknown function: " ++ name
  | unknownVariable name => "unknown variable: " ++ name
  | tooDeep limit => "expression nests deeper than " ++ toString limit ++ " levels"
  | tooLong limit => "expression is longer than " ++ toString limit ++ " tokens"
  | domain function argument => function.name ++ " is undefined at " ++ Decimal.text argument
  | divisionByZero => "division by zero"
  | nonFinite => "result is not a finite number"
  | malformedProgram => "malformed bytecode"

end Fault

end Grapher
