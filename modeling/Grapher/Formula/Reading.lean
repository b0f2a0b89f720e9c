import Grapher.Number.Decimal
import Grapher.Formula.Syntax
import Grapher.Text.Character

/-!
Texts read as tokens, and tokens as trees.
-/

namespace Grapher

namespace Token

def limit : Nat := 1024

def isNumberChar (c : Char) : Bool :=
  c.isDigit || c == '.'

def ofSign? : Char → Option Token
  | '+' => some plus
  | '-' | '\u2212' => some minus
  | '*' | '\u00d7' => some asterisk
  | '/' | '\u00f7' => some slash
  | '^' => some caret
  | '(' => some opening
  | ')' => some closing
  | _ => none

def ofWord (word : List Char) : Token :=
  name (String.ofList (word.flatMap Text.lower))

def ofNumber (text : List Char) : Except Fault Token :=
  match Decimal.unsigned? text with
  | some value => .ok (number value)
  | none => .error (.malformedNumber (String.ofList text))

/-- The lexeme at the head of a text that does not start with a blank, and what follows it. -/
def first (c : Char) (cs : List Char) : Except Fault (Token × List Char) :=
  if isNumberChar c then
    (ofNumber (c :: cs.takeWhile isNumberChar)).map (·, cs.dropWhile isNumberChar)
  else if Text.isLetter c then
    .ok (ofWord (c :: cs.takeWhile Text.isWordChar), cs.dropWhile Text.isWordChar)
  else match ofSign? c with
    | some token => .ok (token, cs)
    | none => .error (.unexpectedChar c)

/-- The tokens of a text, with room for so many. A token too many is told only once it has been
read, so a bad lexeme in its place comes first. -/
def scan : (room : Nat) → List Char → Except Fault (List Token)
  | room, text =>
    match text.dropWhile Text.isBlank with
    | [] => .ok []
    | c :: cs =>
      match first c cs with
      | .error fault => .error fault
      | .ok (token, rest) =>
        match room with
        | 0 => .error (.tooLong limit)
        | room + 1 => (scan room rest).map (token :: ·)

def ofText (text : String) : Except Fault (List Token) :=
  scan limit text.toList

end Token

abbrev Reader := List Token → Except Fault (Expr × List Token)

namespace Reader

/-- The most operands that may enclose one another: brackets, calls, signs and exponents. -/
def nestingLimit : Nat := 256

def sumOp? : Token → Option BinaryOp
  | .plus => some .add
  | .minus => some .sub
  | _ => none

def productOp? : Token → Option BinaryOp
  | .asterisk => some .mul
  | .slash => some .div
  | _ => none

/-- Goes on with operators and operands as long as there are any, folding to the left. Every round
takes an operator off the input, so as many rounds as tokens are enough. -/
def goOn (op? : Token → Option BinaryOp) (operand : Reader) :
    (rounds : Nat) → Expr → Reader
  | 0, left, input => .ok (left, input)
  | _ + 1, left, [] => .ok (left, [])
  | rounds + 1, left, token :: input =>
    match op? token with
    | none => .ok (left, token :: input)
    | some op => do
      let (right, rest) ← operand input
      goOn op? operand rounds (.binary left op right) rest

def chain (op? : Token → Option BinaryOp) (operand : Reader) : Reader := fun input => do
  let (left, rest) ← operand input
  goOn op? operand rest.length left rest

def expression (operand : Reader) : Reader :=
  chain sumOp? (chain productOp? operand)

/-- The input after a mark of the inverse, `^(-1)` or `^-1`, if it starts with one. -/
def afterInverse? : List Token → Option (List Token)
  | .caret :: .opening :: .minus :: .number value :: .closing :: rest =>
    if value == 1 then some rest else none
  | .caret :: .minus :: .number value :: rest =>
    if value == 1 then some rest else none
  | _ => none

/-- The name that starts at `text`: a marked `sin`, `cos` or `tan` is its inverse. -/
def markedName (text : String) (input : List Token) : String × List Token :=
  match Elementary.inverseName? text, afterInverse? input with
  | some inverse, some rest => (inverse, rest)
  | _, _ => (text, input)

def closing : List Token → Except Fault (List Token)
  | .closing :: rest => .ok rest
  | input => .error (.unexpected .closing input.head?)

def bracketed (operand : Reader) : Reader := fun input => do
  let (inner, rest) ← expression operand input
  let rest ← closing rest
  return (inner, rest)

def primary (operand : Reader) : Reader
  | .number value :: rest => .ok (.number value, rest)
  | .name text :: rest =>
    match markedName text rest with
    | (function, .opening :: rest) => do
      let (argument, rest) ← bracketed operand rest
      return (.call function argument, rest)
    | (text, rest) => .ok (.name text, rest)
  | .opening :: rest => bracketed operand rest
  | input => .error (.unexpected .operand input.head?)

def power (operand : Reader) : Reader := fun input => do
  let (base, rest) ← primary operand input
  match rest with
  | .caret :: rest =>
    let (exponent, rest) ← operand rest
    return (.binary base .pow exponent, rest)
  | rest => return (base, rest)

def operand : (levels : Nat) → Reader
  | 0, _ => .error (.tooDeep nestingLimit)
  | levels + 1, .minus :: rest => do
    let (inner, rest) ← operand levels rest
    return (.neg inner, rest)
  | levels + 1, .plus :: rest => operand levels rest
  | levels + 1, input => power (operand levels) input

def whole (levels : Nat) (input : List Token) : Except Fault Expr :=
  match input with
  | [] => .error .empty
  | input => do
    match ← expression (operand levels) input with
    | (tree, []) => return tree
    | (_, token :: _) => throw (.unexpected .endOfInput (some token))

end Reader

def Expr.ofTokens (tokens : List Token) : Except Fault Expr :=
  Reader.whole Reader.nestingLimit tokens

def Expr.ofText (text : String) : Except Fault Expr := do
  Expr.ofTokens (← Token.ofText text)

end Grapher
