import Grapher.Formula.Reading

/-!
Reading that counts the operands it has open, with the limit on their number kept or dropped. Nothing
else depends on the limit.
-/

namespace Grapher

@[ext]
structure Counter where
  depth : Nat
  deepest : Nat
  depth_le : depth ≤ deepest

namespace Counter

def start : Counter := ⟨0, 0, Nat.le_refl 0⟩

def opened (counter : Counter) : Counter :=
  ⟨counter.depth + 1, max counter.deepest (counter.depth + 1), Nat.le_max_right _ _⟩

def closed (counter : Counter) : Counter :=
  ⟨counter.depth - 1, counter.deepest, Nat.le_trans (Nat.sub_le _ _) counter.depth_le⟩

end Counter

/-- Reads something from the head of the input and keeps the counter, also when it fails. -/
abbrev Counting := StateT (List Token) (ExceptT Fault (StateM Counter))

namespace Counting

open Reader (sumOp? productOp? markedName nestingLimit)

def goOn (op? : Token → Option BinaryOp) (operand : Counting Expr) :
    (rounds : Nat) → Expr → Counting Expr
  | 0, left => return left
  | rounds + 1, left => do
    match ← get with
    | [] => return left
    | token :: rest =>
      match op? token with
      | none => return left
      | some op =>
        set rest
        let right ← operand
        goOn op? operand rounds (.binary left op right)

def chain (op? : Token → Option BinaryOp) (operand : Counting Expr) : Counting Expr := do
  let left ← operand
  goOn op? operand (← get).length left

def expression (operand : Counting Expr) : Counting Expr :=
  chain sumOp? (chain productOp? operand)

def closing : Counting Unit := do
  match ← get with
  | .closing :: rest => set rest
  | input => throw (.unexpected .closing input.head?)

def bracketed (operand : Counting Expr) : Counting Expr := do
  let inner ← expression operand
  closing
  return inner

def primary (operand : Counting Expr) : Counting Expr := do
  match ← get with
  | .number value :: rest =>
    set rest
    return .number value
  | .name text :: rest =>
    match markedName text rest with
    | (function, .opening :: rest) =>
      set rest
      return .call function (← bracketed operand)
    | (text, rest) =>
      set rest
      return .name text
  | .opening :: rest =>
    set rest
    bracketed operand
  | input => throw (.unexpected .operand input.head?)

def power (operand : Counting Expr) : Counting Expr := do
  let base ← primary operand
  match ← get with
  | .caret :: rest =>
    set rest
    return .binary base .pow (← operand)
  | _ => return base

def signed (operand : Counting Expr) : Counting Expr := do
  match ← get with
  | .minus :: rest =>
    set rest
    return .neg (← operand)
  | .plus :: rest =>
    set rest
    operand
  | _ => power operand

/-- Opens an operand, reads it, and closes it whether it could be read or not. Where the limit is kept,
an operand that has no room is refused before it is opened. -/
def entered (limited : Bool) (body : Counting Expr) : Counting Expr := fun input counter =>
  if limited && nestingLimit ≤ counter.depth then (.error (.tooDeep nestingLimit), counter)
  else
    let (result, counter) := body input counter.opened
    (result, counter.closed)

def operandOf (limited : Bool) : (tokens : Nat) → Counting Expr
  | 0 => entered limited (throw (.unexpected .operand none))
  | tokens + 1 => entered limited (signed (operandOf limited tokens))

def operand (limited : Bool) : Counting Expr := fun input =>
  operandOf limited input.length input

def finish (tree : Expr) : Counting Expr := do
  match ← get with
  | [] => return tree
  | token :: _ => throw (.unexpected .endOfInput (some token))

def whole (limited : Bool) : Counting Expr := do
  if (← get).isEmpty then throw .empty
  finish (← expression (operand limited))

def ofTokens (limited : Bool) (tokens : List Token) : Except Fault Expr × Counter :=
  let (result, counter) := whole limited tokens .start
  (result.map Prod.fst, counter)

end Counting
end Grapher
