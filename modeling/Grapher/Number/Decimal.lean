import Grapher.Number.Scalar

/-!
Floats written with the fewest digits that read back, and numerals read as the nearest float.
-/

namespace Grapher

namespace Decimal

/-- The number `digits * 10 ^ exponent`. -/
structure Numeral where
  digits : Nat
  exponent : Int
  deriving DecidableEq, Repr

def digitCount (n : Nat) : Nat := (Nat.toDigits 10 n).length

/-- A positive ratio `top / unit` with the ends of the interval that rounds to it, over the same
unit. The ends themselves belong to the interval when `closed` holds. -/
structure Window where
  low : Nat
  top : Nat
  high : Nat
  unit : Nat
  closed : Bool

namespace Window

/-- The window of `mantissa * 2 ^ exponent`. Below a power of two the neighbours lie twice as
dense, unless the exponent is the least one. An even mantissa wins ties, so it owns its ends. -/
def ofExact (mantissa : Nat) (exponent least : Int) (hidden : Nat) : Window :=
  let gap := if mantissa = hidden ∧ least < exponent then 1 else 2
  let up := Nat.pow 2 (exponent - 2).toNat
  { low := (4 * mantissa - gap) * up
    top := 4 * mantissa * up
    high := (4 * mantissa + 2) * up
    unit := Nat.pow 2 (2 - exponent).toNat
    closed := mantissa % 2 == 0 }

def shift (w : Window) (k : Int) : Window :=
  let up := Nat.pow 10 (-k).toNat
  { w with low := w.low * up, top := w.top * up, high := w.high * up, unit := w.unit * Nat.pow 10 k.toNat }

def holds (w : Window) (n : Nat) : Bool :=
  let point := n * w.unit
  if w.closed then w.low ≤ point && point ≤ w.high else w.low < point && point < w.high

/-- The whole number next to the value that rounds to it, if there is one: the nearer of two, and
the upper when both are as near. -/
def whole? (w : Window) : Option Nat :=
  let below := w.top / w.unit
  match w.holds below, w.holds (below + 1) with
  | true, true =>
    some (if w.top - below * w.unit < (below + 1) * w.unit - w.top then below else below + 1)
  | true, false => some below
  | false, true => some (below + 1)
  | false, false => none

/-- The least power of ten above the value. The value is first made larger than one, at three
binary places for each decimal one. -/
def magnitude (w : Window) : Int :=
  let places := (w.unit.log2 + 1 - w.top.log2) / 3 + 1
  digitCount (w.top * Nat.pow 10 places / w.unit) - places

def search (w : Window) (magnitude : Int) : (places tried : Nat) → Option Numeral
  | 0, _ => none
  | places + 1, tried =>
    let exponent := magnitude - (tried + 1)
    match (w.shift exponent).whole? with
    | some n => some ⟨n, exponent⟩
    | none => w.search magnitude places (tried + 1)

end Window

/-- Seventeen digits tell any two binary numbers of 53 bits apart. -/
def shortest (d : Exact) : Numeral :=
  let w := Window.ofExact d.mantissa d.exponent (-1074) (Nat.pow 2 52)
  (w.search w.magnitude 17 0).getD ⟨0, 0⟩

def zeros (n : Nat) : List Char := List.replicate n '0'

def trimZeros (digits : List Char) : List Char :=
  (digits.reverse.dropWhile (· == '0')).reverse

def Numeral.positional (n : Numeral) : List Char :=
  let digits := Nat.toDigits 10 n.digits
  match n.exponent with
  | .ofNat e => digits ++ zeros e
  | .negSucc e =>
    let padded := zeros (e + 2 - digits.length) ++ digits
    let whole := padded.take (padded.length - (e + 1))
    match trimZeros (padded.drop (padded.length - (e + 1))) with
    | [] => whole
    | fraction => whole ++ '.' :: fraction

def text (x : Float) : String :=
  match x.decode? with
  | none => if x.isNaN then "NaN" else if x < 0 then "-inf" else "inf"
  | some d =>
    let magnitude := if d.mantissa = 0 then ['0'] else (shortest d).positional
    String.ofList (if d.negative then '-' :: magnitude else magnitude)

def infinity : Float := 1 / 0

/-- Numerals from `10 ^ 310` on are infinite and those below `10 ^ (-330)` are zero, whatever the
size of their exponent. -/
def Numeral.nearest (n : Numeral) : Float :=
  let magnitude := digitCount n.digits + n.exponent
  if n.digits = 0 then 0
  else if 310 < magnitude then infinity
  else if magnitude < -330 then 0
  else match n.exponent with
    | .ofNat e => Float.ofScientific n.digits false e
    | .negSucc e => Float.ofScientific n.digits true (e + 1)

def digitValue (c : Char) : Nat := c.toNat - '0'.toNat

def ofDigits (digits : List Char) : Nat :=
  digits.foldl (fun n c => 10 * n + digitValue c) 0

def unsigned? (text : List Char) : Option Float :=
  let whole := text.takeWhile Char.isDigit
  let fraction := (text.dropWhile Char.isDigit).drop 1
  if whole.isEmpty && fraction.isEmpty then none
  else if ((text.dropWhile Char.isDigit).take 1).all (· == '.') && fraction.all Char.isDigit then
    some (Numeral.nearest ⟨ofDigits (whole ++ fraction), -fraction.length⟩)
  else none

end Decimal

end Grapher
