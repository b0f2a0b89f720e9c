/-!
The numbers that formulas are evaluated on, and the exact value of a float.
-/

namespace Grapher

/-- The number `mantissa * 2 ^ exponent`, or its opposite. Both zeros have mantissa 0. -/
structure Exact where
  negative : Bool
  mantissa : Nat
  exponent : Int
  deriving DecidableEq

namespace Exact

/-- Reads an interchange format with `field` exponent bits above `fraction` fraction bits.
Infinities and NaN, which have every exponent bit set, have no value here. -/
def ofBits? (field fraction bits : Nat) : Option Exact :=
  let negative := bits / Nat.pow 2 (field + fraction) % 2 == 1
  let power := bits / Nat.pow 2 fraction % Nat.pow 2 field
  let low := bits % Nat.pow 2 fraction
  let bias : Nat := Nat.pow 2 (field - 1) - 1 + fraction
  if power = Nat.pow 2 field - 1 then none
  else if power = 0 then some ⟨negative, low, 1 - (bias : Int)⟩
  else some ⟨negative, Nat.pow 2 fraction + low, (power : Int) - (bias : Int)⟩

def isMultipleOf (d : Exact) (unit : Nat) : Bool :=
  match d.exponent with
  | .ofNat n => d.mantissa * Nat.pow 2 n % unit == 0
  | .negSucc n => d.mantissa % (unit * Nat.pow 2 (n + 1)) == 0

end Exact

end Grapher

namespace Float

def decode? (x : Float) : Option Grapher.Exact :=
  Grapher.Exact.ofBits? 11 52 x.toBits.toNat

end Float

namespace Float32

def decode? (x : Float32) : Option Grapher.Exact :=
  Grapher.Exact.ofBits? 8 23 x.toBits.toNat

end Float32

namespace Grapher

/-- Arithmetic, comparison and the elementary functions of one precision. Constants of a formula
are doubles; `ofFloat` rounds them and `toFloat` widens without loss. -/
class Scalar (α : Type) extends Add α, Sub α, Mul α, Div α, Neg α, BEq α where
  ofFloat : Float → α
  toFloat : α → Float
  decode? : α → Option Exact
  isFinite : α → Bool
  less : α → α → Bool
  lessEq : α → α → Bool
  zero : α
  one : α
  rightAngle : α
  radiansPerDegree : α
  degreesPerRadian : α
  pow : α → α → α
  sin : α → α
  cos : α → α
  tan : α → α
  asin : α → α
  acos : α → α
  atan : α → α
  exp : α → α
  ln : α → α
  log10 : α → α
  sqrt : α → α
  abs : α → α

def pi : Float := 3.141592653589793

def euler : Float := 2.718281828459045

/-- The double with the value of a number of at most 53 bits in the range of normal doubles. -/
def Exact.toFloat (d : Exact) : Float :=
  let sign := if d.negative then Nat.pow 2 63 else 0
  let width := d.mantissa.log2
  if d.mantissa = 0 then .ofBits (UInt64.ofNat sign)
  else
    let power := (d.exponent + width + 1023).toNat
    let fraction := (d.mantissa - Nat.pow 2 width) * Nat.pow 2 (52 - width)
    .ofBits (UInt64.ofNat (sign + power * Nat.pow 2 52 + fraction))

def widen (x : Float32) : Float :=
  match x.decode? with
  | some d => d.toFloat
  | none => if x.isNaN then 0 / 0 else if x < 0 then -1 / 0 else 1 / 0

instance : Scalar Float where
  ofFloat x := x
  toFloat x := x
  decode? := Float.decode?
  isFinite := Float.isFinite
  less a b := a < b
  lessEq a b := a ≤ b
  zero := 0
  one := 1
  rightAngle := 90
  radiansPerDegree := pi / 180
  degreesPerRadian := 180 / pi
  pow := Float.pow
  sin := Float.sin
  cos := Float.cos
  tan := Float.tan
  asin := Float.asin
  acos := Float.acos
  atan := Float.atan
  exp := Float.exp
  ln := Float.log
  log10 := Float.log10
  sqrt := Float.sqrt
  abs := Float.abs

instance : Scalar Float32 where
  ofFloat := Float.toFloat32
  toFloat := widen
  decode? := Float32.decode?
  isFinite := Float32.isFinite
  less a b := a < b
  lessEq a b := a ≤ b
  zero := 0
  one := 1
  rightAngle := 90
  radiansPerDegree := 3.1415927 / 180
  degreesPerRadian := 57.29578
  pow := Float32.pow
  sin := Float32.sin
  cos := Float32.cos
  tan := Float32.tan
  asin := Float32.asin
  acos := Float32.acos
  atan := Float32.atan
  exp := Float32.exp
  ln := Float32.log
  log10 := Float32.log10
  sqrt := Float32.sqrt
  abs := Float32.abs

inductive AngleUnit where
  | degrees
  | radians
  deriving DecidableEq, Repr, Inhabited

namespace AngleUnit

def name : AngleUnit → String
  | degrees => "degrees"
  | radians => "radians"

def ofName? : String → Option AngleUnit
  | "degrees" => some degrees
  | "radians" => some radians
  | _ => none

def toRadians {α : Type} [Scalar α] (unit : AngleUnit) (angle : α) : α :=
  match unit with
  | degrees => angle * Scalar.radiansPerDegree
  | radians => angle

def ofRadians {α : Type} [Scalar α] (unit : AngleUnit) (angle : α) : α :=
  match unit with
  | degrees => angle * Scalar.degreesPerRadian
  | radians => angle

end AngleUnit

end Grapher
