import Grapher.Formula.Syntax
import Grapher.Number.Scalar
import Grapher.Sampling.Curve

namespace Grapher

inductive Failure where
  | invalidDomain (min max : Float)
  | invalidStep (step : Float)
  | invalidScale (scale : Float)
  | invalidThreshold (threshold : Float)
  | tooManySamples (requested limit : Nat)
  | noValidPoints (samples : Nat) (cause : Option Fault)
  deriving DecidableEq

namespace Failure

def message : Failure → String
  | invalidDomain min max =>
    "invalid domain [" ++ Decimal.text min ++ ", " ++ Decimal.text max ++
      "]: bounds must be finite with max >= min"
  | invalidStep step => "invalid step " ++ Decimal.text step ++ ": must be finite and positive"
  | invalidScale scale => "invalid scale " ++ Decimal.text scale ++ ": must be finite and positive"
  | invalidThreshold threshold =>
    "invalid discontinuity threshold " ++ Decimal.text threshold ++ ": must be positive"
  | tooManySamples requested limit =>
    "domain would need " ++ toString requested ++ " samples (limit " ++ toString limit ++ ")"
  | noValidPoints samples _ =>
    "no valid points to plot across " ++ toString samples ++ " samples"

def isNoValidPoints : Failure → Bool
  | noValidPoints .. => true
  | _ => false

end Failure

structure Settings where
  domainMin : Float := -10
  domainMax : Float := 10
  step : Float := 0.05
  scale : Float := 20
  threshold : Float := 50
  unit : AngleUnit := .radians
  deriving DecidableEq

/-- How wide the words are that counts are kept in. Only a refusal shows it, since accepted settings take
few samples. -/
inductive WordSize where
  | short
  | long
  deriving DecidableEq

namespace WordSize

def size : WordSize → Nat
  | short => UInt32.size
  | long => UInt64.size

/-- One more than a whole number, overflow unchecked: a number beyond the last word is taken for the last
one, and counting starts again at zero after it. -/
def after (word : WordSize) (whole : Nat) : Nat :=
  (min whole (word.size - 1) + 1) % word.size

end WordSize

namespace Settings

def sampleLimit : Nat := 100000

/-- Keeps a sample at the end of the domain when the quotient falls just short of a whole number. -/
def tolerance : Float := 1e-9

def ofDomain (min max step : Float) : Settings :=
  { domainMin := min, domainMax := max, step }

def magnification (s : Settings) : Magnification := ⟨s.scale⟩

def span (s : Settings) : Float :=
  (s.domainMax - s.domainMin) / s.step

/-- The whole part of a number, zero below one and at NaN, and the largest word beyond the words. -/
def wholePart (x : Float) : Nat := x.toUInt64.toNat

def sampleCount (s : Settings) : Nat :=
  wholePart (s.span + tolerance) + 1

/-- Counted from the left end, so errors do not add up. -/
def position (s : Settings) (index : Nat) : Float :=
  s.domainMin + s.step * index.toUInt64.toFloat

/-- Settings are refused for the first of their faults. -/
def check (s : Settings) (word : WordSize := .long) : Except Failure Unit :=
  if !s.domainMin.isFinite || !s.domainMax.isFinite || s.domainMax < s.domainMin then
    .error (.invalidDomain s.domainMin s.domainMax)
  else if !s.step.isFinite || s.step ≤ 0 then
    .error (.invalidStep s.step)
  else if !s.scale.isFinite || s.scale ≤ 0 then
    .error (.invalidScale s.scale)
  else if s.threshold.isNaN || s.threshold ≤ 0 then
    .error (.invalidThreshold s.threshold)
  else if !s.span.isFinite then
    .error (.tooManySamples (word.size - 1) sampleLimit)
  else if Float.ofNat sampleLimit ≤ s.span then
    .error (.tooManySamples (word.after (wholePart s.span)) sampleLimit)
  else .ok ()

end Settings

end Grapher
