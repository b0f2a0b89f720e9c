import Grapher.Formula.Syntax
import Grapher.Formula.Machine
import Grapher.Sampling.Curve
import Grapher.Sampling.Settings

/-!
Sampling a formula across a domain. A sample joins the one before it unless one of the two has no
value or the curve jumps between them.
-/

namespace Grapher

inductive Level where
  | debug
  | trace
  deriving DecidableEq

inductive Event where
  | notCompiled (expression : String) (fault : Fault)
  | undefinedSample (x : Float) (fault : Fault)
  | discontinuity (x : Float)
  | noValidPoints (expression : String) (samples : Nat)
  | sampledCurve (expression : String) (samples defined segments : Nat)
  | plottedSession (curves : Nat) (nothingPlotted : Bool)
  deriving DecidableEq

namespace Event

def level : Event → Level
  | undefinedSample .. | discontinuity .. => .trace
  | _ => .debug

def message : Event → String
  | notCompiled .. => "expression did not compile"
  | undefinedSample .. => "undefined sample"
  | discontinuity .. => "discontinuity, starting new segment"
  | noValidPoints .. => "no valid points"
  | sampledCurve .. => "sampled curve"
  | plottedSession .. => "plotted session"

end Event

structure Run where
  result : Except Failure Curve
  events : Array Event

/-- A run under way: the segments that are finished and the one that may still grow. All samples are
evaluated on one stack. -/
structure Progress where
  finished : Array Segment := #[]
  growing : Option Segment := none
  firstFault : Option Fault := none
  events : Array Event := #[]
  stack : List Float := []

namespace Progress

/-- Whether the curve passes from one point to the next: a rise of the threshold itself does. -/
def connects (s : Settings) (a b : Point) : Bool :=
  (s.magnification.toScreen a).rise (s.magnification.toScreen b) ≤ s.threshold

def undefinedAt (x : Float) (fault : Fault) : Progress → Progress
  | ⟨finished, growing, firstFault, events, stack⟩ =>
    { finished := finished ++ growing.toArray
      growing := none
      firstFault := firstFault <|> some fault
      events := events.push (.undefinedSample x fault)
      stack }

def through (s : Settings) (point : Point) : Progress → Progress
  | ⟨finished, none, firstFault, events, stack⟩ =>
    ⟨finished, some ⟨point, #[]⟩, firstFault, events, stack⟩
  | ⟨finished, some segment, firstFault, events, stack⟩ =>
    if connects s segment.last point then
      ⟨finished, some (segment.push point), firstFault, events, stack⟩
    else
      ⟨finished.push segment, some ⟨point, #[]⟩, firstFault, events.push (.discontinuity point.x),
        stack⟩

def sample (s : Settings) (formula : Formula) (progress : Progress) (index : Nat) : Progress :=
  let x := s.position index
  let (outcome, stack) := formula.evaluateOn progress.stack x
  let progress := { progress with stack }
  match outcome with
  | .ok y => progress.through s ⟨x, y⟩
  | .error fault => progress.undefinedAt x fault

def segments (progress : Progress) : List Segment :=
  progress.finished.toList ++ progress.growing.toList

end Progress

namespace Settings

def runFormula (s : Settings) (formula : Formula) : Run :=
  let count := s.sampleCount
  let progress := (List.range count).foldl (Progress.sample s formula) {}
  match progress.segments with
  | [] =>
    { result := .error (.noValidPoints count progress.firstFault)
      events := progress.events.push (.noValidPoints formula.source count) }
  | segments =>
    let curve := Curve.ofSegments formula.source segments count
    { result := .ok curve
      events := progress.events.push
        (.sampledCurve formula.source count curve.definedCount segments.length) }

def run (s : Settings) (expression : String) : Run :=
  match Formula.ofText expression s.unit with
  | .ok formula => s.runFormula formula
  | .error fault =>
    { result := .error (.noValidPoints s.sampleCount (some fault))
      events := #[.notCompiled expression fault] }

def sample (s : Settings) (expression : String) (word : WordSize := .long) : Except Failure Curve := do
  s.check word
  (s.run expression).result

end Settings

end Grapher
