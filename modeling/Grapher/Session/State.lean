import Grapher.Sampling.Run

/-!
A plotting session: settings that have been accepted and a list of curves, edited step by step.
-/

namespace Grapher

structure Entry where
  expression : String
  enabled : Bool := true
  color : String
  deriving DecidableEq

inductive Outcome where
  | plotted (curve : Curve)
  | disabled
  | noValidPoints (message : String)
  | rejected (message : String)
  deriving DecidableEq

namespace Outcome

/-- A curve without points is explained by what went wrong at its first sample. -/
def ofResult : Except Failure Curve → Outcome
  | .ok curve => plotted curve
  | .error (.noValidPoints _ (some cause)) => noValidPoints cause.message
  | .error (.noValidPoints samples none) =>
    noValidPoints (Failure.noValidPoints samples none).message
  | .error failure => rejected failure.message

def status : Outcome → String
  | plotted _ => "plotted"
  | disabled => "disabled"
  | noValidPoints _ => "no_valid_points"
  | rejected _ => "rejected"

def curve? : Outcome → Option Curve
  | plotted curve => some curve
  | _ => none

def isDisabled : Outcome → Bool
  | disabled => true
  | _ => false

def isNoValidPoints : Outcome → Bool
  | noValidPoints _ => true
  | _ => false

end Outcome

structure CurveReport where
  expression : String
  color : String
  outcome : Outcome
  deriving DecidableEq

/-- The error is set when curves are enabled and none of them has a point. -/
structure Report where
  curves : List CurveReport
  error : Option String
  deriving DecidableEq

namespace Report

def banner : String := "Invalid equation(s) or no points to plot"

def plotted (report : Report) : List Curve :=
  report.curves.filterMap (·.outcome.curve?)

def nothingPlotted (curves : List CurveReport) : Bool :=
  let enabled := curves.filter (!·.outcome.isDisabled)
  !enabled.isEmpty && enabled.all (·.outcome.isNoValidPoints)

def ofCurves (curves : List CurveReport) : Report :=
  { curves, error := if nothingPlotted curves then some banner else none }

end Report

structure Session where
  settings : Settings
  curves : List Entry
  deriving DecidableEq

structure IndexError where
  index : Nat
  count : Nat
  deriving DecidableEq

def IndexError.message (e : IndexError) : String :=
  "Curve index " ++ toString e.index ++ " out of range (" ++ toString e.count ++ " curves)."

namespace Session

def initial : Session :=
  { settings := {}
    curves := [
      { expression := "sin(x)", color := "blue" },
      { expression := "cos(x)", color := "red" }] }

def ofSettings (settings : Settings) (word : WordSize := .long) : Except Failure Session := do
  settings.check word
  return { settings, curves := [] }

def setSettings (session : Session) (settings : Settings) (word : WordSize := .long) :
    Except Failure Session := do
  settings.check word
  return { session with settings }

def add (session : Session) (expression color : String) : Session × Nat :=
  ({ session with curves := session.curves ++ [{ expression, color }] }, session.curves.length)

def entry (session : Session) (index : Nat) : Except IndexError Entry :=
  match session.curves[index]? with
  | some entry => .ok entry
  | none => .error ⟨index, session.curves.length⟩

def remove (session : Session) (index : Nat) : Except IndexError (Session × Entry) := do
  let entry ← session.entry index
  return ({ session with curves := session.curves.eraseIdx index }, entry)

def replace (session : Session) (index : Nat) (change : Entry → Entry) :
    Except IndexError Session := do
  let entry ← session.entry index
  return { session with curves := session.curves.set index (change entry) }

def setEnabled (session : Session) (index : Nat) (enabled : Bool) : Except IndexError Session :=
  session.replace index ({ · with enabled })

def setExpression (session : Session) (index : Nat) (expression : String) :
    Except IndexError Session :=
  session.replace index ({ · with expression })

def plotEntry (settings : Settings) (entry : Entry) : CurveReport × Array Event :=
  if entry.enabled then
    let run := settings.run entry.expression
    (⟨entry.expression, entry.color, .ofResult run.result⟩, run.events)
  else (⟨entry.expression, entry.color, .disabled⟩, #[])

def plot (session : Session) : Report × Array Event :=
  let runs := session.curves.map (plotEntry session.settings)
  let report := Report.ofCurves (runs.map (·.1))
  (report, (runs.map (·.2)).foldl (· ++ ·) #[] |>.push
    (.plottedSession report.curves.length report.error.isSome))

end Session

inductive Edit where
  | reset
  | restart (settings : Settings)
  | setSettings (settings : Settings)
  | add (expression color : String)
  | remove (index : Nat)
  | setEnabled (index : Nat) (enabled : Bool)
  | setExpression (index : Nat) (expression : String)
  deriving DecidableEq

inductive Reply where
  | done
  | index (index : Nat)
  | removed (entry : Entry)
  deriving DecidableEq

inductive EditError where
  | settings (failure : Failure)
  | index (error : IndexError)
  deriving DecidableEq

def EditError.message : EditError → String
  | settings failure => failure.message
  | index error => error.message

namespace Session

/-- The session after a step and its reply, or the reason it fails. -/
def edit (session : Session) (edit : Edit) (word : WordSize := .long) :
    Except EditError (Session × Reply) :=
  match edit with
  | .reset => .ok (initial, .done)
  | .restart settings => ((ofSettings settings word).map (·, .done)).mapError .settings
  | .setSettings settings => ((session.setSettings settings word).map (·, .done)).mapError .settings
  | .add expression color =>
    let (session, index) := session.add expression color
    .ok (session, .index index)
  | .remove index =>
    ((session.remove index).map fun (session, entry) => (session, .removed entry)).mapError .index
  | .setEnabled index enabled =>
    ((session.setEnabled index enabled).map (·, .done)).mapError .index
  | .setExpression index expression =>
    ((session.setExpression index expression).map (·, .done)).mapError .index

def apply (session : Session) (edit : Edit) (word : WordSize := .long) : Session :=
  match session.edit edit word with
  | .ok (session, _) => session
  | .error _ => session

end Session

end Grapher
