import Grapher.Sampling.Partial
import Grapher.Sampling.Curve
import Grapher.Session.State
import Grapher.Session.Rules

/-!
What a host program may ask for, and what its steps mean for the session behind them. How the host shows
a value, and what it says of one that is no settings, is its own.
-/

namespace Grapher

structure Host (α : Type) extends Format α where
  isUndefined : α → Bool
  isNull : α → Bool
  explain : α → String

namespace Host

/-- What is thrown at the host. A value that is no settings at all is told apart from settings that
are refused. -/
inductive Error where
  | unreadableSettings (text : String)
  | refusedSettings (failure : Failure)
  | sampling (failure : Failure)
  | index (error : IndexError)
  deriving DecidableEq

def Error.message : Error → String
  | unreadableSettings text => "Invalid sampler config: " ++ text
  | refusedSettings failure => "Invalid sampler config: " ++ failure.message
  | sampling failure => failure.message
  | index error => error.message

variable {α : Type}

def settings? (host : Host α) (v : α) : Option Settings :=
  if host.isUndefined v || host.isNull v then some {} else Settings.read? host.toFormat v

def readSettings (host : Host α) (v : α) : Except Error Settings :=
  match host.settings? v with
  | some settings => .ok settings
  | none => .error (.unreadableSettings (host.explain v))

def sampleCurve (expression : String) (min max step : Float) (word : WordSize := .long) :
    Except Error Curve :=
  ((Settings.ofDomain min max step).sample expression word).mapError .sampling

def curvePoints (host : Host α) (expression : String) (v : α) (word : WordSize := .long) :
    Except Error (List Float) := do
  let settings ← host.readSettings v
  let curve ← (settings.sample expression word).mapError .sampling
  return curve.coordinates settings.magnification

inductive Step (α : Type) where
  | reset
  | restart (settings : α)
  | setSettings (settings : α)
  | add (expression color : String)
  | remove (index : Nat)
  | setEnabled (index : Nat) (enabled : Bool)
  | setExpression (index : Nat) (expression : String)
  | curves
  | plot

inductive Answer where
  | nothing
  | index (index : Nat)
  | curves (entries : List Entry)
  | report (report : Report)

def answer (host : Host α) (session : Session) (step : Step α) (word : WordSize := .long) :
    Except Error (Session × Answer) :=
  match step with
  | .reset => .ok (.initial, .nothing)
  | .restart v => do
    let settings ← host.readSettings v
    let session ← (Session.ofSettings settings word).mapError .refusedSettings
    return (session, .nothing)
  | .setSettings v => do
    let settings ← host.readSettings v
    let session ← (session.setSettings settings word).mapError .refusedSettings
    return (session, .nothing)
  | .add expression color =>
    let (session, index) := session.add expression color
    .ok (session, .index index)
  | .remove index => do
    let (session, _) ← (session.remove index).mapError .index
    return (session, .nothing)
  | .setEnabled index enabled => do
    return (← (session.setEnabled index enabled).mapError .index, .nothing)
  | .setExpression index expression => do
    return (← (session.setExpression index expression).mapError .index, .nothing)
  | .curves => .ok (session, .curves session.curves)
  | .plot => .ok (session, .report session.plot.1)

variable (host : Host α) (word : WordSize)

/-- The settings that a value stands for: the default ones for nothing at all, and for a map the default
ones with what it gives in their place. -/
inductive StandsFor : α → Settings → Prop where
  | undefined {v} (undefined : host.isUndefined v = true) : StandsFor v {}
  | null {v} (null : host.isNull v = true) : StandsFor v {}
  | map {v fields given} (defined : host.isUndefined v = false) (notNull : host.isNull v = false)
      (shown : host.fields? v = some fields)
      (givenBy : PartialSettings.GivenBy host.toFormat fields given) : StandsFor v given.complete

/-- What the host is told of a step, its answer or the text that is thrown. -/
def told (session : Session) (step : Step α) : Except String Answer :=
  ((host.answer session step word).map (·.2)).mapError Error.message

def after (session : Session) (step : Step α) : Session :=
  match host.answer session step word with
  | .ok (next, _) => next
  | .error _ => session

def run (session : Session) : List (Step α) → List (Except String Answer) × Session
  | [] => ([], session)
  | step :: steps =>
    let (answers, last) := run (host.after word session step) steps
    (host.told word session step :: answers, last)

end Host

end Grapher
