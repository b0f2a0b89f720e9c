import Grapher.Sampling.Settings

/-!
Settings of which only some are given, by name and in a data format that is not ours.
-/

namespace Grapher

/-- How a data format shows a value: as a map of named ones, as a number, or as a unit. -/
structure Format (α : Type) where
  fields? : α → Option (List (String × α))
  number? : α → Option Float
  unit? : α → Option AngleUnit

inductive NumberSetting where
  | domainMin
  | domainMax
  | step
  | scale
  | threshold
  deriving DecidableEq

namespace NumberSetting

def key : NumberSetting → String
  | domainMin => "domain_min"
  | domainMax => "domain_max"
  | step => "step"
  | scale => "scale"
  | threshold => "discontinuity_threshold"

def ofKey? : String → Option NumberSetting
  | "domain_min" => some domainMin
  | "domain_max" => some domainMax
  | "step" => some step
  | "scale" => some scale
  | "discontinuity_threshold" => some threshold
  | _ => none

end NumberSetting

structure PartialSettings where
  number : NumberSetting → Option Float := fun _ => none
  unit : Option AngleUnit := none

namespace PartialSettings

def unitKey : String := "angle_unit"

def complete (given : PartialSettings) : Settings :=
  let default : Settings := {}
  { domainMin := (given.number .domainMin).getD default.domainMin
    domainMax := (given.number .domainMax).getD default.domainMax
    step := (given.number .step).getD default.step
    scale := (given.number .scale).getD default.scale
    threshold := (given.number .threshold).getD default.threshold
    unit := given.unit.getD default.unit }

def setNumber (given : PartialSettings) (setting : NumberSetting) (x : Float) : PartialSettings :=
  { given with number := fun other => if other = setting then some x else given.number other }

variable {α : Type}

/-- Takes a named value up. A setting is given once, and a name that is no setting is passed over. -/
def take? (format : Format α) (given : PartialSettings) (field : String × α) : Option PartialSettings :=
  match NumberSetting.ofKey? field.1 with
  | some setting =>
    if (given.number setting).isSome then none
    else (format.number? field.2).map (given.setNumber setting)
  | none =>
    if field.1 ≠ unitKey then some given
    else if given.unit.isSome then none
    else (format.unit? field.2).map fun unit => { given with unit := some unit }

end PartialSettings

namespace Settings

variable {α : Type}

def read? (format : Format α) (v : α) : Option Settings := do
  let fields ← format.fields? v
  let given ← fields.foldlM (PartialSettings.take? format) {}
  return given.complete

end Settings

inductive SettingsError where
  | unreadable
  | rejected (cause : Failure)
  deriving DecidableEq

namespace SettingsError

def message : SettingsError → String
  | unreadable => "failed to parse sampler config"
  | rejected _ => "sampler config rejected"

def cause? : SettingsError → Option Failure
  | unreadable => none
  | rejected cause => some cause

end SettingsError

def Settings.ofDocument {α : Type} (document? : String → Option α) (format : Format α) (text : String)
    (word : WordSize := .long) : Except SettingsError Settings :=
  match (document? text).bind (Settings.read? format) with
  | none => .error .unreadable
  | some settings =>
    match settings.check word with
    | .error cause => .error (.rejected cause)
    | .ok () => .ok settings

section Given

variable {α β : Type}

def under (name : String) (fields : List (String × α)) : List α :=
  (fields.filter (·.1 = name)).map (·.2)

inductive Once (read : α → Option β) : List α → Option β → Prop where
  | absent : Once read [] none
  | present {v x} (readable : read v = some x) : Once read [v] (some x)

structure PartialSettings.GivenBy (format : Format α) (fields : List (String × α))
    (given : PartialSettings) : Prop where
  number : ∀ setting, Once format.number? (under setting.key fields) (given.number setting)
  unit : Once format.unit? (under unitKey fields) given.unit

/-- What a value is. Only the format can tell whether a table names a unit. -/
inductive Shape where
  | integer (n : Int)
  | float (x : Float)
  | text (content : String)
  | table
  | other

namespace Shape

def number? : Shape → Option Float
  | integer n => some (Float.ofInt n)
  | float x => some x
  | text _ | table | other => none

def unit? : Shape → Option AngleUnit
  | text content => AngleUnit.ofName? content
  | integer _ | float _ | table | other => none

end Shape

/-- What the reader of a format keeps to: no key of a map stands twice, whole and other numbers are
numbers, and a text is the unit that it names. -/
structure Format.Lawful (format : Format α) (shape : α → Shape) : Prop where
  distinct : ∀ v fields, format.fields? v = some fields → (fields.map Prod.fst).Nodup
  number : ∀ v, format.number? v = (shape v).number?
  unit : ∀ v, shape v ≠ .table → format.unit? v = (shape v).unit?

variable (format : Format α) (shape : α → Shape) (fields : List (String × α))

/-- Each setting that the map holds has a value of its type, and that is what is given. -/
structure PartialSettings.Typed (given : PartialSettings) : Prop where
  number : ∀ setting : NumberSetting,
    Option.Rel (fun v x => (shape v).number? = some x) (fields.lookup setting.key) (given.number setting)
  unit : Option.Rel (fun v unit => (shape v).unit? = some unit ∨
    shape v = .table ∧ format.unit? v = some unit) (fields.lookup unitKey) given.unit

def PartialSettings.Mistyped : Prop :=
  (∃ (setting : NumberSetting) (v : α),
      fields.lookup setting.key = some v ∧ (shape v).number? = none) ∨
    ∃ v, fields.lookup unitKey = some v ∧ (shape v).unit? = none ∧
      (shape v = .table → format.unit? v = none)

end Given

end Grapher
