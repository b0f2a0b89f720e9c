import Grapher.Host.Interface
import Grapher.Proofs.Sampling.Cause
import Grapher.Proofs.Sampling.Partial

namespace Grapher

open PartialSettings (Typed Mistyped)

section Readers

variable {α : Type} {format : Format α} {shape : α → Shape} {document? : String → Option α}
  {text : String} {v : α} {fields : List (String × α)} {given : PartialSettings} {word : WordSize}
  {s : Settings} {failure : Failure} {host : Host α}

theorem read?_of_typed (lawful : format.Lawful shape) (shown : format.fields? v = some fields)
    (typed : given.Typed format shape fields) : Settings.read? format v = some given.complete :=
  (read?_eq_some shown).mpr ⟨given, (lawful.givenBy_iff shown).mpr typed, rfl⟩

theorem read?_of_mistyped (lawful : format.Lawful shape) (shown : format.fields? v = some fields)
    (mistyped : Mistyped format shape fields) : Settings.read? format v = none := by
  rw [Option.eq_none_iff_forall_ne_some]
  intro s read
  have ⟨given, givenBy, _⟩ := (read?_eq_some shown).mp read
  exact not_typed_of_mistyped mistyped ((lawful.givenBy_iff shown).mp givenBy)

theorem ofDocument_of_typed (lawful : format.Lawful shape) (document : document? text = some v)
    (shown : format.fields? v = some fields) (typed : given.Typed format shape fields) :
    Settings.ofDocument document? format text word =
      ((given.complete.check word).map fun _ => given.complete).mapError .rejected := by
  rw [Settings.ofDocument, document, Option.bind_some, read?_of_typed lawful shown typed]
  dsimp only
  cases given.complete.check word <;> rfl

theorem ofDocument_of_mistyped (lawful : format.Lawful shape) (document : document? text = some v)
    (shown : format.fields? v = some fields) (mistyped : Mistyped format shape fields) :
    Settings.ofDocument document? format text word = .error .unreadable := by
  rw [Settings.ofDocument, document, Option.bind_some, read?_of_mistyped lawful shown mistyped]

theorem check_of_ofDocument (loaded : Settings.ofDocument document? format text word = .ok s) :
    s.check word = .ok () := by
  unfold Settings.ofDocument at loaded
  split at loaded
  · cases loaded
  · split at loaded
    · cases loaded
    · rename_i accepted
      cases loaded
      exact accepted

theorem readSettings_of_typed (lawful : host.Lawful shape) (defined : host.isUndefined v = false)
    (notNull : host.isNull v = false) (shown : host.fields? v = some fields)
    (typed : given.Typed host.toFormat shape fields) : host.readSettings v = .ok given.complete := by
  simp [Host.readSettings, Host.settings?, defined, notNull, read?_of_typed lawful shown typed]

theorem readSettings_of_mistyped (lawful : host.Lawful shape) (defined : host.isUndefined v = false)
    (notNull : host.isNull v = false) (shown : host.fields? v = some fields)
    (mistyped : Mistyped host.toFormat shape fields) :
    host.readSettings v = .error (.unreadableSettings (host.explain v)) := by
  simp [Host.readSettings, Host.settings?, defined, notNull, read?_of_mistyped lawful shown mistyped]

theorem check_failure (refused : s.check word = .error failure) : failure.isNoValidPoints = false := by
  unfold Settings.check at refused
  split_ifs at refused <;> cases refused <;> rfl

/-- What sampling blames on the settings is what the check says of them, whatever the text is. -/
theorem sample_refused_iff {expression : String} :
    s.sample expression word = .error failure ∧ failure.isNoValidPoints = false ↔
      s.check word = .error failure := by
  constructor
  · rintro ⟨failed, own⟩
    cases check : s.check word with
    | error cause =>
        rw [Settings.sample, check] at failed
        cases failed
        rfl
    | ok =>
        rw [sample_of_accepted check] at failed
        obtain ⟨fault, -, rfl⟩ := run_failure failed
        cases own
  · intro refused
    refine ⟨?_, check_failure refused⟩
    rw [Settings.sample, refused]
    rfl

end Readers

/-- The settings that a document or a value of the host gives replace the default ones, in whatever order
they stand and whatever stands beside them. A value of another type is not read. Settings are then checked
in the same way wherever they come in. -/
theorem partial_settings_overlay {α β : Type} {format : Format α} {host : Host β} {shape : α → Shape}
    {shape' : β → Shape} (lawful : format.Lawful shape) (lawful' : host.Lawful shape')
    (document? : String → Option α) (word : WordSize) :
    (∀ text v fields, document? text = some v → format.fields? v = some fields →
      (Mistyped format shape fields →
        Settings.ofDocument document? format text word = .error .unreadable) ∧
      (¬Mistyped format shape fields → ∃ given : PartialSettings, given.Typed format shape fields) ∧
      ∀ given : PartialSettings, given.Typed format shape fields →
        Settings.ofDocument document? format text word =
          ((given.complete.check word).map fun _ => given.complete).mapError .rejected) ∧
    (∀ v fields, host.isUndefined v = false → host.isNull v = false → host.fields? v = some fields →
      (Mistyped host.toFormat shape' fields →
        host.readSettings v = .error (.unreadableSettings (host.explain v))) ∧
      (¬Mistyped host.toFormat shape' fields →
        ∃ given : PartialSettings, given.Typed host.toFormat shape' fields) ∧
      ∀ given : PartialSettings, given.Typed host.toFormat shape' fields →
        host.readSettings v = .ok given.complete) ∧
    (∀ text s, Settings.ofDocument document? format text word = .ok s → s.check word = .ok ()) ∧
    (∀ cause, (SettingsError.rejected cause).message = "sampler config rejected" ∧
      (SettingsError.rejected cause).cause? = some cause) ∧
    ∀ (s : Settings) (session : Session) (expression : String),
      Session.ofSettings s word = ((s.check word).map fun _ => ⟨s, []⟩) ∧
      session.setSettings s word = ((s.check word).map fun _ => { session with settings := s }) ∧
      ∀ failure, s.sample expression word = .error failure ∧ failure.isNoValidPoints = false ↔
        s.check word = .error failure := by
  refine ⟨fun text v fields document shown => ⟨ofDocument_of_mistyped lawful document shown,
      exists_typed, fun given => ofDocument_of_typed lawful document shown⟩,
    fun v fields defined notNull shown => ⟨readSettings_of_mistyped lawful' defined notNull shown,
      exists_typed, fun given => readSettings_of_typed lawful' defined notNull shown⟩,
    fun text s => check_of_ofDocument, fun cause => ⟨rfl, rfl⟩, fun s session expression => ⟨?_, ?_,
      fun failure => sample_refused_iff⟩⟩
  · rw [Session.ofSettings]
    cases s.check word <;> rfl
  · rw [Session.setSettings]
    cases s.check word <;> rfl

inductive Plain where
  | integer (n : Int)
  | float (x : Float)
  | text (content : String)
  | truth (value : Bool)
  | table (entries : List (String × Plain))

namespace Plain

def shape : Plain → Shape
  | integer n => .integer n
  | float x => .float x
  | text content => .text content
  | truth _ => .other
  | table _ => .table

def fields? : Plain → Option (List (String × Plain))
  | table entries => if (entries.map Prod.fst).Nodup then some entries else none
  | _ => none

def named? : List (String × Plain) → Option AngleUnit
  | [(name, table [])] => AngleUnit.ofName? name
  | _ => none

def format (tableUnit? : List (String × Plain) → Option AngleUnit) : Format Plain where
  fields? := fields?
  number? v := v.shape.number?
  unit?
    | table entries => tableUnit? entries
    | v => v.shape.unit?

def host : Host Plain where
  toFormat := format fun _ => none
  isUndefined _ := false
  isNull _ := false
  explain _ := "no settings"

theorem format_lawful (tableUnit? : List (String × Plain) → Option AngleUnit) :
    (format tableUnit?).Lawful shape where
  distinct v fields shown := by
    change v.fields? = some fields at shown
    unfold fields? at shown
    split at shown
    · split_ifs at shown with distinct
      cases shown
      exact distinct
    · cases shown
  number v := rfl
  unit v other := by
    cases v with
    | table entries => exact absurd rfl other
    | _ => rfl

end Plain

theorem partial_settings_overlay_unordered :
    let document? : String → Option Plain
      | "step = 2\nangle_unit = \"degrees\"" =>
        some (.table [("step", .integer 2), ("angle_unit", .text "degrees")])
      | "scale = true" => some (.table [("scale", .truth true)])
      | _ => none
    (Plain.format Plain.named?).Lawful Plain.shape ∧ Plain.host.Lawful Plain.shape ∧
      Settings.ofDocument document? (Plain.format Plain.named?) "step = 2\nangle_unit = \"degrees\"" .short =
        .ok { step := 2, unit := .degrees } ∧
      Plain.host.readSettings
          (.table [("angle_unit", .text "degrees"), ("zoom", .truth true), ("step", .float 2)]) =
        .ok { step := 2, unit := .degrees } ∧
      Settings.ofDocument document? (Plain.format Plain.named?) "scale = true" .short =
        .error .unreadable ∧
      Plain.host.readSettings (.table [("scale", .truth true)]) =
        .error (.unreadableSettings "no settings") := by
  intro document?
  have lawful := Plain.format_lawful Plain.named?
  have lawful' : Plain.host.Lawful Plain.shape := Plain.format_lawful fun _ => none
  have ⟨documents, values, _⟩ := partial_settings_overlay lawful lawful' document? .short
  let given : PartialSettings :=
    { number := fun setting => if setting = .step then some 2 else none, unit := some .degrees }
  have accepted : given.complete.check .short = .ok () := by decide +kernel
  have typed : given.Typed (Plain.format Plain.named?) Plain.shape
      [("step", .integer 2), ("angle_unit", .text "degrees")] := by
    refine ⟨fun setting => ?_, .some (.inl rfl)⟩
    cases setting with
    | step => exact .some rfl
    | _ => exact .none
  have typed' : given.Typed Plain.host.toFormat Plain.shape
      [("angle_unit", .text "degrees"), ("zoom", .truth true), ("step", .float 2)] := by
    refine ⟨fun setting => ?_, .some (.inl rfl)⟩
    cases setting with
    | step => exact .some rfl
    | _ => exact .none
  have mistyped (format : Format Plain) : Mistyped format Plain.shape [("scale", .truth true)] :=
    .inl ⟨.scale, .truth true, rfl, rfl⟩
  refine ⟨lawful, lawful', ?_, (values (.table _) _ rfl rfl rfl).2.2 given typed',
    (documents "scale = true" (.table _) _ rfl rfl).1 (mistyped _),
    (values (.table _) _ rfl rfl rfl).1 (mistyped _)⟩
  rw [(documents "step = 2\nangle_unit = \"degrees\"" (.table _) _ rfl rfl).2.2 given typed, accepted]
  rfl

/-- A table is no name of a unit, but a document format may read it as one, and the host's need not. -/
theorem table_names_unit :
    let v : Plain := .table [("angle_unit", .table [("degrees", .table [])])]
    let document? : String → Option Plain
      | "angle_unit = \x7b degrees = \x7b\x7d \x7d" => some v
      | _ => none
    (Plain.format Plain.named?).Lawful Plain.shape ∧ Plain.host.Lawful Plain.shape ∧
      (Plain.format Plain.named?).fields? v = some [("angle_unit", .table [("degrees", .table [])])] ∧
      (∀ unit : AngleUnit, Plain.shape (.table [("degrees", .table [])]) ≠ .text unit.name) ∧
      Settings.ofDocument document? (Plain.format Plain.named?)
          "angle_unit = \x7b degrees = \x7b\x7d \x7d" = .ok { unit := .degrees } ∧
      Plain.host.readSettings v = .error (.unreadableSettings "no settings") :=
  ⟨Plain.format_lawful _, Plain.format_lawful _, rfl, nofun, rfl, rfl⟩

end Grapher
