import Grapher.Sampling.Partial
import Mathlib.Data.List.Forall2
import Mathlib.Logic.Function.Basic
import Mathlib.Tactic.Choose
import Mathlib.Tactic.MkIffOfInductiveProp

namespace Grapher

/-- What is given before and after the values under a name are taken up. -/
inductive Continues {α β : Type} (read : α → Option β) : Option β → List α → Option β → Prop where
  | same {old} : Continues read old [] old
  | first {v x} (readable : read v = some x) : Continues read none [v] (some x)

section Values

variable {α β : Type} {read : α → Option β} {fields : List (String × α)} {name own : String} {v : α}
  {values : List α} {old new found : Option β}

theorem continues_none : Continues read none values new ↔ Once read values new := by
  constructor
  · intro continues
    cases continues with
    | same => exact .absent
    | first readable => exact .present readable
  · intro once
    cases once with
    | absent => exact .same
    | present readable => exact .first readable

theorem continues_nil : Continues read old [] new ↔ new = old := by
  constructor
  · intro continues
    cases continues
    rfl
  · rintro rfl
    exact .same

theorem continues_cons :
    Continues read old (v :: values) new ↔
      old = none ∧ ∃ x, read v = some x ∧ Continues read (some x) values new := by
  constructor
  · intro continues
    cases continues with
    | first readable => exact ⟨rfl, _, readable, .same⟩
  · rintro ⟨rfl, x, readable, continues⟩
    cases continues
    exact .first readable

theorem under_own : under name ((name, v) :: fields) = v :: under name fields := by
  simp [under]

theorem under_other (other : own ≠ name) : under name ((own, v) :: fields) = under name fields := by
  simp [under, other]

theorem under_of_nodup (distinct : (fields.map Prod.fst).Nodup) :
    under name fields = (fields.lookup name).toList := by
  induction fields with
  | nil => rfl
  | cons field fields ih =>
      obtain ⟨own, v⟩ := field
      have ⟨absent, distinct⟩ := List.nodup_cons.mp distinct
      by_cases same : own = name
      · subst same
        have others : under own fields = [] := by
          rw [ih distinct, List.lookup_eq_none_iff.mpr]
          · rfl
          · intro other member
            have differs : own ≠ other.1 := by
              rintro rfl
              exact absent (List.mem_map.mpr ⟨other, member, rfl⟩)
            simpa using differs
        simp [under_own, others]
      · have differs : (name == own) = false := by simpa using Ne.symm same
        simp [under_other same, ih distinct, List.lookup_cons, differs]

theorem once_toList {value : Option α} :
    Once read value.toList found ↔ Option.Rel (fun v x => read v = some x) value found := by
  constructor
  · intro once
    cases value with
    | none =>
        cases once
        exact .none
    | some v =>
        cases once with
        | present readable => exact .some readable
  · intro rel
    cases rel with
    | some readable => exact .present readable
    | none => exact .absent

theorem exists_rel (is : α → β → Prop) (value : Option α)
    (typed : ∀ v, value = some v → ∃ x, is v x) : ∃ found, Option.Rel is value found := by
  cases value with
  | none => exact ⟨none, .none⟩
  | some v =>
      have ⟨x, readable⟩ := typed v rfl
      exact ⟨some x, .some readable⟩

theorem exists_of_rel {is : α → β → Prop} (rel : Option.Rel is (some v) found) : ∃ x, is v x := by
  cases rel with
  | some readable => exact ⟨_, readable⟩

end Values

section Settings

variable {α : Type} {format : Format α} {fields : List (String × α)} {field : String × α}
  {given old new : PartialSettings} {s : Settings} {v : α}

theorem ofKey?_key (setting : NumberSetting) : NumberSetting.ofKey? setting.key = some setting := by
  cases setting <;> rfl

theorem key_of_ofKey? {name : String} {setting : NumberSetting}
    (known : NumberSetting.ofKey? name = some setting) : setting.key = name := by
  unfold NumberSetting.ofKey? at known
  split at known <;> cases known <;> rfl

theorem key_injective : Function.Injective NumberSetting.key := by
  intro first second same
  have known := ofKey?_key first
  rw [same, ofKey?_key] at known
  exact (Option.some_inj.mp known).symm

theorem key_ne_unitKey (setting : NumberSetting) : setting.key ≠ PartialSettings.unitKey := by
  cases setting <;> decide

/-- What is given before and after the fields of a map are taken up, setting by setting. -/
@[mk_iff]
structure PartialSettings.Extends (format : Format α) (old : PartialSettings)
    (fields : List (String × α)) (new : PartialSettings) : Prop where
  number : ∀ setting, Continues format.number? (old.number setting) (under setting.key fields)
    (new.number setting)
  unit : Continues format.unit? old.unit (under unitKey fields) new.unit

theorem extends_nil : old.Extends format [] new ↔ new = old := by
  obtain ⟨number, unit⟩ := old
  obtain ⟨number', unit'⟩ := new
  simp [PartialSettings.extends_iff, under, continues_nil, funext_iff]

theorem extends_setting {setting : NumberSetting} :
    old.Extends format ((setting.key, v) :: fields) new ↔
      old.number setting = none ∧
        ∃ x, format.number? v = some x ∧ (old.setNumber setting x).Extends format fields new := by
  have apart {other : NumberSetting} (differs : other ≠ setting) :
      under other.key ((setting.key, v) :: fields) = under other.key fields :=
    under_other (key_injective.ne differs.symm)
  constructor
  · intro given
    have own := given.number setting
    rw [under_own, continues_cons] at own
    have ⟨absent, x, readable, rest⟩ := own
    refine ⟨absent, x, readable, ⟨fun other => ?_, ?_⟩⟩
    · by_cases same : other = setting
      · simpa [PartialSettings.setNumber, same] using rest
      · simpa [PartialSettings.setNumber, same, apart same] using given.number other
    · simpa [PartialSettings.setNumber, under_other (key_ne_unitKey setting)] using given.unit
  · rintro ⟨absent, x, readable, given⟩
    refine ⟨fun other => ?_, ?_⟩
    · have rest := given.number other
      by_cases same : other = setting
      · subst same
        rw [under_own, continues_cons]
        exact ⟨absent, x, readable, by simpa [PartialSettings.setNumber] using rest⟩
      · simpa [PartialSettings.setNumber, same, apart same] using rest
    · simpa [PartialSettings.setNumber, under_other (key_ne_unitKey setting)] using given.unit

theorem extends_unit :
    old.Extends format ((PartialSettings.unitKey, v) :: fields) new ↔
      old.unit = none ∧ ∃ unit, format.unit? v = some unit ∧
        PartialSettings.Extends format { old with unit := some unit } fields new := by
  simp only [PartialSettings.extends_iff, under_own, continues_cons,
    under_other (key_ne_unitKey _).symm]
  tauto

theorem extends_unknown {name : String} (unknown : NumberSetting.ofKey? name = none)
    (other : name ≠ PartialSettings.unitKey) :
    old.Extends format ((name, v) :: fields) new ↔ old.Extends format fields new := by
  have apart (setting : NumberSetting) : name ≠ setting.key := by
    rintro rfl
    simp [ofKey?_key] at unknown
  simp [PartialSettings.extends_iff, under_other other, under_other (apart _)]

theorem extends_cons :
    old.Extends format (field :: fields) new ↔
      ∃ between, old.take? format field = some between ∧ between.Extends format fields new := by
  obtain ⟨name, v⟩ := field
  unfold PartialSettings.take?
  split
  case h_1 setting known =>
    have own : name = setting.key := (key_of_ofKey? known).symm
    subst own
    rw [extends_setting]
    cases old.number setting <;> simp
  case h_2 unknown =>
    by_cases same : name = PartialSettings.unitKey
    · subst same
      rw [extends_unit]
      cases old.unit <;> simp
    · simp [extends_unknown unknown same, same]

theorem foldlM_extends :
    fields.foldlM (PartialSettings.take? format) old = some new ↔ old.Extends format fields new := by
  induction fields generalizing old with
  | nil =>
      rw [extends_nil, eq_comm]
      exact Option.some_inj
  | cons field fields ih =>
      rw [List.foldlM_cons, extends_cons, Option.bind_eq_bind, Option.bind_eq_some_iff]
      simp only [ih]

theorem extends_default : PartialSettings.Extends format {} fields given ↔ given.GivenBy format fields := by
  constructor
  · intro «extends»
    exact ⟨fun setting => continues_none.mp («extends».number setting), continues_none.mp «extends».unit⟩
  · intro givenBy
    exact ⟨fun setting => continues_none.mpr (givenBy.number setting), continues_none.mpr givenBy.unit⟩

/-- A map is read exactly when each setting is given once at most, with a value that can be read, and then
it gives the default settings with these values in their place. -/
theorem read?_eq_some (shown : format.fields? v = some fields) :
    Settings.read? format v = some s ↔
      ∃ given : PartialSettings, given.GivenBy format fields ∧ given.complete = s := by
  simp only [Settings.read?, shown, Option.bind_eq_bind, Option.bind_some, Option.bind_eq_some_iff,
    foldlM_extends, extends_default, Option.pure_def, Option.some.injEq]

variable {shape : α → Shape}

theorem Format.Lawful.number_eq (lawful : format.Lawful shape) :
    (fun v x => format.number? v = some x) = fun v x => (shape v).number? = some x := by
  simp [lawful.number]

theorem Format.Lawful.unit_eq (lawful : format.Lawful shape) :
    (fun v unit => format.unit? v = some unit) = fun v unit =>
      (shape v).unit? = some unit ∨ shape v = .table ∧ format.unit? v = some unit := by
  funext v unit
  by_cases table : shape v = .table
  · simp [table, Shape.unit?]
  · simp [table, lawful.unit v table]

theorem Format.Lawful.givenBy_iff (lawful : format.Lawful shape) (shown : format.fields? v = some fields) :
    given.GivenBy format fields ↔ given.Typed format shape fields := by
  have once (name : String) : under name fields = (fields.lookup name).toList :=
    under_of_nodup (lawful.distinct v fields shown)
  constructor
  · intro ⟨number, unit⟩
    simp only [once, once_toList, lawful.number_eq, lawful.unit_eq] at number unit
    exact ⟨number, unit⟩
  · intro ⟨number, unit⟩
    refine ⟨fun setting => ?_, ?_⟩
    · rw [once, once_toList, lawful.number_eq]
      exact number setting
    · rw [once, once_toList, lawful.unit_eq]
      exact unit

theorem exists_typed (typed : ¬PartialSettings.Mistyped format shape fields) :
    ∃ given : PartialSettings, given.Typed format shape fields := by
  simp only [PartialSettings.Mistyped, not_or, not_exists, not_and] at typed
  have ⟨numbers, units⟩ := typed
  have number (setting : NumberSetting) :=
    exists_rel (fun v x => (shape v).number? = some x) (fields.lookup setting.key)
      fun v here => Option.ne_none_iff_exists'.mp (numbers setting v here)
  choose number gives using number
  have ⟨unit, givesUnit⟩ := exists_rel
    (fun v unit => (shape v).unit? = some unit ∨ shape v = .table ∧ format.unit? v = some unit)
    (fields.lookup PartialSettings.unitKey) fun v here => by
      cases own : (shape v).unit? with
      | some unit => exact ⟨unit, .inl rfl⟩
      | none =>
          have ⟨table, named⟩ := not_forall.mp (units v here own)
          have ⟨unit, named⟩ := Option.ne_none_iff_exists'.mp named
          exact ⟨unit, .inr ⟨table, named⟩⟩
  exact ⟨⟨number, unit⟩, gives, givesUnit⟩

theorem not_typed_of_mistyped (mistyped : PartialSettings.Mistyped format shape fields) :
    ¬given.Typed format shape fields := by
  intro ⟨number, unit⟩
  cases mistyped with
  | inl wrong =>
      have ⟨setting, v, here, other⟩ := wrong
      have ⟨x, readable⟩ := exists_of_rel (here ▸ number setting)
      rw [other] at readable
      cases readable
  | inr wrong =>
      have ⟨v, here, other, named⟩ := wrong
      have ⟨unit, readable⟩ := exists_of_rel (here ▸ unit)
      cases readable with
      | inl read => simp [other] at read
      | inr table => simp [named table.1] at table

end Settings

end Grapher
