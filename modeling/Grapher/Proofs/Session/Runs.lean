import Grapher.Proofs.Result
import Grapher.Session.Rules

namespace Grapher

variable {session : Session} {index : Nat}

theorem entry_at {before behind : List Entry} {entry : Entry}
    (curves : session.curves = before ++ entry :: behind) :
    session.entry before.length = .ok entry := by
  simp [Session.entry, curves]

theorem entry_beyond (beyond : session.curves.length ≤ index) :
    session.entry index = .error ⟨index, session.curves.length⟩ := by
  rw [Session.entry, List.getElem?_eq_none beyond]

theorem split_at (within : index < session.curves.length) :
    ∃ before entry behind, session.curves = before ++ entry :: behind ∧ index = before.length := by
  refine ⟨session.curves.take index, session.curves[index], session.curves.drop (index + 1), ?_, ?_⟩
  · rw [← List.drop_eq_getElem_cons within, List.take_append_drop]
  · rw [List.length_take, Nat.min_eq_left (Nat.le_of_lt within)]

theorem replace_at {before behind : List Entry} {entry : Entry} (change : Entry → Entry)
    (curves : session.curves = before ++ entry :: behind) :
    session.replace before.length change =
      .ok { session with curves := before ++ change entry :: behind } := by
  rw [Session.replace, entry_at curves, curves]
  simp [List.set_append_right, pure, bind, Except.bind, Except.pure]

theorem replace_beyond (change : Entry → Entry) (beyond : session.curves.length ≤ index) :
    session.replace index change = .error ⟨index, session.curves.length⟩ := by
  rw [Session.replace, entry_beyond beyond]
  rfl

variable {word : WordSize} {edit : Edit} {settings : Settings} {failure : Failure}

theorem edit_accepted_restart (accepted : settings.check word = .ok ()) :
    session.edit (.restart settings) word = .ok ({ settings, curves := [] }, .done) := by
  rw [Session.edit, Session.ofSettings, accepted]
  rfl

theorem edit_accepted_setSettings (accepted : settings.check word = .ok ()) :
    session.edit (.setSettings settings) word = .ok ({ session with settings }, .done) := by
  rw [Session.edit, Session.setSettings, accepted]
  rfl

theorem edit_remove_at {before behind : List Entry} {entry : Entry}
    (curves : session.curves = before ++ entry :: behind) :
    session.edit (.remove before.length) word =
      .ok ({ session with curves := before ++ behind }, .removed entry) := by
  have erased : session.curves.eraseIdx before.length = before ++ behind := by
    rw [curves, List.eraseIdx_append_of_length_le (Nat.le_refl _), Nat.sub_self]
    rfl
  rw [Session.edit, Session.remove, entry_at curves, erased]
  rfl

theorem edit_setEnabled_at {before behind : List Entry} {entry : Entry} (enabled : Bool)
    (curves : session.curves = before ++ entry :: behind) :
    session.edit (.setEnabled before.length enabled) word =
      .ok ({ session with curves := before ++ { entry with enabled } :: behind }, .done) := by
  rw [Session.edit, Session.setEnabled, replace_at _ curves]
  rfl

theorem edit_setExpression_at {before behind : List Entry} {entry : Entry} (expression : String)
    (curves : session.curves = before ++ entry :: behind) :
    session.edit (.setExpression before.length expression) word =
      .ok ({ session with curves := before ++ { entry with expression } :: behind }, .done) := by
  rw [Session.edit, Session.setExpression, replace_at _ curves]
  rfl

theorem edit_refused (brings : edit.settings? = some settings)
    (fails : settings.check word = .error failure) : session.edit edit word = .error (.settings failure) := by
  cases edit with
  | restart other =>
      cases brings
      rw [Session.edit, Session.ofSettings, fails]
      rfl
  | setSettings other =>
      cases brings
      rw [Session.edit, Session.setSettings, fails]
      rfl
  | _ => cases brings

theorem edit_beyond (about : edit.target? = some index) (beyond : session.curves.length ≤ index) :
    session.edit edit word = .error (.index ⟨index, session.curves.length⟩) := by
  cases edit with
  | remove other =>
      cases about
      rw [Session.edit, Session.remove, entry_beyond beyond]
      rfl
  | setEnabled other enabled =>
      cases about
      rw [Session.edit, Session.setEnabled, replace_beyond _ beyond]
      rfl
  | setExpression other expression =>
      cases about
      rw [Session.edit, Session.setExpression, replace_beyond _ beyond]
      rfl
  | _ => cases about

theorem takes_ok {next : Session} {reply : Reply} (went : session.edit edit word = .ok (next, reply)) :
    session.Takes edit word (.ok reply) next.pair := by
  unfold Session.Takes Session.reply Session.apply
  rw [went]
  exact ⟨rfl, rfl⟩

theorem takes_error {error : EditError} (stopped : session.edit edit word = .error error) :
    session.Takes edit word (.error error) session.pair := by
  unfold Session.Takes Session.reply Session.apply
  rw [stopped]
  exact ⟨rfl, rfl⟩

theorem takes_of_rule {first second : Settings × List Entry} {reply : Except EditError Reply}
    (rule : EditRule word first edit reply second) (start : session.pair = first) :
    session.Takes edit word reply second := by
  obtain ⟨own, curves⟩ := session
  cases rule with
  | reset => exact ⟨rfl, rfl⟩
  | restart accepted => exact takes_ok (edit_accepted_restart accepted)
  | setSettings accepted =>
      cases start
      exact takes_ok (edit_accepted_setSettings accepted)
  | add =>
      cases start
      exact ⟨rfl, rfl⟩
  | remove =>
      cases start
      exact takes_ok (@edit_remove_at ⟨own, _⟩ _ _ _ _ rfl)
  | setEnabled =>
      cases start
      exact takes_ok (@edit_setEnabled_at ⟨own, _⟩ _ _ _ _ _ rfl)
  | setExpression =>
      cases start
      exact takes_ok (@edit_setExpression_at ⟨own, _⟩ _ _ _ _ _ rfl)
  | refused brings fails =>
      cases start
      exact takes_error (edit_refused brings fails)
  | outOfRange about beyond =>
      cases start
      exact takes_error (@edit_beyond ⟨own, curves⟩ _ _ _ about beyond)

theorem rule_exists (session : Session) (edit : Edit) :
    ∃ reply after, EditRule word session.pair edit reply after := by
  by_cases beyond : ∃ index, edit.target? = some index ∧ session.curves.length ≤ index
  · obtain ⟨index, about, beyond⟩ := beyond
    exact ⟨_, _, .outOfRange about beyond⟩
  by_cases fails : ∃ settings failure, edit.settings? = some settings ∧
      settings.check word = .error failure
  · obtain ⟨settings, failure, brings, fails⟩ := fails
    exact ⟨_, _, .refused brings fails⟩
  have within (index : Nat) (about : edit.target? = some index) : index < session.curves.length :=
    Nat.lt_of_not_le fun le => beyond ⟨index, about, le⟩
  have accepted (settings : Settings) (brings : edit.settings? = some settings) :
      settings.check word = .ok () := by
    cases check : settings.check word with
    | ok => rfl
    | error failure => exact absurd ⟨settings, failure, brings, check⟩ fails
  obtain ⟨own, curves⟩ := session
  cases edit with
  | reset => exact ⟨_, _, .reset⟩
  | restart settings => exact ⟨_, _, .restart (accepted settings rfl)⟩
  | setSettings settings => exact ⟨_, _, .setSettings (accepted settings rfl)⟩
  | add expression color => exact ⟨_, _, .add⟩
  | remove index =>
      obtain ⟨before, entry, behind, rfl, rfl⟩ := split_at (within index rfl)
      exact ⟨_, _, .remove⟩
  | setEnabled index enabled =>
      obtain ⟨before, entry, behind, rfl, rfl⟩ := split_at (within index rfl)
      exact ⟨_, _, .setEnabled⟩
  | setExpression index expression =>
      obtain ⟨before, entry, behind, rfl, rfl⟩ := split_at (within index rfl)
      exact ⟨_, _, .setExpression⟩

theorem rule_iff_takes {reply : Except EditError Reply} {after : Settings × List Entry} :
    EditRule word session.pair edit reply after ↔ session.Takes edit word reply after := by
  constructor
  · intro rule
    exact takes_of_rule rule rfl
  · rintro ⟨replied, left⟩
    obtain ⟨other, state, rule⟩ := rule_exists session edit
    obtain ⟨replied', left'⟩ := takes_of_rule rule rfl
    rwa [← replied, ← left, replied', left']

theorem rules_iff_run {edits : List Edit} {replies : List (Except EditError Reply)}
    {after : Settings × List Entry} :
    EditRules word session.pair edits replies after ↔
      (session.run edits word).1 = replies ∧ (session.run edits word).2.pair = after := by
  induction edits generalizing session replies with
  | nil =>
      constructor
      · intro rules
        cases rules
        exact ⟨rfl, rfl⟩
      · rintro ⟨rfl, rfl⟩
        exact .done
  | cons edit edits ih =>
      constructor
      · intro rules
        cases rules with
        | step rule rules =>
            obtain ⟨rfl, rfl⟩ := takes_of_rule rule rfl
            obtain ⟨rfl, left⟩ := ih.mp rules
            exact ⟨rfl, left⟩
      · rintro ⟨rfl, left⟩
        exact .step (rule_iff_takes.mpr ⟨rfl, rfl⟩) (ih.mpr ⟨rfl, left⟩)

theorem check_default (word : WordSize) : ({} : Settings).check word = .ok () := rfl

theorem rule_accepted {first second : Settings × List Entry} {reply : Except EditError Reply}
    (rule : EditRule word first edit reply second) (accepted : first.1.check word = .ok ()) :
    second.1.check word = .ok () := by
  cases rule with
  | reset => exact check_default word
  | restart other => exact other
  | setSettings other => exact other
  | _ => exact accepted

theorem rules_accepted {edits : List Edit} {replies : List (Except EditError Reply)}
    {first last : Settings × List Entry} (rules : EditRules word first edits replies last)
    (accepted : first.1.check word = .ok ()) : last.1.check word = .ok () := by
  induction rules with
  | done => exact accepted
  | step rule rules ih => exact ih (rule_accepted rule accepted)

example :
    (Session.initial.run [.remove 0, .setEnabled 0 false, .remove 1]).1 =
      [.ok (.removed ⟨"sin(x)", true, "blue"⟩), .ok .done, .error (.index ⟨1, 1⟩)] := rfl

end Grapher
