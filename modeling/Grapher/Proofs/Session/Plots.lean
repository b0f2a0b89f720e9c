import Grapher.Proofs.Sampling.Cause
import Grapher.Proofs.Session.Runs
import Grapher.Proofs.Sampling.Events

namespace Grapher

section Plots

/-- What a plot says of a curve. It is disabled, or drawn as the sampler draws it, or none of its samples has
a value and the first fault is told. -/
structure Settings.Shows (s : Settings) (entry : Entry) (shown : CurveReport) : Prop where
  expression : shown.expression = entry.expression
  color : shown.color = entry.color
  disabled : shown.outcome = .disabled ↔ entry.enabled = false
  drawn : (∃ curve, shown.outcome = .plotted curve) ↔
    entry.enabled = true ∧ s.HasValue entry.expression
  sampled : ∀ curve, shown.outcome = .plotted curve ↔
    entry.enabled = true ∧ s.sample entry.expression = .ok curve
  failed : entry.enabled = true → ¬s.HasValue entry.expression →
    ∃ fault, s.FirstFault entry.expression fault ∧ shown.outcome = .noValidPoints fault.message
  accepted : ∀ message, shown.outcome ≠ .rejected message

variable {s : Settings} {entry : Entry}

theorem plotEntry_disabled (disabled : entry.enabled = false) :
    (Session.plotEntry s entry).1 = ⟨entry.expression, entry.color, .disabled⟩ := by
  simp [Session.plotEntry, disabled]

theorem plotEntry_enabled (enabled : entry.enabled = true) :
    (Session.plotEntry s entry).1 =
      ⟨entry.expression, entry.color, .ofResult (s.run entry.expression).result⟩ := by
  simp [Session.plotEntry, enabled]

theorem shows_enabled (accepted : s.check = .ok ()) (enabled : entry.enabled = true) :
    s.Shows entry ⟨entry.expression, entry.color, .ofResult (s.run entry.expression).result⟩ := by
  have sampled := sample_of_accepted accepted entry.expression
  have drawn := @run_drawn_iff s entry.expression
  cases result : (s.run entry.expression).result with
  | ok curve =>
      have value := drawn.mp ⟨curve, result⟩
      exact {
        expression := rfl
        color := rfl
        disabled := iff_of_false nofun (by simp [enabled])
        drawn := iff_of_true ⟨curve, rfl⟩ ⟨enabled, value⟩
        sampled := by simp [Outcome.ofResult, enabled, sampled, result]
        failed := fun _ none => absurd value none
        accepted := nofun }
  | error failure =>
      obtain ⟨fault, first, rfl⟩ := run_failure result
      have none : ¬s.HasValue entry.expression := by
        intro value
        obtain ⟨curve, ok⟩ := drawn.mpr value
        rw [result] at ok
        cases ok
      exact {
        expression := rfl
        color := rfl
        disabled := iff_of_false nofun (by simp [enabled])
        drawn := iff_of_false nofun fun both => none both.2
        sampled := by simp [Outcome.ofResult, sampled, result]
        failed := fun _ _ => ⟨fault, first, rfl⟩
        accepted := nofun }

theorem shows_entry (accepted : s.check = .ok ()) (entry : Entry) :
    s.Shows entry (Session.plotEntry s entry).1 := by
  cases enabled : entry.enabled with
  | false =>
      rw [plotEntry_disabled enabled]
      constructor <;> simp [enabled]
  | true =>
      rw [plotEntry_enabled enabled]
      exact shows_enabled accepted enabled

theorem outcome_congr {other : Entry} (enabled : other.enabled = entry.enabled)
    (expression : other.expression = entry.expression) :
    (Session.plotEntry s other).1.outcome = (Session.plotEntry s entry).1.outcome := by
  unfold Session.plotEntry
  rw [enabled, expression]
  split <;> rfl

theorem plot_curves (session : Session) :
    session.plot.1.curves =
      session.curves.map fun entry => (Session.plotEntry session.settings entry).1 :=
  List.map_map

theorem plot_error (session : Session) :
    session.plot.1.error =
      if Report.nothingPlotted session.plot.1.curves then some Report.banner else none := rfl

theorem mem_zip_plot {session : Session} {shown : CurveReport}
    (member : (entry, shown) ∈ session.curves.zip session.plot.1.curves) :
    shown = (Session.plotEntry session.settings entry).1 := by
  have each : List.Forall₂ (fun entry shown => shown = (Session.plotEntry session.settings entry).1)
      session.curves session.plot.1.curves := by
    rw [plot_curves, List.forall₂_map_right_iff, List.forall₂_same]
    exact fun _ _ => rfl
  exact List.forall₂_zip each member

theorem isDisabled_iff {outcome : Outcome} : outcome.isDisabled = true ↔ outcome = .disabled := by
  cases outcome <;> simp [Outcome.isDisabled]

/-- Unless curves are rejected, the ones that count as failed are those that are neither disabled nor
drawn. -/
theorem isNoValidPoints_iff {outcome : Outcome} (accepted : ∀ message, outcome ≠ .rejected message) :
    outcome.isNoValidPoints = true ↔ outcome ≠ .disabled ∧ outcome.curve? = none := by
  cases outcome with
  | rejected message => exact absurd rfl (accepted message)
  | _ => simp [Outcome.isNoValidPoints, Outcome.curve?]

theorem nothingPlotted_iff {curves : List CurveReport}
    (accepted : ∀ shown ∈ curves, ∀ message, shown.outcome ≠ .rejected message) :
    Report.nothingPlotted curves = true ↔
      (∃ shown ∈ curves, shown.outcome ≠ .disabled) ∧ curves.filterMap (·.outcome.curve?) = [] := by
  have counted : Report.nothingPlotted curves = true ↔
      (∃ shown ∈ curves, shown.outcome ≠ .disabled) ∧
        ∀ shown ∈ curves, shown.outcome ≠ .disabled → shown.outcome.isNoValidPoints = true := by
    simp [Report.nothingPlotted, ← isDisabled_iff, or_iff_not_imp_left]
  rw [counted, List.filterMap_eq_nil_iff]
  refine and_congr_right fun _ => forall₂_congr fun shown member => ?_
  rw [isNoValidPoints_iff (accepted shown member)]
  constructor
  · intro failed
    by_cases disabled : shown.outcome = .disabled
    · rw [disabled]
      rfl
    · exact (failed disabled).2
  · exact fun none enabled => ⟨enabled, none⟩

theorem run_accepted (edits : List Edit) :
    (Session.initial.run edits).2.settings.check = .ok () := by
  have rules := (@rules_iff_run Session.initial .long edits _ _).mpr ⟨rfl, rfl⟩
  generalize (Session.initial.run edits).2 = last at *
  have accepted : last.pair.1.check = .ok () := rules_accepted rules (check_default .long)
  exact accepted

theorem banner_iff {session : Session} (accepted : session.settings.check = .ok ()) :
    Report.nothingPlotted session.plot.1.curves = true ↔
      (∃ entry ∈ session.curves, entry.enabled = true) ∧ session.plot.1.plotted = [] := by
  have shows := shows_entry accepted
  have members (shown : CurveReport) : shown ∈ session.plot.1.curves ↔
      ∃ entry ∈ session.curves, (Session.plotEntry session.settings entry).1 = shown := by
    rw [plot_curves, List.mem_map]
  have own : ∀ shown ∈ session.plot.1.curves, ∀ message, shown.outcome ≠ .rejected message := by
    intro shown member
    obtain ⟨entry, -, rfl⟩ := (members shown).mp member
    exact (shows entry).accepted
  rw [nothingPlotted_iff own]
  refine and_congr_left fun _ => ?_
  constructor
  · rintro ⟨shown, member, enabled⟩
    obtain ⟨entry, present, rfl⟩ := (members shown).mp member
    exact ⟨entry, present, Bool.eq_true_of_not_eq_false (mt (shows entry).disabled.mpr enabled)⟩
  · rintro ⟨entry, present, enabled⟩
    refine ⟨_, (members _).mpr ⟨entry, present, rfl⟩, fun disabled => ?_⟩
    rw [(shows entry).disabled.mp disabled] at enabled
    cases enabled

/-- A plot of a session that was reached by any edits tells of the curves one by one, in order. Curves of
the same text that are both enabled or both disabled have the same outcome in any two sessions of the same
settings. The banner is there exactly when some curve is enabled and none is drawn. -/
theorem plot_shows_entries (edits : List Edit) :
    let last := (Session.initial.run edits).2
    let report := last.plot.1
    List.Forall₂ last.settings.Shows last.curves report.curves ∧
      (∀ others,
        let other := (Session.initial.run others).2
        other.settings = last.settings →
          ∀ entry shown entry' shown', (entry, shown) ∈ last.curves.zip report.curves →
            (entry', shown') ∈ other.curves.zip other.plot.1.curves →
              entry'.enabled = entry.enabled → entry'.expression = entry.expression →
                shown'.outcome = shown.outcome) ∧
      (report.error = some Report.banner ↔
        (∃ entry ∈ last.curves, entry.enabled = true) ∧ report.plotted = []) ∧
      (report.error = none ↔ ¬((∃ entry ∈ last.curves, entry.enabled = true) ∧ report.plotted = [])) := by
  intro last report
  have accepted : last.settings.check = .ok () := run_accepted edits
  refine ⟨?_, ?_, ?_, ?_⟩
  · rw [show report.curves = _ from plot_curves last, List.forall₂_map_right_iff, List.forall₂_same]
    exact fun entry _ => shows_entry accepted entry
  · intro others other settings entry shown entry' shown' member member' enabled expression
    rw [mem_zip_plot member, mem_zip_plot member', settings]
    exact outcome_congr enabled expression
  · rw [← banner_iff accepted, show report.error = _ from plot_error last]
    simp
  · rw [← banner_iff accepted, show report.error = _ from plot_error last]
    simp

example :
    let last := (Session.initial.run [.setExpression 0 "bogus(x)", .setEnabled 1 false]).2
    last.plot.1.error = some Report.banner := by
  decide +kernel

end Plots

section Events

variable {s : Settings} {entry : Entry}

theorem foldl_append_toList {α : Type} (rows : List (Array α)) (start : Array α) :
    (rows.foldl (· ++ ·) start).toList = start.toList ++ rows.flatMap Array.toList := by
  induction rows generalizing start with
  | nil => exact (List.append_nil _).symm
  | cons row rows ih =>
      rw [List.foldl_cons, ih, Array.toList_append, List.flatMap_cons, List.append_assoc]

theorem events_disabled (disabled : entry.enabled = false) :
    (Session.plotEntry s entry).2.toList = [] := by
  simp [Session.plotEntry, disabled]

theorem events_enabled (enabled : entry.enabled = true) :
    (Session.plotEntry s entry).2 = (s.run entry.expression).events := by
  simp [Session.plotEntry, enabled]

theorem flatMap_events (s : Settings) (entries : List Entry) :
    (entries.flatMap fun entry => (Session.plotEntry s entry).2.toList) =
      (entries.filter (·.enabled)).flatMap fun entry => (s.run entry.expression).events.toList := by
  induction entries with
  | nil => rfl
  | cons entry entries ih =>
      cases enabled : entry.enabled with
      | false =>
          rw [List.flatMap_cons, events_disabled enabled, ih, List.nil_append,
            List.filter_cons_of_neg (by simp [enabled])]
      | true =>
          rw [List.flatMap_cons, events_enabled enabled, ih, List.filter_cons_of_pos enabled,
            List.flatMap_cons]

theorem plot_events (session : Session) :
    session.plot.2.toList =
      ((session.curves.filter (·.enabled)).flatMap fun entry =>
        (session.settings.run entry.expression).events.toList) ++
      [.plottedSession session.curves.length (Report.nothingPlotted session.plot.1.curves)] := by
  have curves : session.plot.1.curves.length = session.curves.length := by
    rw [plot_curves, List.length_map]
  have flag : session.plot.1.error.isSome = Report.nothingPlotted session.plot.1.curves := by
    rw [plot_error]
    split <;> simp_all
  rw [← flatMap_events, ← flag, ← curves]
  change ((((session.curves.map _).map _).foldl (· ++ ·) #[]).push _).toList = _
  rw [Array.toList_push, foldl_append_toList, List.map_map, List.flatMap_map]
  rfl

theorem quiet_of_trace {event : Event} (level : event.level = .trace) :
    event.endsCurve = false ∧ event.isSampledCurve = false := by
  cases event with
  | undefinedSample => exact ⟨rfl, rfl⟩
  | discontinuity => exact ⟨rfl, rfl⟩
  | _ => cases level

theorem countP_last {p : Event → Bool} {told : List Event} {last : Event}
    (quiet : ∀ event ∈ told, p event = false) : (told ++ [last]).countP p = if p last then 1 else 0 := by
  have none : told.countP p = 0 :=
    List.countP_eq_zero.mpr fun event member => by rw [quiet event member]; exact Bool.false_ne_true
  rw [List.countP_append, none, Nat.zero_add, List.countP_singleton]

theorem countP_endsCurve (entry : Entry) :
    (Session.plotEntry s entry).2.toList.countP Event.endsCurve = if entry.enabled then 1 else 0 := by
  cases enabled : entry.enabled with
  | false => rw [events_disabled enabled]; rfl
  | true =>
      obtain ⟨told, last, events, traced, -, ends, -⟩ := run_events_last s entry.expression
      rw [events_enabled enabled, events, countP_last fun event member => (quiet_of_trace (traced event member)).1,
        ends]

theorem countP_sampledCurve (entry : Entry) :
    (Session.plotEntry s entry).2.toList.countP Event.isSampledCurve =
      if (Session.plotEntry s entry).1.outcome.curve?.isSome then 1 else 0 := by
  cases enabled : entry.enabled with
  | false => rw [events_disabled enabled, plotEntry_disabled enabled]; rfl
  | true =>
      obtain ⟨told, last, events, traced, -, -, sampled⟩ := run_events_last s entry.expression
      have plotted : last.isSampledCurve = true ↔
          (Outcome.ofResult (s.run entry.expression).result).curve?.isSome = true := by
        rw [sampled]
        cases result : (s.run entry.expression).result with
        | ok curve => exact iff_of_true ⟨curve, rfl⟩ rfl
        | error failure =>
            obtain ⟨fault, -, rfl⟩ := run_failure result
            exact iff_of_false nofun nofun
      rw [events_enabled enabled, plotEntry_enabled enabled, events,
        countP_last fun event member => (quiet_of_trace (traced event member)).2]
      exact if_congr plotted rfl rfl

/-- A plot tells the events of the enabled curves in their order, each up to the event that ends it, and at
last how many curves there are, disabled ones counted, and whether the banner is shown. So the curves told as
sampled are those that are plotted. -/
theorem plot_tells_entries (edits : List Edit) :
    let last := (Session.initial.run edits).2
    let report := last.plot.1
    let told := (last.curves.filter (·.enabled)).flatMap fun entry =>
      (last.settings.run entry.expression).events.toList
    ∃ nothing, last.plot.2.toList = told ++ [.plottedSession last.curves.length nothing] ∧
      (nothing = true ↔ report.error ≠ none) ∧
      (nothing = true ↔ (∃ entry ∈ last.curves, entry.enabled = true) ∧ report.plotted = []) ∧
      told.countP Event.endsCurve = (last.curves.filter (·.enabled)).length ∧
      told.countP Event.isSampledCurve = report.plotted.length := by
  intro last report told
  have each : (last.curves.flatMap fun entry => (Session.plotEntry last.settings entry).2.toList) = told :=
    flatMap_events last.settings last.curves
  refine ⟨Report.nothingPlotted report.curves, plot_events last, ?_, banner_iff (run_accepted edits), ?_, ?_⟩
  · rw [show report.error = _ from plot_error last]
    simp [report]
  · rw [← each, countP_flatMap_of_each countP_endsCurve, List.countP_eq_length_filter]
  · rw [← each, countP_flatMap_of_each countP_sampledCurve, Report.plotted,
      List.length_filterMap_eq_countP, show report.curves = _ from plot_curves last, List.countP_map]
    rfl

example :
    let last := (Session.initial.run [.setExpression 0 "bogus(x)", .setEnabled 1 false]).2
    last.plot.2.toList =
      [.notCompiled "bogus(x)" (.unknownFunction "bogus"), .plottedSession 2 true] := by
  decide +kernel

end Events

end Grapher
