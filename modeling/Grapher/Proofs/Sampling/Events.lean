import Grapher.Proofs.Sampling.Cause

/-!
The events of a run. A sample tells that it has no value or that the curve jumps to it, and nothing else.
The last event tells how the run ended, so the events can be counted against samples and segments.
-/

namespace Grapher

namespace Event

def isUndefinedSample : Event → Bool
  | undefinedSample .. => true
  | _ => false

def isDiscontinuity : Event → Bool
  | discontinuity _ => true
  | _ => false

def isSampledCurve : Event → Bool
  | sampledCurve .. => true
  | _ => false

def endsCurve : Event → Bool
  | notCompiled .. | noValidPoints .. | sampledCurve .. => true
  | _ => false

end Event

variable {s : Settings} {formula : Formula} {expression : String} {count : Nat} {progress : Progress}
  {runs closed : List (List Nat)} {last : Option (List Nat)} {breaks : Nat → Bool} {curve : Curve}

def Settings.eventsAt (s : Settings) (formula : Formula) (breaks : Nat → Bool) (index : Nat) : List Event :=
  match formula.evaluate (s.position index) with
  | .error fault => [.undefinedSample (s.position index) fault]
  | .ok _ => if breaks index then [.discontinuity (s.position index)] else []

theorem eventsAt_error {index : Nat} {fault : Fault}
    (value : formula.evaluate (s.position index) = .error fault) :
    s.eventsAt formula breaks index = [.undefinedSample (s.position index) fault] := by
  rw [Settings.eventsAt, value]

theorem eventsAt_ok {index : Nat} {y : Float} (value : formula.evaluate (s.position index) = .ok y) :
    s.eventsAt formula breaks index =
      if breaks index then [.discontinuity (s.position index)] else [] := by
  rw [Settings.eventsAt, value]

theorem level_eventsAt (index : Nat) :
    ∀ event ∈ s.eventsAt formula breaks index, event.level = .trace := by
  intro event told
  cases value : formula.evaluate (s.position index) with
  | error fault =>
      rw [eventsAt_error value] at told
      rw [List.mem_singleton.mp told]
      rfl
  | ok y =>
      rw [eventsAt_ok value] at told
      split at told
      · rw [List.mem_singleton.mp told]
        rfl
      · cases told

/-- The curve jumps to a sample from the one before it, and both have a value. -/
def Settings.JumpsTo (s : Settings) (formula : Formula) (index : Nat) : Prop :=
  ∃ i, i + 1 = index ∧ (s.pointAt formula i).isSome = true ∧
    (s.pointAt formula index).isSome = true ∧ ¬s.JoinsNext formula i

theorem Traces.not_jumps (traces : Traces s formula count progress closed none) :
    ¬s.JumpsTo formula count := by
  rintro ⟨i, next, is, -⟩
  exact traces.reaches i next is rfl

theorem Traces.jumps_iff {run : List Nat} (traces : Traces s formula count progress closed (some run))
    {segment : Segment} (grown : progress.growing = some segment) {point : Point}
    (here : s.pointAt formula count = some point) :
    s.JumpsTo formula count ↔ ¬Progress.connects s segment.last point = true := by
  obtain ⟨other, i, same, -, -, next, before⟩ := traces.grown
  cases grown.symm.trans same
  have joins : s.JoinsNext formula i ↔ Progress.connects s segment.last point = true := by
    rw [connects_iff, Settings.JoinsNext, next, before, here]
    simp
  rw [← joins]
  constructor
  · rintro ⟨j, next', -, -, apart⟩
    rwa [show i = j by omega]
  · intro apart
    exact ⟨i, next, by rw [before]; rfl, by rw [here]; rfl, apart⟩

/-- What one sample tells depends on the segment that may still grow, and so on the sample before it
alone. -/
theorem Traces.sample_events (traces : Traces s formula count progress closed last)
    (jumps : breaks count = true ↔ s.JumpsTo formula count) :
    (progress.sample s formula count).events.toList =
      progress.events.toList ++ s.eventsAt formula breaks count := by
  obtain ⟨stack, sampled⟩ := sample_eq s formula progress count
  cases value : formula.evaluate (s.position count) with
  | error fault =>
      rw [sampled, value, eventsAt_error value]
      exact Array.toList_push
  | ok y =>
      rw [sampled, value, eventsAt_ok value]
      cases last with
      | none =>
          have closed : { progress with stack }.growing = none :=
            Option.map_eq_none_iff.mp traces.growing
          rw [if_neg (mt jumps.mp traces.not_jumps), List.append_nil]
          exact congrArg (·.events.toList) (through_none closed ⟨s.position count, y⟩)
      | some run =>
          obtain ⟨segment, -, grown, -⟩ := traces.grown
          have grown' : { progress with stack }.growing = some segment := grown
          have told := through_growing (s := s) grown' ⟨s.position count, y⟩
          have jumps := jumps.trans (traces.jumps_iff grown (pointAt_ok value))
          by_cases connected : Progress.connects s segment.last ⟨s.position count, y⟩ = true
          · rw [if_pos connected] at told
            rw [if_neg (fun broken => jumps.mp broken connected), List.append_nil]
            exact congrArg (·.events.toList) told
          · rw [if_neg connected] at told
            rw [if_pos (jumps.mpr connected)]
            exact (congrArg (·.events.toList) told).trans Array.toList_push

theorem samples_events (jumps : ∀ index < s.sampleCount, breaks index = true ↔ s.JumpsTo formula index) :
    (s.samples formula).events.toList =
      (List.range s.sampleCount).flatMap (s.eventsAt formula breaks) := by
  suffices upto : ∀ count ≤ s.sampleCount,
      ((List.range count).foldl (Progress.sample s formula) {}).events.toList =
        (List.range count).flatMap (s.eventsAt formula breaks) from upto _ (Nat.le_refl _)
  intro count
  induction count with
  | zero => exact fun _ => rfl
  | succ count ih =>
      intro below
      obtain ⟨closed, last, traces⟩ := samples_trace s formula count
      rw [List.range_succ, List.foldl_append, List.flatMap_append, ← ih (by omega), List.flatMap_singleton]
      exact traces.sample_events (jumps count below)

theorem breaksAt_jumps (cut : s.Cuts formula s.sampleCount runs) {index : Nat}
    (below : index < s.sampleCount) :
    breaksAt (fun i => (s.pointAt formula i).isSome) runs index = true ↔ s.JumpsTo formula index :=
  cut.breaksAt_iff below

/-- What is told of the samples of a run that is cut into these runs. -/
def Settings.tale (s : Settings) (formula : Formula) (runs : List (List Nat)) : List Event :=
  (List.range s.sampleCount).flatMap
    (s.eventsAt formula (breaksAt (fun i => (s.pointAt formula i).isSome) runs))

theorem level_tale : ∀ event ∈ s.tale formula runs, event.level = .trace := by
  intro event told
  obtain ⟨index, -, told⟩ := List.mem_flatMap.mp told
  exact level_eventsAt index event told

theorem countP_flatMap_of_each {α β : Type} {f : α → List β} {p : β → Bool} {q : α → Bool}
    (each : ∀ a, (f a).countP p = if q a then 1 else 0) (rows : List α) :
    (rows.flatMap f).countP p = rows.countP q := by
  induction rows with
  | nil => rfl
  | cons a rows ih =>
      rw [List.flatMap_cons, List.countP_append, ih, each, List.countP_cons, Nat.add_comm]

theorem countP_undefined :
    (s.tale formula runs).countP Event.isUndefinedSample =
      (List.range s.sampleCount).countP fun i => !(s.pointAt formula i).isSome := by
  refine countP_flatMap_of_each (fun index => ?_) _
  cases value : formula.evaluate (s.position index) with
  | error fault =>
      rw [eventsAt_error value, pointAt_error value]
      rfl
  | ok y =>
      rw [eventsAt_ok value, pointAt_ok value]
      split <;> rfl

theorem countP_discontinuity :
    (s.tale formula runs).countP Event.isDiscontinuity =
      (List.range s.sampleCount).countP
        (breaksAt (fun i => (s.pointAt formula i).isSome) runs) := by
  refine countP_flatMap_of_each (fun index => ?_) _
  cases value : formula.evaluate (s.position index) with
  | error fault =>
      have still : breaksAt (fun i => (s.pointAt formula i).isSome) runs index = false := by
        cases index with
        | zero => rfl
        | succ i => simp [breaksAt, pointAt_error value]
      rw [eventsAt_error value, still]
      rfl
  | ok y =>
      rw [eventsAt_ok value]
      split <;> rfl

/-- The event that tells how a run ended. -/
def Settings.ending (s : Settings) (expression : String) : Except Failure Curve → Event
  | .ok curve => .sampledCurve expression curve.sampleCount curve.definedCount curve.segments.length
  | .error _ => .noValidPoints expression s.sampleCount

theorem runFormula_events (s : Settings) (formula : Formula) :
    (s.runFormula formula).events =
      (s.samples formula).events.push (s.ending formula.source (s.runFormula formula).result) := by
  unfold Settings.runFormula
  cases segments : (s.samples formula).segments with
  | nil => simp [segments, Settings.ending]
  | cons segment more => simp [segments, Settings.ending, Curve.ofSegments]

theorem source_of_ofText {unit : AngleUnit} (read : Formula.ofText expression unit = .ok formula) :
    formula.source = expression := by
  obtain ⟨tree, -, read⟩ := bind_eq_ok.mp read
  obtain ⟨program, -, same⟩ := bind_eq_ok.mp read
  cases same
  rfl

theorem run_events (read : Formula.ofText expression s.unit = .ok formula)
    (cut : s.Cuts formula s.sampleCount runs) :
    (s.run expression).events.toList =
      s.tale formula runs ++ [s.ending expression (s.run expression).result] := by
  rw [run_of_ok read, runFormula_events, Array.toList_push, source_of_ofText read,
    samples_events fun index below => breaksAt_jumps cut below]
  rfl

theorem run_events_error {fault : Fault} (unread : Formula.ofText expression s.unit = .error fault) :
    (s.run expression).events = #[.notCompiled expression fault] := by
  rw [Settings.run, unread]

theorem run_events_last (s : Settings) (expression : String) :
    ∃ told last, (s.run expression).events.toList = told ++ [last] ∧
      (∀ event ∈ told, event.level = .trace) ∧ last.level = .debug ∧ last.endsCurve = true ∧
      (last.isSampledCurve = true ↔ ∃ curve, (s.run expression).result = .ok curve) := by
  cases read : Formula.ofText expression s.unit with
  | error fault =>
      rw [run_events_error read, run_of_error read]
      exact ⟨[], _, rfl, nofun, rfl, rfl, iff_of_false nofun nofun⟩
  | ok formula =>
      obtain ⟨runs, cut, -⟩ := samples_cut s formula
      refine ⟨s.tale formula runs, _, run_events read cut, level_tale, ?_⟩
      cases (s.run expression).result with
      | ok curve => exact ⟨rfl, rfl, iff_of_true rfl ⟨curve, rfl⟩⟩
      | error failure => exact ⟨rfl, rfl, iff_of_false nofun nofun⟩

theorem definedCount_countP (drawn : (s.runFormula formula).result = .ok curve) :
    curve.definedCount = (List.range s.sampleCount).countP fun i => (s.pointAt formula i).isSome := by
  rw [curve_eq drawn, Curve.ofSegments, foldl_length, samples_points, Nat.zero_add,
    List.length_filterMap_eq_countP]

theorem countP_undefined_drawn (drawn : (s.runFormula formula).result = .ok curve) :
    (s.tale formula runs).countP Event.isUndefinedSample + curve.definedCount = s.sampleCount := by
  have all := List.length_eq_countP_add_countP (fun i => (s.pointAt formula i).isSome)
    (l := List.range s.sampleCount)
  simp only [List.length_range, Bool.not_eq_true, Bool.decide_eq_false] at all
  rw [countP_undefined, definedCount_countP drawn, Nat.add_comm]
  exact all.symm

theorem countP_undefined_failed {failure : Failure}
    (failed : (s.runFormula formula).result = .error failure) :
    (s.tale formula runs).countP Event.isUndefinedSample = s.sampleCount := by
  rw [countP_undefined]
  refine (List.countP_eq_length.mpr ?_).trans List.length_range
  intro i member
  rw [Bool.not_eq_true']
  by_contra is
  obtain ⟨curve, drawn⟩ := drawn_of_isSome (List.mem_range.mp member) (Bool.eq_true_of_not_eq_false is)
  rw [drawn] at failed
  cases failed

/-- A text that is not compiled is told once, with its fault. The run of any other text tells each sample
without a value and each sample that starts a segment right behind another one, from left to right, and at
last the counts of the curve or that there is none. So the events told of samples make up for the samples
without a point and for the segments beyond the longest runs of samples with a value. -/
theorem run_tells_samples (s : Settings) (expression : String) :
    (s.run expression).events.toList.getLast?.map Event.level = some .debug ∧
    (∀ fault, Formula.ofText expression s.unit = .error fault →
      (s.run expression).events.toList = [.notCompiled expression fault]) ∧
    ∀ formula, Formula.ofText expression s.unit = .ok formula →
      ∃ runs, s.Cuts formula s.sampleCount runs ∧
        (∀ event ∈ s.tale formula runs, event.level = .trace) ∧
        (∀ curve, (s.run expression).result = .ok curve →
          curve.segments.map (·.points.map some) = runs.map (·.map (s.pointAt formula)) ∧
          (s.run expression).events.toList = s.tale formula runs ++
            [.sampledCurve expression curve.sampleCount curve.definedCount curve.segments.length] ∧
          (s.tale formula runs).countP Event.isUndefinedSample + curve.definedCount =
            curve.sampleCount ∧
          ∃ wholes, IsCut (fun i => (s.pointAt formula i).isSome) (fun _ => True) s.sampleCount wholes ∧
            curve.segments.length =
              (s.tale formula runs).countP Event.isDiscontinuity + wholes.length) ∧
        ∀ failure, (s.run expression).result = .error failure →
          ∃ samples cause, failure = .noValidPoints samples cause ∧
            (s.run expression).events.toList =
              s.tale formula runs ++ [.noValidPoints expression samples] ∧
            (s.tale formula runs).countP Event.isUndefinedSample = samples := by
  refine ⟨?_, fun fault unread => by rw [run_events_error unread], ?_⟩
  · obtain ⟨told, last, events, -, level, -⟩ := run_events_last s expression
    rw [events, List.getLast?_concat, Option.map_some, level]
  intro formula read
  obtain ⟨runs, cut, same⟩ := samples_cut s formula
  have told := run_events read cut
  rw [run_of_ok read] at told ⊢
  refine ⟨runs, cut, level_tale, ?_, ?_⟩
  · intro curve drawn
    obtain ⟨wholes, longest⟩ := IsCut.exists_cut (fun i => (s.pointAt formula i).isSome) (fun _ => True)
      s.sampleCount
    have samples : curve.sampleCount = s.sampleCount := congrArg Curve.sampleCount (curve_eq drawn)
    have same : curve.segments.map (·.points.map some) = runs.map (·.map (s.pointAt formula)) := by
      rw [curve_segments drawn]
      exact same
    have lengths : curve.segments.length = runs.length := by
      simpa using congrArg List.length same
    refine ⟨same, ?_, ?_, wholes, longest, ?_⟩
    · rw [told, drawn]
      rfl
    · rw [samples]
      exact countP_undefined_drawn drawn
    · rw [lengths, countP_discontinuity]
      exact cut.length_eq longest
  · intro failure failed
    obtain ⟨fault, -, same⟩ := runFormula_failure failed
    refine ⟨s.sampleCount, some fault, same, ?_, countP_undefined_failed failed⟩
    rw [told, failed]
    rfl

example :
    let s : Settings := { domainMin := -1, domainMax := 2, step := 1, threshold := 10 }
    (s.run "1/x+1/(x-1.5)").events.toList =
      [.undefinedSample 0 .divisionByZero, .discontinuity 2,
        .sampledCurve "1/x+1/(x-1.5)" 4 3 3] := by
  decide +kernel

end Grapher
