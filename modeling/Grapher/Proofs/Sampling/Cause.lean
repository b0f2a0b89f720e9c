import Grapher.Proofs.Formula.Blame
import Grapher.Proofs.Sampling.Count
import Grapher.Proofs.Sampling.Segmentation

namespace Grapher

def Settings.faultAt (s : Settings) (formula : Formula) (index : Nat) : Option Fault :=
  match formula.evaluate (s.position index) with
  | .ok _ => none
  | .error fault => some fault

variable {s : Settings} {formula : Formula} {progress : Progress}

theorem faultAt_error {index : Nat} {fault : Fault}
    (value : formula.evaluate (s.position index) = .error fault) :
    s.faultAt formula index = some fault := by
  rw [Settings.faultAt, value]

theorem through_firstFault (point : Point) :
    (progress.through s point).firstFault = progress.firstFault := by
  cases grown : progress.growing with
  | none => rw [through_none grown]
  | some segment =>
      rw [through_growing grown]
      split <;> rfl

theorem sample_firstFault (progress : Progress) (index : Nat) :
    (progress.sample s formula index).firstFault =
      progress.firstFault.or (s.faultAt formula index) := by
  obtain ⟨stack, sampled⟩ := sample_eq s formula progress index
  rw [sampled, Settings.faultAt]
  cases formula.evaluate (s.position index) with
  | ok y =>
      rw [Option.or_none]
      exact through_firstFault _
  | error fault => cases progress.firstFault <;> rfl

theorem foldl_firstFault (indices : List Nat) (progress : Progress) :
    (indices.foldl (Progress.sample s formula) progress).firstFault =
      progress.firstFault.or (indices.findSome? (s.faultAt formula)) := by
  induction indices generalizing progress with
  | nil => exact (Option.or_none).symm
  | cons index indices ih =>
      rw [List.foldl_cons, ih, sample_firstFault, Option.or_assoc, List.findSome?_cons]
      cases s.faultAt formula index <;> rfl

theorem samples_firstFault {fault : Fault} (value : formula.evaluate (s.position 0) = .error fault) :
    (s.samples formula).firstFault = some fault := by
  rw [foldl_firstFault, Settings.sampleCount, List.range_succ_eq_map, List.findSome?_cons,
    faultAt_error value]
  rfl

theorem runFormula_failure {failure : Failure}
    (failed : (s.runFormula formula).result = .error failure) :
    ∃ fault, formula.evaluate (s.position 0) = .error fault ∧
      failure = .noValidPoints s.sampleCount (some fault) := by
  have undefined : (s.pointAt formula 0).isSome = false := by
    by_contra is
    obtain ⟨curve, drawn⟩ := drawn_of_isSome (Nat.succ_pos _) (Bool.eq_true_of_not_eq_false is)
    rw [drawn] at failed
    cases failed
  obtain ⟨fault, value⟩ := pointAt_isSome.mp undefined
  rw [runFormula_eq, samples_firstFault value] at failed
  split at failed
  · exact ⟨fault, value, (Except.error.inj failed).symm⟩
  · cases failed

variable {expression : String}

theorem run_of_ok (read : Formula.ofText expression s.unit = .ok formula) :
    s.run expression = s.runFormula formula := by
  rw [Settings.run, read]

theorem run_of_error {fault : Fault} (unread : Formula.ofText expression s.unit = .error fault) :
    (s.run expression).result = .error (.noValidPoints s.sampleCount (some fault)) := by
  rw [Settings.run, unread]

theorem sample_of_accepted {word : WordSize} (accepted : s.check word = .ok ()) (expression : String) :
    s.sample expression word = (s.run expression).result := by
  rw [Settings.sample, accepted]
  rfl

theorem ofText_error_unit {fault : Fault} {unit : AngleUnit}
    (unread : Formula.ofText expression unit = .error fault) (other : AngleUnit) :
    Formula.ofText expression other = .error fault := by
  rw [ofText_unit expression unit other, unread]
  rfl

/-- Some sample of the text has a value. -/
def Settings.HasValue (s : Settings) (expression : String) : Prop :=
  ∃ formula, Formula.ofText expression s.unit = .ok formula ∧
    ∃ i < s.sampleCount, ∃ y, formula.evaluate (s.position i) = .ok y

/-- The fault that is met first when a text is compiled and then evaluated from left to right. -/
inductive Settings.FirstFault (s : Settings) (expression : String) : Fault → Prop where
  | text {fault : Fault} (unread : Formula.ofText expression s.unit = .error fault) :
      s.FirstFault expression fault
  | sample {formula : Formula} {index : Nat} {fault : Fault}
      (read : Formula.ofText expression s.unit = .ok formula) (below : index < s.sampleCount)
      (before : ∀ i < index, ∃ y, formula.evaluate (s.position i) = .ok y)
      (value : formula.evaluate (s.position index) = .error fault) : s.FirstFault expression fault

theorem isSome_of_drawn {curve : Curve} (drawn : (s.runFormula formula).result = .ok curve) :
    ∃ i < s.sampleCount, (s.pointAt formula i).isSome = true := by
  by_contra none
  obtain ⟨runs, cut, same⟩ := curve_cut drawn
  have undefined : ∀ i < s.sampleCount, (s.pointAt formula i).isSome = false :=
    fun i below => Bool.eq_false_iff.mpr fun is => none ⟨i, below, is⟩
  rw [cut.eq_nil_iff.mpr undefined, List.map_nil, List.map_eq_nil_iff] at same
  exact segments_ne_nil drawn same

theorem exists_curve_of_more (s' : Settings) {curve : Curve}
    (drawn : (s.runFormula formula).result = .ok curve) (place : s'.position = s.position)
    (more : s.sampleCount ≤ s'.sampleCount) :
    ∃ longer, (s'.runFormula formula).result = .ok longer := by
  obtain ⟨i, below, is⟩ := isSome_of_drawn drawn
  have same : s'.pointAt formula i = s.pointAt formula i := by
    rw [Settings.pointAt, Settings.pointAt, place]
  exact drawn_of_isSome (below.trans_le more) (by rwa [same])

/-- Where two runs start at the same sample and both fail, they tell the same cause. -/
theorem exists_common_cause {s' : Settings} {failure failure' : Failure}
    (failed : (s.runFormula formula).result = .error failure)
    (failed' : (s'.runFormula formula).result = .error failure')
    (first : s'.position 0 = s.position 0) :
    ∃ fault, failure = .noValidPoints s.sampleCount (some fault) ∧
      failure' = .noValidPoints s'.sampleCount (some fault) := by
  obtain ⟨fault, value, same⟩ := runFormula_failure failed
  obtain ⟨fault', value', same'⟩ := runFormula_failure failed'
  rw [first, value] at value'
  cases value'
  exact ⟨fault, same, same'⟩

theorem run_drawn_iff :
    (∃ curve, (s.run expression).result = .ok curve) ↔ s.HasValue expression := by
  cases read : Formula.ofText expression s.unit with
  | error fault =>
      rw [run_of_error read]
      refine iff_of_false nofun ?_
      rintro ⟨formula, read', -⟩
      rw [read] at read'
      cases read'
  | ok formula =>
      rw [run_of_ok read]
      constructor
      · rintro ⟨curve, drawn⟩
        obtain ⟨i, below, is⟩ := isSome_of_drawn drawn
        refine ⟨formula, read, i, below, ?_⟩
        cases value : formula.evaluate (s.position i) with
        | ok y => exact ⟨y, rfl⟩
        | error fault =>
            rw [pointAt_error value] at is
            cases is
      · rintro ⟨other, read', i, below, y, value⟩
        cases read.symm.trans read'
        exact drawn_of_isSome below (by rw [pointAt_ok value]; rfl)

theorem run_failure {failure : Failure} (failed : (s.run expression).result = .error failure) :
    ∃ fault, s.FirstFault expression fault ∧
      failure = .noValidPoints s.sampleCount (some fault) := by
  cases read : Formula.ofText expression s.unit with
  | error fault =>
      rw [run_of_error read] at failed
      exact ⟨fault, .text read, (Except.error.inj failed).symm⟩
  | ok formula =>
      rw [run_of_ok read] at failed
      obtain ⟨fault, value, same⟩ := runFormula_failure failed
      exact ⟨fault, .sample read (Nat.succ_pos _) (by simp) value, same⟩

/-- With accepted settings a text without a curve is never blamed on the settings: the samples are
counted and there is a cause. For a text that is not compiled this is its own fault, whatever the
settings, and for one that is compiled it is the fault of the first sample, none of the text. One value at
a time, either the text is at fault at every place or at none. -/
theorem sample_fails_with_cause (accepted : s.check = .ok ()) (expression : String) :
    (∀ failure, s.sample expression = .error failure →
      1 ≤ s.sampleCount ∧ ∃ cause, failure = .noValidPoints s.sampleCount (some cause)) ∧
    (∀ fault, Formula.ofText expression s.unit = .error fault →
      fault.kind = .parse ∧
        ∀ other : Settings, other.check = .ok () →
          other.sample expression = .error (.noValidPoints other.sampleCount (some fault))) ∧
    (∀ formula failure, Formula.ofText expression s.unit = .ok formula →
      s.sample expression = .error failure →
        ∃ fault, formula.evaluate (s.position 0) = .error fault ∧
          failure = .noValidPoints s.sampleCount (some fault) ∧
          (fault.kind = .domain ∨ fault.kind = .arithmetic)) ∧
    ((∃ fault, fault.kind = .parse ∧ ∀ x, evaluate expression x = .error fault) ∨
      ∀ x fault, evaluate expression x = .error fault → fault.kind ≠ .parse) := by
  have compiled (formula : Formula) (failure : Failure)
      (read : Formula.ofText expression s.unit = .ok formula)
      (failed : s.sample expression = .error failure) :
      ∃ fault, formula.evaluate (s.position 0) = .error fault ∧
        failure = .noValidPoints s.sampleCount (some fault) ∧
        (fault.kind = .domain ∨ fault.kind = .arithmetic) := by
    rw [sample_of_accepted accepted, run_of_ok read] at failed
    obtain ⟨fault, value, same⟩ := runFormula_failure failed
    exact ⟨fault, value, same, evaluate_fault read value⟩
  refine ⟨?_, ?_, compiled, ?_⟩
  · intro failure failed
    rw [sample_of_accepted accepted] at failed
    obtain ⟨fault, -, same⟩ := run_failure failed
    exact ⟨Nat.succ_pos _, fault, same⟩
  · intro fault unread
    refine ⟨ofText_blames _ _ fault unread, fun other accepted' => ?_⟩
    rw [sample_of_accepted accepted', run_of_error (ofText_error_unit unread _)]
  · cases read : Formula.ofText expression .degrees with
    | error fault =>
        refine .inl ⟨fault, ofText_blames _ _ fault read, fun x => ?_⟩
        rw [evaluate, read]
        rfl
    | ok formula =>
        refine .inr fun x fault stopped => ?_
        rw [evaluate, read] at stopped
        rcases evaluate_fault read stopped with domain | arithmetic
        · rw [domain]
          exact nofun
        · rw [arithmetic]
          exact nofun

theorem sample_fails_with_cause_logarithm :
    let s : Settings := { domainMin := -2, domainMax := -1, step := 1 }
    s.check = .ok () ∧
      s.sample "ln(x)" = .error (.noValidPoints 2 (some (.domain .ln (-2)))) ∧
        ∃ formula fault, Formula.ofText "ln(x)" s.unit = .ok formula ∧
          formula.evaluate (s.position 0) = .error fault ∧ fault = .domain .ln (-2) ∧
          (fault.kind = .domain ∨ fault.kind = .arithmetic) := by
  intro s
  have accepted : s.check = .ok () := check_eq_ok.mpr (by constructor <;> decide +kernel)
  have failed : s.sample "ln(x)" = .error (.noValidPoints 2 (some (.domain .ln (-2)))) := by
    decide +kernel
  have tree : Expr.ofText "ln(x)" = .ok (.call "ln" (.name "x")) := by decide +kernel
  have read : Formula.ofText "ln(x)" s.unit = .ok ⟨"ln(x)", [.load, .call .ln], .radians⟩ := by
    rw [Formula.ofText, tree]
    rfl
  obtain ⟨fault, value, same, kind⟩ :=
    (sample_fails_with_cause accepted "ln(x)").2.2.1 _ _ read failed
  have own : some (.domain .ln (-2)) = some fault := (Failure.noValidPoints.inj same).2
  exact ⟨accepted, failed, _, fault, read, value, (Option.some.inj own).symm, kind⟩

end Grapher
