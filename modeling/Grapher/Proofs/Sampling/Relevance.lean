import Grapher.Proofs.Formula.Relevance
import Grapher.Proofs.Sampling.Cause

namespace Grapher

variable {formula : Formula} {expression : String}

theorem sample_angleless (angleless : formula.program.Angleless) (s : Settings) (unit : AngleUnit)
    (progress : Progress) (index : Nat) :
    progress.sample { s with unit } { formula with unit } index = progress.sample s formula index := by
  have position : Settings.position { s with unit } index = s.position index := rfl
  have through : Progress.through { s with unit } = Progress.through s := rfl
  simp only [Progress.sample, position, through, evaluateOn_angleless angleless]

theorem runFormula_angleless (angleless : formula.program.Angleless) (s : Settings) (unit : AngleUnit) :
    Settings.runFormula { s with unit } { formula with unit } = s.runFormula formula := by
  have same : Progress.sample { s with unit } { formula with unit } = Progress.sample s formula :=
    funext fun progress => funext fun index => sample_angleless angleless s unit progress index
  unfold Settings.runFormula
  rw [same]
  rfl

theorem run_angleless (angleless : ∀ tree, Expr.ofText expression = .ok tree → tree.Angleless)
    (s : Settings) (unit : AngleUnit) : Settings.run { s with unit } expression = s.run expression := by
  cases read : Formula.ofText expression s.unit with
  | error fault =>
      have unread : Formula.ofText expression unit = .error fault := ofText_error_unit read unit
      unfold Settings.run
      rw [read, unread]
      rfl
  | ok formula =>
      obtain ⟨tree, parsed, compiled⟩ := ofText_eq_ok read
      have plain := angleless_of_tree compiled (angleless tree parsed)
      have read' : Formula.ofText expression unit = .ok { formula with unit } := by
        rw [ofText_unit expression s.unit unit, read]
        rfl
      unfold Settings.run
      rw [read, read']
      exact runFormula_angleless plain s unit

/-- A run fails alike or has one value at any two places if its program does not load the variable, and
under both units if no function of it takes or gives an angle, whatever the stacks were before. So a formula
that does not mention the variable has one outcome at all finite places, and a text without angles gives one
curve, or one failure, and one row of events under settings that differ in their unit. -/
theorem outcome_depends_on_mentions :
    (∀ {α : Type} [Scalar α] (unit : AngleUnit) (x x' : α) (stack stack' : List α) (program : Program),
        .load ∉ program →
          ({ unit, x, stack } : Machine α).execute program =
            ({ unit, x := x', stack := stack' } : Machine α).execute program) ∧
      (∀ {α : Type} [Scalar α] (unit unit' : AngleUnit) (x : α) (stack stack' : List α)
          (program : Program), program.Angleless →
          ({ unit, x, stack } : Machine α).execute program =
            ({ unit := unit', x, stack := stack' } : Machine α).execute program) ∧
      (∀ expression unit formula tree, Expr.ofText expression = .ok tree →
        Formula.ofText expression unit = .ok formula → .value Formula.variableName ∉ tree.mentions →
          ∀ {α : Type} [Scalar α] (x x' : α), Scalar.isFinite x = true → Scalar.isFinite x' = true →
            formula.evaluate x = formula.evaluate x') ∧
      ∀ (s : Settings) unit expression,
        (∀ tree, Expr.ofText expression = .ok tree → tree.Angleless) →
          Settings.sample { s with unit } expression = s.sample expression ∧
            Settings.run { s with unit } expression = s.run expression := by
  refine ⟨?_, ?_, ?_, ?_⟩
  · intro α _ unit x x' stack stack' program unread
    exact execute_variable unread { unit, x := x', stack := stack' } x
  · intro α _ unit unit' x stack stack' program angleless
    exact execute_angleless angleless { unit := unit', x, stack := stack' } unit
  · intro expression unit formula tree parsed read unmentioned α _ x x' finite finite'
    obtain ⟨tree', parsed', compiled⟩ := ofText_eq_ok read
    cases parsed.symm.trans parsed'
    exact evaluate_variable (no_load_of_unmentioned compiled unmentioned) finite finite'
  · intro s unit expression angleless
    have same := run_angleless angleless s unit
    have check : Settings.check { s with unit } = s.check := rfl
    unfold Settings.sample
    rw [same, check]
    exact ⟨rfl, rfl⟩

theorem outcome_depends_on_mentions_logarithm :
    let quotient : Program := [.const 1, .const 0, .binary .div]
    let logarithm : Program := [.load, .call .ln]
    let formula : Formula := ⟨"pi - 3", [.const pi, .const 3, .binary .sub], .degrees⟩
    (.load ∉ quotient ∧
        ({ unit := .degrees, x := 1 } : Machine Float).execute quotient =
          ({ unit := .degrees, x := 2, stack := [3] } : Machine Float).execute quotient) ∧
      (logarithm.Angleless ∧
        ({ unit := .degrees, x := -1 } : Machine Float).execute logarithm =
          ({ unit := .radians, x := -1, stack := [3] } : Machine Float).execute logarithm) ∧
      (Formula.ofText "pi - 3" .degrees = .ok formula ∧
        formula.evaluate (-1 : Float) = formula.evaluate (1e300 : Float)) ∧
      (Expr.ofText "ln(x)" = .ok (.call "ln" (.name "x")) ∧
        (Expr.call "ln" (.name "x")).Angleless ∧
        Settings.sample { unit := .degrees } "ln(x)" = Settings.sample {} "ln(x)") := by
  have parsed : Expr.ofText "pi - 3" = .ok (.binary (.name "pi") .sub (.number 3)) := by
    decide +kernel
  have read : Formula.ofText "pi - 3" .degrees =
      .ok ⟨"pi - 3", [.const pi, .const 3, .binary .sub], .degrees⟩ := by
    rw [Formula.ofText, parsed]
    rfl
  have parsed' : Expr.ofText "ln(x)" = .ok (.call "ln" (.name "x")) := by decide +kernel
  intro quotient logarithm formula
  have noLoad : .load ∉ quotient := by decide
  have angleless : logarithm.Angleless := by
    intro function member
    obtain rfl : function = .ln := by simpa [logarithm] using member
    exact id
  have angleless' : (Expr.call "ln" (.name "x")).Angleless := by
    intro text function member known
    obtain rfl : text = "ln" := by simpa [Expr.mentions] using member
    cases known
    exact id
  obtain ⟨places, units, formulas, samples⟩ := outcome_depends_on_mentions
  refine ⟨⟨noLoad, places _ _ _ _ _ _ noLoad⟩, ⟨angleless, units _ _ _ _ _ _ angleless⟩,
    ⟨read, formulas _ _ _ _ parsed read (by decide) _ _ (by decide +kernel)
      (by decide +kernel)⟩, parsed', angleless',
    (samples {} .degrees _ fun tree same => ?_).1⟩
  cases parsed'.symm.trans same
  exact angleless'

end Grapher
