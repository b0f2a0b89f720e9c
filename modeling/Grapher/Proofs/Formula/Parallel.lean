import Grapher.Proofs.Formula.Soundness

/-!
Inputs that no step of a reader tells apart are read alike: to the same tree, with inputs left that are still
alike, or to faults that are.
-/

namespace Grapher

open Reader

variable {alike : List Token → List Token → Prop} {faults : Fault → Fault → Prop}

/-- One step of two inputs: both are at their end, or they start with the same token, or with names that
say the same once their marks are read. -/
inductive StepsAlike (alike : List Token → List Token → Prop) : List Token → List Token → Prop where
  | nil : StepsAlike alike [] []
  | token {token first second} (noName : ∀ text, token ≠ .name text) (more : alike first second) :
      StepsAlike alike (token :: first) (token :: second)
  | name {text text' name first second rest rest'} (read : markedName text first = (name, rest))
      (read' : markedName text' second = (name, rest')) (more : alike rest rest') :
      StepsAlike alike (.name text :: first) (.name text' :: second)

namespace StepsAlike

variable {first second rest : List Token} {token : Token}

theorem cons (steps : StepsAlike alike (token :: rest) second) (noName : ∀ text, token ≠ .name text) :
    ∃ rest', second = token :: rest' ∧ alike rest rest' := by
  cases steps with
  | token noName more => exact ⟨_, rfl, more⟩
  | name read read' more => exact absurd rfl (noName _)

theorem head_iff (steps : StepsAlike alike first second) (noName : ∀ text, token ≠ .name text) :
    first.head? = some token ↔ second.head? = some token := by
  cases steps with
  | nil => rfl
  | token noName more => rfl
  | name read read' more =>
      have other : ∀ text (rest : List Token), (Token.name text :: rest).head? ≠ some token := by
        intro text rest same
        exact noName text (Option.some.inj same).symm
      exact iff_of_false (other _ _) (other _ _)

end StepsAlike

def Bisimulation (alike : List Token → List Token → Prop) : Prop :=
  ∀ first second, alike first second → StepsAlike alike first second

inductive ResultsAlike (alike : List Token → List Token → Prop) (faults : Fault → Fault → Prop) :
    Except Fault (Expr × List Token) → Except Fault (Expr × List Token) → Prop where
  | ok (tree : Expr) {rest rest'} (more : alike rest rest') :
      ResultsAlike alike faults (.ok (tree, rest)) (.ok (tree, rest'))
  | error {fault fault'} (same : faults fault fault') :
      ResultsAlike alike faults (.error fault) (.error fault')

theorem ResultsAlike.bind {first second : Except Fault (Expr × List Token)}
    {next next' : Expr × List Token → Except Fault (Expr × List Token)}
    (results : ResultsAlike alike faults first second)
    (goes : ∀ tree rest rest', alike rest rest' →
      ResultsAlike alike faults (next (tree, rest)) (next' (tree, rest'))) :
    ResultsAlike alike faults (first >>= next) (second >>= next') := by
  cases results with
  | ok tree more => exact goes tree _ _ more
  | error same => exact .error same

def ReadsAlike (alike : List Token → List Token → Prop) (faults : Fault → Fault → Prop)
    (reader : Reader) : Prop :=
  ∀ first second, alike first second → ResultsAlike alike faults (reader first) (reader second)

section Readers

variable {operand : Reader} {item : Phrase} {op? : Token → Option BinaryOp}

theorem goOn_alike (steps : Bisimulation alike) (names : ∀ text, op? (.name text) = none)
    (reads : ReadsAlike alike faults operand) (rounds : Nat) (left : Expr) :
    ReadsAlike alike faults (goOn op? operand rounds left) := by
  intro first second same
  induction rounds generalizing left first second with
  | zero => exact .ok left same
  | succ rounds ih =>
      cases steps first second same with
      | nil => exact .ok left same
      | @token token first second noName more =>
          cases sign : op? token with
          | none =>
              rw [goOn_none sign, goOn_none sign]
              exact .ok left same
          | some op =>
              rw [goOn_some sign, goOn_some sign]
              exact (reads first second more).bind fun right rest rest' => ih _ rest rest'
      | name read read' more =>
          rw [goOn_none (names _), goOn_none (names _)]
          exact .ok left same

theorem chain_alike (steps : Bisimulation alike) (names : ∀ text, op? (.name text) = none)
    (sound : Sound operand item) (reads : ReadsAlike alike faults operand) :
    ReadsAlike alike faults (chain op? operand) := by
  intro first second same
  refine (reads first second same).bind fun left rest rest' more => ?_
  -- What is left may be longer on one side, but the longer one has rounds enough for both.
  have enough := Nat.le_max_left rest.length rest'.length
  have enough' := Nat.le_max_right rest.length rest'.length
  change ResultsAlike alike faults (goOn op? operand rest.length left rest)
    (goOn op? operand rest'.length left rest')
  rw [goOn_rounds sound (Nat.le_refl _) enough, goOn_rounds sound (Nat.le_refl _) enough']
  exact goOn_alike steps names reads _ left rest rest' more

theorem expression_alike (steps : Bisimulation alike) (sound : Sound operand item)
    (reads : ReadsAlike alike faults operand) : ReadsAlike alike faults (expression operand) :=
  chain_alike steps (fun _ => rfl) (chain_sound sound) (chain_alike steps (fun _ => rfl) sound reads)

variable (steps : Bisimulation alike)
  (unexpected : ∀ expected found found', faults (.unexpected expected found) (.unexpected expected found'))
  (sound : Sound operand item) (reads : ReadsAlike alike faults operand)
include steps unexpected sound reads

theorem bracketed_alike : ReadsAlike alike faults (bracketed operand) := by
  intro first second same
  refine (expression_alike steps sound reads first second same).bind fun inner rest rest' more => ?_
  cases steps rest rest' more with
  | nil => exact .error (unexpected _ _ _)
  | @token token rest rest' noName more' =>
      cases token with
      | closing => exact .ok inner more'
      | number | name | plus | minus | asterisk | slash | caret | opening =>
          exact .error (unexpected _ _ _)
  | name read read' more' => exact .error (unexpected _ _ _)

theorem primary_alike : ReadsAlike alike faults (primary operand) := by
  intro first second same
  cases steps first second same with
  | nil => exact .error (unexpected _ _ _)
  | @token token first second noName more =>
      cases token with
      | number value => exact .ok _ more
      | name text => exact absurd rfl (noName text)
      | opening => exact bracketed_alike steps unexpected sound reads first second more
      | plus | minus | asterisk | slash | caret | closing => exact .error (unexpected _ _ _)
  | @name text text' name first second rest rest' read read' more =>
      have step := steps rest rest' more
      by_cases head : rest.head? = some .opening
      · obtain ⟨rest, rfl⟩ := List.head?_eq_some_iff.mp head
        obtain ⟨rest', rfl, inner⟩ := step.cons (by simp)
        rw [primary_call read, primary_call read']
        exact (bracketed_alike steps unexpected sound reads rest rest' inner).bind fun argument _ _ => .ok _
      · have head' : ¬ rest'.head? = some .opening := fun head' => head ((step.head_iff (by simp)).mpr head')
        rw [primary_name read head, primary_name read' head']
        exact .ok _ more

theorem power_alike : ReadsAlike alike faults (power operand) := by
  intro first second same
  refine (primary_alike steps unexpected sound reads first second same).bind fun base rest rest' more => ?_
  cases steps rest rest' more with
  | nil => exact .ok base more
  | @token token first second noName more' =>
      cases token with
      | caret => exact (reads first second more').bind fun exponent _ _ => .ok _
      | number | name | plus | minus | asterisk | slash | opening | closing => exact .ok base more
  | name read read' _ => exact .ok base more

end Readers

section Levels

variable (steps : Bisimulation alike)
  (unexpected : ∀ expected found found', faults (.unexpected expected found) (.unexpected expected found'))
  (deep : faults (.tooDeep nestingLimit) (.tooDeep nestingLimit))
include steps unexpected deep

theorem operand_alike (levels : Nat) : ReadsAlike alike faults (Reader.operand levels) := by
  induction levels with
  | zero => exact fun first second same => .error deep
  | succ levels ih =>
      intro first second same
      have step := steps first second same
      by_cases minus : first.head? = some .minus
      · obtain ⟨first, rfl⟩ := List.head?_eq_some_iff.mp minus
        obtain ⟨second, rfl, more⟩ := step.cons (by simp)
        rw [operand_minus, operand_minus]
        exact (ih first second more).bind fun inner _ _ => .ok _
      by_cases plus : first.head? = some .plus
      · obtain ⟨first, rfl⟩ := List.head?_eq_some_iff.mp plus
        obtain ⟨second, rfl, more⟩ := step.cons (by simp)
        rw [operand_plus, operand_plus]
        exact ih first second more
      · have minus' : ¬ second.head? = some .minus := fun head => minus ((step.head_iff (by simp)).mpr head)
        have plus' : ¬ second.head? = some .plus := fun head => plus ((step.head_iff (by simp)).mpr head)
        rw [operand_power levels minus plus, operand_power levels minus' plus']
        exact power_alike steps unexpected (operand_sound levels) ih first second same

theorem formula_alike (levels : Nat) : ReadsAlike alike faults (expression (Reader.operand levels)) :=
  expression_alike steps (operand_sound levels) (operand_alike steps unexpected deep levels)

end Levels

/-- A fault that a reader may have once there is something to read. -/
def Fault.OfReader (fault : Fault) : Prop :=
  (∃ expected found, fault = .unexpected expected found) ∨ fault = .tooDeep nestingLimit

theorem eq_bisimulation : Bisimulation Eq := by
  rintro first _ rfl
  cases first with
  | nil => exact .nil
  | cons token rest =>
      cases token with
      | name text => exact .name rfl rfl rfl
      | number | plus | minus | asterisk | slash | caret | opening | closing => exact .token (by simp) rfl

theorem expression_fault {levels : Nat} {input : List Token} {fault : Fault}
    (stopped : expression (Reader.operand levels) input = .error fault) : fault.OfReader := by
  have reads : ReadsAlike Eq (fun fault _ => fault.OfReader) (expression (Reader.operand levels)) :=
    formula_alike eq_bisimulation (fun _ _ _ => .inl ⟨_, _, rfl⟩) (.inr rfl) levels
  have results := reads input input rfl
  rw [stopped] at results
  cases results with
  | error own => exact own

theorem whole_fault {levels : Nat} {input : List Token} (filled : input ≠ []) {fault : Fault}
    (stopped : whole levels input = .error fault) : fault.OfReader := by
  cases input with
  | nil => exact absurd rfl filled
  | cons token input =>
      rw [whole] at stopped
      · rcases bind_eq_error.mp stopped with stopped | ⟨⟨tree, rest⟩, -, stopped⟩
        · exact expression_fault stopped
        · cases rest with
          | nil => cases stopped
          | cons token rest =>
              cases stopped
              exact .inl ⟨_, _, rfl⟩
      · exact List.cons_ne_nil token input

end Grapher
