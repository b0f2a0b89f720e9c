import Grapher.Proofs.Formula.Completeness
import Grapher.Proofs.Formula.Counter
import Mathlib.Order.Nat

/-!
Readers that run out of levels. One with few levels reads what one with more levels reads, or else says
that the input nests too deep, so a formula is refused for its depth and for nothing else.
-/

namespace Grapher

open Reader

/-- The first result is the second one, unless the levels ran out. -/
def Upto {β : Type} (first second : Except Fault β) : Prop :=
  first = .error (.tooDeep nestingLimit) ∨ first = second

theorem expression_upto {few many : Nat} (more : few ≤ many) (input : List Token) :
    Upto (expression (Reader.operand few) input) (expression (Reader.operand many) input) := by
  have operands : InStepBelow false (Counting.operand false) Reader.operand (input.length + 1) :=
    fun inner _ => operand_inStep false inner
  obtain ⟨need, result, keeps⟩ := expression_inStep operands input (Nat.lt_succ_self _)
  have narrow : expression (Reader.operand few) input = _ := keeps.reads few
  have wide : expression (Reader.operand many) input = _ := keeps.reads many
  unfold Upto
  rw [narrow, wide]
  by_cases enough : need ≤ few
  · rw [if_pos enough, if_pos (Nat.le_trans enough more)]
    exact .inr rfl
  · rw [if_neg enough]
    exact .inl rfl

/-- The tokens stand for the tree, and nest exactly so many levels deep. -/
def Nests (levels : Nat) (tokens : List Token) (tree : Expr) : Prop :=
  ∀ room, IsFormula room tokens tree ↔ levels ≤ room

variable {room levels : Nat} {tokens rest : List Token} {tree : Expr}

theorem exists_nests (isFormula : IsFormula room tokens tree) :
    ∃ levels, Nests levels tokens tree := by
  classical
  have some : ∃ levels, IsFormula levels tokens tree := ⟨room, isFormula⟩
  refine ⟨Nat.find some, fun room => ⟨Nat.find_min' some, fun enough => ?_⟩⟩
  exact formula_mono enough (Nat.find_spec some)

theorem Nests.expression_eq (nests : Nests levels tokens tree) (closes : Closes rest) (room : Nat) :
    expression (Reader.operand room) (tokens ++ rest) =
      if levels ≤ room then .ok (tree, rest) else .error (.tooDeep nestingLimit) := by
  split_ifs with enough
  · exact expression_complete (operand_sound room) (operand_complete room) _ _
      ((nests room).mpr enough) rest closes
  · have read : expression (Reader.operand levels) (tokens ++ rest) = .ok (tree, rest) :=
      expression_complete (operand_sound levels) (operand_complete levels) _ _
        ((nests levels).mpr (Nat.le_refl _)) rest closes
    rcases expression_upto (Nat.le_of_not_le enough) (tokens ++ rest) with deep | same
    · exact deep
    · rw [read] at same
      obtain ⟨used, split, isSum⟩ := expression_sound (operand_sound room) _ _ _ same
      rw [List.append_cancel_right split] at nests
      exact absurd ((nests room).mp isSum) enough

theorem Nests.bracketed_eq (nests : Nests levels tokens tree) (rest : List Token) (room : Nat) :
    bracketed (Reader.operand room) (tokens ++ .closing :: rest) =
      if levels ≤ room then .ok (tree, rest) else .error (.tooDeep nestingLimit) := by
  rw [bracketed, nests.expression_eq (by simp [Closes])]
  split_ifs <;> rfl

theorem whole_of_expression {result : Except Fault Expr} (filled : tokens ≠ [])
    (read : expression (Reader.operand room) tokens = result.map (·, [])) :
    whole room tokens = result := by
  cases result with
  | ok tree => exact whole_ok.mpr read
  | error fault =>
      cases tokens with
      | nil => exact absurd rfl filled
      | cons token tokens =>
          rw [whole, read]
          · rfl
          · intro impossible
            cases impossible

theorem Nests.whole_eq (nests : Nests levels tokens tree) (room : Nat) :
    whole room tokens = if levels ≤ room then .ok tree else .error (.tooDeep nestingLimit) := by
  have filled : tokens ≠ [] :=
    (sum_solid (operand_solid levels) _ _ ((nests levels).mpr (Nat.le_refl _))).1
  apply whole_of_expression filled
  have closes : Closes [] := by simp [Closes]
  have read := nests.expression_eq closes room
  rw [List.append_nil] at read
  rw [read]
  split_ifs <;> rfl

theorem nests_of_expression
    (read : ∀ room, expression (Reader.operand room) tokens =
      if levels ≤ room then .ok (tree, []) else .error (.tooDeep nestingLimit)) :
    Nests levels tokens tree := by
  intro room
  rw [← whole_iff, whole_ok, read room]
  split_ifs with enough
  · exact iff_of_true rfl enough
  · exact iff_of_false (by simp) enough

end Grapher
