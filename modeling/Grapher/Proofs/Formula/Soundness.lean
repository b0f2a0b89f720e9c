import Grapher.Proofs.Formula.Chain

namespace Grapher

open Reader

variable {operand : Reader} {item : Phrase}

theorem expression_sound (sound : Sound operand item) : Sound (expression operand) (IsSum item) :=
  chain_sound (chain_sound sound)

theorem closing_ok {input rest : List Token} (read : closing input = .ok rest) :
    input = .closing :: rest := by
  unfold closing at read
  split at read
  · cases read
    rfl
  · cases read

theorem bracketed_sound (sound : Sound operand item) {input rest : List Token} {tree : Expr}
    (read : bracketed operand input = .ok (tree, rest)) :
    ∃ inner, input = inner ++ .closing :: rest ∧ IsSum item inner tree := by
  have ⟨⟨within, after⟩, readInner, readOn⟩ := bind_eq_ok.mp read
  obtain ⟨inner, rfl, isSum⟩ := expression_sound sound _ _ _ readInner
  have ⟨beyond, closed, same⟩ := bind_eq_ok.mp readOn
  cases same
  cases closing_ok closed
  exact ⟨inner, rfl, isSum⟩

theorem primary_call {text name : String} {input rest : List Token}
    (marked : markedName text input = (name, .opening :: rest)) :
    primary operand (.name text :: input) =
      bracketed operand rest >>= fun read => .ok (.call name read.1, read.2) := by
  rw [primary, marked]
  rfl

theorem primary_name {text name : String} {input rest : List Token}
    (marked : markedName text input = (name, rest)) (head : rest.head? ≠ some .opening) :
    primary operand (.name text :: input) = .ok (.name name, rest) := by
  rw [primary, marked]
  cases rest with
  | nil => rfl
  | cons token rest =>
      cases token with
      | opening => exact absurd rfl head
      | _ => rfl

theorem primary_sound (sound : Sound operand item) {input rest : List Token} {tree : Expr}
    (read : primary operand input = .ok (tree, rest)) :
    ∃ used, input = used ++ rest ∧ IsPrimary item used tree ∧
      ∀ text, used = [.name text] → Unmarked text rest := by
  cases input with
  | nil => cases read
  | cons token input =>
      cases token with
      | number value =>
          cases read
          exact ⟨[.number value], rfl, .number value, fun text same => by cases same⟩
      | name text =>
          cases marked : markedName text input with
          | mk name after =>
              obtain ⟨mark, rfl, named, own⟩ := markedName_sound marked
              by_cases head : after.head? = some .opening
              · obtain ⟨after, rfl⟩ := List.head?_eq_some_iff.mp head
                rw [primary_call marked] at read
                have ⟨⟨argument, beyond⟩, readInner, same⟩ := bind_eq_ok.mp read
                cases same
                obtain ⟨inner, rfl, isSum⟩ := bracketed_sound sound readInner
                refine ⟨.name text :: mark ++ .opening :: inner ++ [.closing], by simp,
                  .call named isSum, ?_⟩
                intro other same
                simp at same
              · rw [primary_name marked head] at read
                cases read
                refine ⟨.name text :: mark, rfl, .name named, ?_⟩
                intro other same
                cases same
                exact own rfl
      | opening =>
          obtain ⟨inner, rfl, isSum⟩ := bracketed_sound sound read
          refine ⟨.opening :: inner ++ [.closing], by simp, .bracketed isSum, ?_⟩
          intro text same
          cases same
      | plus | minus | asterisk | slash | caret | closing => cases read

theorem power_raised {input rest : List Token} {first : Expr}
    (readBase : primary operand input = .ok (first, .caret :: rest)) :
    power operand input =
      operand rest >>= fun read => .ok (.binary first .pow read.1, read.2) := by
  rw [power, readBase]
  rfl

theorem power_base {input rest : List Token} {tree : Expr}
    (readBase : primary operand input = .ok (tree, rest)) (head : rest.head? ≠ some .caret) :
    power operand input = .ok (tree, rest) := by
  rw [power, readBase]
  cases rest with
  | nil => rfl
  | cons token rest =>
      cases token with
      | caret => exact absurd rfl head
      | _ => rfl

theorem power_sound (sound : Sound operand item) : Sound (power operand) (IsPower item) := by
  intro input tree rest read
  obtain ⟨⟨first, after⟩, readBase, -⟩ := bind_eq_ok.mp read
  obtain ⟨left, rfl, isPrimary, own⟩ := primary_sound sound readBase
  by_cases head : after.head? = some .caret
  · obtain ⟨after, rfl⟩ := List.head?_eq_some_iff.mp head
    rw [power_raised readBase] at read
    have ⟨⟨second, beyond⟩, readExponent, same⟩ := bind_eq_ok.mp read
    cases same
    obtain ⟨right, rfl, isItem⟩ := sound _ _ _ readExponent
    refine ⟨left ++ .caret :: right, by simp, .raised isPrimary isItem ?_⟩
    rintro ⟨text, inverse, mark, rfl, known, marked, leads⟩
    rcases own text rfl with unknown | none
    · rw [known] at unknown
      cases unknown
    · exact afterInverse?_eq_none.mp none mark marked (leads.trans ⟨beyond, rfl⟩)
  · rw [power_base readBase head] at read
    cases read
    exact ⟨left, rfl, .base isPrimary⟩

theorem operand_minus (levels : Nat) (rest : List Token) :
    Reader.operand (levels + 1) (.minus :: rest) =
      Reader.operand levels rest >>= fun read => .ok (.neg read.1, read.2) := rfl

theorem operand_plus (levels : Nat) (rest : List Token) :
    Reader.operand (levels + 1) (.plus :: rest) = Reader.operand levels rest := rfl

theorem operand_power (levels : Nat) {input : List Token} (noMinus : input.head? ≠ some .minus)
    (noPlus : input.head? ≠ some .plus) :
    Reader.operand (levels + 1) input = power (Reader.operand levels) input := by
  cases input with
  | nil => rfl
  | cons token input =>
      cases token with
      | minus => exact absurd rfl noMinus
      | plus => exact absurd rfl noPlus
      | _ => rfl

theorem operand_sound (levels : Nat) : Sound (Reader.operand levels) (IsOperand levels) := by
  induction levels with
  | zero =>
      intro input tree rest read
      cases read
  | succ levels ih =>
      intro input tree rest read
      by_cases minus : input.head? = some .minus
      · obtain ⟨input, rfl⟩ := List.head?_eq_some_iff.mp minus
        rw [operand_minus] at read
        have ⟨⟨inner, after⟩, readInner, same⟩ := bind_eq_ok.mp read
        cases same
        obtain ⟨used, rfl, isOperand⟩ := ih _ _ _ readInner
        exact ⟨.minus :: used, rfl, .minus isOperand⟩
      by_cases plus : input.head? = some .plus
      · obtain ⟨input, rfl⟩ := List.head?_eq_some_iff.mp plus
        rw [operand_plus] at read
        obtain ⟨used, rfl, isOperand⟩ := ih _ _ _ read
        exact ⟨.plus :: used, rfl, .plus isOperand⟩
      · rw [operand_power levels minus plus] at read
        obtain ⟨used, rfl, isPower⟩ := power_sound ih _ _ _ read
        exact ⟨used, rfl, .power isPower⟩

theorem whole_ok {levels : Nat} {input : List Token} {tree : Expr} :
    whole levels input = .ok tree ↔ expression (Reader.operand levels) input = .ok (tree, []) := by
  cases input with
  | nil =>
      constructor
      · intro read
        cases read
      · intro read
        cases levels <;> cases read
  | cons token input =>
      constructor
      · intro read
        have ⟨⟨found, rest⟩, readSum, same⟩ := bind_eq_ok.mp read
        cases rest with
        | nil =>
            cases same
            exact readSum
        | cons token rest => cases same
      · intro read
        rw [whole, read]
        · rfl
        · intro impossible
          cases impossible

theorem whole_sound {levels : Nat} {input : List Token} {tree : Expr}
    (read : whole levels input = .ok tree) : IsFormula levels input tree := by
  obtain ⟨used, rfl, isSum⟩ := expression_sound (operand_sound levels) _ _ _ (whole_ok.mp read)
  rwa [List.append_nil]

end Grapher
