import Grapher.Formula.Grammar
import Grapher.Proofs.Result

namespace Grapher

section Chain

open Reader

/-- All that the reader takes off the input is a phrase of the kind. -/
def Sound (reader : Reader) (phrase : Phrase) : Prop :=
  ∀ input tree rest, reader input = .ok (tree, rest) →
    ∃ used, input = used ++ rest ∧ phrase used tree

/-- The reader takes off a phrase of the kind before any input that may follow it. -/
def Complete (reader : Reader) (phrase : Phrase) (follows : List Token → Prop) : Prop :=
  ∀ used tree, phrase used tree → ∀ rest, follows rest → reader (used ++ rest) = .ok (tree, rest)

theorem Sound.length_le {reader : Reader} {phrase : Phrase} (sound : Sound reader phrase)
    {input rest : List Token} {tree : Expr} (read : reader input = .ok (tree, rest)) :
    rest.length ≤ input.length := by
  obtain ⟨used, rfl, -⟩ := sound input tree rest read
  rw [List.length_append]
  exact Nat.le_add_left _ _

variable {op? : Token → Option BinaryOp} {operand : Reader} {item : Phrase}

theorem goOn_none {token : Token} (no : op? token = none) (rounds : Nat) (left : Expr)
    (input : List Token) :
    goOn op? operand rounds left (token :: input) = .ok (left, token :: input) := by
  cases rounds with
  | zero => rfl
  | succ rounds => rw [goOn, no]

theorem goOn_some {token : Token} {op : BinaryOp} (sign : op? token = some op) (rounds : Nat)
    (left : Expr) (input : List Token) :
    goOn op? operand (rounds + 1) left (token :: input) =
      operand input >>= fun read => goOn op? operand rounds (.binary left op read.1) read.2 := by
  rw [goOn, sign]

theorem goOn_rounds (sound : Sound operand item) {input : List Token} {first second : Nat}
    (enough : input.length ≤ first) (enough' : input.length ≤ second) (left : Expr) :
    goOn op? operand first left input = goOn op? operand second left input := by
  induction first generalizing input second left with
  | zero =>
      have empty : input = [] := List.eq_nil_of_length_eq_zero (Nat.le_zero.mp enough)
      subst empty
      cases second <;> rfl
  | succ first ih =>
      cases input with
      | nil => cases second <;> rfl
      | cons token input =>
          rw [List.length_cons] at enough enough'
          obtain ⟨second, rfl⟩ : ∃ rounds, second = rounds + 1 := ⟨second - 1, by omega⟩
          cases sign : op? token with
          | none => rw [goOn_none sign, goOn_none sign]
          | some op =>
              rw [goOn_some sign, goOn_some sign]
              cases read : operand input with
              | error fault => rfl
              | ok result =>
                  have shorter := sound.length_le read
                  exact ih (by omega) (by omega) _

theorem goOn_sound (sound : Sound operand item) {rounds : Nat} {front input rest : List Token}
    {left tree : Expr} (before : IsChain op? item front left)
    (read : goOn op? operand rounds left input = .ok (tree, rest)) :
    ∃ used, input = used ++ rest ∧ IsChain op? item (front ++ used) tree := by
  induction rounds generalizing front left input with
  | zero =>
      cases read
      exact ⟨[], rfl, by rwa [List.append_nil]⟩
  | succ rounds ih =>
      cases input with
      | nil =>
          cases read
          exact ⟨[], rfl, by rwa [List.append_nil]⟩
      | cons token input =>
          cases sign : op? token with
          | none =>
              rw [goOn_none sign] at read
              cases read
              exact ⟨[], rfl, by rwa [List.append_nil]⟩
          | some op =>
              rw [goOn_some sign] at read
              have ⟨⟨right, after⟩, readItem, readOn⟩ := bind_eq_ok.mp read
              obtain ⟨last, rfl, isItem⟩ := sound _ _ _ readItem
              obtain ⟨used, rfl, isChain⟩ := ih (.more before sign isItem) readOn
              refine ⟨token :: last ++ used, by simp, ?_⟩
              simpa using isChain

theorem chain_sound (sound : Sound operand item) :
    Sound (chain op? operand) (IsChain op? item) := by
  intro input tree rest read
  have ⟨⟨first, after⟩, readFirst, readOn⟩ := bind_eq_ok.mp read
  obtain ⟨front, rfl, isItem⟩ := sound _ _ _ readFirst
  obtain ⟨used, rfl, isChain⟩ := goOn_sound sound (.one isItem) readOn
  exact ⟨front ++ used, by rw [List.append_assoc], isChain⟩

variable {follows : List Token → Prop}

def Stops (op? : Token → Option BinaryOp) (rest : List Token) : Prop :=
  ∀ token ∈ rest.head?, op? token = none

theorem chain_goes_on (sound : Sound operand item) (complete : Complete operand item follows)
    (leads : ∀ token op rest, op? token = some op → follows (token :: rest))
    {used : List Token} {tree : Expr} (isChain : IsChain op? item used tree) {rest : List Token}
    (following : follows rest) {rounds : Nat} (enough : rest.length ≤ rounds) :
    chain op? operand (used ++ rest) = goOn op? operand rounds tree rest := by
  -- From the last item to the first. The rounds after the first item read what is left of the chain.
  induction isChain generalizing rest rounds with
  | one first =>
      rw [chain, complete _ _ first rest following]
      exact goOn_rounds sound (Nat.le_refl _) enough _
  | @more left token right first second op before sign last ih =>
      have longer : (token :: (right ++ rest)).length ≤ (right ++ rest).length + 1 := by simp
      have fits : rest.length ≤ (right ++ rest).length := by simp
      rw [List.append_assoc, List.cons_append, ih (leads _ _ _ sign) longer, goOn_some sign,
        complete _ _ last rest following]
      exact goOn_rounds sound fits enough _

theorem chain_complete (sound : Sound operand item) (complete : Complete operand item follows)
    (leads : ∀ token op rest, op? token = some op → follows (token :: rest)) :
    Complete (chain op? operand) (IsChain op? item) (fun rest => follows rest ∧ Stops op? rest) := by
  intro used tree isChain rest ⟨following, stops⟩
  rw [chain_goes_on sound complete leads isChain following (Nat.le_refl _)]
  cases rest with
  | nil => rfl
  | cons token rest => exact goOn_none (stops token rfl) _ _ _

section Short

variable {tokens rest : List Token} {token : Token} {op : BinaryOp} {first second tree : Expr}

theorem chain_one (read : operand tokens = .ok (tree, rest)) (stops : Stops op? rest) :
    chain op? operand tokens = .ok (tree, rest) := by
  rw [chain, read]
  cases rest with
  | nil => rfl
  | cons token rest => exact goOn_none (stops token rfl) _ _ _

theorem chain_error {fault : Fault} (read : operand tokens = .error fault) :
    chain op? operand tokens = .error fault := by
  rw [chain, read]
  rfl

theorem chain_two (read : operand tokens = .ok (first, token :: rest)) (sign : op? token = some op) :
    chain op? operand tokens = (operand rest >>= fun read =>
      goOn op? operand rest.length (.binary first op read.1) read.2) := by
  rw [chain, read]
  exact goOn_some sign _ _ _

theorem chain_two_ok (read : operand tokens = .ok (first, token :: rest)) (sign : op? token = some op)
    (readOn : operand rest = .ok (second, [])) :
    chain op? operand tokens = .ok (.binary first op second, []) := by
  rw [chain_two read sign, readOn]
  cases rest <;> rfl

theorem chain_two_error {fault : Fault} (read : operand tokens = .ok (first, token :: rest))
    (sign : op? token = some op) (readOn : operand rest = .error fault) :
    chain op? operand tokens = .error fault := by
  rw [chain_two read sign, readOn]
  rfl

end Short

end Chain

section Naming

open Reader

theorem afterInverse?_eq_some {input rest : List Token} :
    afterInverse? input = some rest ↔ ∃ mark, InverseMark mark ∧ input = mark ++ rest := by
  constructor
  · intro found
    unfold afterInverse? at found
    split at found
    · rename_i value _
      by_cases one : (value == 1) = true
      · rw [if_pos one] at found
        cases found
        exact ⟨_, .bracketed value one, rfl⟩
      · rw [if_neg one] at found
        cases found
    · rename_i value _
      by_cases one : (value == 1) = true
      · rw [if_pos one] at found
        cases found
        exact ⟨_, .bare value one, rfl⟩
      · rw [if_neg one] at found
        cases found
    · cases found
  · rintro ⟨mark, marked, rfl⟩
    cases marked with
    | bare value one => exact if_pos one
    | bracketed value one => exact if_pos one

theorem afterInverse?_eq_none {input : List Token} :
    afterInverse? input = none ↔ ∀ mark, InverseMark mark → ¬ mark <+: input := by
  constructor
  · rintro none mark marked ⟨rest, rfl⟩
    have found : afterInverse? (mark ++ rest) = some rest :=
      afterInverse?_eq_some.mpr ⟨mark, marked, rfl⟩
    rw [none] at found
    cases found
  · intro unmarked
    cases found : afterInverse? input with
    | none => rfl
    | some rest =>
        obtain ⟨mark, marked, rfl⟩ := afterInverse?_eq_some.mp found
        exact absurd (List.prefix_append mark rest) (unmarked mark marked)

theorem afterInverse?_of_head {input : List Token} (head : input.head? ≠ some .caret) :
    afterInverse? input = none := by
  rw [afterInverse?_eq_none]
  rintro mark marked ⟨rest, rfl⟩
  cases marked <;> exact head rfl

/-- The name keeps its spelling before this input. -/
def Unmarked (text : String) (rest : List Token) : Prop :=
  Elementary.inverseName? text = none ∨ afterInverse? rest = none

theorem markedName_unmarked {text : String} {rest : List Token} (unmarked : Unmarked text rest) :
    markedName text rest = (text, rest) := by
  unfold markedName
  rcases unmarked with unknown | none
  · rw [unknown]
  · rw [none]
    cases Elementary.inverseName? text <;> rfl

theorem markedName_inverse {text inverse : String} {mark rest : List Token}
    (known : Elementary.inverseName? text = some inverse) (marked : InverseMark mark) :
    markedName text (mark ++ rest) = (inverse, rest) := by
  unfold markedName
  rw [known, afterInverse?_eq_some.mpr ⟨mark, marked, rfl⟩]

theorem markedName_sound {text name : String} {input rest : List Token}
    (read : markedName text input = (name, rest)) :
    ∃ mark, input = mark ++ rest ∧ Named (.name text :: mark) name ∧
      (mark = [] → Unmarked text rest) := by
  cases known : Elementary.inverseName? text with
  | none =>
      rw [markedName_unmarked (.inl known)] at read
      cases read
      exact ⟨[], rfl, .plain text, fun _ => .inl known⟩
  | some inverse =>
      cases found : afterInverse? input with
      | none =>
          rw [markedName_unmarked (.inr found)] at read
          cases read
          exact ⟨[], rfl, .plain text, fun _ => .inr found⟩
      | some after =>
          obtain ⟨mark, marked, rfl⟩ := afterInverse?_eq_some.mp found
          rw [markedName_inverse known marked] at read
          cases read
          refine ⟨mark, rfl, .inverse text _ mark known marked, ?_⟩
          rintro rfl
          cases marked

theorem markedName_complete {front rest : List Token} {name : String} (named : Named front name)
    (own : ∀ text, front = [.name text] → Unmarked text rest) :
    ∃ text mark, front = .name text :: mark ∧ markedName text (mark ++ rest) = (name, rest) := by
  cases named with
  | plain => exact ⟨name, [], rfl, markedName_unmarked (own name rfl)⟩
  | inverse text inverse mark known marked =>
      exact ⟨text, mark, rfl, markedName_inverse known marked⟩

end Naming

end Grapher
