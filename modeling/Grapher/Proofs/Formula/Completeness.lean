import Grapher.Formula.Grammar
import Grapher.Proofs.Formula.Soundness

namespace Grapher

section Nesting

variable {op? : Token → Option BinaryOp} {narrow wide : Phrase} {input : List Token} {tree : Expr}

theorem chain_mono (widens : ∀ input tree, narrow input tree → wide input tree)
    (isChain : IsChain op? narrow input tree) : IsChain op? wide input tree := by
  induction isChain with
  | one first => exact .one (widens _ _ first)
  | more before sign last ih => exact .more ih sign (widens _ _ last)

theorem sum_mono (widens : ∀ input tree, narrow input tree → wide input tree)
    (isSum : IsSum narrow input tree) : IsSum wide input tree :=
  chain_mono (fun _ _ product => chain_mono widens product) isSum

theorem primary_mono (widens : ∀ input tree, narrow input tree → wide input tree)
    (isPrimary : IsPrimary narrow input tree) : IsPrimary wide input tree := by
  cases isPrimary with
  | number value => exact .number value
  | name named => exact .name named
  | bracketed inner => exact .bracketed (sum_mono widens inner)
  | call named inner => exact .call named (sum_mono widens inner)

theorem power_mono (widens : ∀ input tree, narrow input tree → wide input tree)
    (isPower : IsPower narrow input tree) : IsPower wide input tree := by
  cases isPower with
  | base primary => exact .base (primary_mono widens primary)
  | raised base exponent own =>
      exact .raised (primary_mono widens base) (widens _ _ exponent) own

theorem signed_mono (widens : ∀ input tree, narrow input tree → wide input tree)
    (isSigned : IsSigned narrow input tree) : IsSigned wide input tree := by
  cases isSigned with
  | minus inner => exact .minus (widens _ _ inner)
  | plus inner => exact .plus (widens _ _ inner)
  | power isPower => exact .power (power_mono widens isPower)

theorem operand_mono {few many : Nat} (more : few ≤ many) :
    ∀ input tree, IsOperand few input tree → IsOperand many input tree := by
  induction few generalizing many with
  | zero =>
      intro input tree impossible
      cases impossible
  | succ few ih =>
      obtain ⟨many, rfl⟩ : ∃ levels, many = levels + 1 := ⟨many - 1, by omega⟩
      intro input tree isSigned
      exact signed_mono (ih (by omega)) isSigned

theorem formula_mono {few many : Nat} (more : few ≤ many) (isFormula : IsFormula few input tree) :
    IsFormula many input tree :=
  sum_mono (operand_mono more) isFormula

end Nesting

section Completeness

open Reader

/-- No phrase of the kind is empty or a lone minus. -/
def Solid (phrase : Phrase) : Prop :=
  ∀ input tree, phrase input tree → input ≠ [] ∧ input ≠ [.minus]

theorem chain_solid {op? : Token → Option BinaryOp} {item : Phrase} (solid : Solid item) :
    Solid (IsChain op? item) := by
  intro input tree isChain
  induction isChain with
  | one first => exact solid _ _ first
  | more before sign last ih =>
      constructor
      · simp
      · intro same
        have lengths := congrArg List.length same
        have positive := List.length_pos_iff.mpr ih.1
        simp at lengths
        omega

theorem sum_solid {item : Phrase} (solid : Solid item) : Solid (IsSum item) :=
  chain_solid (chain_solid solid)

theorem primary_head {item : Phrase} {input : List Token} {tree : Expr}
    (isPrimary : IsPrimary item input tree) :
    ∃ token rest, input = token :: rest ∧ token ≠ .minus ∧ token ≠ .plus := by
  cases isPrimary with
  | number value => exact ⟨_, _, rfl, by simp, by simp⟩
  | name named => cases named <;> exact ⟨_, _, rfl, by simp, by simp⟩
  | bracketed inner => exact ⟨_, _, rfl, by simp, by simp⟩
  | call named inner => cases named <;> exact ⟨_, _, rfl, by simp, by simp⟩

theorem power_head {item : Phrase} {input : List Token} {tree : Expr}
    (isPower : IsPower item input tree) :
    ∃ token rest, input = token :: rest ∧ token ≠ .minus ∧ token ≠ .plus := by
  cases isPower with
  | base primary => exact primary_head primary
  | raised base exponent own =>
      obtain ⟨token, rest, rfl, noMinus, noPlus⟩ := primary_head base
      exact ⟨token, _, rfl, noMinus, noPlus⟩

theorem signed_solid {operand : Phrase} (solid : Solid operand) : Solid (IsSigned operand) := by
  intro input tree isSigned
  cases isSigned with
  | minus inner => exact ⟨by simp, by simpa using (solid _ _ inner).1⟩
  | plus inner => exact ⟨by simp, by simp⟩
  | power isPower =>
      obtain ⟨token, rest, rfl, noMinus, noPlus⟩ := power_head isPower
      exact ⟨by simp, by simp [noMinus]⟩

theorem operand_solid (levels : Nat) : Solid (IsOperand levels) := by
  induction levels with
  | zero =>
      intro input tree impossible
      cases impossible
  | succ levels ih => exact signed_solid ih

theorem primary_opening {item : Phrase} {rest : List Token} {tree : Expr}
    (isPrimary : IsPrimary item (.opening :: rest) tree) :
    ∃ inner, rest = inner ++ [.closing] ∧ IsSum item inner tree := by
  generalize same : Token.opening :: rest = input at isPrimary
  cases isPrimary with
  | number value => cases same
  | name named => cases named <;> cases same
  | bracketed inner =>
      cases same
      exact ⟨_, rfl, inner⟩
  | call named inner => cases named <;> cases same

theorem signed_opening {item : Phrase} {rest : List Token} {tree : Expr}
    (isSigned : IsSigned item (.opening :: rest) tree) :
    ∃ inner more within, rest = inner ++ .closing :: more ∧ IsSum item inner within := by
  cases isSigned with
  | power isPower =>
      generalize same : Token.opening :: rest = input at isPower
      cases isPower with
      | base primary =>
          cases same
          obtain ⟨inner, rfl, isSum⟩ := primary_opening primary
          exact ⟨inner, [], _, rfl, isSum⟩
      | @raised _ right _ _ base exponent own =>
          obtain ⟨token, front, rfl, -, -⟩ := primary_head base
          cases same
          obtain ⟨inner, rfl, isSum⟩ := primary_opening base
          exact ⟨inner, .caret :: right, _, by simp, isSum⟩

theorem mark_within {item : Phrase} (solid : Solid item) {right rest mark : List Token} {tree : Expr}
    (isSigned : IsSigned item right tree) (marked : InverseMark mark)
    (leads : mark <+: .caret :: (right ++ rest)) : mark <+: .caret :: right := by
  suffices short : mark.length ≤ (Token.caret :: right).length from
    List.prefix_of_prefix_length_le leads ⟨rest, rfl⟩ short
  have ⟨filled, more⟩ := signed_solid solid _ _ isSigned
  cases marked with
  | bare value one =>
      match right, filled, more with
      | [token], _, more => simp_all
      | _ :: _ :: _, _, _ => simp
  | bracketed value one =>
      match right, filled with
      | token :: right, _ =>
          have opens : token = .opening := by simp_all
          subst opens
          obtain ⟨inner, after, within, rfl, isSum⟩ := signed_opening isSigned
          have ⟨filled, more⟩ := sum_solid solid _ _ isSum
          match inner, filled, more with
          | [token], _, more => simp_all
          | _ :: _ :: _, _, _ =>
              simp only [List.length_cons, List.length_append, List.length_nil]
              omega

/-- What may follow an operand: neither an exponent nor an argument. -/
def Ends (rest : List Token) : Prop :=
  rest.head? ≠ some .caret ∧ rest.head? ≠ some .opening

/-- What may follow a whole formula: the end of the input or of a bracket. -/
def Closes (rest : List Token) : Prop :=
  ∀ token ∈ rest.head?, token = .closing

theorem product_leads {token : Token} {op : BinaryOp} (rest : List Token)
    (sign : productOp? token = some op) : Ends (token :: rest) := by
  cases token <;> cases sign <;> exact ⟨by simp, by simp⟩

theorem sum_leads {token : Token} {op : BinaryOp} (rest : List Token)
    (sign : sumOp? token = some op) : Ends (token :: rest) ∧ Stops productOp? (token :: rest) := by
  cases token <;> cases sign <;> exact ⟨⟨by simp, by simp⟩, by simp [Stops, productOp?]⟩

theorem closes_follows {rest : List Token} (closes : Closes rest) :
    (Ends rest ∧ Stops productOp? rest) ∧ Stops sumOp? rest := by
  cases rest with
  | nil => simp [Ends, Stops]
  | cons token rest =>
      cases closes token rfl
      simp [Ends, Stops, productOp?, sumOp?]

variable {operand : Reader} {item : Phrase}

theorem expression_complete (sound : Sound operand item) (complete : Complete operand item Ends) :
    Complete (expression operand) (IsSum item) Closes := by
  intro used tree isSum rest closes
  have products : Complete (chain productOp? operand) (IsChain productOp? item) _ :=
    chain_complete sound complete fun token op rest => product_leads rest
  have sums := chain_complete (chain_sound sound) products fun token op rest => sum_leads rest
  exact sums used tree isSum rest (closes_follows closes)

theorem bracketed_complete (sound : Sound operand item) (complete : Complete operand item Ends)
    {inner rest : List Token} {tree : Expr} (isSum : IsSum item inner tree) :
    bracketed operand (inner ++ .closing :: rest) = .ok (tree, rest) := by
  have closes : Closes (.closing :: rest) := by simp [Closes]
  rw [bracketed, expression_complete sound complete _ _ isSum _ closes]
  rfl

theorem primary_of_call {front : List Token} {text : String} (named : Named front text)
    (input : List Token) :
    primary operand (front ++ .opening :: input) =
      bracketed operand input >>= fun read => .ok (.call text read.1, read.2) := by
  -- No mark starts with a bracket.
  have unmarked : ∀ text, front = [.name text] → Unmarked text (.opening :: input) :=
    fun text _ => .inr (afterInverse?_of_head (by simp))
  obtain ⟨text, mark, rfl, marked⟩ := markedName_complete named unmarked
  rw [List.cons_append, primary_call marked]

theorem primary_complete (sound : Sound operand item) (complete : Complete operand item Ends)
    {used rest : List Token} {tree : Expr} (isPrimary : IsPrimary item used tree)
    (head : rest.head? ≠ some .opening) (own : ∀ text, used = [.name text] → Unmarked text rest) :
    primary operand (used ++ rest) = .ok (tree, rest) := by
  cases isPrimary with
  | number value => rfl
  | name named =>
      obtain ⟨text, mark, rfl, marked⟩ := markedName_complete named own
      exact primary_name marked head
  | bracketed inner =>
      rw [List.append_assoc]
      exact bracketed_complete sound complete inner
  | @call front input text tree named inner =>
      have shape : front ++ .opening :: input ++ [.closing] ++ rest =
          front ++ .opening :: (input ++ .closing :: rest) := by simp
      rw [shape, primary_of_call named, bracketed_complete sound complete inner]
      rfl

theorem unmarked_of_own {left right rest : List Token} (own : ¬ StealsMark left right)
    (within : ∀ mark, InverseMark mark → mark <+: .caret :: (right ++ rest) → mark <+: .caret :: right) :
    ∀ text, left = [.name text] → Unmarked text (.caret :: (right ++ rest)) := by
  rintro text rfl
  cases known : Elementary.inverseName? text with
  | none => exact .inl known
  | some inverse =>
      -- A mark that leads the rest would lie within the exponent already.
      refine .inr (afterInverse?_eq_none.mpr fun mark marked leads => own ?_)
      exact ⟨text, inverse, mark, rfl, known, marked, within mark marked leads⟩

theorem power_complete (sound : Sound operand item) (complete : Complete operand item Ends)
    (within : ∀ right tree, item right tree → ∀ mark rest, InverseMark mark →
      mark <+: .caret :: (right ++ rest) → mark <+: .caret :: right) :
    Complete (power operand) (IsPower item) Ends := by
  intro used tree isPower rest ⟨noCaret, noOpening⟩
  cases isPower with
  | base primary =>
      have own : ∀ text, used = [.name text] → Unmarked text rest :=
        fun text _ => .inr (afterInverse?_of_head noCaret)
      exact power_base (primary_complete sound complete primary noOpening own) noCaret
  | @raised left right first second base exponent own =>
      have unmarked := unmarked_of_own own fun mark => within right second exponent mark rest
      have readBase := primary_complete sound complete base (by simp) unmarked
      rw [List.append_assoc, List.cons_append, power_raised readBase,
        complete right second exponent rest ⟨noCaret, noOpening⟩]
      rfl

theorem mark_within_operand {levels : Nat} {right rest mark : List Token} {tree : Expr}
    (isOperand : IsOperand levels right tree) (marked : InverseMark mark)
    (leads : mark <+: .caret :: (right ++ rest)) : mark <+: .caret :: right := by
  cases levels with
  | zero => cases isOperand
  | succ levels => exact mark_within (operand_solid levels) isOperand marked leads

theorem operand_complete (levels : Nat) :
    Complete (Reader.operand levels) (IsOperand levels) Ends := by
  induction levels with
  | zero =>
      intro used tree impossible
      cases impossible
  | succ levels ih =>
      intro used tree isSigned rest ends
      cases isSigned with
      | minus inner =>
          rw [List.cons_append, operand_minus, ih _ _ inner rest ends]
          rfl
      | plus inner => rw [List.cons_append, operand_plus, ih _ _ inner rest ends]
      | power isPower =>
          obtain ⟨token, more, rfl, noMinus, noPlus⟩ := power_head isPower
          rw [operand_power levels (by simpa using noMinus) (by simpa using noPlus)]
          exact power_complete (operand_sound levels) ih
            (fun right tree isOperand mark rest => mark_within_operand isOperand) _ _ isPower rest ends

/-- What a reader with so many levels accepts. -/
theorem whole_iff {levels : Nat} {input : List Token} {tree : Expr} :
    whole levels input = .ok tree ↔ IsFormula levels input tree := by
  constructor
  · exact whole_sound
  · intro isSum
    have closes : Closes [] := by simp [Closes]
    have read := expression_complete (operand_sound levels) (operand_complete levels) _ _ isSum [] closes
    rw [List.append_nil] at read
    exact whole_ok.mpr read

theorem formula_unique {few many : Nat} {input : List Token} {first second : Expr}
    (isFirst : IsFormula few input first) (isSecond : IsFormula many input second) :
    first = second := by
  have readFirst := whole_iff.mpr (formula_mono (Nat.le_max_left few many) isFirst)
  have readSecond := whole_iff.mpr (formula_mono (Nat.le_max_right few many) isSecond)
  rw [readFirst] at readSecond
  cases readSecond
  rfl

/-- Reading accepts exactly the formulas that nest within the limit, each with its own tree. However
deep they nest, no row of tokens stands for two trees. -/
theorem ofTokens_accepts (tokens : List Token) :
    (∀ tree, Expr.ofTokens tokens = .ok tree ↔ IsFormula nestingLimit tokens tree) ∧
      ∀ few many first second, IsFormula few tokens first → IsFormula many tokens second →
        first = second :=
  ⟨fun _ => whole_iff, fun _ _ _ _ => formula_unique⟩

theorem ofTokens_accepts_marked :
    let tokens : List Token := [.minus, .name "sin", .caret, .opening, .minus, .number 1, .closing,
      .opening, .name "x", .closing, .caret, .minus, .number 2, .asterisk, .name "sin"]
    let tree : Expr := .binary
      (.neg (.binary (.call "asin" (.name "x")) .pow (.neg (.number 2)))) .mul (.name "sin")
    Expr.ofTokens tokens = .ok tree ∧ IsFormula nestingLimit tokens tree ∧
      ∀ other, IsFormula nestingLimit tokens other → other = tree := by
  intro tokens tree
  have read : Expr.ofTokens tokens = .ok tree := rfl
  have ⟨accepts, unique⟩ := ofTokens_accepts tokens
  have isFormula := (accepts tree).mp read
  exact ⟨read, isFormula, fun other isOther => unique _ _ other tree isOther isFormula⟩

end Completeness

end Grapher
