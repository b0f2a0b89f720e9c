import Grapher.Proofs.Formula.Levels
import Grapher.Proofs.Formula.Scanning

namespace Grapher

open Reader Token

variable {part : Part} {room depth levels : Nat} {input tokens : List Token} {tree : Expr}

def Part.phrase (room : Nat) : Part → Phrase
  | sum => IsSum (IsOperand room)
  | product => IsChain productOp? (IsOperand room)
  | operand => IsOperand room
  | power => IsPower (IsOperand room)
  | primary => IsPrimary (IsOperand room)

def Part.reader (room : Nat) : Part → Reader
  | sum => expression (Reader.operand room)
  | product => chain productOp? (Reader.operand room)
  | operand => Reader.operand room
  | power => Reader.power (Reader.operand room)
  | primary => Reader.primary (Reader.operand room)

/-- The levels a part takes for its own operands. -/
def Part.ownLevels : Part → Nat
  | power | primary => 0
  | _ => 1

theorem Nested.phrase (nested : Nested part depth input tree) :
    ∀ room, depth + part.ownLevels ≤ room → part.phrase room input tree := by
  induction nested with
  | number value => exact fun room _ => .number value
  | name named => exact fun room _ => .name named
  | bracketed inner ih => exact fun room enough => .bracketed (ih room enough)
  | call named inner ih => exact fun room enough => .call named (ih room enough)
  | base primary ih => exact fun room enough => .base (ih room enough)
  | @raised depth depth' left right first second base exponent own ih ih' =>
      intro room enough
      have ⟨left, right⟩ : depth ≤ room ∧ depth' + 1 ≤ room := Nat.max_le.mp enough
      exact .raised (ih room left) (ih' room right) own
  | minus inner ih =>
      intro room enough
      cases room with
      | zero => exact absurd enough (Nat.not_succ_le_zero _)
      | succ room => exact .minus (ih room (Nat.le_of_succ_le_succ enough))
  | plus inner ih =>
      intro room enough
      cases room with
      | zero => exact absurd enough (Nat.not_succ_le_zero _)
      | succ room => exact .plus (ih room (Nat.le_of_succ_le_succ enough))
  | power power ih =>
      intro room enough
      cases room with
      | zero => exact absurd enough (Nat.not_succ_le_zero _)
      | succ room => exact .power (ih room (Nat.le_of_succ_le_succ enough))
  | factor operand ih => exact fun room enough => .one (ih room enough)
  | @factors depth depth' left token right first second op before sign last ih ih' =>
      intro room enough
      have ⟨left, right⟩ : depth < room ∧ depth' < room := Nat.max_lt.mp enough
      exact .more (ih room left) sign (ih' room right)
  | term product ih => exact fun room enough => .one (ih room enough)
  | @terms depth depth' left token right first second op before sign last ih ih' =>
      intro room enough
      have ⟨left, right⟩ : depth < room ∧ depth' < room := Nat.max_lt.mp enough
      exact .more (ih room left) sign (ih' room right)

theorem chain_last_error {op? : Token → Option BinaryOp} {operand : Reader} {item : Phrase}
    {follows : List Token → Prop} (sound : Sound operand item) (complete : Complete operand item follows)
    (leads : ∀ token op rest, op? token = some op → follows (token :: rest)) {left rest : List Token}
    {first : Expr} (before : IsChain op? item left first) {token : Token} {op : BinaryOp}
    (sign : op? token = some op) {fault : Fault} (read : operand rest = .error fault) :
    chain op? operand (left ++ token :: rest) = .error fault := by
  have enough : (token :: rest).length ≤ rest.length + 1 := Nat.le_refl _
  rw [chain_goes_on sound complete leads before (leads token op rest sign) enough, goOn_some sign, read]
  rfl

theorem chain_refused {op? : Token → Option BinaryOp} {operand : Reader} {item : Phrase}
    {follows : List Token → Prop} (sound : Sound operand item) (complete : Complete operand item follows)
    (leads : ∀ token op rest, op? token = some op → follows (token :: rest)) {left right rest : List Token}
    {first : Expr} {token : Token} {op : BinaryOp} (sign : op? token = some op) {fault : Fault}
    {depth depth' : Nat} (few : room < max depth depth' + 1)
    (before : depth + 1 ≤ room → IsChain op? item left first)
    (deep : room < depth + 1 → chain op? operand (left ++ token :: (right ++ rest)) = .error fault)
    (deep' : room < depth' + 1 → operand (right ++ rest) = .error fault) :
    chain op? operand (left ++ token :: right ++ rest) = .error fault := by
  rw [List.append_assoc, List.cons_append]
  rcases Nat.lt_or_ge room (depth + 1) with less | enough
  · exact deep less
  · exact chain_last_error sound complete leads (before enough) sign (deep' (by omega))

theorem base_complete {left right rest : List Token} {first second : Expr}
    (base : IsPrimary (IsOperand room) left first) (exponent : IsOperand levels right second)
    (own : ¬ StealsMark left right) :
    Reader.primary (Reader.operand room) (left ++ .caret :: (right ++ rest)) =
      .ok (first, .caret :: (right ++ rest)) := by
  have unmarked := unmarked_of_own own fun mark => @mark_within_operand levels right rest mark _ exponent
  exact primary_complete (operand_sound room) (operand_complete room) base (by simp) unmarked

theorem bracketed_error {operand : Reader} {input : List Token} {fault : Fault}
    (read : expression operand input = .error fault) : bracketed operand input = .error fault := by
  rw [bracketed, read]
  rfl

theorem power_error {operand : Reader} {input : List Token} {fault : Fault}
    (read : Reader.primary operand input = .error fault) : power operand input = .error fault := by
  rw [power, read]
  rfl

/-- A phrase that nests deeper than there are levels is refused for that, whatever follows it: what stands
before the operand that is too deep is read. -/
theorem Nested.refused (nested : Nested part depth input tree) :
    ∀ room, room < depth + part.ownLevels → ∀ rest,
      part.reader room (input ++ rest) = .error (.tooDeep nestingLimit) := by
  -- What stands before the operand that is too deep is read, so the refusal is met there and nowhere else.
  induction nested with
  | number value => exact fun room few => absurd few (Nat.not_lt_zero _)
  | name named => exact fun room few => absurd few (Nat.not_lt_zero _)
  | bracketed inner ih =>
      intro room few rest
      have refused := ih room few ([.closing] ++ rest)
      rw [← List.append_assoc] at refused
      exact bracketed_error refused
  | call named inner ih =>
      intro room few rest
      have refused := ih room few ([.closing] ++ rest)
      rw [List.append_assoc, List.append_assoc, List.cons_append, Part.reader, primary_of_call named,
        bracketed_error refused]
      rfl
  | base primary ih => exact fun room few rest => power_error (ih room few rest)
  | @raised depth depth' left right first second base exponent own ih ih' =>
      intro room few rest
      rw [List.append_assoc, List.cons_append]
      by_cases deep : room < depth
      · exact power_error (ih room deep (.caret :: (right ++ rest)))
      · have few : room < depth' + 1 := by simpa [Part.ownLevels, deep] using few
        have isBase := base.phrase room (Nat.le_of_not_lt deep)
        have isExponent := exponent.phrase (depth' + 1) (Nat.le_refl _)
        have refused : Reader.operand _ _ = _ := ih' room few rest
        rw [Part.reader, power_raised (base_complete isBase isExponent own), refused]
        rfl
  | minus inner ih =>
      intro room few rest
      cases room with
      | zero => rfl
      | succ room =>
          have refused : Reader.operand _ _ = _ := ih room (Nat.lt_of_succ_lt_succ few) rest
          rw [Part.reader, List.cons_append, operand_minus, refused]
          rfl
  | plus inner ih =>
      intro room few rest
      cases room with
      | zero => rfl
      | succ room => exact ih room (Nat.lt_of_succ_lt_succ few) rest
  | @power depth input tree power ih =>
      intro room few rest
      cases room with
      | zero => rfl
      | succ room =>
          obtain ⟨token, more, rfl, noMinus, noPlus⟩ := power_head (power.phrase depth (Nat.le_refl _))
          rw [Part.reader, operand_power room (by simpa using noMinus) (by simpa using noPlus)]
          exact ih room (Nat.lt_of_succ_lt_succ few) rest
  | factor operand ih => exact fun room few rest => chain_error (ih room few rest)
  | factors before sign last ih ih' =>
      intro room few rest
      exact chain_refused (operand_sound room) (operand_complete room)
        (fun token op rest => product_leads rest) sign few (before.phrase room)
        (fun deep => ih room deep _) (fun deep => ih' room deep rest)
  | term product ih => exact fun room few rest => chain_error (ih room few rest)
  | terms before sign last ih ih' =>
      intro room few rest
      have products : Complete (chain productOp? (Reader.operand room)) _ _ :=
        chain_complete (operand_sound room) (operand_complete room) fun token op rest => product_leads rest
      exact chain_refused (chain_sound (operand_sound room)) products
        (fun token op rest => sum_leads rest) sign few (before.phrase room)
        (fun deep => ih room deep _) (fun deep => ih' room deep rest)

/-- Every phrase of the kind nests some number of levels deep. -/
def HasDepth (part : Part) (phrase : Phrase) : Prop :=
  ∀ input tree, phrase input tree → ∃ depth, Nested part depth input tree

section HasDepth

variable {item : Phrase} (operands : HasDepth .operand item)
include operands

theorem product_hasDepth : HasDepth .product (IsChain productOp? item) := by
  intro input tree isChain
  induction isChain with
  | one first =>
      have ⟨depth, nested⟩ := operands _ _ first
      exact ⟨depth, .factor nested⟩
  | more before sign last ih =>
      have ⟨depth, nested⟩ := ih
      have ⟨depth', nested'⟩ := operands _ _ last
      exact ⟨max depth depth', .factors nested sign nested'⟩

theorem sum_hasDepth : HasDepth .sum (IsSum item) := by
  intro input tree isSum
  induction isSum with
  | one first =>
      have ⟨depth, nested⟩ := product_hasDepth operands _ _ first
      exact ⟨depth, .term nested⟩
  | more before sign last ih =>
      have ⟨depth, nested⟩ := ih
      have ⟨depth', nested'⟩ := product_hasDepth operands _ _ last
      exact ⟨max depth depth', .terms nested sign nested'⟩

theorem primary_hasDepth : HasDepth .primary (IsPrimary item) := by
  intro input tree isPrimary
  cases isPrimary with
  | number value => exact ⟨0, .number value⟩
  | name named => exact ⟨0, .name named⟩
  | bracketed inner =>
      have ⟨depth, nested⟩ := sum_hasDepth operands _ _ inner
      exact ⟨depth + 1, .bracketed nested⟩
  | call named inner =>
      have ⟨depth, nested⟩ := sum_hasDepth operands _ _ inner
      exact ⟨depth + 1, .call named nested⟩

theorem power_hasDepth : HasDepth .power (IsPower item) := by
  intro input tree isPower
  cases isPower with
  | base primary =>
      have ⟨depth, nested⟩ := primary_hasDepth operands _ _ primary
      exact ⟨depth, .base nested⟩
  | raised base exponent own =>
      have ⟨depth, nested⟩ := primary_hasDepth operands _ _ base
      have ⟨depth', nested'⟩ := operands _ _ exponent
      exact ⟨max depth (depth' + 1), .raised nested nested' own⟩

theorem signed_hasDepth : HasDepth .operand (IsSigned item) := by
  intro input tree isSigned
  cases isSigned with
  | minus inner =>
      have ⟨depth, nested⟩ := operands _ _ inner
      exact ⟨depth + 1, .minus nested⟩
  | plus inner =>
      have ⟨depth, nested⟩ := operands _ _ inner
      exact ⟨depth + 1, .plus nested⟩
  | power isPower =>
      have ⟨depth, nested⟩ := power_hasDepth operands _ _ isPower
      exact ⟨depth, .power nested⟩

end HasDepth

theorem operand_hasDepth (levels : Nat) : HasDepth .operand (IsOperand levels) := by
  induction levels with
  | zero => exact fun input tree impossible => impossible.elim
  | succ levels ih => exact signed_hasDepth ih

theorem formula_hasDepth (levels : Nat) : HasDepth .sum (IsFormula levels) :=
  sum_hasDepth (operand_hasDepth levels)

theorem Nested.isFormula (nested : Nested .sum depth tokens tree) : IsFormula (depth + 1) tokens tree :=
  nested.phrase (depth + 1) (Nat.le_refl _)

theorem Nested.nests (nested : Nested .sum depth tokens tree) : Nests (depth + 1) tokens tree := by
  intro room
  constructor
  · intro isFormula
    by_contra few
    have refused : expression _ _ = _ := nested.refused room (Nat.lt_of_not_le few) []
    rw [List.append_nil, whole_ok.mp (whole_iff.mpr isFormula)] at refused
    cases refused
  · exact nested.phrase room

theorem Nested.unique {depth' : Nat} {tree' : Expr} (nested : Nested .sum depth tokens tree)
    (nested' : Nested .sum depth' tokens tree') : depth' = depth ∧ tree' = tree := by
  obtain rfl := formula_unique nested.isFormula nested'.isFormula
  have few := (nested.nests _).mp nested'.isFormula
  have many := (nested'.nests _).mp nested.isFormula
  exact ⟨by omega, rfl⟩

theorem Nested.ofTokens_eq (nested : Nested .sum depth tokens tree) :
    Expr.ofTokens tokens = if depth < nestingLimit then .ok tree else .error (.tooDeep nestingLimit) :=
  nested.nests.whole_eq nestingLimit

/-- A formula nests to one depth, and is read if that is below the limit. Otherwise it is too deep, and
nothing else is said of it. A text that spells few enough tokens is read as these are. -/
theorem ofTokens_nesting (wellFormed : IsFormula levels tokens tree) :
    ∃ depth, Nested .sum depth tokens tree ∧
      (∀ depth' tree', Nested .sum depth' tokens tree' → depth' = depth ∧ tree' = tree) ∧
      Expr.ofTokens tokens =
        (if depth < nestingLimit then .ok tree else .error (.tooDeep nestingLimit)) ∧
      ∀ text : String, Spells text.toList tokens → tokens.length ≤ Token.limit →
        Expr.ofText text = Expr.ofTokens tokens := by
  have ⟨depth, nested⟩ := formula_hasDepth levels tokens tree wellFormed
  refine ⟨depth, nested, fun _ _ => nested.unique, nested.ofTokens_eq, ?_⟩
  intro text spells short
  rw [ofText_of_spells spells, if_pos short]

theorem ofTokens_nesting_signs :
    let tokens : List Token :=
      [.minus, .name "sin", .opening, .name "x", .closing, .caret, .plus, .number 2]
    let tree : Expr := .neg (.binary (.call "sin" (.name "x")) .pow (.number 2))
    IsFormula 4 tokens tree ∧ Nested .sum 3 tokens tree ∧ Expr.ofTokens tokens = .ok tree ∧
      Expr.ofText "-sin(x)^+2" = .ok tree := by
  intro tokens tree
  have isFormula : IsFormula 4 tokens tree := whole_iff.mp rfl
  have argument : Nested .sum 0 [.name "x"] (.name "x") :=
    .term (.factor (.power (.base (.name (.plain "x")))))
  have call : Nested .primary 1 [.name "sin", .opening, .name "x", .closing] (.call "sin" (.name "x")) :=
    .call (.plain "sin") argument
  have exponent : Nested .operand 1 [.plus, .number 2] (.number 2) :=
    .plus (.power (.base (.number 2)))
  have own : ¬ StealsMark [.name "sin", .opening, .name "x", .closing] [.plus, .number 2] := by
    rintro ⟨text, inverse, mark, same, -⟩
    cases same
  have nested : Nested .sum 3 tokens tree :=
    .term (.factor (.minus (.power (.raised call exponent own))))
  obtain ⟨depth, -, unique, read, text⟩ := ofTokens_nesting isFormula
  obtain ⟨rfl, -⟩ := unique 3 tree nested
  have scanned : scan 8 "-sin(x)^+2".toList = .ok tokens := by decide +kernel
  have spelled : Expr.ofText "-sin(x)^+2" = Expr.ofTokens tokens :=
    text _ (spells_of_scan scanned) (by decide)
  exact ⟨isFormula, nested, read, spelled.trans read⟩

def wrapped : (count : Nat) → List Token
  | 0 => [.name "x"]
  | count + 1 => .opening :: wrapped count ++ [.closing]

theorem wrapped_length (count : Nat) : (wrapped count).length = 2 * count + 1 := by
  induction count with
  | zero => rfl
  | succ count ih =>
      simp only [wrapped, List.length_append, List.length_cons, List.length_nil, ih]
      omega

theorem wrapped_nested (count : Nat) : Nested .sum count (wrapped count) (.name "x") := by
  induction count with
  | zero => exact .term (.factor (.power (.base (.name (.plain "x")))))
  | succ count ih => exact .term (.factor (.power (.base (.bracketed ih))))

/-- As many brackets as the limit allows are too many, though their tokens are few. -/
theorem ofTokens_refuses_limit :
    (wrapped nestingLimit).length ≤ Token.limit ∧
      IsFormula (nestingLimit + 1) (wrapped nestingLimit) (.name "x") ∧
      Nested .sum nestingLimit (wrapped nestingLimit) (.name "x") ∧
      Expr.ofTokens (wrapped nestingLimit) = .error (.tooDeep nestingLimit) := by
  have nested : Nested .sum nestingLimit _ _ := wrapped_nested nestingLimit
  have short : (wrapped nestingLimit).length ≤ Token.limit := by
    rw [wrapped_length]
    decide
  refine ⟨short, nested.isFormula, nested, ?_⟩
  rw [nested.ofTokens_eq, if_neg (Nat.lt_irrefl _)]

end Grapher
