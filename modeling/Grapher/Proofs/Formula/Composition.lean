import Grapher.Formula.Machine
import Grapher.Proofs.Formula.Levels
import Grapher.Proofs.Formula.Scanning

namespace Grapher

open Reader

/-- A text whose tokens, so many and so deep, stand for the tree. -/
def Formed (text : String) (count levels : Nat) (tree : Expr) : Prop :=
  ∃ tokens, Spells text.toList tokens ∧ tokens.length = count ∧ Nests levels tokens tree

/-- The result, unless there are too many tokens or they nest too deep. -/
def withinLimits {β : Type} (count levels : Nat) (result : β) : Except Fault β :=
  if Token.limit < count then .error (.tooLong Token.limit)
  else if nestingLimit < levels then .error (.tooDeep nestingLimit)
  else .ok result

def Program.ofText (free text : String) : Except Fault Program := do
  (← Expr.ofText text).compile free

def BinaryOp.token : BinaryOp → Token
  | add => .plus
  | sub => .minus
  | mul => .asterisk
  | div => .slash
  | pow => .caret

/-- How deep two formulas in brackets nest when the operator stands between them. An exponent is one
level below its power. -/
def BinaryOp.levels (left right : Nat) : BinaryOp → Nat
  | pow => max (left + 1) (right + 2)
  | _ => max left right + 1

def enclosed (text : String) : String :=
  "(" ++ text ++ ")"

variable {text other : String} {count levels count' levels' : Nat} {tree first second : Expr}

theorem Formed.ofText_eq (formed : Formed text count levels tree) :
    Expr.ofText text = withinLimits count levels tree := by
  obtain ⟨tokens, spells, rfl, nests⟩ := formed
  rw [ofText_of_spells spells, withinLimits]
  by_cases long : Token.limit < tokens.length
  · rw [if_neg (by omega), if_pos long]
  · rw [if_pos (by omega), if_neg long]
    change whole nestingLimit tokens = _
    rw [nests.whole_eq]
    by_cases deep : nestingLimit < levels
    · rw [if_neg (by omega), if_pos deep]
    · rw [if_pos (by omega), if_neg deep]

theorem formed_of_ofText (read : Expr.ofText text = .ok tree) :
    ∃ count levels, Formed text count levels tree := by
  obtain ⟨tokens, scanned, parsed⟩ := bind_eq_ok.mp read
  obtain ⟨levels, nests⟩ := exists_nests (whole_iff.mp parsed)
  exact ⟨tokens.length, levels, tokens, spells_of_scan scanned, rfl, nests⟩

theorem programOfText_eq (read : Expr.ofText text = withinLimits count levels tree) {free : String}
    {program : Program} (compiled : tree.compile free = .ok program) :
    Program.ofText free text = withinLimits count levels program := by
  unfold Program.ofText
  rw [read]
  unfold withinLimits
  split_ifs
  · rfl
  · rfl
  · exact compiled

section Rows

variable {tokens others rest : List Token}

theorem operand_enclosed (nests : Nests levels tokens tree) (head : rest.head? ≠ some .caret)
    (room : Nat) :
    Reader.operand room (.opening :: (tokens ++ .closing :: rest)) =
      if levels + 1 ≤ room then .ok (tree, rest) else .error (.tooDeep nestingLimit) := by
  cases room with
  | zero => rfl
  | succ room =>
      have inner := nests.bracketed_eq rest room
      rw [operand_power room (by simp) (by simp)]
      simp only [Nat.add_le_add_iff_right]
      by_cases enough : levels ≤ room
      · rw [if_pos enough] at inner ⊢
        exact power_base inner head
      · rw [if_neg enough] at inner ⊢
        rw [power, primary, inner]
        rfl

theorem operand_called (nests : Nests levels tokens tree) (name : String)
    (head : rest.head? ≠ some .caret) (room : Nat) :
    Reader.operand room (.name name :: .opening :: (tokens ++ .closing :: rest)) =
      if levels + 1 ≤ room then .ok (.call name tree, rest) else .error (.tooDeep nestingLimit) := by
  cases room with
  | zero => rfl
  | succ room =>
      have marked : markedName name (.opening :: (tokens ++ .closing :: rest)) = (name, _) :=
        markedName_unmarked (.inr (afterInverse?_of_head (by simp)))
      have called := @primary_call (Reader.operand room) _ _ _ _ marked
      rw [nests.bracketed_eq] at called
      rw [operand_power room (by simp) (by simp)]
      simp only [Nat.add_le_add_iff_right]
      by_cases enough : levels ≤ room
      · rw [if_pos enough] at called ⊢
        exact power_base called head
      · rw [if_neg enough] at called ⊢
        rw [power, called]
        rfl

theorem operand_negated (nests : Nests levels tokens tree) (head : rest.head? ≠ some .caret)
    (room : Nat) :
    Reader.operand room (.minus :: .opening :: (tokens ++ .closing :: rest)) =
      if levels + 2 ≤ room then .ok (.neg tree, rest) else .error (.tooDeep nestingLimit) := by
  cases room with
  | zero => rfl
  | succ room =>
      have lower : levels + 2 ≤ room + 1 ↔ levels + 1 ≤ room := by omega
      rw [operand_minus, operand_enclosed nests head]
      simp only [lower]
      split_ifs <;> rfl

theorem operand_raised (nests : Nests levels tokens first) (nests' : Nests levels' others second)
    (head : rest.head? ≠ some .caret) (room : Nat) :
    Reader.operand room
        (.opening :: (tokens ++ .closing :: .caret :: .opening :: (others ++ .closing :: rest))) =
      if max (levels + 1) (levels' + 2) ≤ room then .ok (.binary first .pow second, rest)
      else .error (.tooDeep nestingLimit) := by
  cases room with
  | zero => rw [if_neg (by omega)]; rfl
  | succ room =>
      have base : primary (Reader.operand room) (.opening ::
          (tokens ++ .closing :: .caret :: .opening :: (others ++ .closing :: rest))) = _ :=
        nests.bracketed_eq (.caret :: .opening :: (others ++ .closing :: rest)) room
      have exponent := operand_enclosed nests' head room
      rw [operand_power room (by simp) (by simp)]
      by_cases enough : levels ≤ room
      · rw [if_pos enough] at base
        rw [power_raised base, exponent]
        by_cases enough' : levels' + 1 ≤ room
        · rw [if_pos enough', if_pos (by omega)]
          rfl
        · rw [if_neg enough', if_neg (by omega)]
          rfl
      · rw [if_neg enough] at base
        rw [power, base, if_neg (by omega)]
        rfl

variable {token : Token} {op : BinaryOp}

theorem nests_operand
    (read : ∀ room, Reader.operand room tokens =
      if levels ≤ room then .ok (tree, []) else .error (.tooDeep nestingLimit)) :
    Nests levels tokens tree := by
  have stops (op? : Token → Option BinaryOp) : Stops op? [] := by simp [Stops]
  apply nests_of_expression
  intro room
  have read := read room
  split_ifs at read ⊢ with enough
  · exact chain_one (chain_one read (stops _)) (stops _)
  · exact chain_error (chain_error read)

theorem nests_operands (sign : productOp? token = some op ∨ sumOp? token = some op)
    (read : ∀ room, Reader.operand room tokens =
      if levels ≤ room then .ok (first, token :: rest) else .error (.tooDeep nestingLimit))
    (readOn : ∀ room, Reader.operand room rest =
      if levels' ≤ room then .ok (second, []) else .error (.tooDeep nestingLimit)) :
    Nests (max levels levels') tokens (.binary first op second) := by
  have stops (op? : Token → Option BinaryOp) : Stops op? [] := by simp [Stops]
  apply nests_of_expression
  intro room
  have read := read room
  have readOn := readOn room
  split_ifs at read with enough
  · split_ifs at readOn with enough'
    · rw [if_pos (by omega)]
      rcases sign with product | sum
      · exact chain_one (chain_two_ok read product readOn) (stops _)
      · have lone : Stops productOp? (token :: rest) := (sum_leads rest sum).2
        exact chain_two_ok (chain_one read lone) sum (chain_one readOn (stops _))
    · rw [if_neg (by omega)]
      rcases sign with product | sum
      · exact chain_error (chain_two_error read product readOn)
      · have lone : Stops productOp? (token :: rest) := (sum_leads rest sum).2
        exact chain_two_error (chain_one read lone) sum (chain_error readOn)
  · rw [if_neg (by omega)]
    exact chain_error (chain_error read)

theorem operator_sign (op : BinaryOp) (notPower : op ≠ .pow) :
    productOp? op.token = some op ∨ sumOp? op.token = some op := by
  cases op with
  | add | sub => exact .inr rfl
  | mul | div => exact .inl rfl
  | pow => exact absurd rfl notPower

theorem nests_binary (op : BinaryOp) (nests : Nests levels tokens first)
    (nests' : Nests levels' others second) :
    Nests (op.levels levels levels')
      (.opening :: (tokens ++ .closing :: op.token :: .opening :: (others ++ [.closing])))
      (.binary first op second) := by
  by_cases power : op = .pow
  · subst power
    exact nests_operand fun room => operand_raised nests nests' (by simp) room
  · have plain : op.levels levels levels' = max (levels + 1) (levels' + 1) := by
      cases op <;> simp [BinaryOp.levels] at power ⊢
    have head : (op.token :: .opening :: (others ++ [Token.closing])).head? ≠ some .caret := by
      cases op <;> simp [BinaryOp.token] at power ⊢
    rw [plain]
    exact nests_operands (operator_sign op power) (fun room => operand_enclosed nests head room)
      fun room => operand_enclosed nests' (by simp) room

end Rows

theorem spells_enclosed {tokens : List Token} (spells : Spells text.toList tokens) {rest : List Char}
    {others : List Token} (after : Spells rest others) :
    Spells ((enclosed text).toList ++ rest) (.opening :: (tokens ++ .closing :: others)) := by
  have shape : (enclosed text).toList ++ rest = '(' :: (text.toList ++ ')' :: rest) := by
    simp [enclosed]
  rw [shape]
  exact .sign rfl (spells.append apart_closing (.sign rfl after))

theorem Spells.nil : Spells [] [] := .blank rfl

theorem formed_enclosed (formed : Formed text count levels tree) :
    Formed (enclosed text) (count + 2) (levels + 1) tree := by
  obtain ⟨tokens, spells, rfl, nests⟩ := formed
  have whole := spells_enclosed spells .nil
  rw [List.append_nil] at whole
  exact ⟨_, whole, by simp, nests_operand fun room => operand_enclosed nests (by simp) room⟩

theorem formed_negated (formed : Formed text count levels tree) {sign : Char}
    (minus : Token.ofSign? sign = some .minus) :
    Formed (sign.toString ++ enclosed text) (count + 3) (levels + 2) (.neg tree) := by
  obtain ⟨tokens, spells, rfl, nests⟩ := formed
  have whole := (spells_enclosed spells .nil).sign minus
  rw [List.append_nil] at whole
  refine ⟨_, ?_, ?_, nests_operand fun room => operand_negated nests (by simp) room⟩
  · simpa using whole
  · simp

def lowered (word : String) : String :=
  String.ofList (word.toList.flatMap Text.lower)

theorem formed_called (formed : Formed text count levels tree) {word : String}
    (isWord : IsWord word.toList) :
    Formed (word ++ enclosed text) (count + 3) (levels + 1) (.call (lowered word) tree) := by
  obtain ⟨tokens, spells, rfl, nests⟩ := formed
  have argument := spells_enclosed spells .nil
  rw [List.append_nil] at argument
  have opening : (enclosed text).toList = '(' :: (text.toList ++ [')']) := by
    simp [enclosed]
  rw [opening] at argument
  have whole := argument.word isWord apart_opening
  refine ⟨_, ?_, ?_, nests_operand fun room => operand_called nests (lowered word) (by simp) room⟩
  · rw [String.toList_append, opening]
    exact whole
  · simp

theorem formed_binary (formed : Formed text count levels first)
    (formed' : Formed other count' levels' second) {op : BinaryOp} {sign : Char}
    (operator : Token.ofSign? sign = some op.token) :
    Formed (enclosed text ++ sign.toString ++ enclosed other) (count + count' + 5)
      (op.levels levels levels') (.binary first op second) := by
  obtain ⟨tokens, spells, rfl, nests⟩ := formed
  obtain ⟨others, spells', rfl, nests'⟩ := formed'
  have right := spells_enclosed spells' .nil
  rw [List.append_nil] at right
  have whole := spells_enclosed spells (right.sign operator)
  refine ⟨_, ?_, ?_, nests_binary op nests nests'⟩
  · simpa using whole
  · simp only [List.length_cons, List.length_append, List.length_nil]
    omega

/-- Reading goes part by part. Formulas put in brackets, under a minus, as an argument or on the two
sides of an operator are read as the tree put together in the same way, and compile to the programs of
the parts one after the other and the step that joins them. The counts of tokens and of levels add up, and
beyond the limits the whole is refused for its length or its depth, with no other fault. -/
theorem ofText_composes (read : Expr.ofText text = .ok first) (read' : Expr.ofText other = .ok second) :
    ∃ count levels count' levels',
      Formed text count levels first ∧ Formed other count' levels' second ∧
      (Expr.ofText (enclosed text) = withinLimits (count + 2) (levels + 1) first ∧
        ∀ free program, first.compile free = .ok program →
          Program.ofText free (enclosed text) = withinLimits (count + 2) (levels + 1) program) ∧
      (∀ op sign, Token.ofSign? sign = some (BinaryOp.token op) →
        Expr.ofText (enclosed text ++ sign.toString ++ enclosed other) =
            withinLimits (count + count' + 5) (op.levels levels levels') (.binary first op second) ∧
          ∀ free program program', first.compile free = .ok program →
            second.compile free = .ok program' →
              Program.ofText free (enclosed text ++ sign.toString ++ enclosed other) =
                withinLimits (count + count' + 5) (op.levels levels levels')
                  (program ++ program' ++ [.binary op])) ∧
      (∀ sign, Token.ofSign? sign = some .minus →
        Expr.ofText (sign.toString ++ enclosed text) =
            withinLimits (count + 3) (levels + 2) (.neg first) ∧
          ∀ free program, first.compile free = .ok program →
            Program.ofText free (sign.toString ++ enclosed text) =
              withinLimits (count + 3) (levels + 2) (program ++ [.neg])) ∧
      ∀ word, IsWord word.toList →
        Expr.ofText (word ++ enclosed text) =
            withinLimits (count + 3) (levels + 1) (.call (lowered word) first) ∧
          ∀ free function program, Elementary.ofName? (lowered word) = some function →
            first.compile free = .ok program →
              Program.ofText free (word ++ enclosed text) =
                withinLimits (count + 3) (levels + 1) (program ++ [.call function]) := by
  obtain ⟨count, levels, formed⟩ := formed_of_ofText read
  obtain ⟨count', levels', formed'⟩ := formed_of_ofText read'
  refine ⟨count, levels, count', levels', formed, formed', ?_, ?_, ?_, ?_⟩
  · have composed := (formed_enclosed formed).ofText_eq
    exact ⟨composed, fun free program compiled => programOfText_eq composed compiled⟩
  · intro op sign operator
    have composed := (formed_binary formed formed' operator).ofText_eq
    refine ⟨composed, fun free program program' compiled compiled' => programOfText_eq composed ?_⟩
    rw [Expr.compile, compiled, compiled']
    rfl
  · intro sign minus
    have composed := (formed_negated formed minus).ofText_eq
    refine ⟨composed, fun free program compiled => programOfText_eq composed ?_⟩
    rw [Expr.compile, compiled]
    rfl
  · intro word isWord
    have composed := (formed_called formed isWord).ofText_eq
    refine ⟨composed, fun free function program known compiled => programOfText_eq composed ?_⟩
    rw [Expr.compile, known, compiled]
    rfl

theorem ofText_composes_square :
    Expr.ofText "x" = .ok (.name "x") ∧ Expr.ofText "2" = .ok (.number 2) ∧
      ∃ count levels count' levels',
        Formed "x" count levels (.name "x") ∧ Formed "2" count' levels' (.number 2) ∧
          Expr.ofText "(x)^(2)" =
            withinLimits (count + count' + 5) (max (levels + 1) (levels' + 2))
              (.binary (.name "x") .pow (.number 2)) ∧
          Program.ofText "x" "(x)^(2)" =
            withinLimits (count + count' + 5) (max (levels + 1) (levels' + 2))
              [.load, .const 2, .binary .pow] := by
  have read : Expr.ofText "x" = .ok (.name "x") := rfl
  have read' : Expr.ofText "2" = .ok (.number 2) := rfl
  obtain ⟨count, levels, count', levels', formed, formed', -, operators, -⟩ :=
    ofText_composes read read'
  obtain ⟨composed, compiles⟩ := operators .pow '^' rfl
  have text : enclosed "x" ++ '^'.toString ++ enclosed "2" = "(x)^(2)" := by decide +kernel
  rw [text] at composed compiles
  exact ⟨read, read', count, levels, count', levels', formed, formed', composed,
    compiles "x" [.load] [.const 2] rfl rfl⟩

example : (Program.ofText "x" "SIN(x)\u00d7(2)").toOption =
    some [.load, .call .sin, .const 2, .binary .mul] := by
  decide +kernel

end Grapher
