import Grapher.Formula.Counter
import Grapher.Proofs.Formula.Soundness
import Mathlib.Order.MinMax

/-!
The limit on open operands refuses what opens too many at once and changes nothing else. Reading with the
limit and reading without it stay in step up to the first operand that has no room.
-/

namespace Grapher

open Reader

namespace Counter

/-- The counter after so many more operands have been open at once and are closed again. -/
def reaching (counter : Counter) (more : Nat) : Counter :=
  ⟨counter.depth, max counter.deepest (counter.depth + more),
    Nat.le_trans counter.depth_le (Nat.le_max_left _ _)⟩

def room (counter : Counter) : Nat := nestingLimit - counter.depth

variable (counter : Counter)

theorem reaching_zero : counter.reaching 0 = counter :=
  Counter.ext rfl (Nat.max_eq_left counter.depth_le)

theorem reaching_reaching (more further : Nat) :
    (counter.reaching more).reaching further = counter.reaching (max more further) := by
  apply Counter.ext
  · rfl
  · simp only [reaching]
    omega

theorem closed_reaching_opened (more : Nat) :
    (counter.opened.reaching more).closed = counter.reaching (more + 1) := by
  apply Counter.ext
  · rfl
  · simp only [opened, reaching, closed]
    omega

theorem room_opened (some : counter.room ≠ 0) : counter.opened.room + 1 = counter.room := by
  simp only [room, opened] at some ⊢
  omega

end Counter

variable {β γ : Type} {limited : Bool} {input rest : List Token} {counter after : Counter}

section Bind

variable {walk : Counting β} {next : β → Counting γ}

theorem get_bind_apply (next : List Token → Counting γ) (input : List Token) :
    (get >>= next : Counting γ) input = next input input := rfl

theorem bind_ok_apply {value : β} (read : walk input counter = (.ok (value, rest), after)) :
    (walk >>= next) input counter = next value rest after := by
  change ExceptT.bindCont (fun read => next read.1 read.2) (walk input counter).1
    (walk input counter).2 = _
  rw [read]
  rfl

theorem bind_error_apply {fault : Fault} (read : walk input counter = (.error fault, after)) :
    (walk >>= next) input counter = (.error fault, after) := by
  change ExceptT.bindCont (fun read => next read.1 read.2) (walk input counter).1
    (walk input counter).2 = _
  rw [read]
  rfl

end Bind

/-- Reading with a counter against readers of every number of levels. So many levels are needed: with
fewer reading is too deep, and with at least as many it comes to the result. -/
structure Keeps (limited : Bool) (walk : Counting β) (reader : Nat → Except Fault (β × List Token))
    (input : List Token) (need : Nat) (result : Except Fault (β × List Token)) : Prop where
  definite : result ≠ .error (.tooDeep nestingLimit)
  shorter : ∀ value rest, result = .ok (value, rest) → rest.length ≤ input.length
  reads : ∀ levels, reader levels = if need ≤ levels then result else .error (.tooDeep nestingLimit)
  counts : ∀ counter, walk input counter =
    if limited ∧ counter.room < need then
      (.error (.tooDeep nestingLimit), counter.reaching counter.room)
    else (result, counter.reaching need)

section Bind

variable {walk : Counting β} {next : β → Counting γ} {reader : Nat → Except Fault (β × List Token)}
  {goOn : Nat → β × List Token → Except Fault (γ × List Token)} {need : Nat}

theorem Keeps.bind_error {fault : Fault} (first : Keeps limited walk reader input need (.error fault)) :
    Keeps limited (walk >>= next) (fun levels => reader levels >>= goOn levels) input need
      (.error fault) := by
  refine ⟨?_, nofun, ?_, ?_⟩
  · intro deep
    cases deep
    exact first.definite rfl
  · intro levels
    rw [first.reads]
    split_ifs <;> rfl
  · intro counter
    have read := first.counts counter
    split_ifs at read ⊢
    · exact bind_error_apply read
    · exact bind_error_apply read

theorem Keeps.bind_ok {value : β} {need' : Nat} {result : Except Fault (γ × List Token)}
    (first : Keeps limited walk reader input need (.ok (value, rest)))
    (second : Keeps limited (next value) (fun levels => goOn levels (value, rest)) rest need' result) :
    Keeps limited (walk >>= next) (fun levels => reader levels >>= goOn levels) input (max need need')
      result := by
  refine ⟨second.definite, ?_, ?_, ?_⟩
  · intro other beyond read
    exact Nat.le_trans (second.shorter other beyond read) (first.shorter value rest rfl)
  · intro levels
    rw [first.reads]
    by_cases enough : need ≤ levels
    · rw [if_pos enough]
      change goOn levels (value, rest) = _
      simp only [second.reads, Nat.max_le, enough, true_and]
    · rw [if_neg enough, if_neg fun both => enough (Nat.max_le.mp both).1]
      rfl
  · intro counter
    have read := first.counts counter
    by_cases deep : limited ∧ counter.room < need
    · rw [if_pos deep] at read
      rw [bind_error_apply read, if_pos ⟨deep.1, lt_max_of_lt_left deep.2⟩]
    · rw [if_neg deep] at read
      have room : (counter.reaching need).room = counter.room := rfl
      rw [bind_ok_apply read, second.counts, room, Counter.reaching_reaching, Counter.reaching_reaching]
      by_cases deep' : limited ∧ counter.room < need'
      · have enough : max need counter.room = counter.room :=
          Nat.max_eq_right (Nat.le_of_not_lt fun short => deep ⟨deep'.1, short⟩)
        rw [if_pos deep', if_pos ⟨deep'.1, lt_max_of_lt_right deep'.2⟩, enough]
      · rw [if_neg deep', if_neg]
        rintro ⟨on, short⟩
        rcases lt_max_iff.mp short with short | short
        · exact deep ⟨on, short⟩
        · exact deep' ⟨on, short⟩

end Bind

def InStep (limited : Bool) (walk : Counting β) (reader : Nat → Except Fault (β × List Token))
    (input : List Token) : Prop :=
  ∃ need result, Keeps limited walk reader input need result

namespace InStep

variable {walk : Counting β} {reader : Nat → Except Fault (β × List Token)}

theorem constant {result : Except Fault (β × List Token)}
    (definite : result ≠ .error (.tooDeep nestingLimit))
    (shorter : ∀ value rest, result = .ok (value, rest) → rest.length ≤ input.length)
    (same : ∀ counter, walk input counter = (result, counter)) :
    InStep limited walk (fun _ => result) input := by
  refine ⟨0, result, definite, shorter, fun levels => (if_pos (Nat.zero_le _)).symm, ?_⟩
  intro counter
  rw [same, Counter.reaching_zero, if_neg fun deep => Nat.not_lt_zero _ deep.2]

theorem ok {value : β} (shorter : rest.length ≤ input.length)
    (same : ∀ counter, walk input counter = (.ok (value, rest), counter)) :
    InStep limited walk (fun _ => .ok (value, rest)) input := by
  refine constant (by simp) ?_ same
  rintro _ _ ⟨⟩
  exact shorter

theorem unexpected {expected : Expected} {found : Option Token}
    (same : ∀ counter, walk input counter = (.error (.unexpected expected found), counter)) :
    InStep limited walk (fun _ => .error (.unexpected expected found)) input :=
  constant (by simp) nofun same

theorem skip {walk' : Counting β} (inStep : InStep limited walk' reader rest)
    (shorter : rest.length ≤ input.length) (same : walk input = walk' rest) :
    InStep limited walk reader input := by
  obtain ⟨need, result, keeps⟩ := inStep
  refine ⟨need, result, keeps.definite, ?_, keeps.reads, ?_⟩
  · intro value rest read
    exact Nat.le_trans (keeps.shorter value rest read) shorter
  · intro counter
    rw [same, keeps.counts]

theorem bind {next : β → Counting γ} {goOn : Nat → β × List Token → Except Fault (γ × List Token)}
    (first : InStep limited walk reader input)
    (goes : ∀ value rest, rest.length ≤ input.length →
      InStep limited (next value) (fun levels => goOn levels (value, rest)) rest) :
    InStep limited (walk >>= next) (fun levels => reader levels >>= goOn levels) input := by
  obtain ⟨need, result, first⟩ := first
  cases result with
  | error fault => exact ⟨need, _, first.bind_error⟩
  | ok read =>
      obtain ⟨need', result', second⟩ := goes read.1 read.2 (first.shorter _ _ rfl)
      exact ⟨max need need', result', first.bind_ok second⟩

theorem map (first : InStep limited walk reader input) (change : β → γ) :
    InStep limited (walk >>= fun value => return change value)
      (fun levels => reader levels >>= fun read => .ok (change read.1, read.2)) input :=
  first.bind fun _ _ _ => ok (Nat.le_refl _) fun _ => rfl

theorem depth_eq (inStep : InStep limited walk reader input) (counter : Counter) :
    (walk input counter).2.depth = counter.depth := by
  obtain ⟨need, result, keeps⟩ := inStep
  rw [keeps.counts]
  split_ifs <;> rfl

theorem unique {other : Counting β} (inStep : InStep limited walk reader input)
    (inStep' : InStep limited other reader input) : walk input = other input := by
  obtain ⟨need, result, keeps⟩ := inStep
  obtain ⟨need', result', keeps'⟩ := inStep'
  have agree levels := (keeps.reads levels).symm.trans (keeps'.reads levels)
  have le : need' ≤ need := by
    by_contra more
    have := agree need
    rw [if_pos (Nat.le_refl _), if_neg more] at this
    exact keeps.definite this
  have ge : need ≤ need' := by
    by_contra more
    have := agree need'
    rw [if_pos (Nat.le_refl _), if_neg more] at this
    exact keeps'.definite this.symm
  obtain rfl := Nat.le_antisymm le ge
  obtain rfl : result = result' := by simpa using agree need'
  funext counter
  rw [keeps.counts, keeps'.counts]

end InStep

theorem entered_inStep {walk : Counting Expr} {reader : Nat → Except Fault (Expr × List Token)}
    (body : InStep limited walk (fun levels => reader (levels + 1)) input)
    (none : reader 0 = .error (.tooDeep nestingLimit)) :
    InStep limited (Counting.entered limited walk) reader input := by
  obtain ⟨need, result, keeps⟩ := body
  -- An operand takes a level of its own, which has to be there before it is opened.
  refine ⟨need + 1, result, keeps.definite, keeps.shorter, ?_, ?_⟩
  · intro levels
    cases levels with
    | zero => exact none
    | succ levels =>
        rw [keeps.reads]
        simp only [Nat.succ_le_succ_iff]
  · intro counter
    unfold Counting.entered
    rw [keeps.counts counter.opened]
    cases limited with
    | false => simp [Counter.closed_reaching_opened]
    | true =>
        by_cases full : counter.room = 0
        · have full' : nestingLimit ≤ counter.depth := Nat.sub_eq_zero_iff_le.mp full
          simp [full, full', Counter.reaching_zero]
        · have free : ¬ nestingLimit ≤ counter.depth := fun le => full (Nat.sub_eq_zero_of_le le)
          have same := counter.room_opened full
          simp only [free, decide_false, Bool.and_false, Bool.false_eq_true, if_false, true_and,
            ← same, Nat.succ_lt_succ_iff]
          split_ifs <;> simp only [Counter.closed_reaching_opened]

section Readers

variable {operand : Counting Expr} {reader : Nat → Reader} {bound : Nat}

/-- On every input below the bound, operands are read in step. -/
def InStepBelow (limited : Bool) (operand : Counting Expr) (reader : Nat → Reader) (bound : Nat) : Prop :=
  ∀ input, input.length < bound → InStep limited operand (reader · input) input

theorem counting_goOn_none {op? : Token → Option BinaryOp} {token : Token} (none : op? token = none)
    (rounds : Nat) (left : Expr) :
    Counting.goOn op? operand (rounds + 1) left (token :: rest) = fun counter =>
      (.ok (left, token :: rest), counter) := by
  rw [Counting.goOn, get_bind_apply]
  simp only [none]
  rfl

theorem counting_goOn_some {op? : Token → Option BinaryOp} {token : Token} {op : BinaryOp}
    (sign : op? token = some op) (rounds : Nat) (left : Expr) :
    Counting.goOn op? operand (rounds + 1) left (token :: rest) =
      (operand >>= fun right => Counting.goOn op? operand rounds (.binary left op right)) rest := by
  rw [Counting.goOn, get_bind_apply]
  simp only [sign]
  rfl

theorem goOn_inStep {op? : Token → Option BinaryOp} (inStep : InStepBelow limited operand reader bound)
    (rounds : Nat) (left : Expr) :
    InStepBelow limited (Counting.goOn op? operand rounds left)
      (fun levels => goOn op? (reader levels) rounds left) bound := by
  intro input short
  induction rounds generalizing left input with
  | zero => exact .ok (Nat.le_refl _) fun counter => rfl
  | succ rounds ih =>
      cases input with
      | nil => exact .ok (Nat.le_refl _) fun counter => rfl
      | cons token rest =>
          have shorter : rest.length < bound := Nat.lt_of_succ_lt short
          cases sign : op? token with
          | none =>
              simp only [goOn_none sign]
              exact .ok (Nat.le_refl _) fun counter => by rw [counting_goOn_none sign]
          | some op =>
              simp only [goOn_some sign]
              refine .skip ?_ (Nat.le_succ _) (counting_goOn_some sign rounds left)
              exact (inStep rest shorter).bind fun right beyond le =>
                ih (.binary left op right) beyond (Nat.lt_of_le_of_lt le shorter)

theorem chain_inStep {op? : Token → Option BinaryOp} (inStep : InStepBelow limited operand reader bound) :
    InStepBelow limited (Counting.chain op? operand) (fun levels => chain op? (reader levels)) bound := by
  intro input short
  refine (inStep input short).bind fun left rest le => ?_
  exact (goOn_inStep inStep rest.length left rest (Nat.lt_of_le_of_lt le short)).skip (Nat.le_refl _) rfl

theorem expression_inStep (inStep : InStepBelow limited operand reader bound) :
    InStepBelow limited (Counting.expression operand) (fun levels => expression (reader levels)) bound :=
  chain_inStep (chain_inStep inStep)

theorem closing_inStep (inner : Expr) (input : List Token) :
    InStep limited (Counting.closing >>= fun _ => return inner)
      (fun _ => closing input >>= fun rest => .ok (inner, rest)) input := by
  cases input with
  | nil => exact .unexpected fun counter => rfl
  | cons token rest =>
      cases token with
      | closing => exact .ok (Nat.le_succ _) fun counter => rfl
      | number | name | plus | minus | asterisk | slash | caret | opening =>
          exact .unexpected fun counter => rfl

theorem bracketed_inStep (inStep : InStepBelow limited operand reader bound) :
    InStepBelow limited (Counting.bracketed operand) (fun levels => bracketed (reader levels)) bound := by
  intro input short
  exact (expression_inStep inStep input short).bind fun inner rest _ => closing_inStep inner rest

theorem counting_primary_call {text name : String} {after : List Token}
    (marked : markedName text rest = (name, .opening :: after)) :
    Counting.primary operand (.name text :: rest) =
      (Counting.bracketed operand >>= fun argument => return Expr.call name argument) after := by
  rw [Counting.primary, get_bind_apply]
  simp only [marked]
  rfl

theorem counting_primary_name {text name : String} {after : List Token}
    (marked : markedName text rest = (name, after)) (head : after.head? ≠ some .opening) :
    Counting.primary operand (.name text :: rest) = fun counter => (.ok (.name name, after), counter) := by
  rw [Counting.primary, get_bind_apply]
  simp only [marked]
  cases after with
  | nil => rfl
  | cons token after =>
      cases token with
      | opening => exact absurd rfl head
      | _ => rfl

theorem primary_inStep (inStep : InStepBelow limited operand reader bound)
    (fits : input.length ≤ bound) :
    InStep limited (Counting.primary operand) (fun levels => primary (reader levels) input) input := by
  cases input with
  | nil => exact .unexpected fun counter => rfl
  | cons token rest =>
      cases token with
      | number value => exact .ok (Nat.le_succ _) fun counter => rfl
      | name text =>
          cases marked : markedName text rest with
          | mk name after =>
              have shorter : after.length ≤ rest.length := by
                obtain ⟨mark, rfl, -, -⟩ := markedName_sound marked
                simp
              by_cases head : after.head? = some .opening
              · obtain ⟨after, rfl⟩ := List.head?_eq_some_iff.mp head
                have within : after.length < bound :=
                  Nat.lt_of_lt_of_le shorter (Nat.le_of_succ_le fits)
                simp only [primary_call marked]
                refine .skip ?_ ?_ (counting_primary_call marked)
                · exact (bracketed_inStep inStep after within).map (Expr.call name)
                · exact Nat.le_of_lt (Nat.lt_succ_of_lt shorter)
              · simp only [primary_name marked head]
                exact .ok (Nat.le_succ_of_le shorter) fun counter => by
                  rw [counting_primary_name marked head]
      | opening => exact .skip (bracketed_inStep inStep rest fits) (Nat.le_succ _) rfl
      | plus | minus | asterisk | slash | caret | closing => exact .unexpected fun counter => rfl

theorem power_inStep (inStep : InStepBelow limited operand reader bound)
    (fits : input.length ≤ bound) :
    InStep limited (Counting.power operand) (fun levels => power (reader levels) input) input := by
  refine (primary_inStep inStep fits).bind fun base rest le => ?_
  have fits : rest.length ≤ bound := Nat.le_trans le fits
  cases rest with
  | nil => exact .ok (Nat.le_refl _) fun counter => rfl
  | cons token rest =>
      cases token with
      | caret =>
          exact ((inStep rest fits).map (Expr.binary base .pow)).skip (Nat.le_succ _) rfl
      | number | name | plus | minus | asterisk | slash | opening | closing =>
          exact .ok (Nat.le_refl _) fun counter => rfl

theorem signed_inStep (inStep : InStepBelow limited operand Reader.operand bound)
    (fits : input.length ≤ bound) :
    InStep limited (Counting.signed operand) (fun levels => Reader.operand (levels + 1) input) input := by
  by_cases minus : input.head? = some .minus
  · obtain ⟨rest, rfl⟩ := List.head?_eq_some_iff.mp minus
    simp only [operand_minus]
    exact ((inStep rest fits).map Expr.neg).skip (Nat.le_succ _) rfl
  by_cases plus : input.head? = some .plus
  · obtain ⟨rest, rfl⟩ := List.head?_eq_some_iff.mp plus
    simp only [operand_plus]
    exact (inStep rest fits).skip (Nat.le_succ _) rfl
  · simp only [operand_power _ minus plus]
    refine (power_inStep inStep fits).skip (Nat.le_refl _) ?_
    cases input with
    | nil => rfl
    | cons token rest =>
        cases token with
        | minus => exact absurd rfl minus
        | plus => exact absurd rfl plus
        | _ => rfl

end Readers

theorem operandOf_inStep (tokens : Nat) (fits : input.length ≤ tokens) :
    InStep limited (Counting.operandOf limited tokens) (Reader.operand · input) input := by
  -- What an operand holds has fewer tokens than the operand.
  induction tokens generalizing input with
  | zero =>
      obtain rfl := List.eq_nil_of_length_eq_zero (Nat.le_zero.mp fits)
      have nothing : InStep limited (throw (.unexpected .operand none))
          (fun levels => Reader.operand (levels + 1) []) [] := .unexpected fun counter => rfl
      exact entered_inStep nothing rfl
  | succ tokens ih =>
      exact entered_inStep (signed_inStep (fun input short => ih (Nat.le_of_lt_succ short)) fits) rfl

theorem operand_inStep (limited : Bool) (input : List Token) :
    InStep limited (Counting.operand limited) (Reader.operand · input) input :=
  (operandOf_inStep input.length (Nat.le_refl _)).skip (Nat.le_refl _) rfl

theorem operand_eq_entered (limited : Bool) :
    Counting.operand limited = Counting.entered limited (Counting.signed (Counting.operand limited)) := by
  funext input
  have inner : InStepBelow limited (Counting.operand limited) Reader.operand input.length :=
    fun input _ => operand_inStep limited input
  exact (operand_inStep limited input).unique (entered_inStep (signed_inStep inner (Nat.le_refl _)) rfl)

def atEnd (result : Except Fault Expr) : Except Fault (Expr × List Token) :=
  result.map (·, [])

theorem map_fst_atEnd (result : Except Fault Expr) : (atEnd result).map Prod.fst = result := by
  cases result <;> rfl

def finished (read : Expr × List Token) : Except Fault (Expr × List Token) :=
  match read.2 with
  | [] => .ok (read.1, [])
  | token :: _ => .error (.unexpected .endOfInput (some token))

theorem atEnd_whole (levels : Nat) {input : List Token} (filled : input ≠ []) :
    atEnd (whole levels input) = expression (Reader.operand levels) input >>= finished := by
  cases input with
  | nil => exact absurd rfl filled
  | cons token input =>
      rw [whole]
      · cases expression (Reader.operand levels) (token :: input) with
        | error fault => rfl
        | ok read =>
            obtain ⟨tree, rest⟩ := read
            cases rest <;> rfl
      · exact List.cons_ne_nil token input

theorem finish_inStep (tree : Expr) (rest : List Token) :
    InStep limited (Counting.finish tree) (fun _ => finished (tree, rest)) rest := by
  cases rest with
  | nil => exact .ok (Nat.le_refl _) fun counter => rfl
  | cons token rest => exact .unexpected fun counter => rfl

theorem whole_inStep (limited : Bool) (input : List Token) :
    InStep limited (Counting.whole limited) (fun levels => atEnd (whole levels input)) input := by
  cases input with
  | nil => exact .constant (by simp) nofun fun counter => rfl
  | cons token input =>
      have inner : InStepBelow limited (Counting.operand limited) Reader.operand (input.length + 2) :=
        fun input _ => operand_inStep limited input
      have sum := expression_inStep inner (token :: input) (Nat.lt_succ_self _)
      simp only [atEnd_whole _ (List.cons_ne_nil token input)]
      exact (sum.bind fun tree rest _ => finish_inStep tree rest).skip (Nat.le_refl _) rfl

section Whole

variable {tokens : List Token} {need : Nat} {result : Except Fault (Expr × List Token)}
  (keeps : Keeps limited (Counting.whole limited) (fun levels => atEnd (whole levels tokens)) tokens need result)
include keeps

theorem ofTokens_of_keeps :
    Expr.ofTokens tokens =
      if need ≤ nestingLimit then result.map Prod.fst else .error (.tooDeep nestingLimit) := by
  have read := congrArg (Except.map Prod.fst) (keeps.reads nestingLimit)
  rw [map_fst_atEnd] at read
  rw [Expr.ofTokens, read]
  split_ifs <;> rfl

theorem counting_of_keeps :
    Counting.ofTokens limited tokens =
      if limited ∧ nestingLimit < need then
        (.error (.tooDeep nestingLimit), Counter.start.reaching nestingLimit)
      else (result.map Prod.fst, Counter.start.reaching need) := by
  rw [Counting.ofTokens, keeps.counts]
  have room : Counter.start.room = nestingLimit := rfl
  rw [room]
  split_ifs <;> rfl

end Whole

/-- A reader without the limit opens any number of operands. Where it never has more of them open at once than
the limit allows, reading comes to the same tree or the same fault, and otherwise the formula is too deep. With or
without the limit, an operand is closed again whether it was read or not. -/
theorem ofTokens_within_limit (tokens : List Token) :
    let free := Counting.ofTokens false tokens
    (free.1 ≠ .error (.tooDeep nestingLimit) ∧
      Expr.ofTokens tokens =
        if free.2.deepest ≤ nestingLimit then free.1 else .error (.tooDeep nestingLimit)) ∧
    (Counting.ofTokens true tokens).1 = Expr.ofTokens tokens ∧
    (∀ limited, Counting.operand limited =
      Counting.entered limited (Counting.signed (Counting.operand limited))) ∧
    ∀ limited input counter, (Counting.operand limited input counter).2.depth = counter.depth := by
  intro free
  obtain ⟨need, result, keeps⟩ := whole_inStep false tokens
  have free_eq : free = (result.map Prod.fst, Counter.start.reaching need) :=
    (counting_of_keeps keeps).trans (if_neg (by simp))
  have deepest : free.2.deepest = need := by
    rw [free_eq]
    exact (Nat.zero_max _).trans (Nat.zero_add _)
  refine ⟨⟨?_, ?_⟩, ?_, operand_eq_entered, fun limited input => (operand_inStep limited input).depth_eq⟩
  · rw [free_eq]
    cases result with
    | ok read => nofun
    | error fault =>
        intro deep
        cases deep
        exact keeps.definite rfl
  · rw [deepest, ofTokens_of_keeps keeps, free_eq]
  · obtain ⟨need', result', keeps'⟩ := whole_inStep true tokens
    rw [counting_of_keeps keeps', ofTokens_of_keeps keeps']
    by_cases enough : need' ≤ nestingLimit
    · rw [if_pos enough, if_neg fun deep => Nat.not_lt_of_le enough deep.2]
    · rw [if_neg enough, if_pos ⟨rfl, Nat.lt_of_not_le enough⟩]

end Grapher
