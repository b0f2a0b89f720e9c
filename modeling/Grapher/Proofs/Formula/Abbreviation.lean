import Grapher.Proofs.Formula.Parallel
import Grapher.Proofs.Formula.Scanning

namespace Grapher

open Reader Token

/-- The second row spells out names of inverses that are marked in the first. -/
inductive SpellsOut : List Token → List Token → Prop where
  | nil : SpellsOut [] []
  | token (token : Token) {first second} (more : SpellsOut first second) :
      SpellsOut (token :: first) (token :: second)
  | inverse {text inverse mark first second} (known : Elementary.inverseName? text = some inverse)
      (marked : InverseMark mark) (more : SpellsOut first second) :
      SpellsOut (.name text :: (mark ++ first)) (.name inverse :: second)

theorem SpellsOut.refl (tokens : List Token) : SpellsOut tokens tokens := by
  induction tokens with
  | nil => exact .nil
  | cons token tokens ih => exact .token token ih

theorem SpellsOut.append (front : List Token) {first second : List Token} (more : SpellsOut first second) :
    SpellsOut (front ++ first) (front ++ second) := by
  induction front with
  | nil => exact more
  | cons token front ih => exact .token token ih

theorem SpellsOut.nil_iff {first second : List Token} (spells : SpellsOut first second) :
    first = [] ↔ second = [] := by
  cases spells <;> simp

theorem SpellsOut.length_le {first second : List Token} (spells : SpellsOut first second) :
    second.length ≤ first.length := by
  induction spells with
  | nil => exact Nat.le_refl _
  | token token more ih => exact Nat.succ_le_succ ih
  | inverse known marked more ih =>
      rw [List.length_cons, List.length_cons, List.length_append]
      omega

theorem InverseMark.no_name {mark : List Token} (marked : InverseMark mark) :
    ∀ token ∈ mark, ∀ text, token ≠ .name text := by
  cases marked <;> simp

theorem SpellsOut.cons_left {token : Token} {rest second : List Token}
    (spells : SpellsOut (token :: rest) second) (noName : ∀ text, token ≠ .name text) :
    ∃ rest', second = token :: rest' ∧ SpellsOut rest rest' := by
  cases spells with
  | token _ more => exact ⟨_, rfl, more⟩
  | inverse known marked more => exact absurd rfl (noName _)

theorem SpellsOut.cons_right {token : Token} {first rest : List Token}
    (spells : SpellsOut first (token :: rest)) (noName : ∀ text, token ≠ .name text) :
    ∃ rest', first = token :: rest' ∧ SpellsOut rest' rest := by
  cases spells with
  | token _ more => exact ⟨_, rfl, more⟩
  | inverse known marked more => exact absurd rfl (noName _)

section Mark

variable {mark rest first second : List Token} (noName : ∀ token ∈ mark, ∀ text, token ≠ .name text)
include noName

theorem SpellsOut.append_left (spells : SpellsOut (mark ++ rest) second) :
    ∃ rest', second = mark ++ rest' ∧ SpellsOut rest rest' := by
  induction mark generalizing second with
  | nil => exact ⟨second, rfl, spells⟩
  | cons token mark ih =>
      obtain ⟨noToken, noMark⟩ := List.forall_mem_cons.mp noName
      obtain ⟨tail, rfl, more⟩ := spells.cons_left noToken
      obtain ⟨rest', rfl, more'⟩ := ih noMark more
      exact ⟨rest', rfl, more'⟩

theorem SpellsOut.append_right (spells : SpellsOut first (mark ++ rest)) :
    ∃ rest', first = mark ++ rest' ∧ SpellsOut rest' rest := by
  induction mark generalizing first with
  | nil => exact ⟨first, rfl, spells⟩
  | cons token mark ih =>
      obtain ⟨noToken, noMark⟩ := List.forall_mem_cons.mp noName
      obtain ⟨tail, rfl, more⟩ := spells.cons_right noToken
      obtain ⟨rest', rfl, more'⟩ := ih noMark more
      exact ⟨rest', rfl, more'⟩

end Mark

theorem SpellsOut.markedName_eq {first second : List Token} (spells : SpellsOut first second) (text : String) :
    ∃ name rest rest', markedName text first = (name, rest) ∧ markedName text second = (name, rest') ∧
      SpellsOut rest rest' := by
  cases known : Elementary.inverseName? text with
  | none =>
      exact ⟨text, first, second, markedName_unmarked (.inl known), markedName_unmarked (.inl known), spells⟩
  | some inverse =>
      cases found : afterInverse? first with
      | some rest =>
          obtain ⟨mark, marked, rfl⟩ := afterInverse?_eq_some.mp found
          obtain ⟨rest', rfl, more⟩ := spells.append_left marked.no_name
          exact ⟨inverse, rest, rest', markedName_inverse known marked, markedName_inverse known marked, more⟩
      | none =>
          have unmarked : afterInverse? second = none := by
            rw [afterInverse?_eq_none]
            rintro mark marked ⟨rest, rfl⟩
            obtain ⟨rest', rfl, -⟩ := spells.append_right marked.no_name
            exact afterInverse?_eq_none.mp found mark marked (List.prefix_append _ _)
          exact ⟨text, first, second, markedName_unmarked (.inr found), markedName_unmarked (.inr unmarked),
            spells⟩

theorem inverseName?_inverse {text inverse : String} (known : Elementary.inverseName? text = some inverse) :
    Elementary.inverseName? inverse = none := by
  unfold Elementary.inverseName? at known
  split at known <;> cases known <;> rfl

theorem spellsOut_bisimulation : Bisimulation SpellsOut := by
  intro first second spells
  cases spells with
  | nil => exact .nil
  | @token token first second more =>
      cases token with
      | name text =>
          obtain ⟨name, rest, rest', read, read', more⟩ := more.markedName_eq text
          exact .name read read' more
      | number | plus | minus | asterisk | slash | caret | opening | closing => exact .token (by simp) more
  | inverse known marked more =>
      exact .name (markedName_inverse known marked)
        (markedName_unmarked (.inl (inverseName?_inverse known))) more

theorem SpellsOut.whole_ok_iff {first second : List Token} (spells : SpellsOut first second) (levels : Nat)
    (tree : Expr) : whole levels first = .ok tree ↔ whole levels second = .ok tree := by
  have reads : ReadsAlike SpellsOut (fun _ _ => True) (expression (Reader.operand levels)) :=
    formula_alike spellsOut_bisimulation (fun _ _ _ => trivial) trivial levels
  have results := reads first second spells
  rw [whole_ok, whole_ok]
  generalize expression (Reader.operand levels) first = read at results ⊢
  generalize expression (Reader.operand levels) second = read' at results ⊢
  cases results with
  | ok tree more => simp [more.nil_iff]
  | error same => simp

/-- After `sin`, `cos` or `tan` a mark says the same as the name of the inverse in their place, whatever stands
around them. Where anything else follows the caret, it is no mark, and the caret raises to a power. -/
theorem inverse_mark_abbreviates {text inverse : String} {mark : List Token}
    (pair : (text, inverse) ∈ [("sin", "asin"), ("cos", "acos"), ("tan", "atan")])
    (marked : InverseMark mark) (front back : List Token) :
    let short := front ++ (.name text :: mark) ++ back
    let long := front ++ [.name inverse] ++ back
    (∀ tree, Expr.ofTokens short = .ok tree ↔ Expr.ofTokens long = .ok tree) ∧
    (∀ source source' : String, Spells source.toList short → Spells source'.toList long →
      short.length ≤ Token.limit → ∀ tree, Expr.ofText source = .ok tree ↔ Expr.ofText source' = .ok tree) ∧
    ∀ rest, (∀ mark, InverseMark mark → ¬ mark <+: .caret :: rest) →
      markedName text (.caret :: rest) = (text, .caret :: rest) ∧
      ∀ operand : Reader, power operand (.name text :: .caret :: rest) =
        operand rest >>= fun read => .ok (.binary (.name text) .pow read.1, read.2) := by
  intro short long
  have known : Elementary.inverseName? text = some inverse := by
    simp only [List.mem_cons, Prod.mk.injEq, List.not_mem_nil, or_false] at pair
    rcases pair with ⟨rfl, rfl⟩ | ⟨rfl, rfl⟩ | ⟨rfl, rfl⟩ <;> rfl
  have spells : SpellsOut short long := by
    simp only [short, long, List.append_assoc, List.cons_append, List.nil_append]
    exact .append front (.inverse known marked (.refl back))
  have tokens tree : Expr.ofTokens short = .ok tree ↔ Expr.ofTokens long = .ok tree :=
    spells.whole_ok_iff nestingLimit tree
  refine ⟨tokens, ?_, ?_⟩
  · intro source source' read read' fits tree
    have fits' : long.length ≤ Token.limit := Nat.le_trans spells.length_le fits
    rw [ofText_of_spells read, ofText_of_spells read', if_pos fits, if_pos fits']
    exact tokens tree
  · intro rest unmarked
    have plain : markedName text (.caret :: rest) = (text, .caret :: rest) :=
      markedName_unmarked (.inr (afterInverse?_eq_none.mpr unmarked))
    exact ⟨plain, fun operand => power_raised (primary_name plain (by simp))⟩

theorem inverse_mark_abbreviates_exponent :
    let mark : List Token := [.caret, .opening, .minus, .number 1, .closing]
    let front : List Token := [.name "x", .caret]
    let back : List Token := [.opening, .name "x", .closing, .caret, .minus, .number 1]
    let tree : Expr := .binary (.name "x") .pow
      (.binary (.call "asin" (.name "x")) .pow (.neg (.number 1)))
    ("sin", "asin") ∈ [("sin", "asin"), ("cos", "acos"), ("tan", "atan")] ∧ InverseMark mark ∧
      Expr.ofTokens (front ++ (.name "sin" :: mark) ++ back) = .ok tree ∧
      Expr.ofText "x^Sin^(-1)(x)^-1" = .ok tree ∧
      markedName "sin" [.caret, .opening, .minus, .number 1] =
        ("sin", [.caret, .opening, .minus, .number 1]) := by
  intro mark front back tree
  have pair : ("sin", "asin") ∈ [("sin", "asin"), ("cos", "acos"), ("tan", "atan")] := by decide
  have marked : InverseMark mark := .bracketed 1 rfl
  obtain ⟨tokens, texts, unmarked⟩ := inverse_mark_abbreviates pair marked front back
  have short : scan 14 "x^Sin^(-1)(x)^-1".toList = .ok (front ++ (.name "sin" :: mark) ++ back) := by
    decide +kernel
  have long : scan 9 "x^asin(x)^-1".toList = .ok (front ++ [.name "asin"] ++ back) := by decide +kernel
  have spelled : Expr.ofText "x^asin(x)^-1" = .ok tree := by
    rw [ofText_of_spells (spells_of_scan long)]
    rfl
  have read := texts _ _ (spells_of_scan short) (spells_of_scan long) (by decide) tree
  have noMark := afterInverse?_eq_none.mp (rfl : afterInverse? [.caret, .opening, .minus, .number 1] = none)
  exact ⟨pair, marked, (tokens tree).mpr rfl, read.mpr spelled, (unmarked _ noMark).1⟩

end Grapher
