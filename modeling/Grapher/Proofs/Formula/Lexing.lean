import Grapher.Formula.Grammar
import Grapher.Proofs.Formula.Parallel
import Grapher.Proofs.Formula.Scanning

namespace Grapher

open Token

variable {text rest : List Char} {lexeme : Lexeme} {lexemes : List Lexeme}

/-- The lexeme that starts here, and what follows it. -/
def Lexeme.at (c : Char) (cs : List Char) : Lexeme × List Char :=
  if isNumberChar c then (.number (c :: cs.takeWhile isNumberChar), cs.dropWhile isNumberChar)
  else if Text.isLetter c then (.word (c :: cs.takeWhile Text.isWordChar), cs.dropWhile Text.isWordChar)
  else (.single c, cs)

section Runs

variable {p : Char → Bool} {run : List Char}

theorem takeWhile_run (inside : ∀ c ∈ run, p c = true) (longest : ∀ c ∈ rest.head?, p c = false) :
    (run ++ rest).takeWhile p = run := by
  rw [List.takeWhile_append_of_pos inside]
  cases rest with
  | nil => simp
  | cons c rest => simp [longest c rfl]

theorem dropWhile_run (inside : ∀ c ∈ run, p c = true) (longest : ∀ c ∈ rest.head?, p c = false) :
    (run ++ rest).dropWhile p = rest := by
  rw [List.dropWhile_append_of_pos inside]
  cases rest with
  | nil => rfl
  | cons c rest => simp [longest c rfl]

theorem takeWhile_inside (text : List Char) : ∀ c ∈ text.takeWhile p, p c = true :=
  fun _ => List.mem_takeWhile_imp

theorem dropWhile_longest (text : List Char) : ∀ c ∈ (text.dropWhile p).head?, p c = false := by
  intro c head
  have stop := List.head?_dropWhile_not p text
  rwa [Option.mem_def.mp head] at stop

end Runs

theorem lexed_blanks (lexed : Lexed text []) : text.dropWhile Text.isBlank = [] := by
  generalize none : ([] : List Lexeme) = lexemes at lexed
  induction lexed with
  | nil => rfl
  | blank blank more ih => simpa [blank] using ih none
  | _ => cases none

theorem lexed_cons (lexed : Lexed text (lexeme :: lexemes)) :
    ∃ c cs rest, text.dropWhile Text.isBlank = c :: cs ∧ Lexeme.at c cs = (lexeme, rest) ∧
      Lexed rest lexemes := by
  generalize all : lexeme :: lexemes = others at lexed
  induction lexed with
  | nil => cases all
  | blank blank more ih => simpa [blank] using ih all
  | @number c run rest lexemes starts inside longest more =>
      cases all
      refine ⟨c, run ++ rest, rest, dropWhile_filled (number_filled starts) _, ?_, more⟩
      rw [Lexeme.at, if_pos starts, takeWhile_run inside longest, dropWhile_run inside longest]
  | @word c run rest lexemes starts inside longest more =>
      cases all
      obtain ⟨filled, noNumber⟩ := letter_starts starts
      refine ⟨c, run ++ rest, rest, dropWhile_filled filled _, ?_, more⟩
      rw [Lexeme.at, noNumber, if_neg Bool.false_ne_true, if_pos starts, takeWhile_run inside longest,
        dropWhile_run inside longest]
  | @single c rest lexemes noBlank noNumber noLetter more =>
      cases all
      refine ⟨c, rest, rest, dropWhile_filled noBlank _, ?_, more⟩
      rw [Lexeme.at, noNumber, noLetter]
      rfl

theorem Lexed.unique (lexed : Lexed text lexemes) {others : List Lexeme} (lexed' : Lexed text others) :
    others = lexemes := by
  induction lexemes generalizing text others with
  | nil =>
      cases others with
      | nil => rfl
      | cons other others =>
          obtain ⟨c, cs, rest, starts, -, -⟩ := lexed_cons lexed'
          rw [lexed_blanks lexed] at starts
          cases starts
  | cons lexeme lexemes ih =>
      obtain ⟨c, cs, rest, starts, first, more⟩ := lexed_cons lexed
      cases others with
      | nil =>
          rw [lexed_blanks lexed'] at starts
          cases starts
      | cons other others =>
          obtain ⟨c', cs', rest', starts', first', more'⟩ := lexed_cons lexed'
          cases starts.symm.trans starts'
          cases first.symm.trans first'
          rw [ih more more']

theorem lexed_at {c : Char} {cs : List Char} (filled : Text.isBlank c = false)
    (more : Lexed (Lexeme.at c cs).2 lexemes) : Lexed (c :: cs) ((Lexeme.at c cs).1 :: lexemes) := by
  unfold Lexeme.at at more ⊢
  split at more
  · rename_i number
    rw [if_pos number]
    have lexed := Lexed.number number (takeWhile_inside cs) (dropWhile_longest cs) more
    rwa [List.cons_append, List.takeWhile_append_dropWhile] at lexed
  · rename_i number
    rw [if_neg number]
    split at more
    · rename_i letter
      rw [if_pos letter]
      have lexed := Lexed.word letter (takeWhile_inside cs) (dropWhile_longest cs) more
      rwa [List.cons_append, List.takeWhile_append_dropWhile] at lexed
    · rename_i letter
      rw [if_neg letter]
      exact .single filled (by simpa using number) (by simpa using letter) more

theorem length_at_le (c : Char) (cs : List Char) : (Lexeme.at c cs).2.length ≤ cs.length := by
  unfold Lexeme.at
  split_ifs
  · exact List.length_dropWhile_le _ _
  · exact List.length_dropWhile_le _ _
  · exact Nat.le_refl _

theorem exists_lexed (text : List Char) : ∃ lexemes, Lexed text lexemes := by
  induction length : text.length using Nat.strong_induction_on generalizing text with
  | _ length ih =>
      cases text with
      | nil => exact ⟨[], .nil⟩
      | cons c cs =>
          subst length
          cases filled : Text.isBlank c with
          | true =>
              obtain ⟨lexemes, lexed⟩ := ih _ (Nat.lt_succ_self _) cs rfl
              exact ⟨lexemes, .blank filled lexed⟩
          | false =>
              obtain ⟨lexemes, lexed⟩ := ih _ (Nat.lt_succ_of_le (length_at_le c cs)) _ rfl
              exact ⟨_, lexed_at filled lexed⟩

theorem ofSign?_iff {c : Char} {token : Token} : ofSign? c = some token ↔ (c, token) ∈ Lexeme.signs := by
  constructor
  · intro sign
    unfold ofSign? at sign
    split at sign
    all_goals first | (cases sign; simp [Lexeme.signs]) | cases sign
  · intro known
    simp only [Lexeme.signs, List.mem_cons, Prod.mk.injEq, List.not_mem_nil, or_false] at known
    rcases known with ⟨rfl, rfl⟩ | ⟨rfl, rfl⟩ | ⟨rfl, rfl⟩ | ⟨rfl, rfl⟩ | ⟨rfl, rfl⟩ | ⟨rfl, rfl⟩ |
      ⟨rfl, rfl⟩ | ⟨rfl, rfl⟩ | ⟨rfl, rfl⟩ | ⟨rfl, rfl⟩ <;> rfl

theorem isSome_ofSign?_iff {c : Char} : (ofSign? c).isSome ↔ c ∈ Lexeme.signs.map Prod.fst := by
  simp only [Option.isSome_iff_exists, ofSign?_iff, List.mem_map, Prod.exists, exists_and_right, exists_eq_right]

section Numerals

variable {run : List Char}

theorem isDigit_or_point {c : Char} : isNumberChar c = true ↔ c.isDigit = true ∨ c = '.' := by
  simp [isNumberChar]

theorem digits_iff (inside : ∀ c ∈ run, isNumberChar c = true) :
    (∀ c ∈ run, c.isDigit = true) ↔ run.count '.' = 0 := by
  rw [List.count_eq_zero]
  constructor
  · intro digits point
    cases digits '.' point
  · intro noPoint c member
    rcases isDigit_or_point.mp (inside c member) with digit | rfl
    · exact digit
    · exact absurd member noPoint

theorem isNumeral_digits (digits : ∀ c ∈ run, c.isDigit = true) : Lexeme.IsNumeral run ↔ run ≠ [] := by
  have inside : ∀ c ∈ run, isNumberChar c = true := fun c member => isDigit_or_point.mpr (.inl (digits c member))
  have noPoint := (digits_iff inside).mp digits
  unfold Lexeme.IsNumeral
  cases run with
  | nil => simp
  | cons c run => simp [noPoint, digits c List.mem_cons_self]

theorem isNumeral_point {whole fraction : List Char} (digits : ∀ c ∈ whole, c.isDigit = true)
    (inside : ∀ c ∈ fraction, isNumberChar c = true) :
    Lexeme.IsNumeral (whole ++ '.' :: fraction) ↔
      (∀ c ∈ fraction, c.isDigit = true) ∧ ¬ (whole = [] ∧ fraction = []) := by
  have noPoint : whole.count '.' = 0 :=
    (digits_iff fun c member => isDigit_or_point.mpr (.inl (digits c member))).mp digits
  rw [Lexeme.IsNumeral, List.count_append, noPoint, List.count_cons_self]
  constructor
  · rintro ⟨⟨c, member, digit⟩, few⟩
    refine ⟨(digits_iff inside).mpr (by omega), ?_⟩
    rintro ⟨rfl, rfl⟩
    cases List.mem_singleton.mp member
    cases digit
  · rintro ⟨digits', filled⟩
    have noPoint' := (digits_iff inside).mp digits'
    refine ⟨?_, by omega⟩
    cases whole with
    | cons c whole => exact ⟨c, by simp, digits c List.mem_cons_self⟩
    | nil =>
        cases fraction with
        | cons c fraction => exact ⟨c, by simp, digits' c List.mem_cons_self⟩
        | nil => exact absurd ⟨rfl, rfl⟩ filled

theorem unsigned?_isSome_iff (inside : ∀ c ∈ run, isNumberChar c = true) :
    (Decimal.unsigned? run).isSome ↔ Lexeme.IsNumeral run := by
  have digits := takeWhile_inside (p := Char.isDigit) run
  have split := List.takeWhile_append_dropWhile (p := Char.isDigit) (l := run)
  cases tail : run.dropWhile Char.isDigit with
  | nil =>
      rw [tail, List.append_nil] at split
      rw [split] at digits
      rw [isNumeral_digits digits, Decimal.unsigned?, tail, split]
      cases run <;> simp
  | cons point fraction =>
      rw [tail] at split
      have noDigit : point.isDigit = false := dropWhile_longest run point (by rw [tail]; rfl)
      have ⟨_, inside'⟩ := List.forall_mem_append.mp (split ▸ inside)
      obtain ⟨first, numbers⟩ := List.forall_mem_cons.mp inside'
      obtain rfl : point = '.' := by simpa [noDigit] using isDigit_or_point.mp first
      have numeral := isNumeral_point digits numbers
      rw [split] at numeral
      rw [numeral, Decimal.unsigned?, tail]
      generalize run.takeWhile Char.isDigit = whole
      by_cases nothing : whole = [] ∧ fraction = []
      · simp [nothing]
      · by_cases digits' : ∀ c ∈ fraction, c.isDigit = true <;> simp [nothing, digits']

end Numerals

theorem first_fault {c : Char} {cs : List Char} {fault : Fault}
    (bad : (Lexeme.at c cs).1.fault? = some fault) : first c cs = .error fault := by
  unfold Lexeme.at at bad
  unfold first
  split_ifs at bad ⊢ with number letter
  · have inside := takeWhile_inside (p := isNumberChar) (c :: cs)
    rw [List.takeWhile_cons_of_pos number] at inside
    have isSome := unsigned?_isSome_iff inside
    simp only [Lexeme.fault?, Option.ite_none_left_eq_some, ← isSome, Option.not_isSome_iff_eq_none] at bad
    rw [ofNumber, bad.1, ← Option.some.inj bad.2]
    rfl
  · cases bad
  · simp only [Lexeme.fault?, Option.ite_none_left_eq_some, ← isSome_ofSign?_iff,
      Option.not_isSome_iff_eq_none] at bad
    rw [bad.1, ← Option.some.inj bad.2]

theorem first_token {c : Char} {cs : List Char} (good : (Lexeme.at c cs).1.fault? = none) :
    ∃ token, (Lexeme.at c cs).1.StandsFor token ∧ first c cs = .ok (token, (Lexeme.at c cs).2) := by
  unfold Lexeme.at at good ⊢
  unfold first
  split_ifs at good ⊢ with number letter
  · have inside := takeWhile_inside (p := isNumberChar) (c :: cs)
    rw [List.takeWhile_cons_of_pos number] at inside
    have isSome := unsigned?_isSome_iff inside
    simp only [Lexeme.fault?, ite_eq_left_iff, ← isSome, reduceCtorEq, imp_false, not_not] at good
    obtain ⟨value, read⟩ := Option.isSome_iff_exists.mp good
    refine ⟨.number value, .number read, ?_⟩
    rw [ofNumber, read]
    rfl
  · exact ⟨_, .word _, rfl⟩
  · simp only [Lexeme.fault?, ite_eq_left_iff, ← isSome_ofSign?_iff, reduceCtorEq, imp_false, not_not] at good
    obtain ⟨token, sign⟩ := Option.isSome_iff_exists.mp good
    refine ⟨token, .sign (ofSign?_iff.mp sign), ?_⟩
    rw [sign]

theorem lexed_bad (lexed : Lexed text (lexeme :: lexemes)) {fault : Fault}
    (bad : lexeme.fault? = some fault) :
    ∃ c cs, text.dropWhile Text.isBlank = c :: cs ∧ first c cs = .error fault := by
  obtain ⟨c, cs, rest, starts, here, more⟩ := lexed_cons lexed
  exact ⟨c, cs, starts, first_fault (by rw [here, bad])⟩

theorem lexed_good (lexed : Lexed text (lexeme :: lexemes)) (good : lexeme.fault? = none) :
    ∃ c cs token rest, text.dropWhile Text.isBlank = c :: cs ∧ first c cs = .ok (token, rest) ∧
      lexeme.StandsFor token ∧ Lexed rest lexemes := by
  obtain ⟨c, cs, rest, starts, here, more⟩ := lexed_cons lexed
  obtain ⟨token, stands, read⟩ := first_token (show (Lexeme.at c cs).1.fault? = none by rw [here, good])
  rw [here] at stands read
  exact ⟨c, cs, token, rest, starts, read, stands, more⟩

/-- The first fault among the lexemes that a scan with so much room takes: one more than it has room for. -/
def firstFault? (room : Nat) (lexemes : List Lexeme) : Option Fault :=
  (lexemes.take (room + 1)).findSome? Lexeme.fault?

theorem firstFault?_cons (room : Nat) (lexeme : Lexeme) (lexemes : List Lexeme) :
    firstFault? room (lexeme :: lexemes) = lexeme.fault?.or ((lexemes.take room).findSome? Lexeme.fault?) := by
  rw [firstFault?, List.take_succ_cons, List.findSome?_cons]
  cases lexeme.fault? <;> rfl

section Scans

variable {room : Nat} (lexed : Lexed text lexemes)
include lexed

theorem scan_first_fault {fault : Fault} (bad : firstFault? room lexemes = some fault) :
    scan room text = .error fault := by
  induction lexemes generalizing text room with
  | nil => cases bad
  | cons lexeme lexemes ih =>
      rw [firstFault?_cons] at bad
      cases own : lexeme.fault? with
      | some fault' =>
          obtain ⟨c, cs, starts, read⟩ := lexed_bad lexed own
          rw [own] at bad
          cases bad
          exact scan_fault room starts read
      | none =>
          obtain ⟨c, cs, token, rest, starts, read, -, more⟩ := lexed_good lexed own
          rw [own, Option.none_or] at bad
          cases room with
          | zero => cases bad
          | succ room =>
              rw [scan_lexeme room starts read, ih more bad]
              rfl

theorem scan_overlong (good : firstFault? room lexemes = none) (long : room < lexemes.length) :
    scan room text = .error (.tooLong limit) := by
  induction lexemes generalizing text room with
  | nil => cases long
  | cons lexeme lexemes ih =>
      rw [firstFault?_cons, Option.or_eq_none_iff] at good
      obtain ⟨c, cs, token, rest, starts, read, -, more⟩ := lexed_good lexed good.1
      cases room with
      | zero => exact scan_full starts read
      | succ room =>
          rw [scan_lexeme room starts read, ih more good.2 (Nat.lt_of_succ_lt_succ long)]
          rfl

theorem scan_tokens (good : firstFault? room lexemes = none) (fits : lexemes.length ≤ room) :
    ∃ tokens, scan room text = .ok tokens ∧ List.Forall₂ Lexeme.StandsFor lexemes tokens := by
  induction lexemes generalizing text room with
  | nil => exact ⟨[], scan_blank room (lexed_blanks lexed), .nil⟩
  | cons lexeme lexemes ih =>
      rw [firstFault?_cons, Option.or_eq_none_iff] at good
      obtain ⟨c, cs, token, rest, starts, read, stands, more⟩ := lexed_good lexed good.1
      obtain ⟨room, rfl⟩ := Nat.exists_eq_succ_of_ne_zero (Nat.ne_zero_of_lt fits)
      obtain ⟨tokens, scanned, each⟩ := ih more good.2 (Nat.le_of_succ_le_succ fits)
      refine ⟨token :: tokens, ?_, .cons stands each⟩
      rw [scan_lexeme room starts read, scanned]
      rfl

end Scans

theorem fault?_ne_empty (lexeme : Lexeme) : lexeme.fault? ≠ some .empty := by
  cases lexeme with
  | number run | single c =>
      rw [Lexeme.fault?]
      split_ifs <;> simp
  | word run => nofun

theorem scan_ne_empty (room : Nat) (text : List Char) : scan room text ≠ .error .empty := by
  obtain ⟨lexemes, lexed⟩ := exists_lexed text
  cases bad : firstFault? room lexemes with
  | some fault =>
      rw [scan_first_fault lexed bad]
      rintro ⟨⟩
      obtain ⟨lexeme, -, own⟩ := List.exists_of_findSome?_eq_some bad
      exact fault?_ne_empty lexeme own
  | none =>
      by_cases long : room < lexemes.length
      · rw [scan_overlong lexed bad long]
        nofun
      · obtain ⟨tokens, scanned, -⟩ := scan_tokens lexed bad (Nat.le_of_not_lt long)
        rw [scanned]
        nofun

theorem ofText_empty_iff (text : String) :
    Expr.ofText text = .error .empty ↔ ∀ c ∈ text.toList, Text.isBlank c = true := by
  rw [← List.dropWhile_eq_nil_iff]
  constructor
  · intro stopped
    rcases bind_eq_error.mp stopped with stopped | ⟨tokens, scanned, stopped⟩
    · exact absurd stopped (scan_ne_empty limit text.toList)
    · rcases scan_ok scanned with ⟨blank, -⟩ | ⟨c, cs, token, rest, others, less, -, -, -, -, rfl⟩
      · exact blank
      · rcases whole_fault (List.cons_ne_nil _ _) stopped with ⟨_, _, other⟩ | other <;> cases other
  · intro blank
    rw [Expr.ofText, Token.ofText, scan_blank limit blank]
    rfl

/-- A text is cut into lexemes in one way. The first bad one among those that there is room for, and one more, is
reported as a whole. Without such a one, a text of too many lexemes is too long whatever comes later, and any other
text has one token for each of them. Only a text of blanks has nothing to read. -/
theorem ofText_lexed (text : String) :
    ∃ lexemes, Lexed text.toList lexemes ∧
      (∀ others, Lexed text.toList others → others = lexemes) ∧
      (∀ fault, (lexemes.take (limit + 1)).findSome? Lexeme.fault? = some fault →
        Token.ofText text = .error fault) ∧
      ((lexemes.take (limit + 1)).findSome? Lexeme.fault? = none →
        if lexemes.length ≤ limit then
          ∃ tokens, Token.ofText text = .ok tokens ∧ List.Forall₂ Lexeme.StandsFor lexemes tokens
        else Token.ofText text = .error (.tooLong limit)) ∧
      (Expr.ofText text = .error .empty ↔ ∀ c ∈ text.toList, Text.isBlank c = true) := by
  obtain ⟨lexemes, lexed⟩ := exists_lexed text.toList
  refine ⟨lexemes, lexed, fun others => lexed.unique, ?_, ?_, ofText_empty_iff text⟩
  · exact fun fault bad => scan_first_fault lexed bad
  · intro good
    split_ifs with fits
    · exact scan_tokens lexed good fits
    · exact scan_overlong lexed good (Nat.lt_of_not_le fits)

end Grapher
