import Grapher.Formula.Machine
import Grapher.Formula.Grammar
import Grapher.Proofs.Formula.Scanning

namespace Grapher

open Token

variable {c d : Char} {text text' cs ds : List Char}

def SameChar (c d : Char) : Prop :=
  c = d ∨ Twin c d

theorem Twin.reads (twin : Twin c d) :
    (c.isAlpha = true ∧ d.isAlpha = true ∧ c.toLower = d.toLower) ∨
      ∃ token, ofSign? c = some token ∧ ofSign? d = some token := by
  cases twin with
  | letter ascii ascii' same => exact .inl ⟨ascii, ascii', same⟩
  | asterisk | slash | minus => exact .inr ⟨_, rfl, rfl⟩

theorem isLetter_ascii (ascii : c.isAlpha = true) : Text.isLetter c = true := by
  rw [Text.isLetter, ascii, Bool.true_or]

theorem isWordChar_letter (letter : Text.isLetter c = true) : Text.isWordChar c = true := by
  rw [Text.isWordChar, letter, Bool.true_or, Bool.true_or]

theorem lower_ascii (ascii : c.isAlpha = true) : Text.lower c = [c.toLower] := by
  have small : c.toNat < 0x80 := by
    simp only [Char.isAlpha, Char.isUpper, Char.isLower, Bool.or_eq_true, Bool.and_eq_true, decide_eq_true_eq,
      UInt32.le_iff_toNat_le] at ascii
    rcases ascii with ⟨-, below⟩ | ⟨-, below⟩
    · exact Nat.lt_of_le_of_lt below (by decide)
    · exact Nat.lt_of_le_of_lt below (by decide)
  rw [Text.lower, if_pos small]

/-- No kind of character that the scanner asks for tells the two apart. -/
structure SameKinds (c d : Char) : Prop where
  blank : Text.isBlank c = Text.isBlank d
  number : isNumberChar c = isNumberChar d
  letter : Text.isLetter c = Text.isLetter d
  word : Text.isWordChar c = Text.isWordChar d

namespace SameChar

variable (same : SameChar c d)
include same

theorem kinds : SameKinds c d := by
  rcases same with rfl | twin
  · exact ⟨rfl, rfl, rfl, rfl⟩
  rcases twin.reads with ⟨ascii, ascii', -⟩ | ⟨token, sign, sign'⟩
  · have letter := isLetter_ascii ascii
    have letter' := isLetter_ascii ascii'
    obtain ⟨filled, noNumber⟩ := letter_starts letter
    obtain ⟨filled', noNumber'⟩ := letter_starts letter'
    exact {
      blank := filled.trans filled'.symm
      number := noNumber.trans noNumber'.symm
      letter := letter.trans letter'.symm
      word := (isWordChar_letter letter).trans (isWordChar_letter letter').symm }
  · have apart := apart_of_sign sign
    have apart' := apart_of_sign sign'
    exact {
      blank := apart.blank.trans apart'.blank.symm
      number := apart.number.trans apart'.number.symm
      letter := apart.letter.trans apart'.letter.symm
      word := apart.word.trans apart'.word.symm }

theorem eq_of_number (number : isNumberChar c = true) : c = d := by
  rcases same with rfl | twin
  · rfl
  rcases twin.reads with ⟨ascii, -, -⟩ | ⟨token, sign, -⟩
  · rw [(letter_starts (isLetter_ascii ascii)).2] at number
    cases number
  · rw [(apart_of_sign sign).number] at number
    cases number

theorem lower_eq (word : Text.isWordChar c = true) : Text.lower c = Text.lower d := by
  rcases same with rfl | twin
  · rfl
  rcases twin.reads with ⟨ascii, ascii', low⟩ | ⟨token, sign, -⟩
  · rw [lower_ascii ascii, lower_ascii ascii', low]
  · rw [(apart_of_sign sign).word] at word
    cases word

theorem sign_eq (noLetter : Text.isLetter c = false) : (ofSign? c).isSome ∧ ofSign? c = ofSign? d ∨ c = d := by
  rcases same with rfl | twin
  · exact .inr rfl
  rcases twin.reads with ⟨ascii, -, -⟩ | ⟨token, sign, sign'⟩
  · rw [isLetter_ascii ascii] at noLetter
    cases noLetter
  · rw [sign, sign']
    exact .inl ⟨rfl, rfl⟩

end SameChar

/-- The same characters or twins in the same order, with gaps at the same places. What follows the last of them
may be blank in any way. -/
inductive SpeltAlike : List Char → List Char → Prop where
  | blank {text text' : List Char} (blank : ∀ c ∈ text, Text.isBlank c = true)
      (blank' : ∀ c ∈ text', Text.isBlank c = true) :
      SpeltAlike text text'
  | char {c d : Char} {cs ds : List Char} (same : SameChar c d) (more : SpeltAlike cs ds) :
      SpeltAlike (c :: cs) (d :: ds)
  | gap {gap gap' cs ds : List Char} (isGap : IsGap gap) (isGap' : IsGap gap') (more : SpeltAlike cs ds) :
      SpeltAlike (gap ++ cs) (gap' ++ ds)

theorem SpeltAlike.refl (text : List Char) : SpeltAlike text text := by
  induction text with
  | nil => exact .blank (by simp) (by simp)
  | cons c text ih => exact .char (.inl rfl) ih

theorem SpeltAlike.append (front : List Char) (alike : SpeltAlike text text') :
    SpeltAlike (front ++ text) (front ++ text') := by
  induction front with
  | nil => exact alike
  | cons c front ih => exact .char (.inl rfl) ih

theorem dropWhile_gap {gap : List Char} (blank : ∀ c ∈ gap, Text.isBlank c = true) (text : List Char) :
    (gap ++ text).dropWhile Text.isBlank = text.dropWhile Text.isBlank :=
  List.dropWhile_append_of_pos blank

theorem SpeltAlike.starts (alike : SpeltAlike text text') :
    (text.dropWhile Text.isBlank = [] ∧ text'.dropWhile Text.isBlank = []) ∨
      ∃ c cs d ds, text.dropWhile Text.isBlank = c :: cs ∧ text'.dropWhile Text.isBlank = d :: ds ∧
        SameChar c d ∧ SpeltAlike cs ds := by
  induction alike with
  | blank blank blank' => exact .inl ⟨List.dropWhile_eq_nil_iff.mpr blank, List.dropWhile_eq_nil_iff.mpr blank'⟩
  | @char c d cs ds same more ih =>
      rw [List.dropWhile_cons, List.dropWhile_cons, ← same.kinds.blank]
      cases Text.isBlank c with
      | true => exact ih
      | false => exact .inr ⟨c, cs, d, ds, rfl, rfl, same, more⟩
  | gap isGap isGap' more ih =>
      rw [dropWhile_gap isGap.blank, dropWhile_gap isGap'.blank]
      exact ih

/-- Characters of a kind that twins share and no blank is of. -/
structure Steady (p : Char → Bool) : Prop where
  same : ∀ {c d}, SameChar c d → p c = p d
  filled : ∀ {c}, p c = true → Text.isBlank c = false

theorem Steady.stops {p : Char → Bool} (kind : Steady p) (blank : ∀ c ∈ text.head?, Text.isBlank c = true) :
    text.takeWhile p = [] ∧ text.dropWhile p = text := by
  cases text with
  | nil => exact ⟨rfl, rfl⟩
  | cons c text =>
      have stop : p c = false := by
        rw [Bool.eq_false_iff]
        intro holds
        have filled := kind.filled holds
        rw [blank c rfl] at filled
        cases filled
      simp [stop]

theorem IsGap.head {gap : List Char} (isGap : IsGap gap) (text : List Char) :
    ∀ c ∈ (gap ++ text).head?, Text.isBlank c = true := by
  intro c head
  rw [List.head?_append_of_ne_nil _ isGap.filled] at head
  exact isGap.blank c (List.mem_of_head? head)

theorem isGap_singleton (blank : Text.isBlank c = true) : IsGap [c] where
  filled := List.cons_ne_nil c []
  blank := by
    intro d member
    rwa [List.mem_singleton.mp member]

theorem SpeltAlike.run {p : Char → Bool} (kind : Steady p) (alike : SpeltAlike text text') :
    List.Forall₂ SameChar (text.takeWhile p) (text'.takeWhile p) ∧
      SpeltAlike (text.dropWhile p) (text'.dropWhile p) := by
  induction alike with
  | blank blank blank' =>
      obtain ⟨run, rest⟩ := kind.stops fun c head => blank c (List.mem_of_head? head)
      obtain ⟨run', rest'⟩ := kind.stops fun c head => blank' c (List.mem_of_head? head)
      rw [run, run', rest, rest']
      exact ⟨.nil, .blank blank blank'⟩
  | @char c d cs ds same more ih =>
      rw [List.takeWhile_cons, List.takeWhile_cons, List.dropWhile_cons, List.dropWhile_cons, ← kind.same same]
      cases p c with
      | true => exact ⟨.cons same ih.1, ih.2⟩
      | false => exact ⟨.nil, .char same more⟩
  | @gap gap gap' cs ds isGap isGap' more ih =>
      obtain ⟨run, rest⟩ := kind.stops (isGap.head cs)
      obtain ⟨run', rest'⟩ := kind.stops (isGap'.head ds)
      rw [run, run', rest, rest']
      exact ⟨.nil, .gap isGap isGap' more⟩

theorem steady_number : Steady isNumberChar where
  same := fun same => same.kinds.number
  filled := number_filled

theorem steady_word : Steady Text.isWordChar where
  same := fun same => same.kinds.word
  filled := word_filled

theorem number_eq {run run' : List Char} (same : List.Forall₂ SameChar run run')
    (number : ∀ c ∈ run, isNumberChar c = true) : run = run' := by
  induction same with
  | nil => rfl
  | cons head tail ih =>
      obtain ⟨first, others⟩ := List.forall_mem_cons.mp number
      rw [head.eq_of_number first, ih others]

theorem ofWord_eq {run run' : List Char} (same : List.Forall₂ SameChar run run')
    (word : ∀ c ∈ run, Text.isWordChar c = true) : ofWord run = ofWord run' := by
  have low : run.flatMap Text.lower = run'.flatMap Text.lower := by
    induction same with
    | nil => rfl
    | cons head tail ih =>
        obtain ⟨first, others⟩ := List.forall_mem_cons.mp word
        rw [List.flatMap_cons, List.flatMap_cons, head.lower_eq first, ih others]
  rw [ofWord, ofWord, low]

inductive LexemesAlike : Except Fault (Token × List Char) → Except Fault (Token × List Char) → Prop where
  | error (fault : Fault) : LexemesAlike (.error fault) (.error fault)
  | ok {rest rest'} (token : Token) (more : SpeltAlike rest rest') :
      LexemesAlike (.ok (token, rest)) (.ok (token, rest'))

theorem first_alike (same : SameChar c d) (more : SpeltAlike cs ds) : LexemesAlike (first c cs) (first d ds) := by
  unfold first
  rw [← same.kinds.number, ← same.kinds.letter]
  split_ifs with number letter
  · obtain ⟨run, rest⟩ := more.run steady_number
    rw [← same.eq_of_number number, ← number_eq run fun _ => List.mem_takeWhile_imp]
    cases ofNumber (c :: cs.takeWhile isNumberChar) with
    | error fault => exact .error fault
    | ok token => exact .ok token rest
  · obtain ⟨run, rest⟩ := more.run steady_word
    have word : ∀ e ∈ c :: cs.takeWhile Text.isWordChar, Text.isWordChar e = true :=
      List.forall_mem_cons.mpr ⟨isWordChar_letter letter, fun _ => List.mem_takeWhile_imp⟩
    rw [ofWord_eq (.cons same run) word]
    exact .ok _ rest
  · rcases same.sign_eq (Bool.eq_false_iff.mpr letter) with ⟨known, signs⟩ | rfl
    · obtain ⟨token, sign⟩ := Option.isSome_iff_exists.mp known
      rw [← signs, sign]
      exact .ok token more
    · cases ofSign? c with
      | none => exact .error _
      | some token => exact .ok token more

theorem scan_alike (room : Nat) (alike : SpeltAlike text text') : scan room text = scan room text' := by
  induction room using Nat.strong_induction_on generalizing text text' with
  | _ room ih =>
      rcases alike.starts with ⟨blank, blank'⟩ | ⟨c, cs, d, ds, starts, starts', same, more⟩
      · rw [scan_blank room blank, scan_blank room blank']
      · have lexemes := first_alike same more
        generalize read : first c cs = lexeme at lexemes
        generalize read' : first d ds = lexeme' at lexemes
        cases lexemes with
        | error fault => rw [scan_fault room starts read, scan_fault room starts' read']
        | ok token more =>
            cases room with
            | zero => rw [scan_full starts read, scan_full starts' read']
            | succ room =>
                rw [scan_lexeme room starts read, scan_lexeme room starts' read']
                rw [ih room (Nat.lt_succ_self room) more]

theorem scan_leading (room : Nat) {gap : List Char} (isGap : IsGap gap) (text : List Char) :
    scan room (gap ++ text) = scan room text := by
  unfold scan
  rw [dropWhile_gap isGap.blank]

theorem Respelling.scan_eq (respelling : Respelling text text') (room : Nat) : scan room text = scan room text' := by
  cases respelling with
  | twin front back twin => exact scan_alike room ((SpeltAlike.refl back).char (.inr twin) |>.append front)
  | gap front back isGap isGap' =>
      rw [List.append_assoc, List.append_assoc]
      exact scan_alike room ((SpeltAlike.refl back).gap isGap isGap' |>.append front)
  | leading text isGap => exact (scan_leading room isGap text).symm
  | @trailing gap text isGap =>
      have ends : SpeltAlike [] gap := .blank (by simp) isGap.blank
      have alike := ends.append text
      rw [List.append_nil] at alike
      exact scan_alike room alike

theorem scan_respelled (edits : Relation.EqvGen Respelling text text') (room : Nat) :
    scan room text = scan room text' := by
  induction edits with
  | rel text text' respelling => exact respelling.scan_eq room
  | refl text => rfl
  | symm text text' edits ih => exact ih.symm
  | trans text text' text'' edits edits' ih ih' => exact ih.trans ih'

/-- Texts of the same spelling give the same tree or the same fault, and the same formula but for the text itself.
So they have the same program and the same value, or the same fault, at every place. -/
theorem respelling_irrelevant {source source' : String} (same : SameSpelling source source') :
    Expr.ofText source = Expr.ofText source' ∧
      (∀ unit, Formula.ofText source' unit =
        (Formula.ofText source unit).map fun formula => { formula with source := source' }) ∧
      ∀ (unit : AngleUnit) {α : Type} [Scalar α] (x : α),
        (Formula.ofText source unit >>= fun formula => formula.evaluate x) =
          (Formula.ofText source' unit >>= fun formula => formula.evaluate x) := by
  have read : Expr.ofText source = Expr.ofText source' := by
    unfold Expr.ofText Token.ofText
    rw [scan_respelled same limit]
  have formulas : ∀ unit, Formula.ofText source' unit =
      (Formula.ofText source unit).map fun formula => { formula with source := source' } := by
    intro unit
    unfold Formula.ofText
    rw [read]
    cases Expr.ofText source' with
    | error fault => rfl
    | ok tree =>
        change (tree.compile Formula.variableName >>= _) = Except.map _ (tree.compile Formula.variableName >>= _)
        cases tree.compile Formula.variableName with
        | error fault => rfl
        | ok program => rfl
  refine ⟨read, formulas, ?_⟩
  intro unit α scalar x
  rw [formulas unit]
  cases Formula.ofText source unit with
  | error fault => rfl
  | ok formula => rfl

theorem respelling_irrelevant_keypad :
    SameSpelling "X \u00d7 2" "x\t* 2\n" ∧ Expr.ofText "X \u00d7 2" = Expr.ofText "x\t* 2\n" := by
  have blank : IsGap [' '] := isGap_singleton rfl
  have tab : IsGap ['\t'] := isGap_singleton rfl
  have newline : IsGap ['\n'] := isGap_singleton rfl
  have letter : Respelling ['X', ' ', '\u00d7', ' ', '2'] ['x', ' ', '\u00d7', ' ', '2'] :=
    .twin [] _ (.letter rfl rfl rfl)
  have gap : Respelling ['x', ' ', '\u00d7', ' ', '2'] ['x', '\t', '\u00d7', ' ', '2'] := .gap ['x'] _ blank tab
  have sign : Respelling ['x', '\t', '*', ' ', '2'] ['x', '\t', '\u00d7', ' ', '2'] :=
    .twin ['x', '\t'] _ .asterisk
  have trailing : Respelling ['x', '\t', '*', ' ', '2'] ['x', '\t', '*', ' ', '2', '\n'] := .trailing _ newline
  have same : SameSpelling "X \u00d7 2" "x\t* 2\n" :=
    .trans _ _ _ (.rel _ _ letter) (.trans _ _ _ (.rel _ _ gap) (.trans _ _ _ (.symm _ _ (.rel _ _ sign))
      (.rel _ _ trailing)))
  exact ⟨same, (respelling_irrelevant same).1⟩

end Grapher
