import Grapher.Formula.Reading
import Mathlib

namespace Grapher

open Token

/-- The tokens of a text, however many. -/
inductive Spells : List Char → List Token → Prop where
  | blank {text} (blank : text.dropWhile Text.isBlank = []) : Spells text []
  | lexeme {text c cs token rest tokens} (starts : text.dropWhile Text.isBlank = c :: cs)
      (read : first c cs = .ok (token, rest)) (more : Spells rest tokens) :
      Spells text (token :: tokens)

variable {text rest : List Char} {tokens : List Token}

theorem scan_blank (room : Nat) (blank : text.dropWhile Text.isBlank = []) :
    scan room text = .ok [] := by
  rw [scan, blank]

theorem scan_fault {c : Char} {cs : List Char} {fault : Fault} (room : Nat)
    (starts : text.dropWhile Text.isBlank = c :: cs) (read : first c cs = .error fault) :
    scan room text = .error fault := by
  rw [scan, starts]
  simp only [read]

theorem scan_full {c : Char} {cs : List Char} {token : Token}
    (starts : text.dropWhile Text.isBlank = c :: cs) (read : first c cs = .ok (token, rest)) :
    scan 0 text = .error (.tooLong limit) := by
  rw [scan, starts]
  simp only [read]

theorem scan_lexeme {c : Char} {cs : List Char} {token : Token} (room : Nat)
    (starts : text.dropWhile Text.isBlank = c :: cs) (read : first c cs = .ok (token, rest)) :
    scan (room + 1) text = (scan room rest).map (token :: ·) := by
  rw [scan, starts]
  simp only [read]

theorem scan_eq (spells : Spells text tokens) (room : Nat) :
    scan room text = if tokens.length ≤ room then .ok tokens else .error (.tooLong limit) := by
  induction spells generalizing room with
  | blank blank => exact scan_blank room blank
  | @lexeme text c cs token rest tokens starts read more ih =>
      cases room with
      | zero => exact scan_full starts read
      | succ room =>
          rw [scan_lexeme room starts read, ih]
          simp only [List.length_cons, Nat.succ_le_succ_iff]
          split <;> rfl

theorem scan_ok {room : Nat} (scanned : scan room text = .ok tokens) :
    (text.dropWhile Text.isBlank = [] ∧ tokens = []) ∨
      ∃ c cs token rest others less, text.dropWhile Text.isBlank = c :: cs ∧
        first c cs = .ok (token, rest) ∧ room = less + 1 ∧ scan less rest = .ok others ∧
          tokens = token :: others := by
  cases starts : text.dropWhile Text.isBlank with
  | nil =>
      cases (scan_blank room starts).symm.trans scanned
      exact .inl ⟨rfl, rfl⟩
  | cons c cs =>
      cases read : first c cs with
      | error fault => cases (scan_fault room starts read).symm.trans scanned
      | ok lexeme =>
          cases room with
          | zero => cases (scan_full starts read).symm.trans scanned
          | succ room =>
              rw [scan_lexeme room starts read] at scanned
              cases more : scan room lexeme.2 with
              | error fault =>
                  rw [more] at scanned
                  cases scanned
              | ok others =>
                  rw [more] at scanned
                  cases scanned
                  exact .inr ⟨c, cs, _, _, others, room, rfl, read, rfl, more, rfl⟩

theorem spells_of_scan {room : Nat} (scanned : scan room text = .ok tokens) : Spells text tokens := by
  induction room generalizing text tokens with
  | zero =>
      rcases scan_ok scanned with ⟨blank, rfl⟩ | ⟨c, cs, token, rest, others, less, -, -, full, -⟩
      · exact .blank blank
      · cases full
  | succ room ih =>
      rcases scan_ok scanned with
        ⟨blank, rfl⟩ | ⟨c, cs, token, rest, others, less, starts, read, room_eq, more, rfl⟩
      · exact .blank blank
      · cases room_eq
        exact .lexeme starts read (ih more)

theorem ofText_of_spells {source : String} (spells : Spells source.toList tokens) :
    Expr.ofText source =
      if tokens.length ≤ limit then Expr.ofTokens tokens else .error (.tooLong limit) := by
  unfold Expr.ofText Token.ofText
  rw [scan_eq spells]
  split <;> rfl

/-- A character that is part of no token but its own. -/
structure Apart (c : Char) : Prop where
  blank : Text.isBlank c = false
  number : isNumberChar c = false
  word : Text.isWordChar c = false

theorem apart_of_sign {c : Char} {token : Token} (sign : ofSign? c = some token) : Apart c := by
  unfold ofSign? at sign
  split at sign
  all_goals first | cases sign; done | constructor <;> decide +kernel

theorem apart_opening : Apart '(' := apart_of_sign rfl

theorem apart_closing : Apart ')' := apart_of_sign rfl

theorem Apart.letter {c : Char} (apart : Apart c) : Text.isLetter c = false := by
  have := apart.word
  unfold Text.isWordChar at this
  simp only [Bool.or_eq_false_iff] at this
  exact this.1.1

theorem takeWhile_append_stop {p : Char → Bool} {c : Char} (stop : p c = false) (front : List Char) :
    (front ++ c :: rest).takeWhile p = front.takeWhile p := by
  induction front with
  | nil => simp [stop]
  | cons d front ih => cases holds : p d <;> simp [holds, ih]

theorem dropWhile_append_stop {p : Char → Bool} {c : Char} (stop : p c = false) (front : List Char) :
    (front ++ c :: rest).dropWhile p = front.dropWhile p ++ c :: rest := by
  induction front with
  | nil => simp [stop]
  | cons d front ih => cases holds : p d <;> simp [holds, ih]

theorem dropWhile_filled {c : Char} (filled : Text.isBlank c = false) (cs : List Char) :
    (c :: cs).dropWhile Text.isBlank = c :: cs := by
  rw [List.dropWhile_cons, filled]
  rfl

/-- A token ends where it did when a sign follows. -/
theorem first_append {c d : Char} {cs more : List Char} {token : Token} (apart : Apart d)
    (read : first c cs = .ok (token, rest)) :
    first c (cs ++ d :: more) = .ok (token, rest ++ d :: more) := by
  unfold first at read ⊢
  split at read
  · rename_i number
    rw [if_pos number, takeWhile_append_stop apart.number, dropWhile_append_stop apart.number]
    cases value : ofNumber (c :: cs.takeWhile isNumberChar) with
    | error fault => rw [value] at read; cases read
    | ok token => rw [value] at read; cases read; rfl
  · rename_i number
    split at read
    · rename_i letter
      rw [if_neg number, if_pos letter, takeWhile_append_stop apart.word,
        dropWhile_append_stop apart.word]
      cases read
      rfl
    · rename_i letter
      rw [if_neg number, if_neg letter]
      cases sign : ofSign? c with
      | none => rw [sign] at read; cases read
      | some found => rw [sign] at read; cases read; rfl

theorem Spells.append {c : Char} {more : List Char} {others : List Token} (spells : Spells text tokens)
    (apart : Apart c) (after : Spells (c :: more) others) :
    Spells (text ++ c :: more) (tokens ++ others) := by
  induction spells with
  | @blank text blank =>
      have same : (text ++ c :: more).dropWhile Text.isBlank = (c :: more).dropWhile Text.isBlank := by
        rw [dropWhile_append_stop apart.blank, blank, dropWhile_filled apart.blank, List.nil_append]
      cases after with
      | blank blank => exact .blank (same.trans blank)
      | lexeme starts read others => exact .lexeme (same.trans starts) read others
  | @lexeme text d ds token rest tokens starts read _ ih =>
      refine .lexeme ?_ (first_append apart read) ih
      rw [dropWhile_append_stop apart.blank, starts, List.cons_append]

theorem Spells.sign {c : Char} {token : Token} (sign : ofSign? c = some token)
    (after : Spells text tokens) : Spells (c :: text) (token :: tokens) := by
  have apart := apart_of_sign sign
  have starts := dropWhile_filled apart.blank text
  have read : first c text = .ok (token, text) := by
    unfold first
    rw [apart.number, apart.letter, sign]
    rfl
  exact .lexeme starts read after

def IsWord (word : List Char) : Prop :=
  ∃ c cs, word = c :: cs ∧ Text.isLetter c = true ∧ ∀ d ∈ cs, Text.isWordChar d = true

def Separate (ranges others : List Text.Range) : Prop :=
  ∀ range ∈ ranges, ∀ other ∈ others, range.last < other.first ∨ other.last < range.first

instance (ranges others : List Text.Range) : Decidable (Separate ranges others) :=
  inferInstanceAs (Decidable (∀ range ∈ ranges, ∀ other ∈ others, _))

theorem within_iff {ranges : List Text.Range} {c : Char} :
    Text.within ranges c = true ↔ ∃ range ∈ ranges, range.first ≤ c.toNat ∧ c.toNat ≤ range.last := by
  simp [Text.within, Text.Range.covers]

theorem Separate.not_within {ranges others : List Text.Range} (separate : Separate ranges others)
    {c : Char} (inside : Text.within ranges c = true) : Text.within others c = false := by
  rw [Bool.eq_false_iff]
  intro inside'
  obtain ⟨range, member, above, below⟩ := within_iff.mp inside
  obtain ⟨other, member', above', below'⟩ := within_iff.mp inside'
  have := separate range member other member'
  omega

theorem isLetter_within {c : Char} (letter : Text.isLetter c = true) :
    Text.within (⟨65, 90⟩ :: ⟨97, 122⟩ :: Text.letterRanges) c = true := by
  unfold Text.isLetter at letter
  rw [within_iff]
  rcases Bool.or_eq_true_iff.mp letter with ascii | beyond
  · simp only [Char.isAlpha, Char.isUpper, Char.isLower, Bool.or_eq_true, Bool.and_eq_true,
      decide_eq_true_eq, UInt32.le_iff_toNat_le] at ascii
    rcases ascii with upper | lower
    · exact ⟨⟨65, 90⟩, by simp, upper⟩
    · exact ⟨⟨97, 122⟩, by simp, lower⟩
  · obtain ⟨range, member, inside⟩ := within_iff.mp beyond
    exact ⟨range, by simp [member], inside⟩

theorem isNumberChar_within {c : Char} (number : isNumberChar c = true) :
    Text.within [⟨46, 46⟩, ⟨48, 57⟩] c = true := by
  unfold isNumberChar at number
  rw [within_iff]
  rcases Bool.or_eq_true_iff.mp number with digit | point
  · simp only [Char.isDigit, Bool.and_eq_true, decide_eq_true_eq, UInt32.le_iff_toNat_le] at digit
    exact ⟨⟨48, 57⟩, by simp, digit⟩
  · rw [beq_iff_eq] at point
    subst point
    exact ⟨⟨46, 46⟩, by simp, by decide, by decide⟩

theorem letter_starts {c : Char} (letter : Text.isLetter c = true) :
    Text.isBlank c = false ∧ isNumberChar c = false := by
  have inside := isLetter_within letter
  constructor
  · exact Separate.not_within (by decide +kernel) inside
  · rw [Bool.eq_false_iff]
    intro number
    have outside : Text.within (⟨65, 90⟩ :: ⟨97, 122⟩ :: Text.letterRanges) c = false :=
      Separate.not_within (by decide +kernel) (isNumberChar_within number)
    rw [inside] at outside
    cases outside

theorem number_filled {c : Char} (number : isNumberChar c = true) : Text.isBlank c = false :=
  Separate.not_within (by decide +kernel) (isNumberChar_within number)

theorem word_filled {c : Char} (word : Text.isWordChar c = true) : Text.isBlank c = false := by
  unfold Text.isWordChar Text.isNumeral at word
  simp only [Bool.or_eq_true, beq_iff_eq] at word
  rcases word with (letter | digit | numeral) | rfl
  · exact (letter_starts letter).1
  · exact number_filled (by rw [isNumberChar, digit, Bool.true_or])
  · exact Separate.not_within (by decide +kernel) numeral
  · decide +kernel

theorem Spells.word {word : List Char} (isWord : IsWord word) {c : Char} (apart : Apart c)
    (after : Spells (c :: text) tokens) :
    Spells (word ++ c :: text) (ofWord word :: tokens) := by
  obtain ⟨d, ds, rfl, letter, more⟩ := isWord
  obtain ⟨filled, noNumber⟩ := letter_starts letter
  have rest : ds.dropWhile Text.isWordChar = [] := List.dropWhile_eq_nil_iff.mpr more
  have starts := dropWhile_filled filled (ds ++ c :: text)
  have read : first d (ds ++ c :: text) = .ok (ofWord (d :: ds), c :: text) := by
    unfold first
    rw [noNumber, if_neg Bool.false_ne_true, if_pos letter, takeWhile_append_stop apart.word,
      dropWhile_append_stop apart.word, List.takeWhile_eq_self_iff.mpr more, rest, List.nil_append]
  exact .lexeme starts read after

end Grapher
