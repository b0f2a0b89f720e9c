import Grapher.Formula.Reading
import Mathlib.Logic.Relation

/-!
The formulas that there are: rows of tokens by their nesting, and texts by their lexemes.
-/

namespace Grapher

abbrev Phrase := List Token → Expr → Prop

inductive InverseMark : List Token → Prop where
  | bare (value : Float) (one : (value == 1) = true) :
      InverseMark [.caret, .minus, .number value]
  | bracketed (value : Float) (one : (value == 1) = true) :
      InverseMark [.caret, .opening, .minus, .number value, .closing]

inductive Named : List Token → String → Prop where
  | plain (text : String) : Named [.name text] text
  | inverse (text inverse : String) (mark : List Token)
      (known : Elementary.inverseName? text = some inverse) (marked : InverseMark mark) :
      Named (.name text :: mark) inverse

/-- A name is followed by a mark that is its own, so that no power starts there. -/
def StealsMark (base exponent : List Token) : Prop :=
  ∃ text inverse mark, base = [.name text] ∧ Elementary.inverseName? text = some inverse ∧
    InverseMark mark ∧ mark <+: .caret :: exponent

/-- Items with operators between them, folded to the left. -/
inductive IsChain (op? : Token → Option BinaryOp) (item : Phrase) : Phrase where
  | one {input tree} (first : item input tree) : IsChain op? item input tree
  | more {left token right first second op} (before : IsChain op? item left first)
      (sign : op? token = some op) (last : item right second) :
      IsChain op? item (left ++ token :: right) (.binary first op second)

def IsSum (operand : Phrase) : Phrase :=
  IsChain Reader.sumOp? (IsChain Reader.productOp? operand)

inductive IsPrimary (operand : Phrase) : Phrase where
  | number (value : Float) : IsPrimary operand [.number value] (.number value)
  | name {input text} (named : Named input text) : IsPrimary operand input (.name text)
  | bracketed {input tree} (inner : IsSum operand input tree) :
      IsPrimary operand (.opening :: input ++ [.closing]) tree
  | call {front input text tree} (named : Named front text) (inner : IsSum operand input tree) :
      IsPrimary operand (front ++ .opening :: input ++ [.closing]) (.call text tree)

inductive IsPower (operand : Phrase) : Phrase where
  | base {input tree} (primary : IsPrimary operand input tree) : IsPower operand input tree
  | raised {left right first second} (base : IsPrimary operand left first)
      (exponent : operand right second) (own : ¬ StealsMark left right) :
      IsPower operand (left ++ .caret :: right) (.binary first .pow second)

/-- An operand after its signs. The operands inside it are of the given kind. -/
inductive IsSigned (operand : Phrase) : Phrase where
  | minus {input tree} (inner : operand input tree) : IsSigned operand (.minus :: input) (.neg tree)
  | plus {input tree} (inner : operand input tree) : IsSigned operand (.plus :: input) tree
  | power {input tree} (power : IsPower operand input tree) : IsSigned operand input tree

/-- Operands that nest at most so many levels deep, the outermost one counted. -/
def IsOperand : (levels : Nat) → Phrase
  | 0 => fun _ _ => False
  | levels + 1 => IsSigned (IsOperand levels)

/-- Whole formulas: sums whose operands nest at most so many levels deep. -/
def IsFormula (levels : Nat) : Phrase :=
  IsSum (IsOperand levels)

inductive Part where
  | sum
  | product
  | operand
  | power
  | primary
  deriving DecidableEq

/-- Phrases with their nesting, which no limit holds back: the largest number of brackets, calls, signs and
exponents that enclose one of their operands. -/
inductive Nested : Part → Nat → Phrase where
  | number (value : Float) : Nested .primary 0 [.number value] (.number value)
  | name {input text} (named : Named input text) : Nested .primary 0 input (.name text)
  | bracketed {depth input tree} (inner : Nested .sum depth input tree) :
      Nested .primary (depth + 1) (.opening :: input ++ [.closing]) tree
  | call {depth front input text tree} (named : Named front text) (inner : Nested .sum depth input tree) :
      Nested .primary (depth + 1) (front ++ .opening :: input ++ [.closing]) (.call text tree)
  | base {depth input tree} (primary : Nested .primary depth input tree) :
      Nested .power depth input tree
  | raised {depth depth' left right first second} (base : Nested .primary depth left first)
      (exponent : Nested .operand depth' right second) (own : ¬ StealsMark left right) :
      Nested .power (max depth (depth' + 1)) (left ++ .caret :: right) (.binary first .pow second)
  | minus {depth input tree} (inner : Nested .operand depth input tree) :
      Nested .operand (depth + 1) (.minus :: input) (.neg tree)
  | plus {depth input tree} (inner : Nested .operand depth input tree) :
      Nested .operand (depth + 1) (.plus :: input) tree
  | power {depth input tree} (power : Nested .power depth input tree) :
      Nested .operand depth input tree
  | factor {depth input tree} (operand : Nested .operand depth input tree) :
      Nested .product depth input tree
  | factors {depth depth' left token right first second op} (before : Nested .product depth left first)
      (sign : Reader.productOp? token = some op) (last : Nested .operand depth' right second) :
      Nested .product (max depth depth') (left ++ token :: right) (.binary first op second)
  | term {depth input tree} (product : Nested .product depth input tree) :
      Nested .sum depth input tree
  | terms {depth depth' left token right first second op} (before : Nested .sum depth left first)
      (sign : Reader.sumOp? token = some op) (last : Nested .product depth' right second) :
      Nested .sum (max depth depth') (left ++ token :: right) (.binary first op second)

/-- A piece of a text that stands between blanks or next to other pieces. -/
inductive Lexeme where
  | number (run : List Char)
  | word (run : List Char)
  | single (char : Char)

/-- A text cut from left to right. Blanks are left out, and every run goes on as long as it can. -/
inductive Lexed : List Char → List Lexeme → Prop where
  | nil : Lexed [] []
  | blank {c rest lexemes} (blank : Text.isBlank c = true) (more : Lexed rest lexemes) :
      Lexed (c :: rest) lexemes
  | number {c run rest lexemes} (starts : Token.isNumberChar c = true)
      (inside : ∀ d ∈ run, Token.isNumberChar d = true)
      (longest : ∀ d ∈ rest.head?, Token.isNumberChar d = false) (more : Lexed rest lexemes) :
      Lexed (c :: run ++ rest) (.number (c :: run) :: lexemes)
  | word {c run rest lexemes} (starts : Text.isLetter c = true)
      (inside : ∀ d ∈ run, Text.isWordChar d = true)
      (longest : ∀ d ∈ rest.head?, Text.isWordChar d = false) (more : Lexed rest lexemes) :
      Lexed (c :: run ++ rest) (.word (c :: run) :: lexemes)
  | single {c rest lexemes} (noBlank : Text.isBlank c = false) (noNumber : Token.isNumberChar c = false)
      (noLetter : Text.isLetter c = false) (more : Lexed rest lexemes) :
      Lexed (c :: rest) (.single c :: lexemes)

namespace Lexeme

def signs : List (Char × Token) :=
  [('+', .plus), ('-', .minus), ('\u2212', .minus), ('*', .asterisk), ('\u00d7', .asterisk),
   ('/', .slash), ('\u00f7', .slash), ('^', .caret), ('(', .opening), (')', .closing)]

/-- Digits and points are a numeral if there is a digit and at most one point. -/
def IsNumeral (run : List Char) : Prop :=
  (∃ c ∈ run, c.isDigit = true) ∧ run.count '.' ≤ 1

instance (run : List Char) : Decidable (IsNumeral run) :=
  inferInstanceAs (Decidable ((∃ c ∈ run, c.isDigit = true) ∧ run.count '.' ≤ 1))

/-- What is wrong with a lexeme, which the fault shows as a whole. -/
def fault? : Lexeme → Option Fault
  | number run => if IsNumeral run then none else some (.malformedNumber (String.ofList run))
  | word _ => none
  | single char => if char ∈ signs.map Prod.fst then none else some (.unexpectedChar char)

inductive StandsFor : Lexeme → Token → Prop where
  | number {run value} (read : Decimal.unsigned? run = some value) : StandsFor (.number run) (.number value)
  | word (run : List Char) : StandsFor (.word run) (.name (String.ofList (run.flatMap Text.lower)))
  | sign {char token} (known : (char, token) ∈ signs) : StandsFor (.single char) token

end Lexeme

/-- Two ways to write one character: a letter of ASCII in either case, an operator or its sign on a keypad. -/
inductive Twin : Char → Char → Prop where
  | letter {c d} (ascii : c.isAlpha = true) (ascii' : d.isAlpha = true) (same : c.toLower = d.toLower) : Twin c d
  | asterisk : Twin '*' '\u00d7'
  | slash : Twin '/' '\u00f7'
  | minus : Twin '-' '\u2212'

structure IsGap (gap : List Char) : Prop where
  filled : gap ≠ []
  blank : ∀ c ∈ gap, Text.isBlank c = true

inductive Respelling : List Char → List Char → Prop where
  | twin {c d} (front back : List Char) (twin : Twin c d) : Respelling (front ++ c :: back) (front ++ d :: back)
  | gap {gap gap'} (front back : List Char) (isGap : IsGap gap) (isGap' : IsGap gap') :
      Respelling (front ++ gap ++ back) (front ++ gap' ++ back)
  | leading {gap} (text : List Char) (isGap : IsGap gap) : Respelling text (gap ++ text)
  | trailing {gap} (text : List Char) (isGap : IsGap gap) : Respelling text (text ++ gap)

/-- Any number of such edits, each of them made or undone, leads from one text to the other. -/
def SameSpelling (text text' : String) : Prop :=
  Relation.EqvGen Respelling text.toList text'.toList

end Grapher
