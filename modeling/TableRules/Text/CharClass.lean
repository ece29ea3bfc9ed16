/-
  CHARACTER CLASSES: which characters are blank, letters, digits, or part of a word.

  Every class is the full Unicode one.

  * `isBlank`          — the property `White_Space`: what trimming removes and what separates
    words;
  * `isAlphanumeric`   — letters and numbers of every kind: what a derived name keeps;
  * `isReferenceDigit` — the category `Nd`: the digits of `Rule<n>` references;
  * `isWordChar`       — letters, marks, decimal digits, connectors and the two joiners: between
    a word character and anything else there is a word boundary.

  The last two, which say how expressions are read, keep to version 16 of Unicode; all else
  follows version 17.

  The numbers and operators of the expression language itself are ASCII; for those the core
  functions `Char.isDigit` and `Char.toLower` are the right ones.
-/
import TableRules.Text.Additions
import TableRules.Text.Digits
import TableRules.Text.Letters
import TableRules.Text.Marks

namespace TableRules.Text

/-! ## Membership in a table of ranges -/

/-- Does a table of disjoint inclusive ranges, in ascending order, hold the code point?
    The search stops at the first range that starts beyond it. -/
def inRanges : List (Nat × Nat) → Nat → Bool
  | [], _ => false
  | (first, last) :: rest, n => if n < first then false else n ≤ last || inRanges rest n

/-! ## The classes -/

/-- The ranges of the blank characters. -/
def blankRanges : List (Nat × Nat) := [
    (0x0009, 0x000D), (0x0020, 0x0020), (0x0085, 0x0085), (0x00A0, 0x00A0), (0x1680, 0x1680),
    (0x2000, 0x200A), (0x2028, 0x2029), (0x202F, 0x202F), (0x205F, 0x205F), (0x3000, 0x3000)]

/-- White space, in the Unicode sense. -/
def isBlank (c : Char) : Bool := inRanges blankRanges c.toNat

/-- A decimal digit of any script. -/
def isDecimalDigit (c : Char) : Bool := inRanges decimalDigitRanges c.toNat

/-- A letter of any script. -/
def isLetter (c : Char) : Bool := inRanges alphabeticRanges c.toNat

/-- A letter, mark or digit that version 16 of Unicode does not know. -/
def isAddition (c : Char) : Bool := inRanges additionRanges c.toNat

/-- A letter or a number of any kind. -/
def isAlphanumeric (c : Char) : Bool :=
  isLetter c || isDecimalDigit c || inRanges otherNumberRanges c.toNat

/-- A digit that the number of a reference may hold. -/
def isReferenceDigit (c : Char) : Bool := isDecimalDigit c && !isAddition c

/-- The zero-width joiner and non-joiner, which do not end a word. -/
def isJoiner (c : Char) : Bool := c.toNat == 0x200C || c.toNat == 0x200D

/-- A character that belongs to a word: there is a word boundary exactly where one of two
    neighbours is a word character and the other is not. -/
def isWordChar (c : Char) : Bool :=
  (isLetter c || isDecimalDigit c || inRanges markRanges c.toNat
    || inRanges connectorRanges c.toNat || isJoiner c) && !isAddition c

example : isBlank ' ' = true ∧ isBlank '\u00a0' = true ∧ isBlank '\u200b' = false := by decide
example : isDecimalDigit '٣' = true ∧ isDecimalDigit '½' = false := by decide
example : isAlphanumeric '½' = true ∧ isAlphanumeric '_' = false := by decide
example : isDecimalDigit '\u1C50' = true ∧ isReferenceDigit '\u1C50' = true := by decide
example : isAlphanumeric '\u0C5C' = true ∧ isWordChar '\u0C5C' = false := by decide +kernel
example : isWordChar '_' = true ∧ isWordChar '-' = false := by decide

end TableRules.Text
