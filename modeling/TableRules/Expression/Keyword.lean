/-
  KEYWORDS: the words of the rule language, in any letter case.

  A keyword is matched by folding each letter of the text: to ASCII lower case, and the two
  letters outside ASCII that fold to an ASCII one, the long `ſ` and the Kelvin sign, with them.

  A WORD match must have a word boundary on either side, so `band` holds no `and`.
-/
import TableRules.Text.Basic

namespace TableRules.Expression

/-- The letter that a character counts as in a keyword. -/
def foldLetter (c : Char) : Char :=
  if c = 'ſ' then 's' else if c = '\u212a' then 'k' else c.toLower

/-- Is a text, up to the case of its letters, the keyword? -/
def spells (keyword cs : List Char) : Bool := cs.map foldLetter == keyword

/-- The text after a keyword. -/
def afterKeyword? (keyword cs : List Char) : Option (List Char) :=
  if spells keyword (cs.take keyword.length) then some (cs.drop keyword.length) else none

/-- Is there no word character at this side of a keyword? -/
def isEdge (neighbour : Option Char) : Bool :=
  match neighbour with
  | some c => !Text.isWordChar c
  | none => true

/-- Does one of the keywords stand at the start of the text and end at a word boundary? -/
def startsWithWord (keywords : List (List Char)) (cs : List Char) : Bool :=
  keywords.any fun keyword =>
    match afterKeyword? keyword cs with
    | some rest => isEdge rest.head?
    | none => false

/-- Does one of the keywords stand as a word in the text that follows the character `before`? -/
def hasWord (keywords : List (List Char)) : Option Char → List Char → Bool
  | _, [] => false
  | before, c :: cs =>
    (isEdge before && startsWithWord keywords (c :: cs)) || hasWord keywords (some c) cs

example : afterKeyword? "and".toList "AND x".toList = some " x".toList := by decide +kernel
example : hasWord ["or".toList] none "for (or)".toList = true := by decide +kernel
example : hasWord ["or".toList] none "for or_".toList = false := by decide +kernel

end TableRules.Expression
