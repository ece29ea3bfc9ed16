/-
  DERIVED NAMES: a rule's name when none is given.

  The letters, numbers, blanks and underscores of the expression, cut to the first 30 of them,
  and the words of that joined by underscores.  Where no word is left there is no name.
-/
import TableRules.Text.Basic

namespace TableRules.Expression

/-- How many characters a derived name is made from. -/
def maxNameLength : Nat := 30

/-- Does a character go into a derived name? -/
def isNameChar (c : Char) : Bool := Text.isAlphanumeric c || Text.isBlank c || c == '_'

/-- Words joined by underscores. -/
def joinWords : List (List Char) → List Char
  | [] => []
  | [word] => word
  | word :: words => word ++ '_' :: joinWords words

/-- The name that an expression gives. -/
def deriveName? (expression : List Char) : Option (List Char) :=
  let name := joinWords (Text.words ((expression.filter isNameChar).take maxNameLength))
  if name = [] then none else some name

example : deriveName? "(A>B) AND (X=G)".toList = some "AB_AND_XG".toList := by decide +kernel
example : deriveName? "()>=<!".toList = none := by decide +kernel

end TableRules.Expression
