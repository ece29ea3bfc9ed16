/-
  DELIMITERS: parentheses around a segment, and quotes around a text.

  * `stripParens` drops a pair of parentheses that wraps the whole segment.  It counts the
    depth from the left, where a closing parenthesis too many leaves the depth at zero; if the
    depth comes down to zero before the last character the pair does not wrap, otherwise the
    first and the last character go.
  * `unquote?` gives the text between two equal quotes, whatever is in it.
-/
import TableRules.Text.Basic

namespace TableRules.Expression

/-- Does the nesting come down to zero, from a depth, before the last character? -/
def closesEarly : Nat → List Char → Bool
  | _, [] => false
  | depth, c :: cs =>
    if c = '(' then closesEarly (depth + 1) cs
    else if c = ')' then (depth - 1 == 0 && !cs.isEmpty) || closesEarly (depth - 1) cs
    else closesEarly depth cs

/-- A segment without blanks around it, and without the parentheses that wrap it as a whole. -/
def stripParens (segment : List Char) : List Char :=
  let cs := Text.trim segment
  if 2 ≤ cs.length ∧ cs.head? = some '(' ∧ cs.getLast? = some ')' ∧ closesEarly 0 cs = false then
    Text.trim cs.tail.dropLast
  else cs

/-- The text between two equal quotes, single or double. -/
def unquote? (raw : List Char) : Option (List Char) :=
  match Text.trim raw with
  | [] => none
  | quote :: cs =>
    if (quote = '"' ∨ quote = '\'') ∧ cs.getLast? = some quote then some cs.dropLast else none

example : stripParens "(A>B)".toList = "A>B".toList := by decide +kernel
example : stripParens "(A)>(B)".toList = "(A)>(B)".toList := by decide +kernel
example : unquote? " 'it's' ".toList = some "it's".toList := by decide +kernel
example : unquote? ['"'] = none := by decide +kernel

end TableRules.Expression
