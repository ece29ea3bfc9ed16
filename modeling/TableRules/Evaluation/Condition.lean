/-
  CONDITIONS ON A ROW: when a condition holds.

  1. **Comparing cells** — the orderings need a number on both sides and fail otherwise.
     Equality compares the numbers if there are two, and else the texts, without blanks around
     them and in upper case.  The searches look for the right text in the left, both in lower
     case.

  2. **Operands** — a column operand is that cell of the row, and there must be one; a bare word
     is a cell if the row has one of that name; everything else stands for itself.

  3. **Combining** — outcomes are joined strictly from left to right, without precedence.
     Where the connectives end, so does the fold; without outcomes the result is false.
-/
import TableRules.Rule
import TableRules.Text.Case

namespace TableRules

/-! ## Comparing cells -/

/-- Do the numbers of two cells stand in a relation? -/
def Cell.ordered (rel : Double → Double → Bool) (left right : Cell) : Bool :=
  match left.number?, right.number? with
  | some l, some r => rel l r
  | _, _ => false

/-- The text of a cell for equality: without blanks around it, in upper case. -/
def Cell.foldedText (cell : Cell) : List Char := Text.upper (Text.trim cell.asText.toList)

/-- Are two cells equal: as numbers if they both are, else as texts? -/
def Cell.same (left right : Cell) : Bool :=
  match left.number?, right.number? with
  | some l, some r => l.equal r
  | _, _ => left.foldedText == right.foldedText

/-- Does the text of one cell stand to that of another as asked, both in lower case? -/
def Cell.searched (rel : List Char → List Char → Bool) (left right : Cell) : Bool :=
  rel (Text.lower left.asText.toList) (Text.lower right.asText.toList)

/-- Does a comparison hold between two cells? -/
def Comparison.holds : Comparison → Cell → Cell → Bool
  | greaterThan, l, r => Cell.ordered (fun x y => y.lt x) l r
  | lessThan, l, r => Cell.ordered (fun x y => x.lt y) l r
  | greaterEqual, l, r => Cell.ordered (fun x y => y.le x) l r
  | lessEqual, l, r => Cell.ordered (fun x y => x.le y) l r
  | equal, l, r => l.same r
  | notEqual, l, r => !l.same r
  | contains, l, r => Cell.searched (fun text part => Text.occursIn part text) l r
  | startsWith, l, r => Cell.searched (fun text part => part.isPrefixOf text) l r
  | endsWith, l, r => Cell.searched (fun text part => part.isSuffixOf text) l r

/-! ## Conditions -/

/-- The cell that an operand stands for in a row. -/
def Operand.resolve? (operand : Operand) (row : Row) : Option Cell :=
  match operand with
  | column name => row.get? name
  | word s => some ((row.get? s).getD (.text s))
  | operand => operand.constant?

/-- Does a condition hold in a row?  Not if a column that it needs is missing. -/
def Condition.holds (c : Condition) (row : Row) : Bool :=
  match row.get? c.column, c.operand.resolve? row with
  | some cell, some expected => c.comparison.holds cell expected
  | _, _ => false

/-! ## Combining outcomes -/

/-- The outcomes joined by the connectives from left to right. -/
def combine : List Bool → List Connective → Bool
  | [], _ => false
  | first :: rest, connectives =>
    (rest.zip connectives).foldl (fun joined (next, c) => c.apply joined next) first

example : Comparison.equal.holds (.text " active ") (.text "ACTIVE") = true := by decide +kernel
example : Comparison.greaterThan.holds (.text "abc") (.int 1) = false := by decide +kernel
example : Comparison.startsWith.holds (.int 12345) (.text "123") = true := by decide +kernel
example : combine [true, false, false] [.or, .and] = false := by decide
example : combine [true, false] [] = true := by decide

end TableRules
