/-
  COMPARISONS AND CONNECTIVES: the operators of the rule language.

  Nine comparisons stand between a column and an operand: four orderings, equality and its
  negation, and three searches in a text.  Two connectives stand between conditions.  Each has
  one SYMBOL, by which it is written in reports and in stored rules.

  A symbol may be typed with blanks around it and in any letter case, and `=` is another way
  to write `==`.
-/
import TableRules.Text.Basic
import TableRules.Text.Case

namespace TableRules

/-- A symbol that names no operator. -/
inductive UnknownSymbol where
  | comparison (text : String)
  | connective (text : String)
deriving DecidableEq

/-- What is said about an unknown symbol. -/
def UnknownSymbol.message : UnknownSymbol → String
  | comparison text => "Unknown condition type: " ++ text
  | connective text => "Unknown logical operator: " ++ text

/-- A typed symbol without the blanks around it and in lower case. -/
def typedSymbol (text : String) : List Char := Text.lowerAscii (Text.trim text.toList)

/-! ## Comparisons -/

/-- How a condition compares a cell with its operand. -/
inductive Comparison where
  | greaterThan
  | lessThan
  | greaterEqual
  | lessEqual
  | equal
  | notEqual
  | contains
  | startsWith
  | endsWith
deriving DecidableEq

namespace Comparison

/-- All comparisons. -/
def all : List Comparison :=
  [greaterThan, lessThan, greaterEqual, lessEqual, equal, notEqual, contains, startsWith, endsWith]

/-- How a comparison is written. -/
def symbol : Comparison → String
  | greaterThan => ">"
  | lessThan => "<"
  | greaterEqual => ">="
  | lessEqual => "<="
  | equal => "=="
  | notEqual => "!="
  | contains => "contains"
  | startsWith => "starts_with"
  | endsWith => "ends_with"

/-- The comparison that says the same with its sides exchanged: `5 < A` is `A > 5`.  The
    searches in a text have no such partner and stay as they are. -/
def mirrored : Comparison → Comparison
  | greaterThan => lessThan
  | lessThan => greaterThan
  | greaterEqual => lessEqual
  | lessEqual => greaterEqual
  | other => other

/-- Does the comparison need numbers on both sides? -/
def isOrdering : Comparison → Bool
  | greaterThan | lessThan | greaterEqual | lessEqual => true
  | _ => false

/-- Does the comparison search in a text? -/
def isSearch : Comparison → Bool
  | contains | startsWith | endsWith => true
  | _ => false

theorem isOrdering_mirrored (comparison : Comparison) :
    comparison.mirrored.isOrdering = comparison.isOrdering := by
  cases comparison <;> rfl

theorem isSearch_mirrored (comparison : Comparison) :
    comparison.mirrored.isSearch = comparison.isSearch := by
  cases comparison <;> rfl

/-- The comparison with exactly that symbol. -/
def ofSymbol? (symbol : String) : Option Comparison := all.find? (·.symbol == symbol)

/-- The comparison that a typed symbol names. -/
def parse (text : String) : Except UnknownSymbol Comparison :=
  let typed := String.ofList (typedSymbol text)
  match if typed = "=" then some equal else ofSymbol? typed with
  | some comparison => .ok comparison
  | none => .error (.comparison text)

end Comparison

/-! ## Connectives -/

/-- What joins two conditions, or two referenced rules. -/
inductive Connective where
  | and
  | or
deriving DecidableEq

namespace Connective

/-- How a connective is written. -/
def symbol : Connective → String
  | and => "and"
  | or => "or"

/-- The connective with exactly that symbol. -/
def ofSymbol? (symbol : String) : Option Connective := [and, or].find? (·.symbol == symbol)

/-- The connective that a typed symbol names. -/
def parse (text : String) : Except UnknownSymbol Connective :=
  match ofSymbol? (String.ofList (typedSymbol text)) with
  | some connective => .ok connective
  | none => .error (.connective text)

/-- The truth value of two joined outcomes. -/
def apply : Connective → Bool → Bool → Bool
  | and, left, right => left && right
  | or, left, right => left || right

end Connective

example : (Comparison.parse " Starts_With ").toOption = some .startsWith := by decide +kernel
example : ∀ c ∈ Comparison.all, (Comparison.parse c.symbol).toOption = some c := by
  decide +kernel
example : (Connective.parse "xor").toOption = none := by decide +kernel

end TableRules
