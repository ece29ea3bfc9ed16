/-
  REFERENCES: expressions that join other rules.

  A reference is the word `Rule` and decimal digits.  An expression that starts with two
  references and a connective between blanks is a reference expression, whatever follows.  It
  is cut at its spaced connectives; a segment that is no reference is skipped, but the
  connectives around it stay.
-/
import TableRules.Expression.Chain

namespace TableRules.Expression

/-- The text after a reference at the start of `cs`. -/
def afterReference? (cs : List Char) : Option (List Char) := do
  let rest ← afterKeyword? ['r', 'u', 'l', 'e'] cs
  if rest.head?.any Text.isReferenceDigit then some (rest.dropWhile Text.isReferenceDigit) else none

/-- Is the text one reference and nothing else? -/
def isReference (cs : List Char) : Bool := afterReference? cs == some []

/-- Does the expression start with two references and a connective? -/
def isReferenceExpression (expression : List Char) : Bool :=
  match afterReference? (Text.trim expression) with
  | some rest =>
    match spacedAt? none rest with
    | some m => (afterReference? m.rest).isSome
    | none => false
  | none => false

/-- The references and the connectives of an expression. -/
def parseReferences (expression : List Char) : List (List Char) × List Connective :=
  let chain := Chain.cut spacedAt? (Text.trim expression)
  ((chain.segments.map Text.trim).filter isReference, chain.connectives)

example : isReference "rULE07".toList = true ∧ isReference "Rule1x".toList = false := by
  decide +kernel

end TableRules.Expression
