/-
  PROBLEMS AND NOTICES: what can go wrong, and what is told along the way.

  A problem is a cause, with the values that it names; its wording is one function, `message`.
  A notice is something worth telling that stops nothing, a warning or a piece of information;
  `Notice.line` is the line that it leaves in the log.
-/

namespace TableRules

/-! ## Problems -/

/-- Why an expression gives no rule. -/
inductive ParseError where
  | emptyExpression
  | noValidConditions (expression : String)
deriving DecidableEq

/-- What is said about an expression that gives no rule. -/
def ParseError.message : ParseError → String
  | emptyExpression => "Rule expression is empty"
  | noValidConditions expression =>
    "No valid condition could be extracted from '" ++ expression ++ "'"

/-- Why a rule cannot be evaluated. -/
inductive ReferenceError where
  /-- A rule refers to a name that no rule has. -/
  | undefined (rule reference : String)
  /-- A chain of references, each rule to the next, that ends where it starts. -/
  | circular (chain : List String)
deriving DecidableEq

/-- What is said about a rule that cannot be evaluated. -/
def ReferenceError.message : ReferenceError → String
  | undefined rule reference =>
    "Rule '" ++ rule ++ "' references undefined rule '" ++ reference ++ "'"
  | circular chain => "Circular rule reference: " ++ String.intercalate " -> " chain

/-! ## Notices -/

/-- Something told along the way. -/
inductive Notice where
  | droppedSegment (segment rule : String)
  | undefinedYet (rule reference : String)
  | rejectedLine (line : Nat) (error : ParseError)
  | extraCells (record cells columns : Nat)
  | brokenRule (error : ReferenceError)
  | validated (rows rules passed failed : Nat)
deriving DecidableEq

/-- A line of the log that warns. -/
def Notice.warning (text : String) : String := "WARN " ++ text

/-- The line that a notice leaves in the log. -/
def Notice.line : Notice → String
  | droppedSegment segment rule =>
    warning ("Dropping unparseable condition '" ++ segment ++ "' in rule '" ++ rule ++ "'")
  | undefinedYet rule reference =>
    warning ("Rule '" ++ rule ++ "' references '" ++ reference ++ "', which is not defined yet")
  | rejectedLine line error =>
    warning ("Rule on line " ++ toString line ++ " failed to parse: " ++ error.message)
  | extraCells record cells columns =>
    warning ("Record " ++ toString record ++ " has " ++ toString cells ++ " cells but only "
      ++ toString columns ++ " columns; extra cells ignored")
  | brokenRule error => warning error.message
  | validated rows rules passed failed =>
    "INFO Validated " ++ toString rows ++ " row(s) against " ++ toString rules ++ " rule(s): "
      ++ toString passed ++ " passed, " ++ toString failed ++ " failed"

end TableRules
