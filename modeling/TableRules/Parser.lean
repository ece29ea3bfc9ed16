/-
  THE PARSER: from expressions to rules in a registry.

  1. **One expression** — `Parser.parse` names the rule, reads it as a reference expression if
     it starts like one and otherwise as conditions joined by connectives, and registers it.
     A segment that states no condition is dropped with a notice, but the connectives around it
     stay.  Without any condition there is no rule, and the registry is as it was.

  2. **Names** — a given name is used as it is, and replaces a rule that has it.  Otherwise the
     name is derived from the expression, with a number from 2 on if it is taken; or, if nothing
     can be derived, it is `rule_<n>` with the parser's own count, which only ever goes up.

  3. **Many lines** — `Parser.parseLines` skips blank lines and comments, names each rule
     `Rule<n>` by the size of the registry, and goes on after a line that fails.
-/
import TableRules.Expression.ConditionText
import TableRules.Expression.Reference
import TableRules.Expression.RuleName
import TableRules.Fresh
import TableRules.Notice
import TableRules.Registry

namespace TableRules

open Expression

/-- What a parser remembers: how many names it has counted out. -/
structure Parser where
  counted : Nat
deriving DecidableEq

namespace Parser

/-- A parser that has counted out no name. -/
def fresh : Parser := ⟨0⟩

/-! ## Names -/

/-- A free number for a name that starts with `stem`. -/
def freeNumber (registry : Registry) (stem : String) (start : Nat) : Nat :=
  freshNumber registry.contains registry.size (fun n => stem ++ toString n) start

/-- A name that no rule has, for an expression that came without one. -/
def inventName (parser : Parser) (registry : Registry) (expression : List Char) :
    String × Parser :=
  match deriveName? expression with
  | some base =>
    let base := String.ofList base
    let stem := base ++ "_"
    (if registry.contains base then stem ++ toString (freeNumber registry stem 2) else base, parser)
  | none =>
    let n := freeNumber registry "rule_" (parser.counted + 1)
    ("rule_" ++ toString n, ⟨n⟩)

/-- The name of a rule: the given one, unless it is blank. -/
def chooseName (parser : Parser) (registry : Registry) (expression : List Char)
    (given : Option String) : String × Parser :=
  match (given.map Text.trimmed).filter (· ≠ "") with
  | some name => (name, parser)
  | none => parser.inventName registry expression

/-- The name of the next rule of a file. -/
def nextLineName (registry : Registry) : String :=
  "Rule" ++ toString (freeNumber registry "Rule" (registry.size + 1))

/-! ## Rules -/

/-- The segments of a chain that hold anything, without the blanks around them. -/
def segmentsOf (chain : Chain) : List (List Char) :=
  (chain.segments.map Text.trim).filter (· ≠ [])

/-- The rule that joins the conditions of an expression, and what is told about it. -/
def conditionRule (name : String) (expression : List Char) (columns : List String) :
    Except ParseError Rule × List Notice :=
  let chain := Chain.cut wordAt? expression
  let segments := segmentsOf chain
  let conditions := segments.filterMap (parseCondition? · columns)
  let dropped := segments.filter fun segment => (parseCondition? segment columns).isNone
  let text := String.ofList expression
  (if conditions = [] then .error (.noValidConditions text)
    else .ok (.ofConditions name conditions chain.connectives text),
   dropped.map fun segment => .droppedSegment (String.ofList segment) name)

/-- The rule that joins the references of an expression, and what is told about it. -/
def referenceRule (registry : Registry) (name : String) (expression : List Char) :
    Rule × List Notice :=
  let (references, connectives) := parseReferences expression
  let references := references.map String.ofList
  (.ofReferences name references connectives (String.ofList expression),
   (references.filter fun reference => (registry.getIgnoringCase? reference).isNone).map
     (.undefinedYet name))

/-! ## One expression -/

/-- What comes of parsing an expression. -/
structure Outcome where
  result : Except ParseError Rule
  parser : Parser
  registry : Registry
  notices : List Notice

/-- Parses an expression against the columns of a table, and registers the rule. -/
def parse (parser : Parser) (registry : Registry) (expression : String) (columns : List String)
    (given : Option String) : Outcome :=
  let cs := Text.trim expression.toList
  if cs = [] then ⟨.error .emptyExpression, parser, registry, []⟩
  else
    let (name, parser) := parser.chooseName registry cs given
    let (result, notices) :=
      if isReferenceExpression cs then
        let (rule, notices) := referenceRule registry name cs
        (.ok rule, notices)
      else conditionRule name cs columns
    match result with
    | .ok rule => ⟨.ok rule, parser, (registry.insert rule).1, notices⟩
    | .error e => ⟨.error e, parser, registry, notices⟩

/-! ## Many lines -/

/-- A line that was parsed: its number from 1, what it says, and what came of it. -/
structure Line where
  number : Nat
  expression : String
  result : Except ParseError Rule

/-- What comes of parsing many lines. -/
structure Batch where
  lines : List Line
  parser : Parser
  registry : Registry
  notices : List Notice

/-- Is a line, without the blanks around it, blank or a comment? -/
def isSkipped (line : List Char) : Bool := line.isEmpty || line.head? == some '#'

/-- Parses lines of which the first has a number. -/
def parseFrom (parser : Parser) (registry : Registry) (columns : List String) :
    Nat → List String → Batch
  | _, [] => ⟨[], parser, registry, []⟩
  | number, line :: lines =>
    let text := Text.trim line.toList
    if isSkipped text then parseFrom parser registry columns (number + 1) lines
    else
      let expression := String.ofList text
      let out := parser.parse registry expression columns (some (nextLineName registry))
      let notices := match out.result with
        | .ok _ => out.notices
        | .error e => out.notices ++ [.rejectedLine number e]
      let rest := parseFrom out.parser out.registry columns (number + 1) lines
      { rest with
        lines := ⟨number, expression, out.result⟩ :: rest.lines
        notices := notices ++ rest.notices }

/-- Parses one expression per line. -/
def parseLines (parser : Parser) (registry : Registry) (columns : List String)
    (lines : List String) : Batch :=
  parser.parseFrom registry columns 1 lines

end Parser

end TableRules
