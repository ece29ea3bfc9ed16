/-
  SESSIONS: a table, a registry and the last run, worked on step by step.

  A session holds all that lasts between steps.  Parsing goes through its parser and into its
  registry; validating replaces its run, of which nothing stays; storing and restoring concern
  the registry alone.

  `Bench` is the small form of it: rules parsed against one table, in order, and validated as
  they were parsed, a rule that was replaced in the registry included.
-/
import TableRules.Parser
import TableRules.Stored.Rules
import TableRules.Validation

namespace TableRules

/-! ## Storing a registry -/

/-- The stored text of a registry. -/
def Registry.encode (registry : Registry) : String := registry.toRuleSet.encode

/-- The registry that a stored text stands for. -/
def Registry.decode? (text : String) : Option Registry :=
  (RuleSet.decode? text).map Registry.ofRuleSet

/-! ## Sessions -/

/-- What lasts between the steps of a session. -/
structure Session where
  parser : Parser
  registry : Registry
  table : Table
  run : Run

namespace Session

/-- A session before its first step. -/
def start : Session := ⟨.fresh, .empty, .empty, .none⟩

/-- Parses an expression against columns, and registers the rule. -/
def parse (session : Session) (expression : String) (columns : List String)
    (name : Option String) : Session × Except ParseError Rule × List Notice :=
  let out := session.parser.parse session.registry expression columns name
  ({ session with parser := out.parser, registry := out.registry }, out.result, out.notices)

/-- Parses lines against the columns of the table. -/
def parseLines (session : Session) (lines : List String) :
    Session × List Parser.Line × List Notice :=
  let batch := session.parser.parseLines session.registry session.table.columns lines
  ({ session with parser := batch.parser, registry := batch.registry }, batch.lines, batch.notices)

/-- Validates the table by rules; nothing of the last run stays. -/
def validate (session : Session) (rules : List Rule) : Session × List Notice :=
  let run := session.run.validate session.table rules session.registry
  ({ session with run }, Validation.notices session.table rules run)

/-- Puts the registry of a stored text in the place of the registry, if the text is one. -/
def restore? (session : Session) (text : String) : Option Session :=
  (Registry.decode? text).map fun registry => { session with registry }

/-- Stores the registry and restores it from the text. -/
def reload? (session : Session) : Option Session := session.restore? session.registry.encode

end Session

/-! ## Benches -/

/-- Rules parsed against a table. -/
structure Bench where
  table : Table
  parser : Parser
  registry : Registry
  rules : List Rule

namespace Bench

/-- A bench without rules. -/
def ofTable (table : Table) : Bench := ⟨table, .fresh, .empty, []⟩

/-- An expression that has to parse, and why it does not. -/
structure Rejected where
  expression : String
  error : ParseError

/-- What is said about an expression that has to parse. -/
def Rejected.message (rejected : Rejected) : String :=
  "'" ++ rejected.expression ++ "' should parse: " ++ rejected.error.message

/-- Parses one more rule. -/
def add (bench : Bench) (expression : String) (name : Option String) :
    Except Rejected Bench × List Notice :=
  let out := bench.parser.parse bench.registry expression bench.table.columns name
  match out.result with
  | .ok rule =>
    (.ok { bench with
      parser := out.parser, registry := out.registry, rules := bench.rules ++ [rule] },
     out.notices)
  | .error error => (.error ⟨expression, error⟩, out.notices)

/-- Parses rules in order, up to the first that does not parse. -/
def addAll (bench : Bench) : List (String × Option String) → Except Rejected Bench × List Notice
  | [] => (.ok bench, [])
  | (expression, name) :: rest =>
    match bench.add expression name with
    | (.error e, notices) => (.error e, notices)
    | (.ok bench, notices) =>
      let (result, more) := bench.addAll rest
      (result, notices ++ more)

/-- Validates the table by the rules. -/
def run (bench : Bench) : Run × List Notice :=
  let run := Run.none.validate bench.table bench.rules bench.registry
  (run, Validation.notices bench.table bench.rules run)

end Bench

/-- The verdicts on one rule, row by row. -/
def passedFor (results : List Result) (ruleName : String) : List Bool :=
  (results.filter (·.ruleName == ruleName)).map (·.passed)

end TableRules
