/-
  PLANS: what a command does to the world.

  A command reads its files first.  What follows is a PLAN: texts to print and files to write,
  in order, and the exit status at the end: 0 if all is well, 1 if a row failed or the command
  could not be carried out.  A file that cannot be written ends the plan with status 1.  A
  command line that is rejected has status 2 and no plan.
-/
import TableRules.Command.Arguments
import TableRules.Csv.Reader
import TableRules.Report
import TableRules.Session

namespace TableRules

/-- One thing that a command does. -/
inductive Effect where
  | print (text : String)
  | write (path content : String)
deriving DecidableEq

/-- What a command does, and the exit status if all of that can be done. -/
structure Plan where
  effects : List Effect
  status : Nat
  /-- What is told aside: notices, and why a command fails. -/
  log : List String

namespace Plan

/-- Why a command cannot be carried out. -/
inductive Failure where
  | noRules
  | missingFile (path : String)
  | notText (path : String)
  | badTable (error : Csv.Error)
  | badRuleSet (path : String)
  | badExpression (error : ParseError)

/-- What is said about a command that cannot be carried out. -/
def Failure.message : Failure → String
  | noRules => "No rules given; pass --rules and/or --rule-set"
  | missingFile path => "File not found: " ++ path
  | notText path => "I/O error: " ++ path ++ " is not valid UTF-8"
  | badTable error => error.message
  | badRuleSet path => "Invalid rule set: " ++ path
  | badExpression error => "Failed to parse rule: " ++ error.message

/-- The plan of a command that fails before it does anything. -/
def ofFailure (failure : Failure) : Plan := ⟨[], 1, ["Error: " ++ failure.message]⟩

/-- The files that can be read, by their paths. -/
abbrev Reader := String → Option ByteArray

/-! ## Reading files -/

/-- The text of a file. -/
def readText (read? : Reader) (path : String) : Except Failure String :=
  match read? path with
  | none => .error (.missingFile path)
  | some bytes =>
    match String.fromUTF8? bytes with
    | some text => .ok text
    | none => .error (.notText path)

/-- The rule set in a file. -/
def readRuleSet (read? : Reader) (path : String) : Except Failure RuleSet := do
  match RuleSet.decode? (← readText read? path) with
  | some set => .ok set
  | none => .error (.badRuleSet path)

/-- The table in a file, and what is told about it. -/
def readTable (read? : Reader) (settings : Csv.Settings) (path : String) :
    Except Failure (Table × List Notice) :=
  match read? path with
  | none => .error (.missingFile path)
  | some bytes => (Csv.read settings bytes.data.toList).mapError .badTable

/-- The lines of a text.  What a carriage return leaves at the end of a line is blank, and so
    is the line after the last line end. -/
def linesOf (text : String) : List String := Text.split '\n' text

/-! ## The commands -/

/-- The plan of `validate`. -/
def ofValidate (read? : Reader) (options : ValidateOptions) : Except Failure Plan := do
  if options.rules.isNone && options.ruleSet.isNone then throw .noRules
  let (table, tableNotices) ← readTable read? ⟨options.delimiter, options.headerRow, true⟩ options.data
  let registry ← match options.ruleSet with
    | some path => (readRuleSet read? path).map Registry.ofRuleSet
    | none => .ok .empty
  let batch ← match options.rules with
    | some path => (readText read? path).map fun text =>
        Parser.fresh.parseLines registry table.columns (linesOf text)
    | none => .ok ⟨[], .fresh, registry, []⟩
  let rules := batch.registry.enabledRules
  let run := Run.none.validate table rules batch.registry
  let report :=
    if options.json then (Summary.ofRun run).toJson.write .pretty else Report.text run.results
  let saved := options.saveRuleSet.map fun path => Effect.write path batch.registry.encode
  let written := options.output.map fun path => Effect.write path report
  .ok {
    effects := saved.toList ++ .print (report ++ "\n") :: written.toList
    status := if run.failed.isEmpty then 0 else 1
    log := (tableNotices ++ batch.notices ++ Validation.notices table rules run).map Notice.line }

/-- The plan of `parse`. -/
def ofParse (columns : List String) (name : Option String) (expression : String) :
    Except Failure Plan :=
  let out := Parser.fresh.parse .empty expression (columns.map Text.trimmed) name
  match out.result with
  | .ok rule => .ok ⟨[.print (rule.toJson.write .pretty ++ "\n")], 0, out.notices.map Notice.line⟩
  | .error e => .error (.badExpression e)

/-- A text with blanks after it, up to a width. -/
def padded (width : Nat) (s : String) : String :=
  s ++ String.ofList (List.replicate (width - s.length) ' ')

/-- The line about a rule in a listing. -/
def listingLine (rule : Rule) : String :=
  "[" ++ (if rule.enabled then "x" else " ") ++ "] " ++ padded 30 rule.name ++ " "
    ++ rule.description ++ "\n"

/-- The plan of `rules`. -/
def ofList (read? : Reader) (path : String) : Except Failure Plan := do
  let set ← readRuleSet read? path
  .ok ⟨[.print (String.join (set.rules.map listingLine))], 0, []⟩

end Plan

namespace Command

/-- The files that a command reads. -/
def inputs : Command → List String
  | validate options => options.data :: options.rules.toList ++ options.ruleSet.toList
  | list path => [path]
  | parse .. => []
  | version => []

/-- The plan of a command. -/
def plan (read? : Plan.Reader) (command : Command) : Plan :=
  let plan := match command with
    | validate options => Plan.ofValidate read? options
    | parse columns name expression => Plan.ofParse columns name expression
    | list path => Plan.ofList read? path
    | version => .ok ⟨[.print "rulecheck 0.1.0\n"], 0, []⟩
  match plan with
  | .ok plan => plan
  | .error failure => .ofFailure failure

end Command

end TableRules
