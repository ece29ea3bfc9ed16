/-
  VALIDATION: every rule on every row.

  1. **Results** — one per row and rule, rows first.  A result says whether the row passed and
     carries a message and the row itself.  There are three ways to make one: the rule is
     satisfied, or it is not, or it could not be evaluated; the last two have not passed, and only
     their messages tell them apart.

  2. **A run** — all rules are checked before any row is looked at.  A rule with a fault in its
     references is not evaluated on any row, and its fault is kept; it does not touch the other
     rules.  The other rules are evaluated in order, in one context for each row.

  3. **Running again** — a run is emptied before it is filled, first with the faults and then
     row by row.
-/
import TableRules.Evaluation.Context

namespace TableRules

/-! ## Results -/

/-- The result of a rule on a row.  Nothing ties the fields to each other: whoever has a list of
    results may have made them in any way. -/
structure Result where
  rowIndex : Nat
  ruleName : String
  /-- Did the row pass? -/
  passed : Bool
  /-- What is reported. -/
  message : String
  /-- The row itself, for whoever looks into a failure. -/
  row : Row
deriving DecidableEq

namespace Result

/-- The result of a rule that the row satisfies: its action is reported. -/
def pass (rowIndex : Nat) (ruleName action : String) (row : Row) : Result where
  rowIndex := rowIndex
  ruleName := ruleName
  passed := true
  message := "Row " ++ toString rowIndex ++ ": " ++ action
  row := row

/-- The result of a rule that the row does not satisfy. -/
def fail (rowIndex : Nat) (ruleName : String) (row : Row) : Result where
  rowIndex := rowIndex
  ruleName := ruleName
  passed := false
  message := "Row " ++ toString rowIndex ++ ": Rule '" ++ ruleName ++ "' not satisfied"
  row := row

/-- The result of a rule that could not be evaluated, which counts as failed. -/
def error (rowIndex : Nat) (ruleName reason : String) (row : Row) : Result where
  rowIndex := rowIndex
  ruleName := ruleName
  passed := false
  message := "Row " ++ toString rowIndex ++ ": Rule '" ++ ruleName ++ "' not evaluated: " ++ reason
  row := row

/-- The result of a rule on a row, by what came of evaluating it there. -/
def ofOutcome (rowIndex : Nat) (rule : Rule) (row : Row) : Except ReferenceError Bool → Result
  | .ok true => pass rowIndex rule.name rule.action row
  | .ok false => fail rowIndex rule.name row
  | .error e => error rowIndex rule.name e.message row

end Result

/-- The results that passed. -/
def passedOf (results : List Result) : List Result := results.filter (·.passed)

/-- The results that did not pass. -/
def failedOf (results : List Result) : List Result := results.filter (!·.passed)

/-! ## Runs -/

/-- What comes of a validation. -/
structure Run where
  results : List Result
  /-- The faults of the rules that could not be evaluated, in the order of the rules. -/
  faults : List ReferenceError
deriving DecidableEq

namespace Run

/-- Before any validation. -/
def none : Run := ⟨[], []⟩

/-- The results that passed. -/
def passed (run : Run) : List Result := passedOf run.results

/-- The results that did not pass. -/
def failed (run : Run) : List Result := failedOf run.results

/-- The run without what it held. -/
def cleared (run : Run) : Run := { run with results := [], faults := [] }

/-- The run with one more fault. -/
def addFault (run : Run) (fault : ReferenceError) : Run :=
  { run with faults := run.faults ++ [fault] }

/-- The run with more results. -/
def addResults (run : Run) (results : List Result) : Run :=
  { run with results := run.results ++ results }

end Run

namespace Validation

/-- The fault of a rule, if its check finds one. -/
def faultOf? (lookup : Lookup) (rule : Rule) : Option ReferenceError :=
  match lookup.check rule with
  | .ok _ => .none
  | .error e => some e

/-- The results of checked rules on a row, in one context. -/
def rowResults (rowIndex : Nat) (row : Row) :
    Context → List (Rule × Option ReferenceError) → List Result
  | _, [] => []
  | context, (rule, fault) :: rest =>
    let (outcome, context) := match fault with
      | some e => (.error e, context)
      | .none => context.evaluate rule
    .ofOutcome rowIndex rule row outcome :: rowResults rowIndex row context rest

end Validation

/-- Validates a table by rules, which may refer to each other and to the registry. -/
def Run.validate (run : Run) (table : Table) (rules : List Rule) (registry : Registry) : Run :=
  let lookup : Lookup := ⟨rules, registry⟩
  let checked := rules.map fun rule => (rule, Validation.faultOf? lookup rule)
  let run := (checked.filterMap (·.2)).foldl Run.addFault run.cleared
  table.rows.zipIdx.foldl (fun run (row, i) =>
    run.addResults (Validation.rowResults i row (.fresh lookup row) checked)) run

namespace Validation

/-- What is told about a run. -/
def notices (table : Table) (rules : List Rule) (run : Run) : List Notice :=
  run.faults.map .brokenRule ++
    [.validated table.size rules.length run.passed.length run.failed.length]

end Validation

end TableRules
