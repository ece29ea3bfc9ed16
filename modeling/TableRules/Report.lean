/-
  REPORTS: a run, told to a reader or counted up.

  1. **The text report** — a banner with the totals; if anything failed, a section with a block
     for every result that did.

  2. **The summary** — the same totals, the counts of each rule in the order in which the rules
     first appear, the failures, and the faults.  Its JSON leaves out the last two where they
     are empty.

  3. **Results as JSON** — all that is known of each result, the row in full.
-/
import TableRules.Stored.Tables
import TableRules.Validation

namespace TableRules

/-! ## The text report -/

namespace Report

/-- The width of the rules of the report. -/
def width : Nat := 80

/-- A line of one character. -/
def ruler (c : Char) : String := String.ofList (List.replicate width c)

/-- The lines about a failed result. -/
def block (result : Result) : List String :=
  ["\n" ++ result.message, "Rule: " ++ result.ruleName, "Row data: " ++ result.row.display]

/-- The lines of a report.  What did not pass is taken to have failed, and counted as such. -/
def lines (results : List Result) : List String :=
  let passed := (passedOf results).length
  let failed := results.length - passed
  [ruler '=', "VALIDATION REPORT", ruler '=',
    "Total validations: " ++ toString results.length,
    "Passed: " ++ toString passed,
    "Failed: " ++ toString failed, ruler '='] ++
  if 0 < failed then "\nFAILED VALIDATIONS:" :: ruler '-' :: (failedOf results).flatMap block
  else []

/-- The text report of a list of results. -/
def text (results : List Result) : String := String.intercalate "\n" (lines results)

end Report

/-! ## The summary -/

/-- How often a rule passed and failed. -/
structure Tally where
  ruleName : String
  passed : Nat
  failed : Nat
deriving DecidableEq

/-- A failed result, as the summary shows it. -/
structure Failure where
  rowIndex : Nat
  ruleName : String
  message : String
  row : String
deriving DecidableEq

/-- A run in numbers. -/
structure Summary where
  total : Nat
  passed : Nat
  failed : Nat
  tallies : List Tally
  failures : List Failure
  faults : List String
deriving DecidableEq

namespace Summary

/-- Counts a result in the tally of its rule, which is added at the end if it is new. -/
def count (result : Result) : List Tally → List Tally
  | [] => [⟨result.ruleName, result.passed.toNat, (!result.passed).toNat⟩]
  | tally :: tallies =>
    if tally.ruleName = result.ruleName then
      ⟨tally.ruleName, tally.passed + result.passed.toNat, tally.failed + (!result.passed).toNat⟩
        :: tallies
    else tally :: count result tallies

/-- A failed result, as the summary shows it. -/
def failureOf (result : Result) : Failure :=
  ⟨result.rowIndex, result.ruleName, result.message, result.row.display⟩

/-- The summary with one more result: it is counted, for its rule and in all, and shown if it
    failed. -/
def add (summary : Summary) (result : Result) : Summary :=
  let summary := { summary with tallies := count result summary.tallies }
  if result.passed then { summary with passed := summary.passed + 1 }
  else { summary with
    failed := summary.failed + 1
    failures := summary.failures ++ [failureOf result] }

/-- The summary of a list of results, without faults, in one pass. -/
def ofResults (results : List Result) : Summary :=
  results.foldl add ⟨results.length, 0, 0, [], [], []⟩

/-- The summary of a run. -/
def ofRun (run : Run) : Summary :=
  { ofResults run.results with faults := run.faults.map ReferenceError.message }

/-- Did nothing fail? -/
def isClean (summary : Summary) : Bool := summary.failed == 0

/-- A tally as JSON. -/
def tallyToJson (tally : Tally) : Json :=
  .ofFields [("rule_name", .ofString tally.ruleName), ("passed", .ofNat tally.passed),
    ("failed", .ofNat tally.failed)]

/-- A failure as JSON. -/
def failureToJson (failure : Failure) : Json :=
  .ofFields [("row_index", .ofNat failure.rowIndex), ("rule_name", .ofString failure.ruleName),
    ("message", .ofString failure.message), ("row_data", .ofString failure.row)]

/-- A list as a field of a record, unless it is empty. -/
def fieldUnlessEmpty (name : String) (items : List Json) : List (String × Json) :=
  if items.isEmpty then [] else [(name, .array items)]

/-- The summary as JSON. -/
def toJson (summary : Summary) : Json :=
  .ofFields ([("total", .ofNat summary.total), ("passed", .ofNat summary.passed),
    ("failed", .ofNat summary.failed), ("rules", .array (summary.tallies.map tallyToJson))]
    ++ fieldUnlessEmpty "failures" (summary.failures.map failureToJson)
    ++ fieldUnlessEmpty "reference_errors" (summary.faults.map .ofString))

end Summary

/-! ## Results as JSON -/

/-- A result as JSON. -/
def Result.toJson (result : Result) : Json :=
  .ofFields [("row_index", .ofNat result.rowIndex), ("rule_name", .ofString result.ruleName),
    ("passed", .bool result.passed), ("message", .ofString result.message),
    ("row_data", result.row.toJson)]

end TableRules
