/-
  ARGUMENTS: what the command line asks for.

  1. **Items** — an argument is a flag, an option with its value, or positional.  A value stands
     behind `=` or in the next argument; there it may not start with a dash, unless it is the
     dash alone.  After `--` everything is positional.

  2. **Commands** — `validate`, `parse` and `rules`, each with options of its own.  No option
     may be given twice, but for `--columns`, whose values add up.  In place of a command the
     version may be asked for, by `--version` or `-V`.

  An argument list that fits no command is rejected as a whole.
-/
import TableRules.Number.Decimal
import TableRules.Text.Basic

namespace TableRules.Command

/-! ## Items -/

/-- An argument, or two that belong together. -/
inductive Item where
  | flag (name : String)
  | option (name value : String)
  | positional (text : String)
deriving DecidableEq

/-- The flags and the options that a command knows. -/
structure Grammar where
  flags : List String
  options : List String

/-- The name and the value behind `=` of an argument, without its dashes. -/
def splitLong (body : List Char) : String × Option String :=
  (String.ofList (body.takeWhile (· ≠ '=')),
   match body.dropWhile (· ≠ '=') with
   | [] => none
   | _ :: value => some (String.ofList value))

/-- Does an argument start like a flag or an option? -/
def isDashed (argument : String) : Bool := argument.toList.head? == some '-' && argument ≠ "-"

/-- The items of an argument list. -/
def items? (grammar : Grammar) : List String → Option (List Item)
  | [] => some []
  | argument :: rest =>
    if argument = "--" then some (rest.map .positional)
    else if !isDashed argument then (items? grammar rest).map (.positional argument :: ·)
    else match argument.toList with
      | '-' :: '-' :: body =>
        match splitLong body with
        | (name, some value) =>
          if name ∈ grammar.options then (items? grammar rest).map (.option name value :: ·)
          else none
        | (name, none) =>
          if name ∈ grammar.flags then (items? grammar rest).map (.flag name :: ·)
          else if name ∈ grammar.options then
            match rest with
            | [] => none
            | value :: rest =>
              if isDashed value then none
              else (items? grammar rest).map (.option name value :: ·)
          else none
      | _ => none

/-- The values of an option, in order. -/
def valuesOf (items : List Item) (name : String) : List String :=
  items.filterMap fun
    | .option n value => if n = name then some value else none
    | _ => none

/-- The positional arguments. -/
def positionals (items : List Item) : List String :=
  items.filterMap fun
    | .positional text => some text
    | _ => none

/-- The value of an option that may be absent, but not be there twice. -/
def optional (items : List Item) (name : String) : Option (Option String) :=
  match valuesOf items name with
  | [] => some none
  | [value] => some (some value)
  | _ => none

/-- The value of an option that must be there once. -/
def required (items : List Item) (name : String) : Option String :=
  match valuesOf items name with
  | [value] => some value
  | _ => none

/-- Is a flag set?  It may not be there twice. -/
def flagSet (items : List Item) (name : String) : Option Bool :=
  match items.filter (· == .flag name) with
  | [] => some false
  | [_] => some true
  | _ => none

/-! ## Values -/

/-- A row number: digits, perhaps after a plus, below `2^64`. -/
def parseRowNumber? (text : String) : Option Nat := do
  let cs := text.toList
  if cs.head? = some '-' then none
  else
    let n ← Decimal.parseInt? cs
    if n < UInt64.size then some n.toNat else none

/-- A value of one character. -/
def parseChar? (text : String) : Option Char :=
  match text.toList with
  | [c] => some c
  | _ => none

end Command

/-! ## Commands -/

/-- What `validate` is to do. -/
structure ValidateOptions where
  data : String
  rules : Option String
  ruleSet : Option String
  headerRow : Nat
  delimiter : Char
  output : Option String
  json : Bool
  saveRuleSet : Option String

/-- What the command line asks for. -/
inductive Command where
  /-- Validate the rows of a file. -/
  | validate (options : ValidateOptions)
  /-- Parse one expression and print the rule. -/
  | parse (columns : List String) (name : Option String) (expression : String)
  /-- List the rules of a stored set. -/
  | list (ruleSet : String)
  /-- Print name and version of the program. -/
  | version

namespace Command

/-- The command `validate`. -/
def parseValidate? (arguments : List String) : Option Command := do
  let items ← items? ⟨["json"], ["data", "rules", "rule-set", "header-row", "delimiter", "output",
    "save-rule-set"]⟩ arguments
  if positionals items ≠ [] then none
  else
    let headerRow ← optional items "header-row"
    let delimiter ← optional items "delimiter"
    some <| .validate {
      data := ← required items "data"
      rules := ← optional items "rules"
      ruleSet := ← optional items "rule-set"
      headerRow := ← parseRowNumber? (headerRow.getD "0")
      delimiter := ← parseChar? (delimiter.getD ",")
      output := ← optional items "output"
      json := ← flagSet items "json"
      saveRuleSet := ← optional items "save-rule-set" }

/-- The command `parse`. -/
def parseParse? (arguments : List String) : Option Command := do
  let items ← items? ⟨[], ["columns", "name"]⟩ arguments
  let name ← optional items "name"
  let columns := (valuesOf items "columns").flatMap (Text.split ',')
  match positionals items with
  | [expression] => some (.parse columns name expression)
  | _ => none

/-- The command `rules`. -/
def parseList? (arguments : List String) : Option Command := do
  let items ← items? ⟨[], ["rule-set"]⟩ arguments
  if positionals items ≠ [] then none else some (.list (← required items "rule-set"))

/-- The command of an argument list, unless it is rejected.  Where the version is asked for,
    whatever else is behind the `-V` or in later arguments does not count. -/
def ofArguments? : List String → Option Command
  | "validate" :: arguments => parseValidate? arguments
  | "parse" :: arguments => parseParse? arguments
  | "rules" :: arguments => parseList? arguments
  | "--version" :: _ => some .version
  | argument :: _ => if ['-', 'V'].isPrefixOf argument.toList then some .version else none
  | [] => none

end Command

end TableRules
