/-
  RULES: named combinations of conditions, or of other rules.

  * An `Operand` is the right-hand side of a condition: a quoted literal, another column of
    the row, a number, or a bare word.
  * A `Condition` compares a column with an operand.
  * A `Rule` joins its conditions by connectives; a rule without conditions that refers to
    other rules joins their outcomes instead.  Connective `i` stands between items `i` and
    `i + 1`; a rule may hold more connectives than that, or fewer.
  * A `RuleSet` is what is stored.

  `display` is how each is shown to a reader.
-/
import TableRules.Comparison
import TableRules.Table

namespace TableRules

/-! ## Operands -/

/-- The right-hand side of a condition. -/
inductive Operand where
  /-- Quoted text, which is never taken for a column. -/
  | literal (value : String)
  /-- Another column of the same row. -/
  | column (name : String)
  | int (value : Int64)
  | float (value : Double)
  /-- A bare word that named no column when the rule was parsed. -/
  | word (value : String)
deriving DecidableEq

namespace Operand

/-- The operand as a cell, if it does not depend on the row. -/
def constant? : Operand → Option Cell
  | literal s => some (.text s)
  | word s => some (.text s)
  | int i => some (.int i)
  | float v => some (.float v)
  | column _ => none

/-- Is the operand quoted text? -/
def isLiteral : Operand → Bool
  | literal _ => true
  | _ => false

/-- The column that the operand names. -/
def column? : Operand → Option String
  | column name => some name
  | _ => none

/-- The operand that a number written in a text denotes. -/
def ofNumeral : Numeral → Operand
  | .int i => int i
  | .float v => float v

/-- The operand as it is shown: a literal in double quotes, all else as it is. -/
def display : Operand → String
  | literal s => "\"" ++ s ++ "\""
  | column name => name
  | int i => String.ofList (intText i.toInt)
  | float v => String.ofList v.plain
  | word s => s

end Operand

/-! ## Conditions -/

/-- The comparison of a column with an operand. -/
structure Condition where
  column : String
  comparison : Comparison
  operand : Operand
deriving DecidableEq

/-- The condition as it is shown. -/
def Condition.display (c : Condition) : String :=
  c.column ++ " " ++ c.comparison.symbol ++ " " ++ c.operand.display

/-! ## Rules -/

/-- A named rule. -/
structure Rule where
  name : String
  conditions : List Condition
  connectives : List Connective
  /-- What is reported for a row that satisfies the rule. -/
  action : String
  description : String
  /-- The names of the rules it refers to. -/
  references : List String
  enabled : Bool
deriving DecidableEq

namespace Rule

/-- The report of a rule for which no other was chosen. -/
def defaultAction (name : String) : String := name ++ " validation"

/-- A rule that joins conditions. -/
def ofConditions (name : String) (conditions : List Condition) (connectives : List Connective)
    (description : String) : Rule :=
  ⟨name, conditions, connectives, defaultAction name, description, [], true⟩

/-- A rule that joins other rules. -/
def ofReferences (name : String) (references : List String) (connectives : List Connective)
    (description : String) : Rule :=
  ⟨name, [], connectives, defaultAction name, description, references, true⟩

/-- Does the rule join other rules?  Where there are conditions, they count. -/
def isReference (rule : Rule) : Bool := rule.conditions.isEmpty && !rule.references.isEmpty

/-- Items with the connective of the same position after each but the last.  Where there is
    no connective, nothing stands between two items. -/
def joinItems : List String → List Connective → String
  | [], _ => ""
  | [item], _ => item
  | item :: items, [] => item ++ joinItems items []
  | item :: items, c :: cs => item ++ " " ++ c.symbol ++ " " ++ joinItems items cs

/-- The rule as it is shown, in three lines. -/
def display (rule : Rule) : String :=
  let (head, items) :=
    if rule.isReference then ("References: ", rule.references)
    else ("Conditions: ", rule.conditions.map Condition.display)
  "Rule: " ++ rule.name ++ "\n" ++ head ++ joinItems items rule.connectives
    ++ "\nAction: " ++ rule.action

end Rule

/-! ## Rule sets -/

/-- The rules that are stored together. -/
structure RuleSet where
  version : UInt32
  rules : List Rule
deriving DecidableEq

/-- The version of the stored form. -/
def RuleSet.currentVersion : UInt32 := 1

/-- A set of the current version. -/
def RuleSet.ofRules (rules : List Rule) : RuleSet := ⟨currentVersion, rules⟩

example : (Condition.mk "X" .equal (.literal "on")).display = "X == \"on\"" := by decide +kernel
example : Rule.joinItems ["a", "b", "c"] [.and] = "a and bc" := by decide +kernel

end TableRules
