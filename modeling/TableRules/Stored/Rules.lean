/-
  STORED RULES: rules and rule sets as JSON.

  * Comparisons and connectives are stored by their symbols.
  * An operand is a record of a `kind` and a `value`, so that the number 5, the word `5` and
    the literal `"5"` stay apart.  The kind is a choice among names, but for an operand that is
    written as an array: there it is a string.
  * Of a rule only `name` and `action` must be there.  Lists default to empty, the description
    to the empty text, and a rule is enabled unless it says otherwise.
  * A rule set without a version has the current one.

  `RuleSet.encode` writes a set on indented lines, and `RuleSet.decode?` reads one back.
-/
import TableRules.Json.Record
import TableRules.Rule

namespace TableRules

/-! ## Writing -/

/-- The name of an operand's kind in its stored form. -/
def Operand.kind : Operand → String
  | literal _ => "literal"
  | column _ => "column"
  | int _ => "int"
  | float _ => "float"
  | word _ => "text"

/-- The content of an operand as JSON. -/
def Operand.content : Operand → Json
  | literal s => .ofString s
  | column name => .ofString name
  | int i => .ofInt i.toInt
  | float v => .ofDouble v
  | word s => .ofString s

/-- An operand as JSON. -/
def Operand.toJson (operand : Operand) : Json :=
  .ofFields [("kind", .ofString operand.kind), ("value", operand.content)]

/-- A condition as JSON. -/
def Condition.toJson (c : Condition) : Json :=
  .ofFields [("column", .ofString c.column), ("operator", .ofString c.comparison.symbol),
    ("value", c.operand.toJson)]

/-- A rule as JSON. -/
def Rule.toJson (rule : Rule) : Json :=
  .ofFields [
    ("name", .ofString rule.name),
    ("conditions", .array (rule.conditions.map Condition.toJson)),
    ("logical_ops", .array (rule.connectives.map fun c => .ofString c.symbol)),
    ("action", .ofString rule.action),
    ("description", .ofString rule.description),
    ("rule_references", .array (rule.references.map fun name =>
      .ofFields [("rule_name", .ofString name)])),
    ("enabled", .bool rule.enabled)]

/-- A rule set as JSON. -/
def RuleSet.toJson (set : RuleSet) : Json :=
  .ofFields [("version", .ofNat set.version.toNat), ("rules", .array (set.rules.map Rule.toJson))]

/-- The stored text of a rule set. -/
def RuleSet.encode (set : RuleSet) : String := set.toJson.write .pretty

/-! ## Reading -/

/-- The operand of a kind with that content. -/
def Operand.ofKind? (kind : String) (content : Json) : Option Operand :=
  match kind with
  | "literal" => content.text?.map literal
  | "column" => content.text?.map column
  | "int" => content.int64?.map int
  | "float" => content.double?.map float
  | "text" => content.text?.map word
  | _ => none

/-- The operand that a JSON record stands for.  As a member of an object its kind may be any
    form of a choice, as an item of an array only the plain name. -/
def Operand.ofJson? (j : Json) : Option Operand := do
  match ← j.fields? ["kind", "value"] with
  | [some kind, some content] =>
    match j with
    | .array _ => ofKind? (← kind.text?) content
    | _ => ofKind? (← kind.choice?) content
  | _ => none

/-- The condition that a JSON record stands for. -/
def Condition.ofJson? (j : Json) : Option Condition := do
  match ← j.fields? ["column", "operator", "value"] with
  | [some column, some comparison, some operand] =>
    pure ⟨← column.text?, ← comparison.choice?.bind Comparison.ofSymbol?,
      ← Operand.ofJson? operand⟩
  | _ => none

/-- The reference that a JSON record stands for. -/
def Rule.referenceOfJson? (j : Json) : Option String := do
  match ← j.fields? ["rule_name"] with
  | [some name] => name.text?
  | _ => none

/-- A field that may be absent: its value, or what it defaults to. -/
def Json.orDefault {α : Type} (default : α) (read? : Json → Option α) : Option Json → Option α
  | none => some default
  | some j => read? j

/-- The rule that a JSON record stands for. -/
def Rule.ofJson? (j : Json) : Option Rule := do
  match ← j.fields? ["name", "conditions", "logical_ops", "action", "description",
    "rule_references", "enabled"] with
  | [some name, conditions, connectives, some action, description, references, enabled] =>
    pure {
      name := ← name.text?
      conditions := ← Json.orDefault [] (Json.list? Condition.ofJson?) conditions
      connectives := ← Json.orDefault []
        (Json.list? fun j => j.choice?.bind Connective.ofSymbol?) connectives
      action := ← action.text?
      description := ← Json.orDefault "" Json.text? description
      references := ← Json.orDefault [] (Json.list? Rule.referenceOfJson?) references
      enabled := ← Json.orDefault true Json.bool? enabled }
  | _ => none

/-- The rule set that a JSON record stands for. -/
def RuleSet.ofJson? (j : Json) : Option RuleSet := do
  match ← j.fields? ["version", "rules"] with
  | [version, some rules] =>
    pure ⟨← Json.orDefault currentVersion Json.uint32? version, ← rules.list? Rule.ofJson?⟩
  | _ => none

/-- The rule set that a stored text stands for. -/
def RuleSet.decode? (text : String) : Option RuleSet :=
  (Json.read? text.toList).bind RuleSet.ofJson?

example : RuleSet.decode? "\x7b\"rules\":[]\x7d" = some ⟨1, []⟩ := by decide +kernel
example : RuleSet.decode? "\x7b\"rules\":[],\"rules\":[]\x7d" = none := by decide +kernel

end TableRules
