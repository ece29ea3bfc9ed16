/-
  STORED TABLES: cells, rows and tables as JSON.

  A cell is stored without a tag, as the JSON value of its kind, and its kind is told by that
  value: an integer that fits 64 bits is an integer cell and any other number a double.  A
  double that is not finite is stored as `null`, and so reads back as nothing.
-/
import TableRules.Json.Record
import TableRules.Table

namespace TableRules

/-! ## Writing -/

/-- A cell as JSON. -/
def Cell.toJson : Cell → Json
  | int i => .ofInt i.toInt
  | float v => .ofDouble v
  | bool b => .bool b
  | text s => .ofString s
  | null => .null

/-- A row as JSON. -/
def Row.toJson (row : Row) : Json :=
  .ofFields [("field_values", .array (row.fields.map fun (name, cell) =>
    .ofFields [("name", .ofString name), ("value", cell.toJson)]))]

/-- A table as JSON. -/
def Table.toJson (table : Table) : Json :=
  .ofFields [("columns", .array (table.columns.map .ofString)),
    ("rows", .array (table.rows.map Row.toJson))]

/-! ## Reading -/

/-- The cell that a JSON value stands for. -/
def Cell.ofJson? (j : Json) : Option Cell :=
  match j with
  | .null => some .null
  | .bool b => some (.bool b)
  | .string _ => j.text?.map .text
  | .number _ =>
    match j.int64? with
    | some i => some (.int i)
    | none => j.double?.map .float
  | _ => none

/-- The field of a row that a JSON record stands for. -/
def Row.fieldOfJson? (j : Json) : Option (String × Cell) := do
  match ← j.fields? ["name", "value"] with
  | [some name, some value] => pure (← name.text?, ← Cell.ofJson? value)
  | _ => none

/-- The row that a JSON record stands for. -/
def Row.ofJson? (j : Json) : Option Row := do
  match ← j.fields? ["field_values"] with
  | [some fields] => pure ⟨← fields.list? Row.fieldOfJson?⟩
  | _ => none

/-- The table that a JSON record stands for. -/
def Table.ofJson? (j : Json) : Option Table := do
  match ← j.fields? ["columns", "rows"] with
  | [some columns, some rows] =>
    pure ⟨← columns.list? Json.text?, ← rows.list? Row.ofJson?⟩
  | _ => none

/-- The cell that a JSON text stands for. -/
def Cell.decode? (text : String) : Option Cell := (Json.read? text.toList).bind Cell.ofJson?

/-- The table that a JSON text stands for. -/
def Table.decode? (text : String) : Option Table := (Json.read? text.toList).bind Table.ofJson?

example : Cell.decode? "9223372036854775808" = some (.float (.ofInt (2 ^ 63))) := by
  decide +kernel
example : (Table.decode? "\x7b\"columns\":[],\"rows\":[\x7b\x7d]\x7d").isNone := by decide +kernel

end TableRules
