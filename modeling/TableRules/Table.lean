/-
  ROWS AND TABLES: what rules are applied to.

  A row is a list of named cells in order.  Names are compared exactly, and where a name is
  repeated the first cell answers for it.  A table is a list of columns and of rows; nothing
  forces a row to have the table's columns, though the readers see to it.
-/
import TableRules.Cell

namespace TableRules

/-- A row: its fields in order. -/
structure Row where
  fields : List (String × Cell)
deriving DecidableEq

namespace Row

/-- The cell of the first field of that name. -/
def get? (row : Row) (name : String) : Option Cell :=
  (row.fields.find? (·.1 == name)).map (·.2)

/-- Is there a field of that name? -/
def contains (row : Row) (name : String) : Bool := row.fields.any (·.1 == name)

/-- The cell of that name, or nothing. -/
def getOrNull (row : Row) (name : String) : Cell := (row.get? name).getD .null

/-- The number of fields. -/
def size (row : Row) : Nat := row.fields.length

/-- Has the row no fields? -/
def isEmpty (row : Row) : Bool := row.fields.isEmpty

/-- The row as reports show it. -/
def display (row : Row) : String :=
  "\x7b" ++ String.intercalate ", " (row.fields.map fun (name, cell) =>
    "'" ++ name ++ "': " ++ cell.display) ++ "\x7d"

end Row

/-- A table: its columns, and its rows in the order of their source. -/
structure Table where
  columns : List String
  rows : List Row
deriving DecidableEq

namespace Table

/-- The table without columns and rows. -/
def empty : Table := ⟨[], []⟩

/-- The number of rows. -/
def size (table : Table) : Nat := table.rows.length

/-- Has the table no rows? -/
def isEmpty (table : Table) : Bool := table.rows.isEmpty

/-- Appends a row. -/
def push (table : Table) (row : Row) : Table := ⟨table.columns, table.rows ++ [row]⟩

/-- The table whose rows give the columns their cells in order; what one list has more than
    the other is left out. -/
def ofCells (columns : List String) (rows : List (List Cell)) : Table :=
  ⟨columns, rows.map fun cells => ⟨columns.zip cells⟩⟩

end Table

example : Row.display ⟨[("A", .int 5), ("X", .text "cc_r")]⟩ = "\x7b'A': 5, 'X': 'cc_r'\x7d" := by
  decide +kernel

end TableRules
