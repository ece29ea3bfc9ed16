/-
  BOUND CONDITIONS: a condition that was parsed against the columns finds its cells in every row.

  1. **Binding** — columns are looked up twice, when an expression is parsed and when a row is
     tested.  A condition is bound to columns if all that it names is one of them and its bare word
     is none (`Condition.Bound`).  Whatever is parsed is bound.

  2. **Cells** — `Operand.Denotes` says what an operand stands for on a row: what is written, or
     the one cell of a column.  A row that has a field for each of the columns holds all the cells
     that a bound condition looks for, so no condition fails for want of one.

  3. **Negation** — hence unequal is the negation of equal on every row of a table that was read.
-/
import TableRules.Proofs.ParsedRules
import TableRules.Proofs.ReadTables
import TableRules.Proofs.RuleNames

namespace TableRules

open Expression

/-! ## Binding -/

/-- A condition names columns, and has a bare word only for what is none. -/
structure Condition.Bound (columns : List String) (c : Condition) : Prop where
  column : c.column ∈ columns
  operand : ∀ name, c.operand = .column name → name ∈ columns
  word : ∀ word, c.operand = .word word → word ∉ columns

/-- **Every condition that is read is bound.** -/
theorem Expression.bound_of_parseCondition? {segment : List Char} {columns : List String}
    {c : Condition} (h : parseCondition? segment columns = some c) : c.Bound columns := by
  have hformed := formed_of_parseCondition? h
  refine ⟨hformed.column, hformed.operand, fun word hword => ?_⟩
  rcases operand_of_parseCondition? h with ⟨s, hliteral⟩ | ⟨raw, hraw⟩
  · rw [hliteral] at hword
    cases hword
  · exact not_mem_of_resolveOperand (hraw.symm.trans hword)

/-- So are the conditions of a rule that a parser returns. -/
theorem Parser.bound_of_parse {parser : Parser} {registry : Registry} {expression : String}
    {columns : List String} {given : Option String} {rule : Rule}
    (h : (parser.parse registry expression columns given).result = .ok rule) {c : Condition}
    (hc : c ∈ rule.conditions) : c.Bound columns := by
  obtain ⟨name, hrule⟩ := exists_ruleOf_of_parse parser registry columns given h
  obtain ⟨segment, hread⟩ := exists_segment_of_ruleOf hrule hc
  exact bound_of_parseCondition? hread

/-! ## Cells -/

/-- What an operand stands for on a row.  A bare word is never a cell. -/
inductive Operand.Denotes (row : Row) : Operand → Cell → Prop where
  /-- Quoted text stands for itself, ... -/
  | literal (s : String) : Denotes row (.literal s) (.text s)
  /-- ... a column for the cell of its field, ... -/
  | column {name : String} {cell : Cell} (h : (name, cell) ∈ row.fields) :
      Denotes row (.column name) cell
  /-- ... a number for itself, ... -/
  | int (value : Int64) : Denotes row (.int value) (.int value)
  | float (value : Double) : Denotes row (.float value) (.float value)
  /-- ... and a bare word too, where no field has its name. -/
  | word {s : String} (h : s ∉ row.fields.map Prod.fst) : Denotes row (.word s) (.text s)

section Cells

variable {row : Row} (hrow : (row.fields.map Prod.fst).Nodup)
include hrow

/-- A column has a cell. -/
theorem Row.exists_cell {name : String} (h : name ∈ row.fields.map Prod.fst) :
    ∃ cell, (name, cell) ∈ row.fields ∧ row.get? name = some cell := by
  obtain ⟨⟨name, cell⟩, hmem, rfl⟩ := List.mem_map.mp h
  exact ⟨cell, hmem, (get?_eq_some_iff hrow).mpr hmem⟩

namespace Condition.Bound

variable {c : Condition} (h : c.Bound (row.fields.map Prod.fst))
include h

/-- The operand is resolved to what it stands for. -/
theorem exists_denoted :
    ∃ expected, c.operand.Denotes row expected ∧ c.operand.resolve? row = some expected := by
  cases hoperand : c.operand with
  | literal s => exact ⟨_, .literal s, rfl⟩
  | column name =>
    obtain ⟨cell, hmem, hcell⟩ := Row.exists_cell hrow (h.operand name hoperand)
    exact ⟨cell, .column hmem, hcell⟩
  | int value => exact ⟨_, .int value, rfl⟩
  | float value => exact ⟨_, .float value, rfl⟩
  | word s =>
    have hnone := h.word s hoperand
    refine ⟨_, .word hnone, ?_⟩
    rw [Operand.resolve?, Row.get?_eq_none_iff.mpr hnone]
    rfl

/-- **A bound condition finds its cells**, and holds if its comparison does between them. -/
theorem exists_cells : ∃ cell expected, (c.column, cell) ∈ row.fields ∧
    row.get? c.column = some cell ∧ c.operand.Denotes row expected ∧
    c.operand.resolve? row = some expected := by
  obtain ⟨cell, hmem, hcell⟩ := Row.exists_cell hrow h.column
  obtain ⟨expected, hdenotes, hresolve⟩ := h.exists_denoted hrow
  exact ⟨cell, expected, hmem, hcell, hdenotes, hresolve⟩

end Condition.Bound

end Cells

/-- Where both cells are found, a condition holds if its comparison does between them. -/
theorem Condition.holds_of_found {row : Row} {c : Condition} {cell expected : Cell}
    (hcell : row.get? c.column = some cell) (hexpected : c.operand.resolve? row = some expected)
    (comparison : Comparison) :
    ({ c with comparison } : Condition).holds row = comparison.holds cell expected := by
  simp only [Condition.holds, hcell, hexpected]

/-! ## Negation -/

/-- **No condition misses a cell.**  On every row of a table that was read, each condition of a rule
    that was parsed against its columns finds the one cell of its column and what its operand stands
    for: the text that is quoted, the one cell of the column that is named, the number, or the bare
    word itself.  So it holds if its comparison does, and unequal is the negation of equal. -/
theorem Csv.parsed_conditions_find_cells {settings : Settings}
    {records : List (Option (List String))} {table : Table} {notices : List Notice}
    (htable : tableOfRecords settings records = .ok (table, notices)) {parser : Parser}
    {registry : Registry} {expression : String} {given : Option String} {rule : Rule}
    (hrule : (parser.parse registry expression table.columns given).result = .ok rule) {row : Row}
    (hrow : row ∈ table.rows) {c : Condition} (hc : c ∈ rule.conditions) :
    (row.fields.map Prod.fst).Nodup ∧
    ∃ cell expected, (c.column, cell) ∈ row.fields ∧ row.get? c.column = some cell ∧
      c.operand.Denotes row expected ∧ c.operand.resolve? row = some expected ∧
      c.holds row = c.comparison.holds cell expected ∧
      ({ c with comparison := .notEqual } : Condition).holds row =
        !({ c with comparison := .equal } : Condition).holds row := by
  have hrectangular := rectangular_of_read htable
  have hcolumns := hrectangular.rows row hrow
  have hnodup : (row.fields.map Prod.fst).Nodup := hcolumns ▸ hrectangular.columns
  have hbound : c.Bound (row.fields.map Prod.fst) := hcolumns ▸ Parser.bound_of_parse hrule hc
  obtain ⟨cell, expected, hmem, hcell, hdenotes, hresolve⟩ := hbound.exists_cells hnodup
  have hholds := Condition.holds_of_found hcell hresolve
  refine ⟨hnodup, cell, expected, hmem, hcell, hdenotes, hresolve, hholds c.comparison, ?_⟩
  rw [hholds .notEqual, hholds .equal]
  rfl

/-- Two columns of one name and one without, and a record that is too short for the last: a
    condition on it, with a bare word, is not false for want of a cell. -/
theorem Csv.parsed_conditions_find_cells_of_short_record :
    let records := [none, some ["A", "A", ""], some ["1", "x"]]
    let row : Row := ⟨[("A", .int 1), ("A1", .text "x"), ("column_3", .null)]⟩
    let table : Table := ⟨["A", "A1", "column_3"], [row]⟩
    let c : Condition := ⟨"column_3", .notEqual, .word "on"⟩
    let rule := Rule.ofConditions "r" [⟨"A", .lessThan, .column "A1"⟩, c] [.or]
      "A < A1 or COLUMN_3 != on"
    tableOfRecords ⟨',', 1, true⟩ records = .ok (table, []) ∧
      (Parser.fresh.parse .empty "A < A1 or COLUMN_3 != on" table.columns (some "r")).result =
        .ok rule ∧
      row ∈ table.rows ∧ c ∈ rule.conditions ∧
      (∃ cell, (c.column, cell) ∈ row.fields ∧ c.operand.resolve? row = some (.text "on")) ∧
      c.holds row = !({ c with comparison := .equal } : Condition).holds row := by
  intro records row table c rule
  have htable : tableOfRecords ⟨',', 1, true⟩ records = .ok (table, []) := by decide +kernel
  have hrule : (Parser.fresh.parse .empty "A < A1 or COLUMN_3 != on" table.columns
      (some "r")).result = .ok rule := by decide +kernel
  have hrow : row ∈ table.rows := List.mem_singleton_self row
  have hc : c ∈ rule.conditions := List.mem_cons_of_mem _ (List.mem_singleton_self c)
  obtain ⟨-, cell, expected, hmem, -, hdenotes, hresolve, -, hnegation⟩ :=
    parsed_conditions_find_cells htable hrule hrow hc
  cases hdenotes
  exact ⟨htable, hrule, hrow, hc, ⟨cell, hmem, hresolve⟩, hnegation⟩

end TableRules
