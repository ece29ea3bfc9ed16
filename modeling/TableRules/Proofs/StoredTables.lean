/-
  STORED TABLES: what comes back of a table that is written and read.

  A cell is stored without a tag, so nothing but the spelling of its value tells its kind.  That
  is enough:

  1. **Trials** — a JSON value is tried as each kind of cell in turn, integers first
     (`Cell.ofJson?_eq_findSome?`).  No double is taken for an integer, since a written double has
     a point or an exponent (`Json.int64?_ofDouble`); and no text is taken for anything else,
     whatever it spells, since it is written in quotes.

  2. **Cells** — `Cell.restored` is what a cell comes back as.  It is the cell itself, but for a
     double: a finite one comes back as some double, and one that is not finite as nothing.

  3. **Tables** — a table comes back as it was with `Cell.restored` of each cell in its place,
     whatever white space its layout puts between the tokens (`Table.decode?_write`).
-/
import Mathlib.Data.List.Forall2
import TableRules.Proofs.StoredDoubles
import TableRules.Stored.Tables

namespace TableRules

/-! ## Trials -/

/-- What is written of a double is not read as an integer. A finite double is spelled with a point
    or an exponent, and with either a number is only read as a double. -/
theorem Json.int64?_ofDouble (v : Double) : (ofDouble v).int64? = none := by
  cases v with
  | nan => rfl
  | signed negative rank hrank =>
    unfold ofDouble
    rw [← Spelt.map_lexeme_ofDouble?]
    cases hspelt : Spelt.ofDouble? (.signed negative rank hrank) with
    | none => rfl
    | some n =>
      -- the reader of numbers never takes the branch of integers
      have hnumber : (number n.lexeme).number? =
          (Number.double? n.negative n.whole n.fraction (n.exponent.getD 0)).map .double := by
        show Number.read? n.lexeme = _
        rw [n.read?_lexeme, if_neg (Spelt.not_integer hspelt)]
        rfl
      show (number n.lexeme).int64? = none
      unfold int64? intWithin?
      rw [hnumber]
      cases Number.double? n.negative n.whole n.fraction (n.exponent.getD 0) <;> rfl

namespace Cell

/-- The kinds of a cell in the order in which they are tried, each with the values that it
    takes. -/
def trials : List (Json → Option Cell) := [
    fun j => j.int64?.map int,
    fun j => j.double?.map float,
    fun j => j.bool?.map bool,
    fun j => j.text?.map text,
    fun j => match j with
      | .null => some null
      | _ => none]

/-- A JSON value is the cell of the first kind that takes it. -/
theorem ofJson?_eq_findSome? (j : Json) : ofJson? j = trials.findSome? (· j) := by
  cases j with
  | null | bool b | array items | object members => rfl
  | string s =>
    show (Json.string s).text?.map text = _
    cases htext : (Json.string s).text? <;>
      simp [trials, htext, Json.int64?, Json.intWithin?, Json.number?, Json.double?, Json.bool?]
  | number s =>
    cases hint : (Json.number s).int64? <;> cases hdouble : (Json.number s).double? <;>
      simp [ofJson?, trials, hint, hdouble, Json.bool?, Json.text?]

/-! ## Cells -/

/-- Does the cell hold no double, or a finite one? -/
def isFinite : Cell → Bool
  | float v => v.isFinite
  | _ => true

/-- What a cell comes back as, when it is stored. -/
def restored : Cell → Cell
  | float v => (v.restored?.map float).getD null
  | cell => cell

/-- **A cell comes back**, whatever it holds. One case for each kind: the kinds that are tried
    before it refuse what is written of it, and its own takes it. -/
theorem ofJson?_toJson (cell : Cell) : ofJson? cell.toJson = some cell.restored := by
  rw [ofJson?_eq_findSome?]
  cases cell with
  | int i =>
    show (trials.findSome? fun trial => trial (.ofInt i.toInt)) = some (int i)
    simp [trials]
  | float v =>
    cases hrestored : v.restored? with
    | some w =>
      have hdouble : (Json.ofDouble v).double? = some w := hrestored
      simp [trials, toJson, restored, Json.int64?_ofDouble, hdouble, hrestored]
    | none =>
      -- what cannot be read as a double is not finite, so that `null` is written
      have hfinite := v.restored?_eq_none_iff.mp hrestored
      simp only [toJson, restored, hrestored, Json.ofDouble_of_not_isFinite hfinite]
      rfl
  | bool b => rfl
  | text s =>
    show (trials.findSome? fun trial => trial (.ofString s)) = some (text s)
    have hdouble : (Json.ofString s).double? = none := rfl
    have hint : (Json.ofString s).int64? = none := rfl
    have hbool : (Json.ofString s).bool? = none := rfl
    simp [trials, hint, hdouble, hbool]
  | null => rfl

/-- A cell of the same kind: the same cell, or for a double the double that it comes back as. -/
inductive Kept : Cell → Cell → Prop
  | same (cell : Cell) : Kept cell cell
  | double {v w : Double} (h : v.restored? = some w) : Kept (float v) (float w)

/-- A cell without an infinity or a NaN stays in its kind. -/
theorem kept_restored {cell : Cell} (h : cell.isFinite = true) : cell.Kept cell.restored := by
  cases cell with
  | int i | bool b | text s | null => exact .same _
  | float v =>
    cases hrestored : v.restored? with
    | none =>
      have hfinite : v.isFinite = true := h
      rw [v.restored?_eq_none_iff.mp hrestored] at hfinite
      cases hfinite
    | some w =>
      rw [restored, hrestored]
      exact .double hrestored

/-- A double that is not finite comes back as nothing. -/
theorem restored_of_not_isFinite {cell : Cell} (h : cell.isFinite = false) :
    cell.restored = null := by
  cases cell with
  | int i | bool b | text s | null => cases h
  | float v =>
    rw [restored, Double.restored?_of_not_isFinite h]
    rfl

/-- The cell, or nothing in place of a double that is not finite. -/
def finiteOrNull (cell : Cell) : Cell := if cell.isFinite then cell else null

/-- To put nothing in place of such a double before storing changes nothing about what comes
    back. -/
theorem restored_finiteOrNull (cell : Cell) : cell.finiteOrNull.restored = cell.restored := by
  unfold finiteOrNull
  split
  next => rfl
  next h => exact (restored_of_not_isFinite (by simpa using h)).symm

/-- What is written of a cell is spelled. -/
theorem spelled_toJson (cell : Cell) : cell.toJson.Spelled := by
  cases cell with
  | int i => exact Json.spelled_ofInt _
  | float v => exact Json.spelled_ofDouble v
  | bool b => exact .bool b
  | text s => exact Json.spelled_ofString s
  | null => exact .null

end Cell

/-! ## Rows

  Names and cells are stored side by side, and come back side by side. -/

namespace Row

/-- The row with a function applied to each of its cells. -/
def mapCells (f : Cell → Cell) (row : Row) : Row :=
  ⟨row.fields.map fun (name, cell) => (name, f cell)⟩

/-- The same names in the same order, with related cells. -/
def Matches (R : Cell → Cell → Prop) (row row' : Row) : Prop :=
  List.Forall₂ (fun field field' => field'.1 = field.1 ∧ R field.2 field'.2) row.fields row'.fields

/-- A row matches itself under a function that relates each of its cells to the result. -/
theorem matches_mapCells {R : Cell → Cell → Prop} {f : Cell → Cell} {row : Row}
    (h : ∀ field ∈ row.fields, R field.2 (f field.2)) : row.Matches R (row.mapCells f) := by
  unfold Matches mapCells
  rw [List.forall₂_map_right_iff, List.forall₂_same]
  intro field hfield
  exact ⟨rfl, h field hfield⟩

/-- A named cell comes back with its name. -/
theorem fieldOfJson?_ofFields (name : String) (cell : Cell) :
    fieldOfJson? (.ofFields [("name", .ofString name), ("value", cell.toJson)]) =
      some (name, cell.restored) := by
  have hfields : (Json.ofFields [("name", .ofString name), ("value", cell.toJson)]).fields?
      ["name", "value"] = some [some (.ofString name), some cell.toJson] :=
    Json.fields?_ofFields (show ["name", "value"].Nodup by decide)
  unfold fieldOfJson?
  rw [hfields]
  simp [Cell.ofJson?_toJson]

/-- **A row comes back** with its names, and its cells as they come back. -/
theorem ofJson?_toJson (row : Row) : ofJson? row.toJson = some (row.mapCells Cell.restored) := by
  have hfields : row.toJson.fields? ["field_values"] =
      some [some (.array (row.fields.map fun (name, cell) =>
        .ofFields [("name", .ofString name), ("value", cell.toJson)]))] :=
    Json.fields?_ofFields (show ["field_values"].Nodup by decide)
  unfold ofJson?
  rw [hfields]
  simp only [Option.bind_eq_bind, Option.bind_some, Json.list?_array_map, fieldOfJson?_ofFields]
  rw [mapM_eq_some_map_iff.mpr fun field _ => rfl]
  rfl

/-- What is written of a row is spelled. -/
theorem spelled_toJson (row : Row) : row.toJson.Spelled := by
  have hfield : ∀ field : String × Cell, (Json.ofFields
      [("name", .ofString field.1), ("value", field.2.toJson)]).Spelled := by
    intro field
    apply Json.spelled_ofFields
    simp [Json.spelled_ofString, Cell.spelled_toJson]
  apply Json.spelled_ofFields
  simp [Json.spelled_array_map hfield]

end Row

/-! ## Tables -/

namespace Table

/-- The cells of a table, row by row. -/
def cells (table : Table) : List Cell := table.rows.flatMap fun row => row.fields.map (·.2)

/-- The table with a function applied to each of its cells. -/
def mapCells (f : Cell → Cell) (table : Table) : Table :=
  ⟨table.columns, table.rows.map (Row.mapCells f)⟩

/-- The same columns and as many rows, with the same names in each and related cells. -/
structure Matches (R : Cell → Cell → Prop) (table table' : Table) : Prop where
  columns : table'.columns = table.columns
  rows : List.Forall₂ (Row.Matches R) table.rows table'.rows

/-- A table matches itself under such a function, row by row. -/
theorem matches_mapCells {R : Cell → Cell → Prop} {f : Cell → Cell} {table : Table}
    (h : ∀ cell ∈ table.cells, R cell (f cell)) : table.Matches R (table.mapCells f) := by
  constructor
  · rfl
  · unfold mapCells
    rw [List.forall₂_map_right_iff, List.forall₂_same]
    intro row hrow
    apply Row.matches_mapCells
    intro field hfield
    exact h field.2 (List.mem_flatMap.mpr ⟨row, hrow, List.mem_map_of_mem hfield⟩)

/-- Two functions applied to the cells one after the other are their composition. -/
theorem mapCells_mapCells (f g : Cell → Cell) (table : Table) :
    (table.mapCells g).mapCells f = table.mapCells fun cell => f (g cell) := by
  simp [mapCells, Row.mapCells, Function.comp_def]

/-- **A table comes back** with its columns and its rows as they come back. -/
theorem ofJson?_toJson (table : Table) :
    ofJson? table.toJson = some (table.mapCells Cell.restored) := by
  have hfields : table.toJson.fields? ["columns", "rows"] =
      some [some (.array (table.columns.map .ofString)), some (.array (table.rows.map Row.toJson))] :=
    Json.fields?_ofFields (show ["columns", "rows"].Nodup by decide)
  have hcolumns := Json.list?_array_map_of_some Json.ofString Json.text? Json.text?_ofString
    table.columns
  have hrows : table.rows.mapM (fun row => Row.ofJson? row.toJson) =
      some (table.rows.map (Row.mapCells Cell.restored)) :=
    mapM_eq_some_map_iff.mpr fun row _ => row.ofJson?_toJson
  unfold ofJson?
  rw [hfields]
  simp only [Option.bind_eq_bind, Option.bind_some, hcolumns, Json.list?_array_map, hrows]
  rfl

/-- What is written of a table is spelled. -/
theorem spelled_toJson (table : Table) : table.toJson.Spelled := by
  apply Json.spelled_ofFields
  simp [Json.spelled_array_map Json.spelled_ofString, Json.spelled_array_map Row.spelled_toJson]

/-- **What is read of a written table** is the table with its cells as they come back. -/
theorem decode?_write {layout : Json.Layout} (hlayout : layout.Loose) (table : Table) :
    decode? (table.toJson.write layout) = some (table.mapCells Cell.restored) := by
  unfold decode?
  rw [Json.read?_write hlayout table.spelled_toJson, Option.bind_some, ofJson?_toJson]

/-- **A table comes back with every cell in its kind.**  A table whose doubles are all finite
    does, with the same columns and the same names, and every cell that is not a double as it
    was.  Any other table comes back as if the doubles that are not finite were nothing. -/
theorem comes_back_in_kind {layout : Json.Layout} (hlayout : layout.Loose) :
    (∀ table : Table, (∀ cell ∈ table.cells, cell.isFinite = true) →
      ∃ restored, decode? (table.toJson.write layout) = some restored ∧
        table.Matches Cell.Kept restored) ∧
    ∀ table : Table, ∃ restored, decode? (table.toJson.write layout) = some restored ∧
      decode? ((table.mapCells Cell.finiteOrNull).toJson.write layout) = some restored ∧
      table.Matches (fun cell cell' =>
        if cell.isFinite then cell.Kept cell' else cell' = .null) restored := by
  constructor
  · intro table hfinite
    refine ⟨table.mapCells Cell.restored, decode?_write hlayout table, ?_⟩
    exact matches_mapCells fun cell hcell => Cell.kept_restored (hfinite cell hcell)
  · intro table
    -- what comes back is the same table in both parts; here cell by cell it is kept or nothing
    refine ⟨table.mapCells Cell.restored, decode?_write hlayout table, ?_, ?_⟩
    · rw [decode?_write hlayout, mapCells_mapCells]
      simp only [Cell.restored_finiteOrNull]
    · apply matches_mapCells
      intro cell _
      split
      next h => exact Cell.kept_restored h
      next h => exact Cell.restored_of_not_isFinite (by simpa using h)

/-- A table whose cells are easily taken for others: the least and the greatest integer, doubles
    without a fraction, small and large, and texts that spell numbers, words and quotes; its rows
    repeat a name and do not keep to the columns. -/
def awkwardTable : Table := ⟨["É🎉", "É🎉"], [
    ⟨[("n", .int Int64.minValue), ("n", .int Int64.maxValue), ("", .float (.ofInt 12))]⟩,
    ⟨[("x", .float (.ofInt (10 ^ 16))), ("\"\\\u0000", .text "12"), ("y", .text "null")]⟩,
    ⟨[("b", .bool true), ("t", .text "true"), ("t", .text ""), ("0", .null), ("s", .text "\"1.5\"\n")]⟩,
    ⟨[]⟩]⟩

/-- The same table with one more row, of which one cell is infinite. -/
def infiniteTable : Table :=
  awkwardTable.push ⟨[("i", .float (.ofRank true Double.infinityRank)), ("j", .int 7)]⟩

/-- Both parts hold of these: the first of the awkward table, the second of the one with the
    infinite cell. -/
theorem comes_back_in_kind_of_awkward_cells :
    Json.Layout.compact.Loose ∧ (∀ cell ∈ awkwardTable.cells, cell.isFinite = true) ∧
    (∃ restored, decode? (awkwardTable.toJson.write .compact) = some restored ∧
      awkwardTable.Matches Cell.Kept restored) ∧
    ∃ restored, decode? (infiniteTable.toJson.write .compact) = some restored ∧
      decode? ((infiniteTable.mapCells Cell.finiteOrNull).toJson.write .compact) = some restored ∧
      infiniteTable.Matches (fun cell cell' =>
        if cell.isFinite then cell.Kept cell' else cell' = .null) restored := by
  have hfinite : ∀ cell ∈ awkwardTable.cells, cell.isFinite = true := by decide +kernel
  exact ⟨Json.loose_compact, hfinite,
    (comes_back_in_kind Json.loose_compact).1 awkwardTable hfinite,
    (comes_back_in_kind Json.loose_compact).2 infiniteTable⟩

end Table

end TableRules
