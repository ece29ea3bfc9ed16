/-
  READING DELIMITED TEXT: from records to a table.

  The records above the header row are skipped, whatever bytes they hold.  The fields of all
  others must be UTF-8.  The header record names the columns; without one there are as many
  columns as the widest record has fields, named by position.

  Every row gets one cell for each column: the cell inferred from the field at the column's
  position, or nothing where the record is too short.  Fields beyond the columns are ignored,
  with a notice.
-/
import TableRules.Csv.Header
import TableRules.Csv.Records
import TableRules.Notice
import TableRules.Table

namespace TableRules.Csv

/-- How an input is read. -/
structure Settings where
  delimiter : Char
  /-- The record that holds the names of the columns, counted from 0. -/
  headerRow : Nat
  hasHeaders : Bool

/-- Why an input gives no table. -/
inductive Error where
  | wideDelimiter (delimiter : Char)
  | noHeaderRow (row : Nat)
  | notText
deriving DecidableEq

/-- What is said about an input that gives no table. -/
def Error.message : Error → String
  | wideDelimiter delimiter =>
    "Invalid file format: Delimiter '" ++ String.singleton delimiter
      ++ "' is not a single-byte character"
  | noHeaderRow row => "Invalid file format: Header row " ++ toString row ++ " not found"
  | notText => "CSV parsing error: invalid UTF-8"

/-- The text of a field. -/
def decodeField? (bytes : RawField) : Option String := String.fromUTF8? ⟨bytes.toArray⟩

/-- The texts of a record. -/
def decodeRecord? (record : RawRecord) : Option (List String) := record.mapM decodeField?

/-! ## From records to rows -/

/-- The length of the longest record. -/
def width (records : List (List String)) : Nat := (records.map List.length).foldl max 0

/-- The row that a record gives under the columns. -/
def rowOf (columns : List String) (record : List String) : Row :=
  ⟨columns.zipIdx.map fun (name, i) => (name, (record[i]?.map Cell.infer).getD .null)⟩

/-- The table of the columns and the records. -/
def tableOf (columns : List String) (records : List (List String)) : Table :=
  ⟨columns, records.map (rowOf columns)⟩

/-- What is told about records that are too long. -/
def extraCells (columns : List String) (records : List (List String)) : List Notice :=
  records.zipIdx.filterMap fun (record, i) =>
    if columns.length < record.length then some (.extraCells i record.length columns.length)
    else none

/-- The columns and the records of the rows, from the records that are not skipped. -/
def splitHeader (settings : Settings) (records : List (List String)) :
    Except Error (List String × List (List String)) :=
  if settings.hasHeaders then
    match records with
    | [] => .error (.noHeaderRow settings.headerRow)
    | header :: records => .ok (headers header, records)
  else .ok ((List.range (width records)).map placeholder, records)

/-- The table that records give, and what is told about it.  A record may have no text. -/
def tableOfRecords (settings : Settings) (records : List (Option (List String))) :
    Except Error (Table × List Notice) := do
  match (records.drop settings.headerRow).mapM id with
  | none => .error .notText
  | some records =>
    let (columns, records) ← splitHeader settings records
    .ok (tableOf columns records, extraCells columns records)

/-- The table that an input gives, and what is told about it. -/
def read (settings : Settings) (input : List UInt8) : Except Error (Table × List Notice) :=
  if 128 ≤ settings.delimiter.toNat then .error (.wideDelimiter settings.delimiter)
  else tableOfRecords settings
    ((records settings.delimiter.toNat.toUInt8 input).map decodeRecord?)

end TableRules.Csv
