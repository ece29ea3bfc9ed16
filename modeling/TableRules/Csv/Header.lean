/-
  HEADERS: column names that tell the columns apart.

  Names are trimmed, and a blank one becomes `column_<n>` by its position from 1.  A name that
  an earlier column has already gets the least number from 1 on that makes it new: `A, B, A`
  becomes `A, B, A1`.
-/
import TableRules.Fresh
import TableRules.Text.Basic

namespace TableRules.Csv

/-- The name of a column without one, by its position from 0. -/
def placeholder (position : Nat) : String := "column_" ++ toString (position + 1)

/-- The name that a column would have if it were the only one. -/
def baseName (position : Nat) (raw : String) : String :=
  let name := Text.trimmed raw
  if name = "" then placeholder position else name

/-- A name that is not taken: the base, or the base with a number. -/
def distinctName (taken : List String) (base : String) : String :=
  if taken.contains base then
    base ++ toString (freshNumber taken.contains taken.length (fun n => base ++ toString n) 1)
  else base

/-- The names of the columns from a position on, when others are taken. -/
def headersFrom (taken : List String) : Nat → List String → List String
  | _, [] => []
  | position, raw :: rest =>
    let name := distinctName taken (baseName position raw)
    name :: headersFrom (name :: taken) (position + 1) rest

/-- The names of the columns. -/
def headers (raw : List String) : List String := headersFrom [] 0 raw

example : headers ["A", "A", "A1", "A"] = ["A", "A1", "A11", "A2"] := by decide +kernel
example : headers [" Voltage ", "", "  "] = ["Voltage", "column_2", "column_3"] := by
  decide +kernel

end TableRules.Csv
