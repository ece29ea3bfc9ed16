/-
  CELLS: the values that the fields of a row hold.

  1. **Kinds** — an integer of 64 bits, a double, a truth value, a text, or nothing.
  2. **Inference** — `Cell.infer` gives a raw text the narrowest kind that reads it: nothing for
     the empty text, then an integer, then a double, then a truth value in any letter case.  A
     double must have a digit: `inf` and `nan` are words here.
  3. **Views** — a condition sees a cell as a number (`number?`, where a text counts if it reads
     as one after trimming) or as a text (`text`); reports show it by `display`.
-/
import TableRules.Number.Printing
import TableRules.Text.Basic

namespace TableRules

/-! ## Numbers written in a text -/

/-- A number as it is written: an integer, or a double. -/
inductive Numeral where
  | int (value : Int64)
  | float (value : Double)
deriving DecidableEq

/-- The number that a text with at least one digit denotes: an integer if it fits. -/
def Numeral.read? (cs : List Char) : Option Numeral :=
  match parseInt64? cs with
  | some i => some (.int i)
  | none => if cs.any Char.isDigit then (Double.parse? cs).map .float else none

/-! ## Cells -/

/-- The value of a field. -/
inductive Cell where
  | int (value : Int64)
  | float (value : Double)
  | bool (value : Bool)
  | text (value : String)
  | null
deriving DecidableEq

namespace Cell

/-- The cell that a number written in a text denotes. -/
def ofNumeral : Numeral → Cell
  | .int i => .int i
  | .float v => .float v

/-- The narrowest cell for a raw text. -/
def infer (raw : String) : Cell :=
  let cs := raw.toList
  if cs = [] then .null
  else match Numeral.read? cs with
    | some n => ofNumeral n
    | none =>
      let word := Text.lowerAscii cs
      if word = "true".toList then .bool true
      else if word = "false".toList then .bool false
      else .text raw

/-! ## Views -/

/-- The cell as a number. -/
def number? : Cell → Option Double
  | int i => some (.ofInt i.toInt)
  | float v => some v
  | bool b => some (.ofInt (if b then 1 else 0))
  | text s => Double.parse? (Text.trim s.toList)
  | null => none

/-- The word for a truth value. -/
def boolText (b : Bool) : String := if b then "true" else "false"

/-- The cell as a text, without quotes. -/
def asText : Cell → String
  | int i => String.ofList (intText i.toInt)
  | float v => String.ofList v.text
  | bool b => boolText b
  | text s => s
  | null => ""

/-- A text in single quotes, a quote inside it after a backslash. -/
def quote (s : String) : String :=
  String.ofList ('\'' :: s.toList.flatMap (fun c => if c = '\'' then ['\\', '\''] else [c]) ++ ['\''])

/-- The cell as reports show it: a text in quotes, and nothing as `NULL`. -/
def display : Cell → String
  | text s => quote s
  | null => "NULL"
  | cell => cell.asText

/-- Does the cell hold nothing? -/
def isNull : Cell → Bool
  | null => true
  | _ => false

example : infer "42" = .int 42 ∧ infer "" = .null ∧ infer "TRUE" = .bool true := by
  decide +kernel
example : infer "inf" = .text "inf" ∧ infer " 1" = .text " 1" := by decide +kernel
example : (infer "2.50").asText = "2.5" ∧ (infer "1e3").asText = "1000.0" := by decide +kernel
example : display (.text "it's") = "'it\\'s'" := by decide +kernel

end Cell

end TableRules
