/-
  JSON AS DATA: how a record, a choice and the simple values are taken from a JSON value.

  * A RECORD of named fields is an object, whose members may come in any order and among others
    that are ignored, but no field twice; or an array of the fields in their order, of which
    some at the end may be missing.  `fields?` gives the value of each field, or says that it
    is absent; what an absent field means is for the record to say.
  * A CHOICE among named alternatives without content is the name as a string, or an object
    with the name as its one member and `null` as that member's value.
  * Texts, integers, doubles and truth values are read strictly: no kind stands for another,
    except that an integer may stand where a double is asked for.
-/
import TableRules.Json.Document

namespace TableRules.Json

/-- The text that a JSON string stands for. -/
def text? : Json → Option String
  | .string s => (Quoted.unescape? s).map String.ofList
  | _ => none

/-- A truth value. -/
def bool? : Json → Option Bool
  | .bool b => some b
  | _ => none

/-- What a JSON number stands for. -/
def number? : Json → Option Number
  | .number s => Number.read? s
  | _ => none

/-- An integer within a range. -/
def intWithin? (least greatest : Int) (j : Json) : Option Int :=
  match j.number? with
  | some (.integer i) => if least ≤ i ∧ i ≤ greatest then some i else none
  | _ => none

/-- An integer of 64 bits. -/
def int64? (j : Json) : Option Int64 :=
  (j.intWithin? Int64.minValue.toInt Int64.maxValue.toInt).map Int64.ofInt

/-- A natural number of 32 bits. -/
def uint32? (j : Json) : Option UInt32 :=
  (j.intWithin? 0 (UInt32.size - 1 : Nat)).map fun i => UInt32.ofNat i.toNat

/-- A double; an integer is rounded to the nearest. -/
def double? (j : Json) : Option Double :=
  match j.number? with
  | some (.integer i) => some (.ofInt i)
  | some (.double v) => some v
  | none => none

/-- The items of an array, each read by `item?`. -/
def list? {α : Type} (item? : Json → Option α) : Json → Option (List α)
  | .array items => items.mapM item?
  | _ => none

/-- The value of the one member of that name: `none` if there are two, `some none` if there is
    no such member. -/
def single? (members : List (List Char × Json)) (name : String) : Option (Option Json) :=
  match members.filter (·.1 == name.toList) with
  | [] => some none
  | [(_, j)] => some (some j)
  | _ => none

/-- The values of a record's fields, in the order of their names. -/
def fields? (names : List String) : Json → Option (List (Option Json))
  | .object members => do
    let members ← members.mapM fun (name, j) => (Quoted.unescape? name).map fun name => (name, j)
    names.mapM (single? members)
  | .array items =>
    if items.length ≤ names.length then
      some (items.map some ++ List.replicate (names.length - items.length) none)
    else none
  | _ => none

/-- The name of a chosen alternative. -/
def choice? : Json → Option String
  | .string s => (Quoted.unescape? s).map String.ofList
  | .object [(name, .null)] => (Quoted.unescape? name).map String.ofList
  | _ => none

end TableRules.Json
