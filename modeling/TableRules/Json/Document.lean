/-
  JSON DOCUMENTS: the tree of a JSON text, how it is read, and how it is written.

  1. **The tree** — `Json` keeps strings and numbers as lexemes, and the members of an object
     in their order, repetitions included.

  2. **Reading** — `Json.read?` cuts the text into tokens and builds the tree from them.  The
     builder takes at least one token every other step, which bounds it.

  3. **Writing** — `Json.write` is one printer for every LAYOUT, which says what stands between
     the tokens: nothing in `Layout.compact`; line breaks and indentation by two in
     `Layout.pretty`.  An empty array or object is written without a gap in either.
-/
import TableRules.Json.Number
import TableRules.Json.Quoted
import TableRules.Number.Printing

namespace TableRules

/-- A JSON value; strings, member names and numbers as they are spelled. -/
inductive Json where
  | null
  | bool (value : Bool)
  | number (lexeme : List Char)
  | string (lexeme : List Char)
  | array (items : List Json)
  | object (members : List (List Char × Json))

namespace Json

/-! ## Reading -/

mutual

/-- The value at the start of a list of tokens, and the tokens after it. -/
def ofTokens : Nat → List Token → Option (Json × List Token)
  | 0, _ => none
  | _ + 1, .null :: ts => some (.null, ts)
  | _ + 1, .bool b :: ts => some (.bool b, ts)
  | _ + 1, .number s :: ts => some (.number s, ts)
  | _ + 1, .string s :: ts => some (.string s, ts)
  | _ + 1, .openBracket :: .closeBracket :: ts => some (.array [], ts)
  | _ + 1, .openBrace :: .closeBrace :: ts => some (.object [], ts)
  | steps + 1, .openBracket :: ts => (itemsOfTokens steps ts).map fun (js, ts) => (.array js, ts)
  | steps + 1, .openBrace :: ts => (membersOfTokens steps ts).map fun (ms, ts) => (.object ms, ts)
  | _ + 1, _ => none

/-- The items of an array, up to its closing bracket. -/
def itemsOfTokens : Nat → List Token → Option (List Json × List Token)
  | 0, _ => none
  | steps + 1, ts =>
    match ofTokens steps ts with
    | some (j, .closeBracket :: ts) => some ([j], ts)
    | some (j, .comma :: ts) => (itemsOfTokens steps ts).map fun (js, ts) => (j :: js, ts)
    | _ => none

/-- The members of an object, up to its closing brace. -/
def membersOfTokens : Nat → List Token → Option (List (List Char × Json) × List Token)
  | 0, _ => none
  | steps + 1, .string name :: .colon :: ts =>
    match ofTokens steps ts with
    | some (j, .closeBrace :: ts) => some ([(name, j)], ts)
    | some (j, .comma :: ts) =>
      (membersOfTokens steps ts).map fun (ms, ts) => ((name, j) :: ms, ts)
    | _ => none
  | _ + 1, _ => none

end

/-- The value that a text denotes, with nothing but white space around it. -/
def read? (text : List Char) : Option Json := do
  let tokens ← Token.tokens? text
  match ofTokens (2 * tokens.length + 1) tokens with
  | some (j, []) => some j
  | _ => none

/-! ## Writing -/

/-- What stands between the tokens of a written value. -/
structure Layout where
  /-- Before an item, and before the closing bracket, at a nesting depth. -/
  breakAt : Nat → List Char
  /-- Between a member's name and its value. -/
  colon : List Char

/-- No gaps at all. -/
def Layout.compact : Layout := ⟨fun _ => [], [':']⟩

/-- Every item on a line of its own, indented by two for each level. -/
def Layout.pretty : Layout := ⟨fun depth => '\n' :: List.replicate (2 * depth) ' ', [':', ' ']⟩

mutual

/-- The text of a value at a nesting depth. -/
def writeAt (layout : Layout) (depth : Nat) : Json → List Char
  | .null => "null".toList
  | .bool b => (if b then "true" else "false").toList
  | .number s => s
  | .string s => '"' :: s ++ ['"']
  | .array [] => "[]".toList
  | .array (j :: js) =>
    '[' :: layout.breakAt (depth + 1) ++ writeAt layout (depth + 1) j
      ++ writeItems layout (depth + 1) js ++ layout.breakAt depth ++ [']']
  | .object [] => "\x7b\x7d".toList
  | .object ((name, j) :: ms) =>
    '\x7b' :: layout.breakAt (depth + 1) ++ '"' :: name ++ '"' :: layout.colon
      ++ writeAt layout (depth + 1) j
      ++ writeMembers layout (depth + 1) ms ++ layout.breakAt depth ++ ['\x7d']

/-- The items after the first, each after a comma. -/
def writeItems (layout : Layout) (depth : Nat) : List Json → List Char
  | [] => []
  | j :: js =>
    ',' :: layout.breakAt depth ++ writeAt layout depth j ++ writeItems layout depth js

/-- The members after the first, each after a comma. -/
def writeMembers (layout : Layout) (depth : Nat) : List (List Char × Json) → List Char
  | [] => []
  | (name, j) :: ms =>
    ',' :: layout.breakAt depth ++ '"' :: name ++ '"' :: layout.colon
      ++ writeAt layout depth j ++ writeMembers layout depth ms

end

/-- The text of a value. -/
def write (layout : Layout) (j : Json) : String := String.ofList (writeAt layout 0 j)

/-! ## Values as JSON -/

/-- A text as a JSON string. -/
def ofString (s : String) : Json := .string (Quoted.escape s.toList)

/-- An integer as a JSON number. -/
def ofInt (i : Int) : Json := .number (intText i)

/-- A natural number as a JSON number. -/
def ofNat (n : Nat) : Json := ofInt n

/-- A double as a JSON number; what is not finite becomes `null`. -/
def ofDouble (v : Double) : Json :=
  match v.json? with
  | some s => .number s
  | none => .null

/-- A record as a JSON object, its fields in the order given. -/
def ofFields (fields : List (String × Json)) : Json :=
  .object (fields.map fun (name, j) => (Quoted.escape name.toList, j))

example : (read? "\x7b\"a\": [1, true]\x7d".toList).map (write .compact)
    = some "\x7b\"a\":[1,true]\x7d" := by decide +kernel
example : write .pretty (.array [.null, .array []]) = "[\n  null,\n  []\n]" := by decide +kernel

end Json

end TableRules
