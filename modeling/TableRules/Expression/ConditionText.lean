/-
  CONDITIONS IN A TEXT: how one segment of an expression is read.

  1. **Search conditions** — a segment that holds one of the words `contains`, `starts_with`
     and `ends_with` must be a column, such a word and a quoted text, with blanks between.  The
     column is the shortest that leaves a search behind it.

  2. **Comparisons** — otherwise the segment is split at the first lexeme, in the order of
     `lexemes`, that occurs anywhere in it.  The longer lexemes come first, so that `>=` is not
     taken for `>`.  If the left side names a column, the right is the operand; else, if the
     right side names one, the comparison is mirrored.

  3. **Names** — a column is found without regard to case, the first that fits; an operand names
     a column only by its exact name.  An operand is, in this order: quoted text, a column, a
     number, or a bare word.

  A segment that is none of these has no reading.
-/
import TableRules.Expression.Delimiter
import TableRules.Expression.Keyword
import TableRules.Rule

namespace TableRules.Expression

/-! ## Names and operands -/

/-- The column that a text names: the first whose name is the same in lower case. -/
def resolveColumn? (name : List Char) (columns : List String) : Option String :=
  let lowered := Text.lower name
  (columns.find? fun column => Text.lower column.toList == lowered).or
    (columns.find? fun column => column.toList == name)

/-- The operand that a text stands for. -/
def resolveOperand (raw : List Char) (columns : List String) : Operand :=
  let cs := Text.trim raw
  match unquote? cs with
  | some literal => .literal (String.ofList literal)
  | none =>
    if columns.any (·.toList == cs) then .column (String.ofList cs)
    else match Numeral.read? cs with
      | some n => .ofNumeral n
      | none => .word (String.ofList cs)

/-! ## Comparisons -/

/-- A way to write a comparison in an expression. -/
structure Lexeme where
  spelling : String
  comparison : Comparison
deriving DecidableEq

/-- The lexemes, in the order in which they are looked for. -/
def lexemes : List Lexeme := [
    ⟨">=", .greaterEqual⟩, ⟨"<=", .lessEqual⟩, ⟨"!=", .notEqual⟩, ⟨"==", .equal⟩,
    ⟨">", .greaterThan⟩, ⟨"<", .lessThan⟩, ⟨"=", .equal⟩]

/-- The first lexeme that occurs in a text, and the text before and after it. -/
def findLexeme? (cs : List Char) : Option (Lexeme × List Char × List Char) :=
  lexemes.findSome? fun lexeme => (Text.cutAt? lexeme.spelling.toList cs).map (lexeme, ·)

/-- The comparison that a text states. -/
def parseComparison? (cs : List Char) (columns : List String) : Option Condition := do
  let (lexeme, left, right) ← findLexeme? cs
  let left := Text.trim left
  let right := Text.trim right
  if left = [] ∨ right = [] then none
  else match resolveColumn? left columns, resolveColumn? right columns with
    | some column, _ => some ⟨column, lexeme.comparison, resolveOperand right columns⟩
    | none, some column => some ⟨column, lexeme.comparison.mirrored, resolveOperand left columns⟩
    | none, none => none

/-! ## Search conditions -/

/-- The comparisons that search in a text. -/
def searches : List Comparison := [.contains, .startsWith, .endsWith]

/-- The words for them. -/
def searchWords : List (List Char) := searches.map (·.symbol.toList)

/-- A quoted text that takes up all of `cs`: its content. -/
def quoted? : List Char → Option (List Char)
  | [] => none
  | quote :: cs =>
    if (quote = '"' ∨ quote = '\'') ∧ cs.getLast? = some quote then some cs.dropLast else none

/-- A search, up to the end of the text: blanks, a search word, blanks, a quoted text.  The
    word as it is spelled, and the content of the quotes. -/
def searchAt? (cs : List Char) : Option (List Char × List Char) := do
  let word := cs.dropWhile Text.isBlank
  let keyword ← searchWords.find? fun keyword => spells keyword (word.take keyword.length)
  let rest := word.drop keyword.length
  if cs.head?.any Text.isBlank ∧ rest.head?.any Text.isBlank then
    (quoted? (rest.dropWhile Text.isBlank)).map (word.take keyword.length, ·)
  else none

/-- A text split before the first search that has a character in front of it. -/
def splitSearch? : List Char → Option (List Char × List Char × List Char)
  | [] => none
  | c :: cs =>
    match searchAt? cs with
    | some search => some ([c], search)
    | none => (splitSearch? cs).map fun (column, search) => (c :: column, search)

/-- The search condition that a text states. -/
def parseSearch? (cs : List Char) (columns : List String) : Option Condition := do
  let (column, word, needle) ← splitSearch? cs
  let column ← resolveColumn? (Text.trim column) columns
  let comparison ← searches.find? fun c => c.symbol.toList == Text.lowerAscii word
  some ⟨column, comparison, .literal (String.ofList needle)⟩

/-! ## Segments -/

/-- The condition that a segment states. -/
def parseCondition? (segment : List Char) (columns : List String) : Option Condition :=
  let cs := stripParens segment
  if cs = [] then none
  else if hasWord searchWords none cs then parseSearch? cs columns
  else parseComparison? cs columns

end TableRules.Expression
