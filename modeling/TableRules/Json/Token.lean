/-
  JSON TOKENS: a JSON text cut into its smallest parts.

  A string or number token keeps its LEXEME, the characters as written; what a lexeme stands
  for is read later (`TableRules.Json.Quoted`, `TableRules.Json.Number`), and only if somebody
  asks.  So a member that nobody asks for may hold a number beyond every range or a `\u` escape
  that is half of a pair, as long as its spelling is well formed.

  `tokens?` fails exactly where the spelling of a token does: a control character in a string,
  an unknown escape, a number with a bare point or exponent, an unknown word.
-/
import TableRules.Number.Decimal

namespace TableRules.Json

/-- A smallest part of a JSON text. -/
inductive Token where
  | openBracket
  | closeBracket
  | openBrace
  | closeBrace
  | comma
  | colon
  | null
  | bool (value : Bool)
  | number (lexeme : List Char)
  | string (lexeme : List Char)
deriving DecidableEq

namespace Token

/-! ## Strings -/

/-- The value of a hexadecimal digit. -/
def hexDigit? (c : Char) : Option Nat :=
  if c.isDigit then some (c.toNat - '0'.toNat)
  else if 'a' ≤ c ∧ c ≤ 'f' then some (c.toNat - 'a'.toNat + 10)
  else if 'A' ≤ c ∧ c ≤ 'F' then some (c.toNat - 'A'.toNat + 10)
  else none

/-- The characters that a backslash may stand before, other than `u`. -/
def escapable : List Char := ['"', '\\', '/', 'b', 'f', 'n', 'r', 't']

/-- The lexeme of a string, up to its closing quote, and the text after the quote. -/
def spanString : List Char → Option (List Char × List Char)
  | [] => none
  | c :: rest =>
    if c = '"' then some ([], rest)
    else if c.toNat < 0x20 then none
    else if c ≠ '\\' then (spanString rest).map fun (s, rest) => (c :: s, rest)
    else match rest with
      | [] => none
      | letter :: rest =>
        if escapable.contains letter then
          (spanString rest).map fun (s, rest) => (c :: letter :: s, rest)
        else match rest with
          | a :: b :: c' :: d :: rest =>
            if letter = 'u' ∧ [a, b, c', d].all fun x => (hexDigit? x).isSome then
              (spanString rest).map fun (s, rest) => (c :: letter :: a :: b :: c' :: d :: s, rest)
            else none
          | _ => none

/-! ## Numbers -/

/-- The whole part of a number: a zero alone, or digits that do not start with one. -/
def spanWhole : List Char → Option (List Char × List Char)
  | [] => none
  | '0' :: cs => some (['0'], cs)
  | c :: cs => if c.isDigit then some (Decimal.spanDigits (c :: cs)) else none

/-- The fraction of a number, with its point: there is none, or it has a digit. -/
def spanFraction : List Char → Option (List Char × List Char)
  | '.' :: cs =>
    match Decimal.spanDigits cs with
    | ([], _) => none
    | (ds, rest) => some ('.' :: ds, rest)
  | cs => some ([], cs)

/-- The exponent of a number, with its mark and sign: there is none, or it has a digit. -/
def spanExponent : List Char → Option (List Char × List Char)
  | [] => some ([], [])
  | mark :: cs =>
    if mark = 'e' ∨ mark = 'E' then
      let (sign, cs) := match cs with
        | '+' :: cs => (['+'], cs)
        | '-' :: cs => (['-'], cs)
        | cs => ([], cs)
      match Decimal.spanDigits cs with
      | ([], _) => none
      | (ds, rest) => some (mark :: sign ++ ds, rest)
    else some ([], mark :: cs)

/-- The lexeme of a number and the text after it. -/
def spanNumber (cs : List Char) : Option (List Char × List Char) := do
  let (sign, cs) := match cs with
    | '-' :: cs => (['-'], cs)
    | cs => ([], cs)
  let (whole, cs) ← spanWhole cs
  let (fraction, cs) ← spanFraction cs
  let (exponent, cs) ← spanExponent cs
  pure (sign ++ whole ++ fraction ++ exponent, cs)

/-! ## The tokens of a text -/

/-- White space between tokens: the four characters that JSON allows there. -/
def isGap (c : Char) : Bool := c == ' ' || c == '\t' || c == '\n' || c == '\r'

/-- The token at the start of a text that does not start with white space, and the rest. -/
def next? : List Char → Option (Token × List Char)
  | '[' :: cs => some (.openBracket, cs)
  | ']' :: cs => some (.closeBracket, cs)
  | '\x7b' :: cs => some (.openBrace, cs)
  | '\x7d' :: cs => some (.closeBrace, cs)
  | ',' :: cs => some (.comma, cs)
  | ':' :: cs => some (.colon, cs)
  | '"' :: cs => (spanString cs).map fun (s, rest) => (.string s, rest)
  | 'n' :: 'u' :: 'l' :: 'l' :: cs => some (.null, cs)
  | 't' :: 'r' :: 'u' :: 'e' :: cs => some (.bool true, cs)
  | 'f' :: 'a' :: 'l' :: 's' :: 'e' :: cs => some (.bool false, cs)
  | cs => (spanNumber cs).map fun (s, rest) => (.number s, rest)

/-- The tokens of a text, of which each takes at least one character: so many steps do for a
    text of that length. -/
def tokensWithin : Nat → List Char → Option (List Token)
  | _, [] => some []
  | 0, _ :: _ => none
  | steps + 1, c :: cs =>
    if isGap c then tokensWithin steps cs
    else match next? (c :: cs) with
      | some (token, rest) => (tokensWithin steps rest).map (token :: ·)
      | none => none

/-- The tokens of a text. -/
def tokens? (cs : List Char) : Option (List Token) := tokensWithin cs.length cs

example : tokens? "[1, -2.5e+3]".toList
    = some [.openBracket, .number ['1'], .comma, .number "-2.5e+3".toList, .closeBracket] := by decide +kernel
example : tokens? "\"a\\ud800\"".toList = some [.string "a\\ud800".toList] := by decide +kernel
example : tokens? "1.".toList = none ∧ tokens? "\"\n\"".toList = none := by decide +kernel

end Token

end TableRules.Json
