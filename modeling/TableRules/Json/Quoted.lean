/-
  QUOTED TEXT: what the lexeme of a JSON string stands for, and how a text is written as one.

  * `escape` writes a quote, a backslash and the control characters with a backslash, the
    common ones by their letter and the others as `\u00xx`; all else stands for itself.
  * `unescape?` reads any escape.  A `\u` escape of the first half of a surrogate pair must be
    followed by one of the second half; half a pair alone is not a text.
-/
import TableRules.Json.Token

namespace TableRules.Json.Quoted

/-! ## Writing -/

/-- A digit below 16 in lower-case hexadecimal. -/
def hexChar (n : Nat) : Char := Nat.digitChar n

/-- How a character is written between the quotes. -/
def escapeChar (c : Char) : List Char :=
  if c = '"' then ['\\', '"']
  else if c = '\\' then ['\\', '\\']
  else if c = '\n' then ['\\', 'n']
  else if c = '\r' then ['\\', 'r']
  else if c = '\t' then ['\\', 't']
  else if c = '\x08' then ['\\', 'b']
  else if c = '\x0c' then ['\\', 'f']
  else if c.toNat < 0x20 then
    ['\\', 'u', '0', '0', hexChar (c.toNat / 16), hexChar (c.toNat % 16)]
  else [c]

/-- The lexeme of a text. -/
def escape (cs : List Char) : List Char := cs.flatMap escapeChar

/-! ## Reading -/

/-- The number that four hexadecimal digits denote. -/
def unit? (a b c d : Char) : Option Nat := do
  let a ← Token.hexDigit? a
  let b ← Token.hexDigit? b
  let c ← Token.hexDigit? c
  let d ← Token.hexDigit? d
  pure (((a * 16 + b) * 16 + c) * 16 + d)

/-- The first half of a surrogate pair. -/
def isHighHalf (n : Nat) : Bool := 0xD800 ≤ n && n < 0xDC00

/-- The second half of a surrogate pair. -/
def isLowHalf (n : Nat) : Bool := 0xDC00 ≤ n && n < 0xE000

/-- The character that a surrogate pair denotes. -/
def joinHalves (high low : Nat) : Char :=
  Char.ofNat (0x10000 + (high - 0xD800) * 0x400 + (low - 0xDC00))

/-- The characters that a backslash and a letter denote, letter by letter. -/
def escapedLetters : List (Char × Char) := [
    ('"', '"'), ('\\', '\\'), ('/', '/'), ('b', '\x08'), ('f', '\x0c'), ('n', '\n'),
    ('r', '\r'), ('t', '\t')]

/-- The text that a lexeme stands for. -/
def unescape? : List Char → Option (List Char)
  | [] => some []
  | c :: rest =>
    if c ≠ '\\' then (unescape? rest).map (c :: ·)
    else match rest with
      | [] => none
      | letter :: rest =>
        if letter ≠ 'u' then do
          let c ← escapedLetters.lookup letter
          (unescape? rest).map (c :: ·)
        else match rest with
          | a :: b :: c :: d :: rest => do
            let n ← unit? a b c d
            if isLowHalf n then none
            else if !isHighHalf n then (unescape? rest).map (Char.ofNat n :: ·)
            else match rest with
              | slash :: mark :: e :: f :: g :: h :: rest => do
                let m ← unit? e f g h
                if slash = '\\' ∧ mark = 'u' ∧ isLowHalf m then
                  (unescape? rest).map (joinHalves n m :: ·)
                else none
              | _ => none
          | _ => none

example : escape "a\"\n\u0001é".toList = "a\\\"\\n\\u0001é".toList := by decide +kernel
example : unescape? "\\ud83c\\udf89\\/".toList = some "🎉/".toList := by decide +kernel
example : unescape? "\\ud83c!".toList = none := by decide +kernel

end TableRules.Json.Quoted
