/-
  TEXT: trimming, words, parts and search, over lists of characters.

  All that reads expressions works on `List Char`; the fields of the domain types hold `String`.

  * `trim`     — drops the blank characters at both ends;
  * `words`    — the maximal runs of characters that are not blank, in order;
  * `parts`    — what stands between the occurrences of a separator, in order;
  * `cutAt?`   — the text before and after the first occurrence of another text;
  * `occursIn` — whether there is one.
-/
import TableRules.Text.CharClass

namespace TableRules.Text

/-! ## Trimming -/

/-- The text from its first character that is not blank. -/
def trimStart (cs : List Char) : List Char := cs.dropWhile isBlank

/-- The text up to its last character that is not blank. -/
def trimEnd (cs : List Char) : List Char := (cs.reverse.dropWhile isBlank).reverse

/-- The text without the blank characters at its ends. -/
def trim (cs : List Char) : List Char := trimEnd (trimStart cs)

/-- `trim` on strings. -/
def trimmed (s : String) : String := String.ofList (trim s.toList)

/-! ## Words -/

/-- The word that starts at once, if any, and the words after it. -/
def wordsFrom : List Char → List Char × List (List Char)
  | [] => ([], [])
  | c :: cs =>
    let (word, rest) := wordsFrom cs
    if isBlank c then ([], if word.isEmpty then rest else word :: rest) else (c :: word, rest)

/-- The words of a text. -/
def words (cs : List Char) : List (List Char) :=
  let (word, rest) := wordsFrom cs
  if word.isEmpty then rest else word :: rest

/-! ## Parts -/

/-- The parts of a text between the occurrences of a separator; there is always one. -/
def parts (separator : Char) : List Char → List (List Char)
  | [] => [[]]
  | c :: cs =>
    if c = separator then [] :: parts separator cs
    else match parts separator cs with
      | [] => [[c]]
      | part :: rest => (c :: part) :: rest

/-- `parts` on strings. -/
def split (separator : Char) (s : String) : List String :=
  (parts separator s.toList).map String.ofList

/-! ## Search -/

/-- The text before and the text after the first occurrence of `needle`. -/
def cutAt? (needle : List Char) : List Char → Option (List Char × List Char)
  | [] => if needle.isEmpty then some ([], []) else none
  | c :: cs =>
    if needle.isPrefixOf (c :: cs) then some ([], (c :: cs).drop needle.length)
    else (cutAt? needle cs).map fun (before, after) => (c :: before, after)

/-- Does `needle` stand anywhere in the text? -/
def occursIn (needle cs : List Char) : Bool := (cutAt? needle cs).isSome

/-- The length of a text in UTF-8. -/
def byteLength (cs : List Char) : Nat := (String.ofList cs).utf8ByteSize

example : trim " \t a b \u3000".toList = "a b".toList := by decide
example : words " one  two ".toList = ["one".toList, "two".toList] := by decide
example : parts ',' "a,,b".toList = ["a".toList, [], "b".toList] := by decide
example : cutAt? ['='] "a==b".toList = some (['a'], ['=', 'b']) := by decide
example : occursIn [] [] = true := by decide

end TableRules.Text
