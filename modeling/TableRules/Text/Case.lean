/-
  CASE: lower and upper case of a whole text, and the ASCII comparison of names.

  `upper` maps character by character.  `lower` does too, with one exception that looks around:
  a capital sigma becomes the FINAL sigma `ς` when a cased letter stands before it and none
  after it, neighbours being sought past the case-ignorable characters on either side.  So the
  lower case of a text is not in general the concatenation of the lower cases of its parts.

  Names of rules are compared by `sameIgnoringCase`, which folds the letters `A`–`Z` only.
-/
import TableRules.Text.CaseContext
import TableRules.Text.CaseMaps
import TableRules.Text.CharClass

namespace TableRules.Text

/-! ## One character -/

/-- The offset that a table of ascending runs gives to a code point. -/
def runOffset : List CaseRun → Nat → Option Int
  | [], _ => none
  | run :: rest, n =>
    if n < run.first then none
    else if n ≤ run.last && (n - run.first) % run.step == 0 then some run.offset
    else runOffset rest n

/-- The image of a character under a case map: an expansion if it has one, else a move by
    its run's offset, else itself. -/
def mapCase (runs : List CaseRun) (expansions : List (Nat × List Nat)) (c : Char) : List Char :=
  match expansions.lookup c.toNat with
  | some ns => ns.map Char.ofNat
  | none =>
    match runOffset runs c.toNat with
    | some offset => [Char.ofNat (c.toNat + offset).toNat]
    | none => [c]

/-- The lower case of a character, without regard to its neighbours. -/
def lowerChar (c : Char) : List Char := mapCase lowerRuns lowerExpansions c

/-- The upper case of a character. -/
def upperChar (c : Char) : List Char := mapCase upperRuns upperExpansions c

/-! ## A whole text -/

/-- Is the first character that is not case-ignorable a cased one? -/
def cased? (cs : List Char) : Bool :=
  match cs.dropWhile (inRanges caseIgnorableRanges ·.toNat) with
  | c :: _ => inRanges casedRanges c.toNat
  | [] => false

/-- The lower case of a sigma between the text `before` it, nearest character first, and the
    text `after` it. -/
def lowerSigma (before after : List Char) : Char :=
  if cased? before && !cased? after then 'ς' else 'σ'

/-- The lower case of a text that follows `before`, whose nearest character comes first. -/
def lowerAfter : List Char → List Char → List Char
  | _, [] => []
  | before, c :: cs =>
    (if c = 'Σ' then [lowerSigma before cs] else lowerChar c) ++ lowerAfter (c :: before) cs

/-- The lower case of a text. -/
def lower (cs : List Char) : List Char := lowerAfter [] cs

/-- The upper case of a text. -/
def upper (cs : List Char) : List Char := cs.flatMap upperChar

/-! ## ASCII -/

/-- The text with the letters `A`–`Z` in lower case and all else unchanged. -/
def lowerAscii (cs : List Char) : List Char := cs.map Char.toLower

/-- Are two names equal up to the case of their ASCII letters? -/
def sameIgnoringCase (a b : String) : Bool := lowerAscii a.toList == lowerAscii b.toList

example : upper "straße ﬁ".toList = "STRASSE FI".toList := by decide +kernel
example : lower "ΟΔΟΣ ΣΑ".toList = "οδος σα".toList := by decide +kernel
example : lower "İK".toList = ['i', '\u0307', 'k'] := by decide +kernel
example : sameIgnoringCase "Rule1" "RULE1" = true := by decide
example : sameIgnoringCase "É" "é" = false := by decide

end TableRules.Text
