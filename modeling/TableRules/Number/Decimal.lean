/-
  DECIMALS: numbers written in base ten, and how a text is read as one.

  * A `Decimal` is `coefficient * 10 ^ exponent`; `Decimal.rank` rounds it to a double.
  * `Decimal.parse?` reads digits with at most one point, at least one digit on either side of
    it, and an optional exponent `e` or `E` with an optional sign.
  * `Double.parse?` adds a sign and the words `inf`, `infinity` and `nan` in any letter case.
  * `parseInt64?` reads a signed row of digits within the range of a 64-bit integer.

  None of them takes blanks, separators or anything else around the number.
-/
import TableRules.Number.Double
import TableRules.Text.Case

namespace TableRules

/-- The number `coefficient * 10 ^ exponent`. -/
structure Decimal where
  coefficient : Nat
  exponent : Int
deriving DecidableEq

namespace Decimal

/-- The rank of the double nearest to a decimal.  The first two cases only keep the powers of
    ten small: beyond `10^400` everything is infinite, and below `10^-400` all is zero. -/
def rank (d : Decimal) : Nat :=
  if d.coefficient = 0 ∨ d.exponent + (d.coefficient.log2 + 1 : Nat) < -400 then 0
  else if 400 < d.exponent then Double.infinityRank
  else if 0 ≤ d.exponent then
    Double.nearestRank (d.coefficient * Nat.pow 10 d.exponent.toNat * Double.unitsPerOne) 1
  else
    Double.nearestRank (d.coefficient * Double.unitsPerOne) (Nat.pow 10 (-d.exponent).toNat)

/-! ## Reading -/

/-- The digits at the start of a text, and the rest. -/
def spanDigits (cs : List Char) : List Char × List Char :=
  (cs.takeWhile Char.isDigit, cs.dropWhile Char.isDigit)

/-- The number that a row of digits denotes. -/
def ofDigits (ds : List Char) : Nat := Nat.ofDigitChars 10 ds 0

/-- A sign at the start of a text, and the rest: is it a minus? -/
def spanSign : List Char → Bool × List Char
  | '-' :: cs => (true, cs)
  | '+' :: cs => (false, cs)
  | cs => (false, cs)

/-- The integer that a text with an optional sign and one digit or more denotes. -/
def parseInt? (cs : List Char) : Option Int :=
  let (negative, ds) := spanSign cs
  if ds ≠ [] ∧ ds.all Char.isDigit then
    some (if negative then -(ofDigits ds : Int) else ofDigits ds)
  else none

/-- The exponent that ends a number: nothing, or `e` and an integer. -/
def parseExponent? : List Char → Option Int
  | [] => some 0
  | c :: cs => if c = 'e' ∨ c = 'E' then parseInt? cs else none

/-- The decimal that a text without a sign denotes. -/
def parse? (cs : List Char) : Option Decimal :=
  let (whole, rest) := spanDigits cs
  let (fraction, rest) := match rest with
    | '.' :: rest => spanDigits rest
    | _ => ([], rest)
  if whole = [] ∧ fraction = [] then none
  else (parseExponent? rest).map fun e => ⟨ofDigits (whole ++ fraction), e - fraction.length⟩

end Decimal

/-- The double nearest to the number that a text denotes. -/
def Double.parse? (cs : List Char) : Option Double :=
  let (negative, cs) := Decimal.spanSign cs
  let word := Text.lowerAscii cs
  if word = "inf".toList ∨ word = "infinity".toList then some (.infinity negative)
  else if word = "nan".toList then some .nan
  else (Decimal.parse? cs).map fun d => .ofRank negative d.rank

/-- The 64-bit integer that a text denotes. -/
def parseInt64? (cs : List Char) : Option Int64 :=
  match Decimal.parseInt? cs with
  | some i => if Int64.minValue.toInt ≤ i ∧ i ≤ Int64.maxValue.toInt then some (.ofInt i) else none
  | none => none

example : Decimal.parse? "1.50e3".toList = some ⟨150, 1⟩ := by decide
example : Decimal.parse? ".".toList = none ∧ Decimal.parse? "1e".toList = none := by decide
example : (Double.parse? "-0".toList).bind Double.bits? = some 0x8000000000000000 := by decide +kernel
example : (Double.parse? "5e-324".toList).bind Double.bits? = some 1 := by decide +kernel
example : (Double.parse? "1e999".toList) = some (.infinity false) := by decide +kernel
example : parseInt64? "-9223372036854775808".toList = some Int64.minValue := by decide
example : parseInt64? "9223372036854775808".toList = none := by decide

end TableRules
