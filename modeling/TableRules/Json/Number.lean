/-
  JSON NUMBERS: what the lexeme of a number stands for.

  A lexeme without fraction and exponent is an INTEGER if it fits: up to `2^64 - 1` without a
  sign, down to `-2^63` with one, where `-0` is none.  Everything else is a double, read in two
  roundings:

  1. the digits, without the point, are taken as one integer for as long as it stays below
     `2^64`; the digits that no longer fit are dropped, those before the point counting as a
     power of ten each;
  2. that integer is rounded to a double, and then multiplied or divided by the double nearest
     to the power of ten.  Divisors beyond `10^308` are split.

  So a double may come out beside the nearest one when it has more than 15 digits.  A number
  that ends at infinity is none at all.
-/
import TableRules.Json.Token

namespace TableRules.Json

/-- What a JSON number stands for. -/
inductive Number where
  | integer (value : Int)
  | double (value : Double)
deriving DecidableEq

namespace Number

/-- The greatest integer that the digits are gathered in. -/
def maxSignificand : Nat := UInt64.size - 1

/-- Appends digits to an integer while the result fits; the digits left over. -/
def gather : Nat → List Char → Nat × List Char
  | n, [] => (n, [])
  | n, d :: ds =>
    let next := n * 10 + (d.toNat - '0'.toNat)
    if maxSignificand < next then (n, d :: ds) else gather next ds

/-- The rank of the double nearest to `10^n`. -/
def rankOfTen (n : Nat) : Nat := Double.nearestRank (Nat.pow 10 n * Double.unitsPerOne) 1

/-- A magnitude divided by `10^n`, in steps of at most `10^308`. -/
def scaleDown (rank : Nat) (n : Nat) : Nat :=
  if n ≤ 308 then Double.quotientRank rank (rankOfTen n)
  else if rank = 0 then 0
  else scaleDown (Double.quotientRank rank (rankOfTen 308)) (n - 308)
termination_by n
decreasing_by omega

/-- A magnitude times `10^e`, unless that is infinite. -/
def scale? (rank : Nat) (e : Int) : Option Nat :=
  if e < 0 then some (scaleDown rank (-e).toNat)
  else if rank = 0 then some 0
  else if 308 < e then none
  else
    let product := Double.productRank rank (rankOfTen e.toNat)
    if product = Double.infinityRank then none else some product

/-- The double that sign, digits before and after the point, and exponent stand for. -/
def double? (negative : Bool) (whole fraction : List Char) (exponent : Int) : Option Double :=
  let (significand, dropped) := gather 0 whole
  let (significand, unread) := gather significand fraction
  let exponent := exponent + dropped.length - (fraction.length - unread.length : Nat)
  (scale? (Double.nearestRank (significand * Double.unitsPerOne) 1) exponent).map
    (Double.ofRank negative)

/-- The integer that sign and digits stand for, if it fits. -/
def integer? (negative : Bool) (whole : List Char) : Option Int :=
  let n := Decimal.ofDigits whole
  if negative then if 0 < n ∧ n ≤ Nat.pow 2 63 then some (-n) else none
  else if n ≤ maxSignificand then some n else none

/-- What a lexeme stands for. -/
def read? (lexeme : List Char) : Option Number :=
  let (negative, cs) := Decimal.spanSign lexeme
  let (whole, cs) := Decimal.spanDigits cs
  let (fraction, cs) := match cs with
    | '.' :: cs => Decimal.spanDigits cs
    | cs => ([], cs)
  match if fraction = [] ∧ cs = [] then integer? negative whole else none with
  | some i => some (.integer i)
  | none => do
    let exponent ← Decimal.parseExponent? cs
    (double? negative whole fraction exponent).map .double

example : read? "18446744073709551615".toList = some (.integer (2 ^ 64 - 1)) := by decide +kernel
example : read? "1e400".toList = none := by decide +kernel
example : read? "-0".toList = some (.double (.ofRank true 0)) := by decide +kernel

end Number

end TableRules.Json
