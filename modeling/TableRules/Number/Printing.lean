/-
  PRINTING DOUBLES: the three texts that a double has.

  * `Double.plain` — an operand in a condition: the shortest digits, written out in full with
    neither point nor exponent where none is needed (`5`, `0.00001`);
  * `Double.text`  — a cell: as `plain`, but an integer is written exactly and ends in `.0`, so
    that it never reads back as an integer cell (`5.0`);
  * `Double.json?` — a JSON number: the shortest digits, always with `.0` or an exponent; the
    exponent form is used below `10^-5` and from `10^16` on.  What is not finite has none.

  Infinity is `inf` and `nan` is `NaN`; a negative zero keeps its sign.
-/
import TableRules.Number.Shortest

namespace TableRules

namespace Decimal

/-- The digits of a natural number. -/
def digits (n : Nat) : List Char := Nat.toDigits 10 n

/-- The decimal written out in full, without an exponent. -/
def positional (d : Decimal) : List Char :=
  let ds := digits d.coefficient
  if 0 ≤ d.exponent then ds ++ List.replicate d.exponent.toNat '0'
  else
    let places := (-d.exponent).toNat
    let ds := List.replicate (places + 1 - ds.length) '0' ++ ds
    ds.take (ds.length - places) ++ '.' :: ds.drop (ds.length - places)

/-- The exponent that the decimal has with one digit before the point. -/
def leadingExponent (d : Decimal) : Int := (digits d.coefficient).length - 1 + d.exponent

/-- The decimal with one digit before the point and a signed exponent. -/
def scientific (d : Decimal) : List Char :=
  let ds := digits d.coefficient
  let e := d.leadingExponent
  ds.take 1 ++ (if ds.length = 1 then [] else '.' :: ds.drop 1)
    ++ 'e' :: (if e < 0 then '-' else '+') :: digits e.natAbs

end Decimal

/-- The digits of an integer, after a minus if it is negative. -/
def intText (i : Int) : List Char :=
  (if i < 0 then ['-'] else []) ++ Decimal.digits i.natAbs

namespace Double

/-- A minus for a negative number. -/
def signText (negative : Bool) : List Char := if negative then ['-'] else []

/-- The text of an operand. -/
def plain : Double → List Char
  | nan => "NaN".toList
  | signed negative rank _ =>
    signText negative ++
      if rank = infinityRank then "inf".toList
      else (Decimal.shortest .up rank).positional

/-- The text of a cell. -/
def text (v : Double) : List Char :=
  match v with
  | nan => v.plain
  | signed negative rank _ =>
    if v.isWhole then
      signText negative ++ Decimal.digits (unitsOfRank rank / unitsPerOne) ++ ".0".toList
    else v.plain

/-- The text of a JSON number. -/
def json? : Double → Option (List Char)
  | nan => none
  | signed negative rank _ =>
    if rank = infinityRank then none
    else
      let d := Decimal.shortest .even rank
      let magnitude :=
        if d.leadingExponent < -5 ∨ 15 < d.leadingExponent then d.scientific
        else if 0 ≤ d.exponent then d.positional ++ ".0".toList
        else d.positional
      some (signText negative ++ magnitude)

example : (ofInt (10 ^ 23)).text = "99999999999999991611392.0".toList := by decide +kernel
example : (parse? "-1e-7".toList).map plain = some "-0.0000001".toList := by decide +kernel
example : (parse? "1234567e-12".toList).bind json? = some "1.234567e-6".toList := by
  decide +kernel
example : (ofInt (10 ^ 16)).json? = some "1e+16".toList := by decide +kernel
example : (ofRank true 0).json? = some "-0.0".toList := by decide +kernel

end Double

end TableRules
