/-
  DOUBLES: binary floating-point numbers of 64 bits, as exact integer arithmetic.

  1. **Representation** — a number is `nan`, or a sign and a RANK.  The ranks count the
     magnitudes upwards: 0 is zero, 1 the least positive number, and `infinityRank` infinity.
     Within a binade the ranks are `2^52` equal steps, so the rank is also what the 63 low bits
     of the usual encoding hold, and magnitudes compare as their ranks do.

  2. **Units** — every finite magnitude is a whole number of UNITS of `2^-1074`
     (`unitsOfRank`), and one is `unitsPerOne` of them.

  3. **Rounding** — `nearestRank num den` is the rank nearest to `num / den` units, a tie going
     to the even rank.  It halves the quotient until 53 bits are left, counts each halving as a
     step of `2^52` ranks, and adds the rounded rest.  A carry out of the 53 bits lands on
     the next binade by itself, and what lies beyond the greatest finite rank is infinity.
-/

namespace TableRules

namespace Double

/-- The number of ranks in a binade. -/
def ranksPerBinade : Nat := Nat.pow 2 52

/-- The rank of infinity. -/
def infinityRank : Nat := 2047 * ranksPerBinade

/-- How many units of `2^-1074` make one. -/
def unitsPerOne : Nat := Nat.pow 2 1074

end Double

/-- A double-precision number. -/
inductive Double where
  | nan
  | signed (negative : Bool) (rank : Nat) (rank_le : rank ≤ Double.infinityRank)
deriving DecidableEq

namespace Double

/-- The number with a sign and a rank; what is beyond infinity is infinite. -/
def ofRank (negative : Bool) (rank : Nat) : Double :=
  .signed negative (min rank infinityRank) (Nat.min_le_right _ _)

/-- Infinity of either sign. -/
def infinity (negative : Bool) : Double := ofRank negative infinityRank

/-! ## Ranks and magnitudes -/

/-- The magnitude of a rank, in units. -/
def unitsOfRank (rank : Nat) : Nat :=
  if rank < ranksPerBinade then rank
  else (ranksPerBinade + rank % ranksPerBinade) * Nat.pow 2 (rank / ranksPerBinade - 1)

/-- The integer nearest to `num / den`, a half going to the even neighbour. -/
def roundDiv (num den : Nat) : Nat :=
  let quotient := num / den
  let twice := 2 * (num % den)
  if twice < den then quotient
  else if den < twice then quotient + 1
  else quotient + quotient % 2

/-- The rank nearest to `num / den` units, a half going to the even rank. -/
def nearestRank (num den : Nat) : Nat :=
  let halvings := (num / den).log2 - 52
  min infinityRank (halvings * ranksPerBinade + roundDiv num (den * Nat.pow 2 halvings))

/-- The rank of a product of magnitudes. -/
def productRank (a b : Nat) : Nat := nearestRank (unitsOfRank a * unitsOfRank b) unitsPerOne

/-- The rank of a quotient of magnitudes. -/
def quotientRank (a b : Nat) : Nat := nearestRank (unitsOfRank a * unitsPerOne) (unitsOfRank b)

/-- The double nearest to an integer. -/
def ofInt (i : Int) : Double :=
  ofRank (i < 0) (nearestRank (i.natAbs * unitsPerOne) 1)

/-! ## Questions -/

/-- Is the number neither infinite nor `nan`? -/
def isFinite : Double → Bool
  | nan => false
  | signed _ rank _ => rank < infinityRank

/-- Is the number finite and an integer? -/
def isWhole : Double → Bool
  | nan => false
  | signed _ rank _ => rank < infinityRank && unitsOfRank rank % unitsPerOne == 0

/-- The place of a number on the line: its rank, counted downwards for negative numbers, so
    that the two zeros coincide. -/
def position? : Double → Option Int
  | nan => none
  | signed negative rank _ => some (if negative then -(rank : Int) else rank)

/-- The bits of a number as one integer, the sign on top; `nan` has no single pattern. -/
def bits? : Double → Option Nat
  | nan => none
  | signed negative rank _ => some ((if negative then Nat.pow 2 63 else 0) + rank)

/-! ## Comparison: a `nan` is neither below, above nor equal to anything -/

/-- Does a relation hold between the places of two numbers? -/
def related (rel : Int → Int → Bool) (a b : Double) : Bool :=
  match a.position?, b.position? with
  | some x, some y => rel x y
  | _, _ => false

/-- Is `a` below `b`? -/
def lt (a b : Double) : Bool := related (fun x y => x < y) a b

/-- Is `a` below or equal to `b`? -/
def le (a b : Double) : Bool := related (fun x y => x ≤ y) a b

/-- Are `a` and `b` equal as numbers? -/
def equal (a b : Double) : Bool := related (fun x y => x == y) a b

example : (ofInt 1).bits? = some 0x3FF0000000000000 := by decide +kernel
example : ofInt (2 ^ 53 + 1) = ofInt (2 ^ 53) := by decide +kernel
example : (ofInt (-(2 ^ 63))).bits? = some 0xC3E0000000000000 := by decide +kernel
example : lt (infinity true) (ofInt 0) = true ∧ equal nan nan = false := by decide +kernel

end Double

end TableRules
