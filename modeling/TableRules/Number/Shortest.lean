/-
  SHORTEST DECIMALS: the fewest digits that read back as a given double.

  For a power of ten `10^e` the double lies between two neighbours on the GRID of its
  multiples.  `onGrid?` takes the neighbour that rounds back to the same rank, or, of two such,
  the nearer.  `shortest` tries the grids from coarse to fine and takes the first hit: a coarser
  grid means fewer digits.  17 digits always suffice; the exact decimal expansion stands behind
  the search, so the result reads back whatever the search does.

  A double halfway between two neighbours that both read back is a tie, and how it goes is a
  matter of the format that prints it: `Tie`.
-/
import TableRules.Number.Decimal

namespace TableRules

/-- Which of two equally near neighbours is taken: the greater, or the one whose last digit
    is even. -/
inductive Tie where
  | up
  | even
deriving DecidableEq

namespace Decimal

/-- The same number without zeros at the end of its coefficient; zero itself is `0 * 10^0`. -/
def normal (d : Decimal) : Decimal :=
  if d.coefficient = 0 then ⟨0, 0⟩
  else if d.coefficient % 10 = 0 then normal ⟨d.coefficient / 10, d.exponent + 1⟩
  else d
termination_by d.coefficient
decreasing_by exact Nat.div_lt_self (by omega) (by omega)

/-- The neighbour of a magnitude on the grid `10^e` that reads back as `rank`. -/
def onGrid? (tie : Tie) (rank : Nat) (e : Int) : Option Decimal :=
  let num := Double.unitsOfRank rank * Nat.pow 10 (-e).toNat
  let den := Double.unitsPerOne * Nat.pow 10 e.toNat
  let below : Decimal := ⟨num / den, e⟩
  let above : Decimal := ⟨num / den + 1, e⟩
  let twice := 2 * (num % den)
  if below.rank ≠ rank then
    if above.rank = rank then some above else none
  else if above.rank ≠ rank then some below
  else if twice < den then some below
  else if den < twice then some above
  else match tie with
    | .up => some above
    | .even => some (if below.coefficient % 2 = 0 then below else above)

/-- The first hit on the grids `10^e`, `10^(e-1)`, …, of which so many are tried. -/
def firstOnGrid? (tie : Tie) (rank : Nat) : Nat → Int → Option Decimal
  | 0, _ => none
  | tries + 1, e => (onGrid? tie rank e).or (firstOnGrid? tie rank tries (e - 1))

/-- The exact value of a finite magnitude: `2^-1074` is `5^1074 * 10^-1074`. -/
def exact (rank : Nat) : Decimal := ⟨Double.unitsOfRank rank * Nat.pow 5 1074, -1074⟩

/-- The power of ten at which the search starts.  A magnitude below `2^b` is below `10^e` for
    every `e` from `0.30103 * b` on. -/
def coarsestGrid (rank : Nat) : Int :=
  ((Double.unitsOfRank rank).log2 - 1073 : Int) * 30103 / 100000 + 1

/-- The decimal of fewest digits that reads back as `rank`, without zeros at its end. -/
def shortest (tie : Tie) (rank : Nat) : Decimal :=
  ((firstOnGrid? tie rank 20 (coarsestGrid rank)).getD (exact rank)).normal

example : shortest .up 1 = ⟨5, -324⟩ := by decide +kernel
example : shortest .up (Double.nearestRank (10 ^ 23 * Double.unitsPerOne) 1) = ⟨1, 23⟩ := by
  decide +kernel

end Decimal

end TableRules
