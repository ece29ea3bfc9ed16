/-
  INTEGER ORDER: integers are compared by the doubles nearest to them.

  1. **Ranks** — the rank of a natural number grows with it, and up to `2^53` the number is not
     rounded.  So there no two numbers share a rank; beyond, neighbours may.

  2. **Places** — `placeOf` is the place of the double nearest to an integer.  Rounding keeps their
     order (`placeOf_le_placeOf`), and as far as nothing is rounded the places are in just the
     order of the integers (`placeOf_lt_placeOf_iff`).

  3. **Order** — `onIntegers` says what each comparison asks of two integers.  Two integer cells
     compare as their places do (`holds_int`), and all laws of the order are read off that line.

  The crux is that the cells are not compared as integers, and that it matters only where doubles
  run out.  A place is an integer, so one of less, equal and greater holds of any two places, and
  each is handed on; whatever the rounding does, the comparisons cannot contradict one another.
  What the rounding may do is to let two integers share a place.  It never turns them round.
-/
import Mathlib.Order.Monotone.Defs
import TableRules.Proofs.CellComparisons

namespace TableRules

namespace Double

/-! ## Ranks

  Natural numbers first: their ranks, and how far they are exact. -/

/-- The rank of a natural number. -/
def rankOf (n : Nat) : Nat := nearestRank (n * unitsPerOne) 1

theorem rankOf_le_infinityRank (n : Nat) : rankOf n ≤ infinityRank :=
  nearestRank_le_infinityRank _ _

/-- The greater number has the greater rank, or they share one. -/
theorem monotone_rankOf : Monotone rankOf := by
  intro m n h
  apply nearestRank_le_nearestRank Nat.one_pos Nat.one_pos
  rw [Nat.mul_one, Nat.mul_one]
  exact Nat.mul_le_mul_right unitsPerOne h

/-- Up to `2^53`, which is one bit more on twice the scale, a number is not rounded. -/
theorem unitsOfRank_rankOf {n : Nat} (h : n ≤ 2 * ranksPerBinade) :
    unitsOfRank (rankOf n) = n * unitsPerOne := by
  rcases Nat.lt_or_eq_of_le h with hlt | rfl
  · exact unitsOfRank_nearestRank_mul hlt
  · have hpower : 2 * ranksPerBinade * unitsPerOne =
        ranksPerBinade * 2 ^ (unitsPerOne.log2 + 1) := by decide +kernel
    have hscale : unitsPerOne.log2 + 1 + 2 ≤ 2047 := by decide +kernel
    have hbits : ranksPerBinade < 2 * ranksPerBinade := by decide
    unfold rankOf
    rw [hpower]
    exact unitsOfRank_nearestRank hbits hscale

/-- There no two numbers share a rank. -/
theorem eq_of_rankOf_eq {m n : Nat} (hm : m ≤ 2 * ranksPerBinade) (hn : n ≤ 2 * ranksPerBinade)
    (h : rankOf m = rankOf n) : m = n := by
  apply Nat.eq_of_mul_eq_mul_right unitsPerOne_pos
  calc m * unitsPerOne
    _ = unitsOfRank (rankOf m) := (unitsOfRank_rankOf hm).symm
    _ = unitsOfRank (rankOf n) := by rw [h]
    _ = n * unitsPerOne := unitsOfRank_rankOf hn

/-! ## Places

  Negative numbers by reflection, as a double has its sign apart from its rank. -/

/-- The place of the double nearest to an integer. -/
def placeOf (i : Int) : Int := if i < 0 then -(rankOf i.natAbs : Int) else rankOf i.natAbs

/-- It is where the double stands: a minus turns the rank round, and zero has one place. -/
theorem position?_ofInt (i : Int) : (ofInt i).position? = some (placeOf i) := by
  have hrank : ofInt i = .signed (i < 0) (rankOf i.natAbs) (rankOf_le_infinityRank _) :=
    ofRank_of_le _ (rankOf_le_infinityRank _)
  rw [hrank, position?, placeOf]
  by_cases h : i < 0
  · rw [if_pos h, if_pos (decide_eq_true h)]
  · rw [if_neg h, if_neg (by simpa using h)]

/-- **Rounding keeps the order** of integers. With the same sign it is the order of the ranks, or
    the reverse of it; with different signs zero lies between. -/
theorem placeOf_le_placeOf {i j : Int} (h : i ≤ j) : placeOf i ≤ placeOf j := by
  unfold placeOf
  rcases Int.lt_or_le i 0 with hi | hi
  · rw [if_pos hi]
    rcases Int.lt_or_le j 0 with hj | hj
    · -- below zero the lesser integer has the greater magnitude
      have hranks := monotone_rankOf (show j.natAbs ≤ i.natAbs by omega)
      rw [if_pos hj]
      omega
    · rw [if_neg (by omega)]
      omega
  · have hranks := monotone_rankOf (show i.natAbs ≤ j.natAbs by omega)
    rw [if_neg (by omega), if_neg (by omega)]
    omega

/-- The integers up to `2^53`, on both sides of zero. -/
def Unrounded (i : Int) : Prop := i.natAbs ≤ 2 * ranksPerBinade

/-- No two of them share a place. -/
theorem eq_of_placeOf_eq {i j : Int} (hi : Unrounded i) (hj : Unrounded j)
    (h : placeOf i = placeOf j) : i = j := by
  have hzero : ∀ {n : Nat}, n ≤ 2 * ranksPerBinade → rankOf n = 0 → n = 0 := by
    intro n hn hrank
    apply eq_of_rankOf_eq hn (Nat.zero_le _)
    rw [hrank, rankOf, Nat.zero_mul, nearestRank_zero Nat.one_pos]
  have hsame : rankOf i.natAbs = rankOf j.natAbs → i.natAbs = j.natAbs := eq_of_rankOf_eq hi hj
  have hi' := hzero hi
  have hj' := hzero hj
  -- on either side of zero equal places are equal ranks; across it both must be zero
  unfold placeOf at h
  split at h <;> split at h <;> omega

/-- **What is not rounded** keeps its order. -/
theorem placeOf_lt_placeOf_iff {i j : Int} (hi : Unrounded i) (hj : Unrounded j) :
    placeOf i < placeOf j ↔ i < j := by
  constructor
  · intro h
    by_contra hle
    have hplaces := placeOf_le_placeOf (Int.not_lt.mp hle)
    omega
  · intro h
    have hplaces := placeOf_le_placeOf (Int.le_of_lt h)
    have hne : placeOf i ≠ placeOf j := fun heq => by
      have hsame := eq_of_placeOf_eq hi hj heq
      omega
    omega

end Double

/-! ## Order

  From places to cells. Each law is shown for integers in general and read at two places. -/

namespace Comparison

open Double (placeOf position?_ofInt placeOf_le_placeOf placeOf_lt_placeOf_iff)

/-- What a comparison asks of two integers. -/
def onIntegers : Comparison → Int → Int → Bool
  | greaterThan, p, q => q < p
  | lessThan, p, q => p < q
  | greaterEqual, p, q => q ≤ p
  | lessEqual, p, q => p ≤ q
  | equal, p, q => p == q
  | notEqual, p, q => !(p == q)
  | _, _, _ => false

/-- What it says of two numbers is what it asks of their places. -/
theorem onNumbers_eq (comparison : Comparison) {x y : Double} {p q : Int}
    (hx : x.position? = some p) (hy : y.position? = some q) :
    comparison.onNumbers x y = comparison.onIntegers p q := by
  cases comparison with
  | greaterThan => simp only [onNumbers, onIntegers, Double.lt, Double.related, hx, hy]
  | lessThan => simp only [onNumbers, onIntegers, Double.lt, Double.related, hx, hy]
  | greaterEqual => simp only [onNumbers, onIntegers, Double.le, Double.related, hx, hy]
  | lessEqual => simp only [onNumbers, onIntegers, Double.le, Double.related, hx, hy]
  | equal => simp only [onNumbers, onIntegers, Double.equal, Double.related, hx, hy]
  | notEqual => simp only [onNumbers, onIntegers, Double.equal, Double.related, hx, hy]
  | contains | startsWith | endsWith => rfl

/-- **Two integer cells** compare as the places of their integers do. -/
theorem holds_int {comparison : Comparison} (h : comparison.isSearch = false) (i j : Int64) :
    comparison.holds (.int i) (.int j) =
      comparison.onIntegers (placeOf i.toInt) (placeOf j.toInt) := by
  rw [holds_eq h]
  exact comparison.onNumbers_eq (position?_ofInt i.toInt) (position?_ofInt j.toInt)

/-- Of the three ways in which two integers may stand to each other there is one. -/
theorem existsUnique_onIntegers (p q : Int) :
    ∃! comparison, comparison ∈ [lessThan, equal, greaterThan] ∧
      comparison.onIntegers p q = true := by
  -- What each of the three says, so that the three cases below differ only in which one survives.
  have hall : ∀ comparison ∈ [lessThan, equal, greaterThan], comparison.onIntegers p q = true →
      (comparison = lessThan ∧ p < q) ∨ (comparison = equal ∧ p = q) ∨
        (comparison = greaterThan ∧ q < p) := by
    simp [onIntegers]
  rcases Int.lt_trichotomy p q with h | h | h
  · refine ⟨lessThan, ⟨by decide, decide_eq_true h⟩, ?_⟩
    rintro comparison ⟨hmem, hholds⟩
    rcases hall comparison hmem hholds with ⟨heq, -⟩ | ⟨-, hne⟩ | ⟨-, hne⟩
    · exact heq
    · omega
    · omega
  · refine ⟨equal, ⟨by decide, beq_iff_eq.mpr h⟩, ?_⟩
    rintro comparison ⟨hmem, hholds⟩
    rcases hall comparison hmem hholds with ⟨-, hne⟩ | ⟨heq, -⟩ | ⟨-, hne⟩
    · omega
    · exact heq
    · omega
  · refine ⟨greaterThan, ⟨by decide, decide_eq_true h⟩, ?_⟩
    rintro comparison ⟨hmem, hholds⟩
    rcases hall comparison hmem hholds with ⟨-, hne⟩ | ⟨-, hne⟩ | ⟨heq, -⟩
    · omega
    · omega
    · exact heq

/-- The comparisons that hand on from one pair to the next. -/
def isTransitive (comparison : Comparison) : Bool := comparison.isOrdering || comparison == equal

/-- None of these is a search. -/
theorem isSearch_of_isTransitive {comparison : Comparison} (h : comparison.isTransitive = true) :
    comparison.isSearch = false := by
  cases comparison with
  | greaterThan | lessThan | greaterEqual | lessEqual | equal => rfl
  | notEqual | contains | startsWith | endsWith => cases h

/-- Each of them is handed on, as it is for integers. -/
theorem onIntegers_trans {comparison : Comparison} (h : comparison.isTransitive = true)
    {p q r : Int} (hpq : comparison.onIntegers p q = true)
    (hqr : comparison.onIntegers q r = true) : comparison.onIntegers p r = true := by
  cases comparison with
  | greaterThan | lessThan | greaterEqual | lessEqual | equal =>
    simp only [onIntegers, decide_eq_true_eq, beq_iff_eq] at *
    omega
  | notEqual | contains | startsWith | endsWith => cases h

/-- The order of the integers is the order of their places, as far as nothing is rounded. -/
theorem onIntegers_placeOf (comparison : Comparison) {i j : Int} (hi : Double.Unrounded i)
    (hj : Double.Unrounded j) :
    comparison.onIntegers (placeOf i) (placeOf j) = comparison.onIntegers i j := by
  have hlt := placeOf_lt_placeOf_iff hi hj
  have hgt := placeOf_lt_placeOf_iff hj hi
  have heq : (placeOf i == placeOf j) = (i == j) := by
    rw [Bool.eq_iff_iff, beq_iff_eq, beq_iff_eq]
    omega
  cases comparison with
  | greaterThan => exact decide_eq_decide.mpr hgt
  | lessThan => exact decide_eq_decide.mpr hlt
  | greaterEqual => exact decide_eq_decide.mpr (by omega)
  | lessEqual => exact decide_eq_decide.mpr (by omega)
  | equal => exact heq
  | notEqual => exact congrArg not heq
  | contains | startsWith | endsWith => rfl

/-- **Integer cells are in order**, though they are compared as doubles: one of less, equal and
    greater holds, and the other three comparisons are the negations of these.  The order is that of
    the integers where it says anything, and it is handed on from one pair to the next.  Up to
    `2^53` on either side it is the order of the integers. -/
theorem integers_in_order (i j k : Int64) :
    (∃! comparison, comparison ∈ [lessThan, equal, greaterThan] ∧
      comparison.holds (.int i) (.int j) = true) ∧
    greaterEqual.holds (.int i) (.int j) = !lessThan.holds (.int i) (.int j) ∧
    lessEqual.holds (.int i) (.int j) = !greaterThan.holds (.int i) (.int j) ∧
    notEqual.holds (.int i) (.int j) = !equal.holds (.int i) (.int j) ∧
    (i.toInt ≤ j.toInt → lessEqual.holds (.int i) (.int j) = true ∧
      greaterThan.holds (.int i) (.int j) = false) ∧
    (∀ comparison : Comparison, comparison.isTransitive = true →
      comparison.holds (.int i) (.int j) = true → comparison.holds (.int j) (.int k) = true →
        comparison.holds (.int i) (.int k) = true) ∧
    (i.toInt.natAbs ≤ 2 ^ 53 → j.toInt.natAbs ≤ 2 ^ 53 → ∀ comparison : Comparison,
      comparison.isSearch = false →
        comparison.holds (.int i) (.int j) = comparison.onIntegers i.toInt j.toInt) := by
  -- The comparisons come in pairs that deny each other; on integers, `≤` is the denial of `>`.
  have hnot : ∀ p q : Int, decide (q ≤ p) = !decide (p < q) := by
    intro p q
    rw [← decide_not]
    exact decide_eq_decide.mpr Int.not_lt.symm
  refine ⟨?_, ?_, ?_, rfl, ?_, ?_, ?_⟩
  · have hsearch : ∀ comparison ∈ [lessThan, equal, greaterThan], comparison.isSearch = false := by
      decide
    refine (existsUnique_congr fun comparison => and_congr_right fun hmem => ?_).mp
      (existsUnique_onIntegers (placeOf i.toInt) (placeOf j.toInt))
    rw [holds_int (hsearch comparison hmem)]
  · rw [holds_int rfl, holds_int rfl]
    exact hnot _ _
  · rw [holds_int rfl, holds_int rfl]
    exact hnot _ _
  · intro h
    -- Rounding keeps the order weakly: it may join two places and never exchanges them.
    have hplaces := placeOf_le_placeOf h
    rw [holds_int rfl, holds_int rfl]
    exact ⟨decide_eq_true hplaces, decide_eq_false (Int.not_lt.mpr hplaces)⟩
  · intro comparison h hij hjk
    have hsearch := isSearch_of_isTransitive h
    rw [holds_int hsearch] at hij hjk ⊢
    exact onIntegers_trans h hij hjk
  · intro hi hj comparison hsearch
    -- Up to the limit every integer is a double of its own, so the places are the integers.
    have hlimit : 2 * Double.ranksPerBinade = 2 ^ 53 := by decide
    rw [← hlimit] at hi hj
    rw [holds_int hsearch]
    exact comparison.onIntegers_placeOf hi hj

/-- The greatest integers share a place, the last two that are not rounded do not. -/
theorem integers_in_order_of_limits :
    (9223372036854775806 : Int64).toInt ≤ Int64.maxValue.toInt ∧
      greaterThan.holds (.int 9223372036854775806) (.int Int64.maxValue) = false ∧
      equal.holds (.int 9223372036854775806) (.int Int64.maxValue) = true ∧
      lessThan.holds (.int Int64.minValue) (.int Int64.maxValue) = true ∧
      (9007199254740991 : Int64).toInt.natAbs ≤ 2 ^ 53 ∧
      (9007199254740992 : Int64).toInt.natAbs ≤ 2 ^ 53 ∧
      lessThan.holds (.int 9007199254740991) (.int 9007199254740992) = true := by
  have hle : (9223372036854775806 : Int64).toInt ≤ Int64.maxValue.toInt := by decide
  have hgreatest := integers_in_order 9223372036854775806 Int64.maxValue 0
  have hzero := integers_in_order Int64.minValue 0 Int64.maxValue
  have hlast := integers_in_order 9007199254740991 9007199254740992 0
  have hbelow : lessThan.holds (.int Int64.minValue) (.int 0) = true := by decide +kernel
  have habove : lessThan.holds (.int 0) (.int Int64.maxValue) = true := by decide +kernel
  have hunrounded : (9007199254740991 : Int64).toInt.natAbs ≤ 2 ^ 53 := by decide
  have hunrounded' : (9007199254740992 : Int64).toInt.natAbs ≤ 2 ^ 53 := by decide
  refine ⟨hle, (hgreatest.2.2.2.2.1 hle).2, by decide +kernel,
    hzero.2.2.2.2.2.1 lessThan rfl hbelow habove, hunrounded, hunrounded', ?_⟩
  rw [hlast.2.2.2.2.2.2 hunrounded hunrounded' lessThan rfl]
  decide

end Comparison

end TableRules
