/-
  READING BACK: the shortest digits of a double denote that double.

  1. **Decimals as quotients** — `Decimal.rank` is the nearest rank of one quotient; the cases in
     which it does without the powers of ten make no difference.  So decimals of the same value
     have the same rank.

  2. **The search** — a hit on a grid has been checked to read back, the exact decimal reads back
     because every magnitude rounds to itself, and zeros at the end do not count.

  Nothing is said here of which digits are the shortest, only that whatever the search ends with
  denotes the double that it began with.  So no property of the grids is needed: a grid offers a
  decimal below and one above, and keeps the one that was tested.
-/
import Mathlib.Tactic.Linarith
import Mathlib.Tactic.Ring
import TableRules.Number.Shortest
import TableRules.Proofs.Rounding

namespace TableRules.Decimal

open Double

/-! ## Decimals as quotients

  The model does not write out a power of ten that is sure to give zero or infinity. With these
  cases taken back, a decimal is one quotient. -/

/-- A power of ten is not zero, ... -/
theorem pow_ten_pos (n : Nat) : 0 < 10 ^ n := Nat.pow_pos (by decide)

/-- ... and grows with the exponent. -/
theorem pow_ten_le {m n : Nat} (h : m ≤ n) : 10 ^ m ≤ 10 ^ n := Nat.pow_le_pow_right (by decide) h

/-- So small a decimal is zero. -/
theorem nearestRank_of_tiny {coefficient n : Nat} (h : coefficient.log2 + 401 ≤ n) :
    nearestRank (coefficient * unitsPerOne) (10 ^ n) = 0 := by
  have hlog : coefficient < 2 ^ (coefficient.log2 + 1) := Nat.lt_log2_self
  have hten : 2 ^ (coefficient.log2 + 1) ≤ 10 ^ (coefficient.log2 + 1) :=
    Nat.pow_le_pow_left (by decide) _
  obtain ⟨k, hk, rfl⟩ : ∃ k, 400 ≤ k ∧ n = coefficient.log2 + 1 + k :=
    ⟨n - (coefficient.log2 + 1), by omega, by omega⟩
  have hunits : 2 * unitsPerOne ≤ 10 ^ 400 := by decide +kernel
  have hpow : 10 ^ 400 ≤ 10 ^ k := pow_ten_le hk
  have hscaled := Nat.mul_lt_mul_of_lt_of_le (Nat.lt_of_lt_of_le hlog hten)
    (Nat.le_trans hunits hpow) (pow_ten_pos _)
  rw [← Nat.pow_add] at hscaled
  refine nearestRank_eq_zero ?_
  linarith

/-- So great a decimal is infinite. -/
theorem nearestRank_of_huge {coefficient n : Nat} (hcoefficient : 1 ≤ coefficient) (h : 400 ≤ n) :
    nearestRank (coefficient * 10 ^ n * unitsPerOne) 1 = infinityRank := by
  have hpow : 10 ^ 400 ≤ 10 ^ n := pow_ten_le h
  have hunits : doubledLimit ≤ 2 * (10 ^ 400 * unitsPerOne) := by decide +kernel
  have hscaled := Nat.mul_le_mul_right unitsPerOne (Nat.mul_le_mul hcoefficient hpow)
  refine Nat.le_antisymm (nearestRank_le_infinityRank _ _) ?_
  rw [← Nat.not_lt, nearestRank_lt_infinityRank_iff _ Nat.one_pos]
  generalize 10 ^ 400 = ten at hunits hscaled
  linarith

/-- **A decimal is rounded as one quotient.** -/
theorem rank_eq (d : Decimal) : d.rank =
    nearestRank (d.coefficient * 10 ^ d.exponent.toNat * unitsPerOne)
      (10 ^ (-d.exponent).toNat) := by
  rw [rank, Nat.pow_eq, Nat.pow_eq]
  split
  next h =>
    rcases h with hzero | htiny
    · rw [hzero, Nat.zero_mul, Nat.zero_mul, nearestRank_zero (pow_ten_pos _)]
    · rw [show d.exponent.toNat = 0 by omega, Nat.pow_zero, Nat.mul_one,
        nearestRank_of_tiny (by omega)]
  next =>
    split
    next =>
      rw [show (-d.exponent).toNat = 0 by omega, Nat.pow_zero,
        nearestRank_of_huge (by omega) (by omega)]
    next =>
      split
      next => rw [show (-d.exponent).toNat = 0 by omega, Nat.pow_zero]
      next => rw [show d.exponent.toNat = 0 by omega, Nat.pow_zero, Nat.mul_one]

/-- Zeros at the end of the coefficient do not count. -/
theorem rank_normal (d : Decimal) : d.normal.rank = d.rank := by
  induction d using normal.induct with
  | case1 d hzero =>
    rw [normal, if_pos hzero, rank, if_pos (.inl rfl), rank, if_pos (.inl hzero)]
  | case2 d hzero hten ih =>
    rw [normal, if_neg hzero, if_pos hten, ih, rank_eq, rank_eq]
    refine nearestRank_congr (pow_ten_pos _) (pow_ten_pos _) ?_
    have hcoefficient : d.coefficient = 10 * (d.coefficient / 10) := by omega
    generalize d.coefficient / 10 = c at *
    rw [hcoefficient]
    -- The zero that is dropped moves to the exponent, on whichever side of the point that is.
    rcases Int.lt_or_le d.exponent 0 with hneg | hnonneg
    · rw [show (d.exponent + 1).toNat = d.exponent.toNat by omega,
        show (-d.exponent).toNat = (-(d.exponent + 1)).toNat + 1 by omega]
      ring
    · rw [show (d.exponent + 1).toNat = d.exponent.toNat + 1 by omega,
        show (-d.exponent).toNat = (-(d.exponent + 1)).toNat by omega]
      ring
  | case3 d hzero hten => rw [normal, if_neg hzero, if_neg hten]

/-! ## The search

  From the inside out: one grid, all grids, the exact value, and the digits without their zeros. -/

/-- A hit on a grid reads back. The decimal below and the one above are both tested, and one of them
    is a hit only if it passed. -/
theorem rank_of_onGrid? {tie : Tie} {rank : Nat} {e : Int} {d : Decimal}
    (h : onGrid? tie rank e = some d) : d.rank = rank := by
  rw [onGrid?.eq_def] at h
  dsimp only at h
  -- Whatever the search gives has been read back first: the decimal below or the one above.
  split at h
  next hbelow =>
    split at h
    next habove => rw [← Option.some.inj h, habove]
    next => cases h
  next hbelow =>
    have hbelow := Decidable.not_not.mp hbelow
    split at h
    next => rw [← Option.some.inj h, hbelow]
    next habove =>
      have habove := Decidable.not_not.mp habove
      split at h
      next => rw [← Option.some.inj h, hbelow]
      next =>
        split at h
        next => rw [← Option.some.inj h, habove]
        next =>
          cases tie with
          | up => rw [← Option.some.inj h, habove]
          | even =>
            rw [← Option.some.inj h]
            split
            next => exact hbelow
            next => exact habove

/-- So does the first hit on finer and finer grids. -/
theorem rank_of_firstOnGrid? {tie : Tie} {rank tries : Nat} {e : Int} {d : Decimal}
    (h : firstOnGrid? tie rank tries e = some d) : d.rank = rank := by
  induction tries generalizing e with
  | zero => cases h
  | succ tries ih =>
    rcases Option.or_eq_some_iff.mp h with hhit | ⟨-, hrest⟩
    · exact rank_of_onGrid? hhit
    · exact ih hrest

/-- The exact value of a magnitude reads back. -/
theorem rank_exact {rank : Nat} (h : rank ≤ infinityRank) : (exact rank).rank = rank := by
  have hten : Nat.pow 5 1074 * unitsPerOne = 10 ^ 1074 := by decide +kernel
  have hpos := pow_ten_pos 1074
  have hexponent : (-(exact rank).exponent).toNat = 1074 := rfl
  rw [rank_eq, hexponent]
  generalize 10 ^ 1074 = ten at hten hpos ⊢
  have hquotient : (exact rank).coefficient * 10 ^ (exact rank).exponent.toNat * unitsPerOne * 1 =
      unitsOfRank rank * ten := by
    show unitsOfRank rank * Nat.pow 5 1074 * 1 * unitsPerOne * 1 = _
    rw [← hten]
    generalize Nat.pow 5 1074 = five
    ring
  exact (nearestRank_congr hpos Nat.one_pos hquotient).trans (nearestRank_unitsOfRank h)

/-- **The shortest digits of a double read back.** -/
theorem rank_shortest (tie : Tie) {rank : Nat} (h : rank ≤ infinityRank) :
    (shortest tie rank).rank = rank := by
  rw [shortest, rank_normal]
  cases hfirst : firstOnGrid? tie rank 20 (coarsestGrid rank) with
  | none => exact rank_exact h
  | some d => exact rank_of_firstOnGrid? hfirst

end TableRules.Decimal
