/-
  ROUNDING: which rank is the nearest, and what follows from it.

  1. **Ranks as digits** — a finite rank is a MANTISSA below `2^53` on a SCALE of `2^h`, and the
     next rank is the next mantissa on the same scale.  So the magnitudes grow with the ranks, and
     the MIDPOINT of two neighbours is an odd number on half their scale.

  2. **The nearest rank** — `nearestRank_le_iff`: a quotient rounds to at most a rank if and only
     if it lies below the midpoint above that rank, or on it if the rank is even.  All that is used
     of rounding is read off this line.

  3. **What follows** — rounding is monotone and depends on the quotient alone, every magnitude
     rounds to itself, and a quotient is rounded up by no more than a part in `2^53`.

  The crux is the change of scale.  The model halves a quotient until 53 bits are left and rounds
  what remains, so it rounds to a mantissa on one scale, while the rank may lie on another: a
  mantissa that is rounded up to `2^53` is the first of the next scale.  As ranks count on from one
  scale to the next, nothing has to be corrected, but a comparison with a rank has to look at three
  cases, whether its scale is the one of the quotient, a smaller or a greater one.
-/
import Mathlib.Tactic.Linarith
import Mathlib.Tactic.Ring
import TableRules.Number.Double

namespace TableRules.Double

/-! ## Ranks as digits

  Ranks count all magnitudes from zero on. A block of so many ranks shares a scale, except that the
  first two share the least. -/

theorem ranksPerBinade_eq : ranksPerBinade = 4503599627370496 := by decide

theorem unitsPerOne_pos : 0 < unitsPerOne := by decide +kernel

/-- How often the mantissa of a rank is doubled. -/
def scaleOf (rank : Nat) : Nat := rank / ranksPerBinade - 1

/-- The digits of a rank, on its scale. -/
def mantissaOf (rank : Nat) : Nat := rank - scaleOf rank * ranksPerBinade

/-- A rank is its mantissa on its scale, and has all 53 digits where the scale is not the least. -/
theorem mantissaOf_spec (rank : Nat) :
    rank = scaleOf rank * ranksPerBinade + mantissaOf rank ∧
      mantissaOf rank < 2 * ranksPerBinade ∧
      (scaleOf rank = 0 ∨ ranksPerBinade ≤ mantissaOf rank) := by
  rw [mantissaOf, scaleOf, ranksPerBinade_eq]
  omega

/-- From the second binade on a mantissa has all 53 digits. -/
theorem le_mantissaOf {rank : Nat} (h : ranksPerBinade ≤ rank) :
    ranksPerBinade ≤ mantissaOf rank := by
  obtain ⟨hrank, -, hscale | hge⟩ := mantissaOf_spec rank
  · rw [hscale] at hrank
    omega
  · exact hge

/-- No other mantissa and scale make that rank. -/
theorem scaleOf_eq {rank scale mantissa : Nat} (h : rank = scale * ranksPerBinade + mantissa)
    (hlt : mantissa < 2 * ranksPerBinade) (hge : scale = 0 ∨ ranksPerBinade ≤ mantissa) :
    scaleOf rank = scale ∧ mantissaOf rank = mantissa := by
  rw [mantissaOf, scaleOf]
  rw [ranksPerBinade_eq] at *
  omega

/-- **The magnitude of a rank** is its mantissa on its scale. -/
theorem unitsOfRank_eq (rank : Nat) : unitsOfRank rank = mantissaOf rank * 2 ^ scaleOf rank := by
  rw [unitsOfRank, Nat.pow_eq]
  split
  next h =>
    have hscale : scaleOf rank = 0 := by
      rw [scaleOf, Nat.div_eq_of_lt h]
    rw [mantissaOf, hscale]
    omega
  next h =>
    have hmantissa : ranksPerBinade + rank % ranksPerBinade = mantissaOf rank := by
      rw [mantissaOf, scaleOf]
      rw [ranksPerBinade_eq] at h ⊢
      omega
    rw [hmantissa, scaleOf]

/-- The next magnitude is one step on the same scale further. -/
theorem unitsOfRank_succ (rank : Nat) :
    unitsOfRank (rank + 1) = (mantissaOf rank + 1) * 2 ^ scaleOf rank := by
  obtain ⟨hrank, hlt, hge⟩ := mantissaOf_spec rank
  rw [unitsOfRank_eq]
  rcases Nat.lt_or_ge (mantissaOf rank + 1) (2 * ranksPerBinade) with hnext | hcarry
  · obtain ⟨hscale, hmantissa⟩ := @scaleOf_eq (rank + 1) (scaleOf rank) (mantissaOf rank + 1)
      (by omega) hnext (by omega)
    rw [hscale, hmantissa]
  · -- the mantissa overflows, and the next rank starts the next binade
    obtain ⟨hscale, hmantissa⟩ := @scaleOf_eq (rank + 1) (scaleOf rank + 1) ranksPerBinade
      (by rw [Nat.succ_mul]; omega) (by decide) (by omega)
    have hall : mantissaOf rank + 1 = 2 * ranksPerBinade := by omega
    rw [hscale, hmantissa, hall, Nat.pow_succ]
    ring

/-- So the magnitudes grow with the ranks. -/
theorem unitsOfRank_lt_succ (rank : Nat) : unitsOfRank rank < unitsOfRank (rank + 1) := by
  rw [unitsOfRank_succ, unitsOfRank_eq]
  exact Nat.mul_lt_mul_of_pos_right (Nat.lt_succ_self _) (Nat.two_pow_pos _)

/-- The first two binades count the units. -/
theorem unitsOfRank_of_le {rank : Nat} (h : rank ≤ ranksPerBinade) : unitsOfRank rank = rank := by
  obtain ⟨hscale, hmantissa⟩ := @scaleOf_eq rank 0 rank (by omega)
    (Nat.lt_of_le_of_lt h (by decide)) (.inl rfl)
  rw [unitsOfRank_eq, hscale, hmantissa, Nat.pow_zero, Nat.mul_one]

/-- Twice the midpoint of a rank and the next. -/
theorem unitsOfRank_add_succ (rank : Nat) :
    unitsOfRank rank + unitsOfRank (rank + 1) = (2 * mantissaOf rank + 1) * 2 ^ scaleOf rank := by
  rw [unitsOfRank_succ, unitsOfRank_eq]
  ring

/-! ## The nearest rank

  What the model computes, in halvings and one division, against what it means, in midpoints. -/

/-- A quotient rounds to at most an integer if it lies below the midpoint above it, or on it and the
    integer is even. -/
theorem roundDiv_le_iff (num : Nat) {den : Nat} (hden : 0 < den) (n : Nat) :
    roundDiv num den ≤ n ↔
      2 * num < (2 * n + 1) * den ∨ 2 * num = (2 * n + 1) * den ∧ n % 2 = 0 := by
  have hnum := Nat.div_add_mod num den
  have hrest := Nat.mod_lt num hden
  rw [roundDiv]
  generalize num / den = q at *
  generalize num % den = rest at *
  subst hnum
  rcases Nat.lt_trichotomy q n with hlt | rfl | hgt
  · -- the quotient is a whole step below
    have hstep : den * (q + 1) ≤ den * n := Nat.mul_le_mul_left _ hlt
    have hbelow : 2 * (den * q + rest) < (2 * n + 1) * den := by linarith
    refine iff_of_true ?_ (.inl hbelow)
    split
    · omega
    · split <;> omega
  · have hcompare : (2 * q + 1) * den = 2 * (den * q) + den := by ring
    rw [hcompare]
    split
    · omega
    · split <;> omega
  · have hstep : den * (n + 1) ≤ den * q := Nat.mul_le_mul_left _ hgt
    have habove : (2 * n + 1) * den < 2 * (den * q + rest) := by linarith
    refine iff_of_false ?_ (by omega)
    split
    · omega
    · split <;> omega

/-- A quotient below an integer rounds to at most that integer. -/
theorem roundDiv_le {num den n : Nat} (h : num < n * den) : roundDiv num den ≤ n := by
  have hden : 0 < den := Nat.pos_of_mul_pos_left (Nat.zero_lt_of_lt h)
  rw [roundDiv_le_iff num hden]
  left
  linarith

/-- A quotient from an integer on rounds to at least that integer. -/
theorem le_roundDiv {num den n : Nat} (hden : 0 < den) (h : n * den ≤ num) :
    n ≤ roundDiv num den := by
  cases n with
  | zero => exact Nat.zero_le _
  | succ n =>
    rw [Nat.succ_le_iff, ← Nat.not_le, roundDiv_le_iff num hden]
    have habove : (2 * n + 1) * den < 2 * num := by linarith
    omega

/-- How often a quotient is halved until 53 bits are left. -/
def halvingsOf (num den : Nat) : Nat := (num / den).log2 - 52

/-- So often halved, a quotient has at most 53 bits, ... -/
theorem lt_of_halvingsOf (num : Nat) {den : Nat} (hden : 0 < den) :
    num < den * (2 * ranksPerBinade * 2 ^ halvingsOf num den) := by
  rw [mul_comm, ← Nat.div_lt_iff_lt_mul hden]
  have hlog : num / den < 2 ^ ((num / den).log2 + 1) := Nat.lt_log2_self
  refine Nat.lt_of_lt_of_le hlog ?_
  have hbits : 2 * ranksPerBinade * 2 ^ halvingsOf num den = 2 ^ (halvingsOf num den + 53) := by
    rw [Nat.pow_add, mul_comm, ranksPerBinade_eq]
  rw [hbits, halvingsOf]
  exact Nat.pow_le_pow_right (by decide) (by omega)

/-- ... and all 53, if it was halved at all. -/
theorem le_of_halvingsOf (num : Nat) {den : Nat} (hden : 0 < den)
    (h : halvingsOf num den ≠ 0) : den * (ranksPerBinade * 2 ^ halvingsOf num den) ≤ num := by
  rw [mul_comm, ← Nat.le_div_iff_mul_le hden]
  rw [halvingsOf] at h ⊢
  have hbits : ranksPerBinade * 2 ^ ((num / den).log2 - 52) = 2 ^ (num / den).log2 := by
    rw [ranksPerBinade, Nat.pow_eq, ← Nat.pow_add]
    congr 1
    omega
  rw [hbits]
  exact Nat.log2_self_le fun hzero => h (by rw [hzero]; decide)

/-- The nearest rank, with the number of halvings by name. True by definition. -/
theorem nearestRank_eq (num den : Nat) : nearestRank num den = min infinityRank
    (halvingsOf num den * ranksPerBinade + roundDiv num (den * 2 ^ halvingsOf num den)) := rfl

theorem nearestRank_le_infinityRank (num den : Nat) : nearestRank num den ≤ infinityRank :=
  Nat.min_le_left _ _

/-- A greater scale is at least twice as great. -/
theorem two_mul_scaled_le (den : Nat) {scale scale' : Nat} (h : scale < scale') :
    2 * (den * 2 ^ scale) ≤ den * 2 ^ scale' := by
  have hpow := Nat.mul_le_mul_left den (Nat.pow_le_pow_right two_pos h)
  rw [Nat.pow_succ] at hpow
  linarith

/-- **The nearest rank** is at most a finite rank if and only if the quotient lies below the
    midpoint above that rank, or on it if the rank is even. -/
theorem nearestRank_le_iff (num : Nat) {den : Nat} (hden : 0 < den) {rank : Nat}
    (hrank : rank < infinityRank) :
    nearestRank num den ≤ rank ↔
      2 * num < (unitsOfRank rank + unitsOfRank (rank + 1)) * den ∨
        2 * num = (unitsOfRank rank + unitsOfRank (rank + 1)) * den ∧ rank % 2 = 0 := by
  obtain ⟨hdigits, hlt, hge⟩ := mantissaOf_spec rank
  have hupper := lt_of_halvingsOf num hden
  have hlower := le_of_halvingsOf num hden
  rw [nearestRank_eq, min_le_iff, or_iff_right (Nat.not_le.mpr hrank), unitsOfRank_add_succ]
  generalize halvingsOf num den = h at *
  generalize mantissaOf rank = m at *
  generalize scaleOf rank = s at *
  have hround := roundDiv_le_iff num (Nat.mul_pos hden (Nat.two_pow_pos h))
  have hpos : 0 < den * 2 ^ s := Nat.mul_pos hden (Nat.two_pow_pos s)
  have hmidpoint : (2 * m + 1) * 2 ^ s * den = (2 * m + 1) * (den * 2 ^ s) := by ring
  have hupper : num < 2 * ranksPerBinade * (den * 2 ^ h) := by linarith
  rw [hmidpoint]
  rcases Nat.lt_trichotomy h s with hless | rfl | hmore
  · -- the quotient lies in a lower binade, and a carry takes it at most to the start of this one
    have hmantissa := Nat.mul_le_mul_right (den * 2 ^ s) (show ranksPerBinade ≤ m by omega)
    have hdoubled := Nat.mul_le_mul_left ranksPerBinade (two_mul_scaled_le den hless)
    have hranks := Nat.mul_le_mul_right ranksPerBinade hless
    have hrounded := roundDiv_le hupper
    refine iff_of_true ?_ (.inl ?_)
    · rw [Nat.succ_mul] at hranks
      omega
    · linarith
  · have hparity : rank % 2 = m % 2 := by
      rw [ranksPerBinade_eq] at hdigits
      omega
    rw [hparity, ← hround m]
    omega
  · -- the quotient lies in a higher binade
    have hlower : ranksPerBinade * (den * 2 ^ h) ≤ num := by
      have := hlower (by omega)
      linarith
    have hmantissa := Nat.mul_le_mul_right (den * 2 ^ s) (Nat.succ_le_of_lt hlt)
    have hdoubled := Nat.mul_le_mul_left ranksPerBinade (two_mul_scaled_le den hmore)
    have hranks := Nat.mul_le_mul_right ranksPerBinade hmore
    have hrounded := le_roundDiv (Nat.mul_pos hden (Nat.two_pow_pos h)) hlower
    have habove : (2 * m + 1) * (den * 2 ^ s) < 2 * num := by linarith
    refine iff_of_false ?_ (by omega)
    rw [Nat.succ_mul] at hranks
    omega

/-! ## What follows -/

/-- Rounding is monotone in the quotient. -/
theorem nearestRank_le_nearestRank {num den num' den' : Nat} (hden : 0 < den) (hden' : 0 < den')
    (h : num * den' ≤ num' * den) : nearestRank num den ≤ nearestRank num' den' := by
  rcases Nat.lt_or_ge (nearestRank num' den') infinityRank with hfinite | hinfinite
  -- The larger quotient is not beyond its own upper midpoint, so neither is the smaller one.
  · have hmidpoint := (nearestRank_le_iff num' hden' hfinite).mp (Nat.le_refl _)
    rw [nearestRank_le_iff num hden hfinite]
    generalize nearestRank num' den' = rank at *
    generalize unitsOfRank rank + unitsOfRank (rank + 1) = m at *
    rcases hmidpoint with hbelow | ⟨hon, heven⟩
    · refine .inl (Nat.lt_of_mul_lt_mul_right (a := den') ?_)
      have := Nat.mul_lt_mul_of_pos_right hbelow hden
      linarith
    · have hle : 2 * num ≤ m * den := by
        refine Nat.le_of_mul_le_mul_right ?_ hden'
        have := congrArg (· * den) hon
        linarith
      -- On the midpoint itself the even rank decides, and it is the same rank for both.
      rcases Nat.lt_or_eq_of_le hle with hlt | heq
      · exact .inl hlt
      · exact .inr ⟨heq, heven⟩
  · exact Nat.le_trans (nearestRank_le_infinityRank num den) hinfinite

/-- Rounding depends on the quotient alone. -/
theorem nearestRank_congr {num den num' den' : Nat} (hden : 0 < den) (hden' : 0 < den')
    (h : num * den' = num' * den) : nearestRank num den = nearestRank num' den' :=
  Nat.le_antisymm (nearestRank_le_nearestRank hden hden' (Nat.le_of_eq h))
    (nearestRank_le_nearestRank hden' hden (Nat.le_of_eq h.symm))

/-- Less than half a unit is zero. -/
theorem nearestRank_eq_zero {num den : Nat} (h : 2 * num < den) : nearestRank num den = 0 := by
  have hone : unitsOfRank 0 + unitsOfRank (0 + 1) = 1 := by decide
  rw [← Nat.le_zero, nearestRank_le_iff num (Nat.zero_lt_of_lt h) (by decide), hone]
  left
  omega

/-- Nothing rounds to nothing. -/
theorem nearestRank_zero {den : Nat} (hden : 0 < den) : nearestRank 0 den = 0 :=
  nearestRank_eq_zero (by omega)

/-- How far apart the magnitudes of the last binade are. -/
def lastStep : Nat := Nat.pow 2 2045

/-- Twice the midpoint of the greatest finite magnitude and infinity. -/
def doubledLimit : Nat := (4 * ranksPerBinade - 1) * lastStep

/-- A quotient rounds to a finite rank if and only if it lies below the midpoint above the
    greatest, which is odd. -/
theorem nearestRank_lt_infinityRank_iff (num : Nat) {den : Nat} (hden : 0 < den) :
    nearestRank num den < infinityRank ↔ 2 * num < doubledLimit * den := by
  have hmidpoint : unitsOfRank (infinityRank - 1) + unitsOfRank (infinityRank - 1 + 1) =
      doubledLimit := by decide +kernel
  have hodd : (infinityRank - 1) % 2 ≠ 0 := by decide
  have hgreatest : infinityRank - 1 < infinityRank := by decide
  rw [← hmidpoint, Nat.lt_iff_le_pred (by decide), nearestRank_le_iff num hden hgreatest]
  simp only [hodd, and_false, or_false]

/-- Every magnitude rounds to itself. -/
theorem nearestRank_unitsOfRank {rank : Nat} (hrank : rank ≤ infinityRank) :
    nearestRank (unitsOfRank rank) 1 = rank := by
  refine Nat.le_antisymm ?_ ?_
  · rcases Nat.lt_or_eq_of_le hrank with hfinite | rfl
    · rw [nearestRank_le_iff _ Nat.one_pos hfinite]
      have := unitsOfRank_lt_succ rank
      omega
    · exact nearestRank_le_infinityRank _ _
  · cases rank with
    | zero => exact Nat.zero_le _
    | succ rank =>
      rw [Nat.succ_le_iff, ← Nat.not_le, nearestRank_le_iff _ Nat.one_pos hrank]
      have := unitsOfRank_lt_succ rank
      omega

/-- A quotient of at least `2^52` is rounded up by no more than a part in `2^53`. -/
theorem unitsOfRank_nearestRank_le {num den : Nat} (hden : 0 < den)
    (h : ranksPerBinade * den ≤ num) :
    2 * ranksPerBinade * (unitsOfRank (nearestRank num den) * den) ≤
      (2 * ranksPerBinade + 1) * num := by
  have hbound := nearestRank_le_infinityRank num den
  rcases Nat.lt_or_ge ranksPerBinade (nearestRank num den) with hlarge | hsmall
  · obtain ⟨rank, hrank⟩ := Nat.exists_eq_add_one_of_ne_zero (Nat.ne_zero_of_lt hlarge)
    rw [hrank] at hlarge hbound ⊢
    -- the quotient is not below the midpoint under its rank
    have hmidpoint : (2 * mantissaOf rank + 1) * 2 ^ scaleOf rank * den ≤ 2 * num := by
      have hnot : ¬ nearestRank num den ≤ rank := by omega
      rw [nearestRank_le_iff num hden hbound, unitsOfRank_add_succ] at hnot
      omega
    have hmantissa := Nat.mul_le_mul_right (2 ^ scaleOf rank * den)
      (le_mantissaOf (Nat.le_of_lt_succ hlarge))
    have hscaled := Nat.mul_le_mul_left (2 * ranksPerBinade + 1) hmidpoint
    have hstep := Nat.zero_le (2 ^ scaleOf rank * den)
    rw [unitsOfRank_succ]
    linarith
  · rw [unitsOfRank_of_le hsmall]
    have hunits := Nat.mul_le_mul_right den hsmall
    have hscaled := Nat.mul_le_mul_left (2 * ranksPerBinade) (Nat.le_trans hunits h)
    linarith

/-- A number of 53 bits on a scale is the magnitude of a rank. -/
theorem exists_unitsOfRank_eq {mantissa : Nat} (h : mantissa < 2 * ranksPerBinade) (scale : Nat) :
    ∃ rank ≤ (scale + 2) * ranksPerBinade, unitsOfRank rank = mantissa * 2 ^ scale := by
  induction scale generalizing mantissa with
  | zero =>
    obtain ⟨hscale, hmantissa⟩ := @scaleOf_eq mantissa 0 mantissa (by omega) h (.inl rfl)
    exact ⟨mantissa, by omega, by rw [unitsOfRank_eq, hscale, hmantissa]⟩
  | succ scale ih =>
    rcases Nat.lt_or_ge mantissa ranksPerBinade with hfew | hfull
    · -- the number has a bit to spare for a lower scale
      obtain ⟨rank, hrank, hunits⟩ := @ih (2 * mantissa) (by omega)
      refine ⟨rank, Nat.le_trans hrank (Nat.mul_le_mul_right _ (by omega)), ?_⟩
      rw [hunits, Nat.pow_succ]
      ring
    · have hspec := scaleOf_eq (@rfl _ ((scale + 1) * ranksPerBinade + mantissa)) h (.inr hfull)
      refine ⟨(scale + 1) * ranksPerBinade + mantissa, ?_, ?_⟩
      · rw [Nat.add_mul _ 2]
        omega
      · rw [unitsOfRank_eq, hspec.1, hspec.2]

/-- A number of 53 bits on a scale is not rounded. -/
theorem unitsOfRank_nearestRank {mantissa scale : Nat} (h : mantissa < 2 * ranksPerBinade)
    (hscale : scale + 2 ≤ 2047) :
    unitsOfRank (nearestRank (mantissa * 2 ^ scale) 1) = mantissa * 2 ^ scale := by
  obtain ⟨rank, hrank, hunits⟩ := exists_unitsOfRank_eq h scale
  rw [← hunits, nearestRank_unitsOfRank (Nat.le_trans hrank (Nat.mul_le_mul_right _ hscale))]

/-- An integer of 53 bits is not rounded. -/
theorem unitsOfRank_nearestRank_mul {n : Nat} (h : n < 2 * ranksPerBinade) :
    unitsOfRank (nearestRank (n * unitsPerOne) 1) = n * unitsPerOne := by
  have hpower : unitsPerOne = 2 ^ unitsPerOne.log2 := by decide +kernel
  have hscale : unitsPerOne.log2 + 2 ≤ 2047 := by decide +kernel
  rw [hpower]
  exact unitsOfRank_nearestRank h hscale

end TableRules.Double
