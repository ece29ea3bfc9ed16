/-
  STORED DOUBLES: which doubles come back from a text in which they are stored.

  1. **Digits** — digits are gathered into one integer as long as it fits, and what is gathered is
     no more than what is written.

  2. **Spelling** — the decimal that is written of a double denotes that double, and few of its
     digits stand before the point.

  3. **Reading** — the digits and the power of ten are rounded one by one and then once more.  Each
     rounding adds no more than a part in `2^53`, so only the last two ranks below infinity could
     be taken beyond it, and these are looked at.  So every finite double comes back as some
     double.

  The crux is that reading is not exact, and must not run into infinity all the same.  The reader
  rounds the digits to a double, the power of ten to a double, and the product once more; so near
  the top a number could be taken beyond the greatest double though it is none greater.  Up to the
  midpoint above the third rank from infinity there is room: two roundings add less than twice a
  part in `2^53`, and two whole ranks are left before the third one could reach infinity
  (`productRank_lt_infinityRank`).  The two ranks above are two numbers, whose shortest decimals
  are known, and they are read.
-/
import TableRules.Proofs.ReadBack
import TableRules.Proofs.StoredRules

namespace TableRules

open Double

namespace Json

/-! ## Digits

  What the reader does with the digits, before it rounds anything. It stops gathering when the
  integer would no longer fit, and counts the digits that are left for the exponent. -/

/-- More digits make no less. -/
theorem le_ofDigitChars (n : Nat) (ds : List Char) : n ≤ Nat.ofDigitChars 10 ds n := by
  rw [Nat.ofDigitChars_eq_ofDigitChars_zero]
  exact Nat.le_add_right_of_le (Nat.le_mul_of_pos_left n (Decimal.pow_ten_pos _))

/-- Digits are gathered one after the other, so what stands behind starts from what stands
    before. -/
theorem ofDigits_append (ds es : List Char) :
    Decimal.ofDigits (ds ++ es) = Nat.ofDigitChars 10 es (Decimal.ofDigits ds) :=
  Nat.ofDigitChars_append 0

/-- So many digits make less than the power of ten. -/
theorem ofDigits_lt (ds : List Char) (h : ∀ c ∈ ds, c.isDigit = true) :
    Decimal.ofDigits ds < 10 ^ ds.length := by
  rw [Decimal.ofDigits]
  induction ds with
  | nil => exact Nat.one_pos
  | cons d ds ih =>
    have hdigit : d.toNat - '0'.toNat ≤ 9 := by
      have hd := h d (List.mem_cons_self ..)
      have hgreatest : d.toNat ≤ '9'.toNat := (Bool.and_eq_true_iff.mp hd).2 |> of_decide_eq_true
      exact Nat.sub_le_sub_right hgreatest _
    have hscaled := Nat.mul_le_mul_left (10 ^ ds.length) hdigit
    have hrest := ih fun c hc => h c (List.mem_cons_of_mem _ hc)
    rw [Nat.ofDigitChars_cons, Nat.ofDigitChars_eq_ofDigitChars_zero, List.length_cons,
      Nat.pow_succ, Nat.mul_zero, Nat.zero_add]
    omega

namespace Number

/-- Digits are gathered as long as what they make fits. -/
theorem gather_of_le {n : Nat} {ds : List Char} (h : Nat.ofDigitChars 10 ds n ≤ maxSignificand) :
    gather n ds = (Nat.ofDigitChars 10 ds n, []) := by
  induction ds generalizing n with
  | nil => rfl
  | cons d ds ih =>
    rw [Nat.ofDigitChars_cons, Nat.mul_comm] at h
    rw [gather, if_neg (Nat.not_lt.mpr (Nat.le_trans (le_ofDigitChars _ ds) h)), ih h,
      Nat.ofDigitChars_cons, Nat.mul_comm]

/-- What is gathered is no more than what is written. -/
theorem gather_le (n : Nat) (ds : List Char) :
    (gather n ds).1 * 10 ^ (gather n ds).2.length ≤ Nat.ofDigitChars 10 ds n ∧
      (gather n ds).2.length ≤ ds.length := by
  induction ds generalizing n with
  | nil => exact ⟨Nat.le_of_eq (Nat.mul_one n), Nat.le_refl _⟩
  | cons d ds ih =>
    rw [gather]
    split
    · refine ⟨?_, Nat.le_refl _⟩
      rw [Nat.ofDigitChars_eq_ofDigitChars_zero, Nat.mul_comm]
      exact Nat.le_add_right _ _
    · obtain ⟨hle, hlength⟩ := ih (n * 10 + (d.toNat - '0'.toNat))
      rw [Nat.ofDigitChars_cons, Nat.mul_comm 10 n]
      exact ⟨hle, Nat.le_succ_of_le hlength⟩

/-- What digits before and after the point stand for, if those before it fit. -/
theorem double?_eq {whole : List Char} (h : Decimal.ofDigits whole ≤ maxSignificand)
    (negative : Bool) (fraction : List Char) (exponent : Int) :
    double? negative whole fraction exponent =
      (scale? (nearestRank ((gather (Decimal.ofDigits whole) fraction).1 * unitsPerOne) 1)
        (exponent - fraction.length +
          (gather (Decimal.ofDigits whole) fraction).2.length)).map (ofRank negative) := by
  have hunread := (gather_le (Decimal.ofDigits whole) fraction).2
  have hexponent : exponent + ([] : List Char).length -
      (fraction.length - (gather (Decimal.ofDigits whole) fraction).2.length : Nat) =
      exponent - fraction.length + (gather (Decimal.ofDigits whole) fraction).2.length := by
    rw [List.length_nil]
    omega
  rw [double?, gather_of_le h]
  dsimp only
  rw [← hexponent]
  rfl

end Number

/-! ## Spelling

  What the writer puts down, in each of its three ways. The decimal that is denoted is the same in
  all of them but one, which writes it with a zero more. -/

namespace Spelt

/-- The decimal that a spelled number denotes. -/
def decimal (n : Spelt) : Decimal :=
  ⟨Decimal.ofDigits (n.whole ++ n.fraction), n.exponent.getD 0 - n.fraction.length⟩

/-- With an exponent the decimal is the one that was written: the point moves it by as many places
    as there are digits behind. -/
theorem decimal_scientific (negative : Bool) (d : Decimal) :
    (scientific negative d).decimal = d := by
  have hlength := List.length_pos_iff.mpr (digits_ne_nil d.coefficient)
  have hexponent : d.leadingExponent - ((Decimal.digits d.coefficient).drop 1).length =
      d.exponent := by
    rw [Decimal.leadingExponent, List.length_drop]
    omega
  show Decimal.mk _ _ = Decimal.mk _ _
  rw [scientific, List.take_append_drop, ofDigits_digits, Option.getD_some, hexponent]

/-- So it is with a point among the digits, ... -/
theorem decimal_small (negative : Bool) (d : Decimal) (h : d.coefficient = 0 → d.exponent = 0)
    (hexponent : d.exponent < 0) : (small negative d h hexponent).decimal = d := by
  have hlength := lt_length_padded d
  have hvalue : Decimal.ofDigits (padded d) = d.coefficient := by
    rw [padded, Decimal.ofDigits, Nat.ofDigitChars_append, Nat.ofDigitChars_replicate_zero,
      Nat.mul_zero, ← Decimal.ofDigits, ofDigits_digits]
  show Decimal.mk _ _ = Decimal.mk _ _
  rw [small, List.take_append_drop, hvalue, Option.getD_none, List.length_drop]
  congr 1
  omega

/-- ... while `.0` behind makes it ten times as many of a tenth. -/
theorem decimal_large (negative : Bool) (d : Decimal) (h : d.coefficient = 0 → d.exponent = 0) :
    (large negative d h).decimal = ⟨d.coefficient * 10 ^ (d.exponent.toNat + 1), -1⟩ := by
  have hvalue : Decimal.ofDigits (Decimal.digits d.coefficient ++
      List.replicate d.exponent.toNat '0' ++ ['0']) =
        d.coefficient * 10 ^ (d.exponent.toNat + 1) := by
    rw [List.append_assoc, ← List.replicate_succ', Decimal.ofDigits, Nat.ofDigitChars_append,
      Nat.ofDigitChars_replicate_zero, ← Decimal.ofDigits, ofDigits_digits, Nat.mul_comm]
  show Decimal.mk _ _ = Decimal.mk _ _
  rw [large, hvalue]
  rfl

/-- A finite double is written in one of three ways. -/
theorem cases_of_ofDouble? {negative : Bool} {rank : Nat} {hrank : rank ≤ infinityRank} {n : Spelt}
    (h : ofDouble? (.signed negative rank hrank) = some n) :
    n = scientific negative (Decimal.shortest .even rank) ∨
      (Decimal.shortest .even rank).leadingExponent ≤ 15 ∧
        ((∃ hzero, 0 ≤ (Decimal.shortest .even rank).exponent ∧
            n = large negative (Decimal.shortest .even rank) hzero) ∨
          ∃ hzero hexponent, n = small negative (Decimal.shortest .even rank) hzero hexponent) := by
  rw [ofDouble?] at h
  -- Infinity is not written; the rest goes by the place of the first digit.
  split at h
  next => cases h
  next =>
    dsimp only at h
    split at h
    next => exact .inl (Option.some.inj h).symm
    next hplain =>
      refine .inr ⟨by omega, ?_⟩
      split at h
      next hexponent => exact .inl ⟨_, hexponent, (Option.some.inj h).symm⟩
      next hexponent => exact .inr ⟨_, _, (Option.some.inj h).symm⟩

section Written

variable {negative : Bool} {rank : Nat} {hrank : rank ≤ infinityRank} {n : Spelt}

/-- Every finite double is written. -/
theorem exists_ofDouble? (h : rank < infinityRank) :
    ∃ n, ofDouble? (.signed negative rank hrank) = some n := by
  rw [ofDouble?, if_neg (Nat.ne_of_lt h)]
  dsimp only
  split
  · exact ⟨_, rfl⟩
  · split
    · exact ⟨_, rfl⟩
    · exact ⟨_, rfl⟩

/-- What is written of a finite double denotes it. -/
theorem rank_decimal (h : ofDouble? (.signed negative rank hrank) = some n) :
    n.decimal.rank = rank := by
  rcases cases_of_ofDouble? h with rfl | ⟨-, ⟨hzero, hexponent, rfl⟩ | ⟨hzero, hexponent, rfl⟩⟩
  · rw [decimal_scientific, Decimal.rank_shortest _ hrank]
  · rw [decimal_large]
    refine Eq.trans ?_ (Decimal.rank_shortest .even hrank)
    rw [Decimal.rank_eq, Decimal.rank_eq]
    refine nearestRank_congr (Decimal.pow_ten_pos _) (Decimal.pow_ten_pos _) ?_
    generalize Decimal.shortest .even rank = d at *
    show d.coefficient * 10 ^ (d.exponent.toNat + 1) * 10 ^ 0 * unitsPerOne * _ =
      d.coefficient * 10 ^ d.exponent.toNat * unitsPerOne * 10 ^ 1
    rw [show (-d.exponent).toNat = 0 by omega]
    ring
  · rw [decimal_small, Decimal.rank_shortest _ hrank]

/-- At most 16 digits stand before the point. -/
theorem length_whole_le (h : ofDouble? (.signed negative rank hrank) = some n) :
    n.whole.length ≤ 16 := by
  rcases cases_of_ofDouble? h with rfl | ⟨hlead, ⟨hzero, hexponent, rfl⟩ | ⟨hzero, hexponent, rfl⟩⟩
  · rw [scientific, List.length_take]
    omega
  · rw [Decimal.leadingExponent] at hlead
    rw [large, List.length_append, List.length_replicate]
    omega
  · rw [Decimal.leadingExponent] at hlead
    rw [small, List.length_take, padded, List.length_append, List.length_replicate]
    omega

/-- What is written of a double is no integer. -/
theorem not_integer (h : ofDouble? (.signed negative rank hrank) = some n) :
    ¬ (n.fraction = [] ∧ n.exponent = none) := by
  rcases cases_of_ofDouble? h with rfl | ⟨-, ⟨hzero, hexponent, rfl⟩ | ⟨hzero, hexponent, rfl⟩⟩
  · simp [scientific]
  · simp [large]
  · have hlength := lt_length_padded (Decimal.shortest .even rank)
    rw [small, List.drop_eq_nil_iff]
    omega

end Written

end Spelt

/-! ## Reading

  All but two of the finite doubles are read without a look at their digits: the bound on the rank
  is enough. -/

namespace Number

/-- Twice the midpoint above the third rank below infinity. -/
def doubledSafeLimit : Nat := (4 * ranksPerBinade - 5) * lastStep

/-- It is the sum of the units of that rank and of the next. -/
theorem unitsOfRank_add_succ_of_third :
    unitsOfRank (infinityRank - 3) + unitsOfRank (infinityRank - 3 + 1) = doubledSafeLimit := by
  decide +kernel

/-- A number that is not beyond that midpoint stays finite, when its digits and its power of ten
    are rounded before they are multiplied. -/
theorem productRank_lt_infinityRank {significand e : Nat} (hpos : 1 ≤ significand)
    (h : 2 * (significand * 10 ^ e * unitsPerOne) ≤ doubledSafeLimit) :
    productRank (nearestRank (significand * unitsPerOne) 1) (rankOfTen e) < infinityRank := by
  have hunit : ranksPerBinade * 1 ≤ unitsPerOne := by decide +kernel
  have hsignificand := unitsOfRank_nearestRank_le Nat.one_pos
    (Nat.le_trans hunit (Nat.le_mul_of_pos_left unitsPerOne hpos))
  have hten := unitsOfRank_nearestRank_le Nat.one_pos
    (Nat.le_trans hunit (Nat.le_mul_of_pos_left unitsPerOne (Decimal.pow_ten_pos e)))
  have hproduct := Nat.mul_le_mul hsignificand hten
  -- twice a part in 2^53 is less than the two ranks that are left
  have hspare : (2 * ranksPerBinade + 1) * (2 * ranksPerBinade + 1) * (4 * ranksPerBinade - 5) <
      2 * ranksPerBinade * (2 * ranksPerBinade) * (4 * ranksPerBinade - 1) := by decide
  have hlimit := Nat.mul_lt_mul_of_pos_right hspare
    (Nat.mul_pos (by decide +kernel : 0 < lastStep) unitsPerOne_pos)
  rw [doubledSafeLimit] at h
  have hscaled := Nat.mul_le_mul_left
    ((2 * ranksPerBinade + 1) * (2 * ranksPerBinade + 1) * unitsPerOne) h
  rw [productRank, nearestRank_lt_infinityRank_iff _ unitsPerOne_pos, rankOfTen,
    Nat.pow_eq, doubledLimit]
  refine @Nat.lt_of_mul_lt_mul_left (2 * ranksPerBinade * (2 * ranksPerBinade)) _ _ ?_
  generalize 4 * ranksPerBinade - 5 = below at *
  generalize 4 * ranksPerBinade - 1 = limit at *
  generalize lastStep = step at *
  linarith

/-- A number of which that holds is read. -/
theorem isSome_scale? {significand : Nat} {e : Int}
    (h : 0 ≤ e → 2 * (significand * 10 ^ e.toNat * unitsPerOne) ≤ doubledSafeLimit) :
    (scale? (nearestRank (significand * unitsPerOne) 1) e).isSome = true := by
  rw [scale?]
  split
  · rfl
  · split
    · rfl
    next hneg hzero =>
      have hpos : 1 ≤ significand := by
        refine Nat.one_le_iff_ne_zero.mpr fun hnone => hzero ?_
        rw [hnone, Nat.zero_mul, nearestRank_zero Nat.one_pos]
      have hbound := h (Int.not_lt.mp hneg)
      split
      next hlarge =>
        -- so great a power of ten is beyond the limit already
        have hten : 10 ^ 309 ≤ 10 ^ e.toNat := Decimal.pow_ten_le (by omega)
        have hlimit : doubledSafeLimit < 2 * (10 ^ 309 * unitsPerOne) := by decide +kernel
        have hscaled := Nat.mul_le_mul_right unitsPerOne (Nat.mul_le_mul hpos hten)
        omega
      next =>
        have hfinite := productRank_lt_infinityRank hpos hbound
        dsimp only
        rw [if_neg (Nat.ne_of_lt hfinite)]
        rfl

/-- What is gathered of a decimal of such a rank is not beyond that midpoint. -/
theorem doubled_le_of_rank {d : Decimal} (h : d.rank ≤ infinityRank - 3) {significand k : Nat}
    (hle : significand * 10 ^ k ≤ d.coefficient) (hexponent : 0 ≤ d.exponent + k) :
    2 * (significand * 10 ^ (d.exponent + k).toNat * unitsPerOne) ≤ doubledSafeLimit := by
  -- The decimal's rank lies well below the largest, so twice its units lie below the limit.
  have hbound : 2 * (d.coefficient * 10 ^ d.exponent.toNat * unitsPerOne) ≤
      doubledSafeLimit * 10 ^ (-d.exponent).toNat := by
    rw [Decimal.rank_eq, nearestRank_le_iff _ (Decimal.pow_ten_pos _) (by decide),
      unitsOfRank_add_succ_of_third] at h
    omega
  -- Powers of ten are moved to the side on which the exponent is not negative.
  have hpowers : 10 ^ (d.exponent + k).toNat * 10 ^ (-d.exponent).toNat =
      10 ^ k * 10 ^ d.exponent.toNat := by
    rw [← Nat.pow_add, ← Nat.pow_add]
    congr 1
    omega
  have hscaled := Nat.mul_le_mul_right (10 ^ d.exponent.toNat * unitsPerOne) hle
  refine Nat.le_of_mul_le_mul_right ?_ (Decimal.pow_ten_pos (-d.exponent).toNat)
  calc 2 * (significand * 10 ^ (d.exponent + k).toNat * unitsPerOne) * 10 ^ (-d.exponent).toNat
      = 2 * (significand * (10 ^ (d.exponent + k).toNat * 10 ^ (-d.exponent).toNat) *
          unitsPerOne) := by ring
    _ = 2 * (significand * 10 ^ k * (10 ^ d.exponent.toNat * unitsPerOne)) := by
        rw [hpowers]
        ring
    _ ≤ 2 * (d.coefficient * 10 ^ d.exponent.toNat * unitsPerOne) := by linarith
    _ ≤ _ := hbound

end Number

end Json

namespace Double

variable {negative : Bool} {rank : Nat} {hrank : rank ≤ infinityRank}

/-- A finite double is read from its parts. -/
theorem restored?_eq {n : Json.Spelt}
    (h : Json.Spelt.ofDouble? (.signed negative rank hrank) = some n) :
    restored? (.signed negative rank hrank) =
      Json.Number.double? n.negative n.whole n.fraction (n.exponent.getD 0) := by
  have hjson : json? (.signed negative rank hrank) = some n.lexeme := by
    rw [← Json.Spelt.map_lexeme_ofDouble?, h, Option.map_some]
  have hread := n.read?_lexeme
  rw [if_neg (Json.Spelt.not_integer h)] at hread
  rw [restored?, Json.ofDouble, hjson]
  cases hdouble : Json.Number.double? n.negative n.whole n.fraction (n.exponent.getD 0) with
  | none =>
    rw [hdouble] at hread
    simp [Json.double?, Json.number?, hread]
  | some v =>
    rw [hdouble] at hread
    simp [Json.double?, Json.number?, hread]

/-- The shortest decimals of the two ranks that are left, by evaluation. -/
theorem shortest_greatest :
    Decimal.shortest .even (infinityRank - 1) = ⟨17976931348623157, 292⟩ ∧
      Decimal.shortest .even (infinityRank - 2) = ⟨17976931348623155, 292⟩ := by
  decide +kernel

/-- What is written of a finite double is read as some double. -/
theorem isSome_double?_of_spelt {n : Json.Spelt}
    (h : Json.Spelt.ofDouble? (.signed negative rank hrank) = some n) (hfinite : rank < infinityRank) :
    (Json.Number.double? n.negative n.whole n.fraction (n.exponent.getD 0)).isSome = true := by
  have hwhole : Decimal.ofDigits n.whole ≤ Json.Number.maxSignificand := by
    have hlt := Json.ofDigits_lt n.whole n.whole_digits
    have hten := Decimal.pow_ten_le (Json.Spelt.length_whole_le h)
    have hfits : 10 ^ 16 ≤ Json.Number.maxSignificand := by decide
    omega
  -- the two greatest doubles are read one by one, all others by the bound
  rcases Nat.lt_or_ge (infinityRank - 3) rank with hgreat | hless
  · have hrank : rank = infinityRank - 1 ∨ rank = infinityRank - 2 := by omega
    rcases Json.Spelt.cases_of_ofDouble? h with rfl | ⟨hlead, -⟩
    · rcases hrank with rfl | rfl
      · rw [shortest_greatest.1]
        cases negative <;> decide +kernel
      · rw [shortest_greatest.2]
        cases negative <;> decide +kernel
    · refine absurd hlead ?_
      rcases hrank with rfl | rfl
      · rw [shortest_greatest.1]
        decide
      · rw [shortest_greatest.2]
        decide
  · obtain ⟨hle, -⟩ := Json.Number.gather_le (Decimal.ofDigits n.whole) n.fraction
    rw [Json.Number.double?_eq hwhole, Option.isSome_map]
    refine Json.Number.isSome_scale? fun hexponent =>
      @Json.Number.doubled_le_of_rank n.decimal ?_ _ _ ?_ hexponent
    · rwa [Json.Spelt.rank_decimal h]
    · show _ ≤ Decimal.ofDigits (n.whole ++ n.fraction)
      rwa [Json.ofDigits_append]

/-- **A double comes back**, as some double, if and only if it is finite. -/
theorem restored?_eq_none_iff (v : Double) : v.restored? = none ↔ v.isFinite = false := by
  refine ⟨fun h => ?_, restored?_of_not_isFinite⟩
  cases v with
  | nan => rfl
  | signed negative rank hrank =>
    refine decide_eq_false fun hfinite => ?_
    obtain ⟨n, hspelt⟩ := Json.Spelt.exists_ofDouble? hfinite
    have hsome := isSome_double?_of_spelt hspelt hfinite
    rw [← restored?_eq hspelt, h] at hsome
    cases hsome

end Double

end TableRules
