/-
  INFERRED CELLS: what is printed of an inferred cell is inferred as that cell.

  1. **Integers** — the digits of an integer read as that integer.

  2. **Whole doubles** — the double nearest to an integer is whole: up to `2^53` nothing is rounded,
     and beyond a step of the scale is a whole number.  So the shortest digits of a double that is
     not whole cannot stand for an integer.

  3. **Points** — therefore a point stands in the text of every finite double: behind the digits if
     it is whole, and among them if it is not.  A text with a point in it is no integer, so a double
     never reads back as one.  What is not finite is printed as a word, which is none either.

  4. **Inference** — every kind of cell reads back as it was, and a text that was not taken for
     anything else is not taken for anything else again.

  The crux is that integers are tried first, so a double must never be printed as one.  That a
  whole double gets its `.0` is written in the printer.  That one which is not whole has a point is
  not: its shortest digits might have stood for an integer, if there were one that rounds to it.
  There is none, since what an integer rounds to is whole (`unitsPerOne_dvd_of_integer`).
-/
import TableRules.Proofs.CellComparisons

namespace TableRules

open Json Json.Spelt

/-! ## Integers -/

/-- An integer is read from its text: a minus or none, and its digits. -/
theorem parseInt?_intText (i : Int) : Decimal.parseInt? (intText i) = some i := by
  have hdigits : (Spelt.ofInt i).whole ++ (fractionText [] ++ exponentText none) =
      Decimal.digits i.natAbs := List.append_nil _
  have hall : (Decimal.digits i.natAbs).all Char.isDigit = true :=
    List.all_eq_true.mpr (digits_isDigit i.natAbs)
  have hspan : Decimal.spanSign (intText i) = (decide (i < 0), Decimal.digits i.natAbs) := by
    rw [← lexeme_ofInt, spanSign_lexeme, ← hdigits]
    rfl
  unfold Decimal.parseInt?
  rw [hspan]
  dsimp only
  rw [if_pos ⟨digits_ne_nil i.natAbs, hall⟩, ofDigits_digits, Option.some.injEq]
  by_cases h : i < 0
  · rw [if_pos (decide_eq_true h)]
    omega
  · rw [if_neg (by simpa using h)]
    omega

/-- **An integer of 64 bits** reads back as itself. -/
theorem parseInt64?_intText (i : Int64) : parseInt64? (intText i.toInt) = some i :=
  parseInt64?_eq_some_iff.mpr (parseInt?_intText i.toInt)

/-! ## Whole doubles

  Up to `2^53` an integer is exact, so what it rounds to is whole.  Beyond, every double is: the
  steps from one to the next are whole numbers there. -/

namespace Double

/-- The scale grows with the rank. -/
theorem scaleOf_le_scaleOf {rank rank' : Nat} (h : rank ≤ rank') :
    scaleOf rank ≤ scaleOf rank' := by
  unfold scaleOf
  have hbinade : rank / ranksPerBinade ≤ rank' / ranksPerBinade := Nat.div_le_div_right h
  omega

/-- **The double nearest to an integer** is whole. -/
theorem unitsPerOne_dvd_of_integer (n : Nat) :
    unitsPerOne ∣ unitsOfRank (nearestRank (n * unitsPerOne) 1) := by
  rcases Nat.lt_or_ge n (2 * ranksPerBinade) with hless | hmore
  · rw [unitsOfRank_nearestRank_mul hless]
    exact Nat.dvd_mul_left _ n
  · -- from `2^53` on a step of the scale is two or more
    have hstep : scaleOf (nearestRank (2 * ranksPerBinade * unitsPerOne) 1) = 1075 := by
      decide +kernel
    have hunits : unitsPerOne = 2 ^ 1074 := by decide +kernel
    have hle : nearestRank (2 * ranksPerBinade * unitsPerOne) 1 ≤
        nearestRank (n * unitsPerOne) 1 := by
      apply nearestRank_le_nearestRank Nat.one_pos Nat.one_pos
      rw [Nat.mul_one, Nat.mul_one]
      exact Nat.mul_le_mul_right unitsPerOne hmore
    have hscale := scaleOf_le_scaleOf hle
    generalize nearestRank (n * unitsPerOne) 1 = rank at hscale ⊢
    rw [unitsOfRank_eq, hunits]
    apply Nat.dvd_mul_left_of_dvd
    apply Nat.pow_dvd_pow 2
    omega

/-- The digits of a double that is not whole stand for no integer. -/
theorem exponent_neg_of_not_isWhole {negative : Bool} {rank : Nat} {hrank : rank ≤ infinityRank}
    (hfinite : rank < infinityRank) (h : isWhole (.signed negative rank hrank) = false) :
    (Decimal.shortest .up rank).exponent < 0 := by
  by_contra hnonneg
  have hden : (-(Decimal.shortest .up rank).exponent).toNat = 0 := by omega
  have hvalue := Decimal.rank_shortest .up hrank
  rw [Decimal.rank_eq, hden, Nat.pow_zero] at hvalue
  have hdvd : unitsPerOne ∣ unitsOfRank rank := by
    rw [← hvalue]
    exact unitsPerOne_dvd_of_integer _
  have hwhole : isWhole (.signed negative rank hrank) = true := by
    unfold isWhole
    rw [Bool.and_eq_true]
    exact ⟨decide_eq_true hfinite, beq_iff_eq.mpr (Nat.mod_eq_zero_of_dvd hdvd)⟩
  rw [hwhole] at h
  cases h

end Double

/-! ## Points

  With the point shown, no printed double is read as an integer, whatever its value. -/

/-- A decimal with an exponent below zero is written with a point. -/
theorem Decimal.mem_positional {d : Decimal} (h : d.exponent < 0) : '.' ∈ d.positional := by
  unfold positional
  dsimp only
  rw [if_neg (Int.not_le.mpr h)]
  exact List.mem_append_right _ (List.mem_cons_self ..)

/-- A text with a point in it is no integer. -/
theorem parseInt64?_of_point {cs : List Char} (h : '.' ∈ cs) : parseInt64? cs = none := by
  obtain ⟨sign, hsign, hcs⟩ := Decimal.exists_sign_append cs
  have hno : ∀ sign ∈ [[], ['+'], ['-']], '.' ∉ sign := by decide
  have hrest : '.' ∈ (Decimal.spanSign cs).2 := by
    rw [hcs] at h
    exact (List.mem_append.mp h).resolve_left (hno sign hsign)
  have hdigits : ¬ (Decimal.spanSign cs).2.all Char.isDigit = true := by
    intro hall
    exact absurd (List.all_eq_true.mp hall '.' hrest) (by decide)
  have hint : Decimal.parseInt? cs = none := by
    unfold Decimal.parseInt?
    exact if_neg fun hboth => hdigits hboth.2
  unfold parseInt64?
  rw [hint]

namespace Double

/-- **A point** stands in the text of every finite double. -/
theorem mem_text_of_isFinite {v : Double} (h : v.isFinite = true) : '.' ∈ v.text := by
  cases v with
  | nan => cases h
  | signed negative rank hrank =>
    have hfinite : rank < infinityRank := of_decide_eq_true h
    by_cases hwhole : isWhole (.signed negative rank hrank) = true
    · rw [text, if_pos hwhole]
      exact List.mem_append_right _ (by decide)
    · have hexponent := exponent_neg_of_not_isWhole hfinite (Bool.eq_false_iff.mpr hwhole)
      rw [text, if_neg hwhole, plain, if_neg (Nat.ne_of_lt hfinite)]
      exact List.mem_append_right _ (Decimal.mem_positional hexponent)

/-- **No double** is printed as an integer. -/
theorem parseInt64?_text (v : Double) : parseInt64? v.text = none := by
  cases h : v.isFinite with
  | true => exact parseInt64?_of_point (mem_text_of_isFinite h)
  | false =>
    cases v with
    | nan => decide
    | signed negative rank hrank =>
      have hge : ¬ rank < infinityRank := of_decide_eq_false h
      obtain rfl : rank = infinityRank := by omega
      have hword : ∀ negative, parseInt64?
          (text (.signed negative infinityRank (Nat.le_refl _))) = none := by decide
      exact hword negative

/-- A finite double is printed with a digit, so it is tried as a number at all. -/
theorem exists_isDigit_text {v : Double} (h : v.isFinite = true) :
    v.text.any Char.isDigit = true := by
  cases v with
  | nan => cases h
  | signed negative rank hrank =>
    obtain ⟨n, hlexeme, -⟩ := exists_lexeme_eq_text (of_decide_eq_true h)
    rw [← hlexeme, List.any_eq_true]
    exact n.exists_isDigit_lexeme

end Double

/-! ## Inference

  The kinds in the order in which they are tried. -/

namespace Cell

/-- An integer reads back, ... -/
theorem infer_asText_int (i : Int64) : infer (asText (.int i)) = .int i := by
  have hread : Numeral.read? (asText (.int i)).toList = some (.int i) := by
    unfold Numeral.read? asText
    rw [String.toList_ofList, parseInt64?_intText]
  exact infer_of_read? hread

/-- ... a finite double reads back, since it is no integer, ... -/
theorem infer_asText_float {v : Double} (h : v.isFinite = true) :
    infer (asText (.float v)) = .float v := by
  have hread : Numeral.read? (asText (.float v)).toList = some (.float v) := by
    unfold Numeral.read? asText
    rw [String.toList_ofList, Double.parseInt64?_text]
    dsimp only
    rw [if_pos (Double.exists_isDigit_text h), Double.parse?_text h, Option.map_some]
  exact infer_of_read? hread

/-- ... and a truth value does, since it is no number. -/
theorem infer_asText_bool (b : Bool) : infer (asText (.bool b)) = .bool b := by
  cases b <;> rfl

/-- What is read from a text with a digit in it. -/
theorem isFinite_of_read? {cs : List Char} {v : Double}
    (h : Numeral.read? cs = some (.float v)) (hinfinity : ∀ negative, v ≠ .infinity negative) :
    v.isFinite = true := by
  unfold Numeral.read? at h
  split at h
  next => cases h
  next =>
    split at h
    next hdigit =>
      obtain ⟨w, hw, heq⟩ := Option.map_eq_some_iff.mp h
      obtain rfl : w = v := Numeral.float.inj heq
      exact Double.isFinite_of_parse? (List.any_eq_true.mp hdigit) hw hinfinity
    next => cases h

/-- What an inferred cell is like: read from figures, a truth value, nothing, or the text itself. -/
theorem infer_cases (raw : String) :
    (∃ n, Numeral.read? raw.toList = some n ∧ infer raw = ofNumeral n) ∨
      (∃ b, infer raw = .bool b) ∨ infer raw = .null ∨ infer raw = .text raw := by
  by_cases hempty : raw.toList = []
  · have hnull : infer raw = .null := if_pos hempty
    exact .inr (.inr (.inl hnull))
  · cases hread : Numeral.read? raw.toList with
    | some n => exact .inl ⟨n, rfl, infer_of_read? hread⟩
    | none =>
      unfold infer
      dsimp only
      rw [if_neg hempty, hread]
      dsimp only
      split
      · exact .inr (.inl ⟨true, rfl⟩)
      · split
        · exact .inr (.inl ⟨false, rfl⟩)
        · exact .inr (.inr (.inr rfl))

/-- Only what reads as an integer of 64 bits is read as an integer cell. -/
theorem parseInt64?_of_read? {cs : List Char} {i : Int64}
    (h : Numeral.read? cs = some (.int i)) : parseInt64? cs = some i := by
  unfold Numeral.read? at h
  split at h
  next j hj =>
    obtain rfl : j = i := Numeral.int.inj (Option.some.inj h)
    exact hj
  next =>
    split at h
    next =>
      obtain ⟨v, -, heq⟩ := Option.map_eq_some_iff.mp h
      cases heq
    next => cases h

/-- Only what reads as an integer is inferred as one. -/
theorem parseInt64?_of_infer {raw : String} {i : Int64} (h : infer raw = .int i) :
    parseInt64? raw.toList = some i := by
  rcases infer_cases raw with ⟨n, hread, hcell⟩ | ⟨b, hcell⟩ | hcell | hcell <;> rw [hcell] at h
  · cases n with
    | float v => cases h
    | int j =>
      obtain rfl : j = i := Cell.int.inj h
      exact parseInt64?_of_read? hread
  · cases h
  · cases h
  · cases h

/-- **Inference is stable under printing**: the text of an inferred cell is inferred as the very same
    cell, a double with its sign and rank, unless it is infinite.  Every integer, truth value and
    finite double, wherever it comes from, reads back as itself, and nothing as nothing; and no
    double at all reads back as an integer. -/
theorem infer_asText_infer :
    (∀ raw, (∀ negative, infer raw ≠ .float (.infinity negative)) →
      infer (infer raw).asText = infer raw) ∧
    (∀ v : Double, v.isFinite = true → infer (asText (.float v)) = .float v) ∧
    (∀ (v : Double) (i : Int64), infer (asText (.float v)) ≠ .int i) ∧
    (∀ i : Int64, infer (asText (.int i)) = .int i) ∧
    (∀ b : Bool, infer (asText (.bool b)) = .bool b) ∧
    infer (asText .null) = .null := by
  have hnull : infer (asText .null) = .null := by decide
  refine ⟨?_, fun v => infer_asText_float, ?_, infer_asText_int, infer_asText_bool, hnull⟩
  · intro raw hinfinity
    -- read from figures, a truth value, nothing, or the text itself
    rcases infer_cases raw with ⟨n, hread, hcell⟩ | ⟨b, hcell⟩ | hcell | hcell
    · rw [hcell] at hinfinity ⊢
      cases n with
      | int i => exact infer_asText_int i
      | float v =>
        have hfinite := isFinite_of_read? hread
          fun negative heq => hinfinity negative (congrArg Cell.float heq)
        exact infer_asText_float hfinite
    · rw [hcell]
      exact infer_asText_bool b
    · rw [hcell]
      exact hnull
    · rw [hcell]
      exact hcell
  · intro v i h
    have hread := parseInt64?_of_infer h
    unfold asText at hread
    rw [String.toList_ofList, v.parseInt64?_text] at hread
    cases hread

/-- A negative zero, the least positive number, and a number far beyond all integers of 64 bits. -/
theorem infer_asText_infer_of_extremes :
    (infer "-0.0" = .float (.ofRank true 0) ∧ infer (infer "-0.0").asText = .float (.ofRank true 0)) ∧
    (infer "5e-324" = .float (.ofRank false 1) ∧
      infer (infer "5e-324").asText = .float (.ofRank false 1)) ∧
    infer (infer "1E300").asText = infer "1E300" := by
  have hzero : infer "-0.0" = .float (.ofRank true 0) := by decide +kernel
  have hleast : infer "5e-324" = .float (.ofRank false 1) := by decide +kernel
  have hzero' := infer_asText_infer.1 "-0.0" (by decide +kernel)
  have hleast' := infer_asText_infer.1 "5e-324" (by decide +kernel)
  exact ⟨⟨hzero, hzero'.trans hzero⟩, ⟨hleast, hleast'.trans hleast⟩,
    infer_asText_infer.1 "1E300" (by decide +kernel)⟩

end Cell

end TableRules
