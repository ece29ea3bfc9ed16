/-
  CELL COMPARISONS: what the comparisons see of a cell, the searches left aside.

  1. **Two ways** — where both cells are numbers these decide (`Comparison.onNumbers`), and else
     whether the texts in upper case agree (`Comparison.onTexts`).  That is all a comparison sees
     (`Comparison.holds_eq`).

  2. **Exchange** — a comparison with its sides exchanged is the mirrored one (`holds_mirrored`).

  3. **Kinds** — two cells are `Alike` if no comparison tells them apart.  A raw text and the cell
     inferred from it are, infinities and truth values apart: the numbers are the same but for the
     sign of zero, and neither text has the upper case of what is no number.

  4. **Words** — a text without a digit is meant to be no number.  The words for infinity and `nan`
     are numbers all the same, and nothing else is.

  The crux of the kinds is what happens against a cell that is no number.  Then the texts decide,
  and the text of an inferred number need not be the raw one: `+05` becomes `5`.  It does not
  matter, because both texts are made of figures while the other is not even a number: upper case
  leaves figures alone, so if they agreed the other text would read as a number too
  (`Figured.foldedText_ne`).  Infinities are left out just because their text is a word.
-/
import TableRules.Evaluation.Condition
import TableRules.Proofs.UpperCase

namespace TableRules

open Text

/-! ## Places

  What counts of a double in a comparison is its place alone. The sign of zero does not show in it,
  and `nan` has none. -/

namespace Double

/-- Relations see the place of a number only. -/
theorem related_congr {rel : Int → Int → Bool} {x x' y y' : Double}
    (hx : x.position? = x'.position?) (hy : y.position? = y'.position?) :
    related rel x y = related rel x' y' := by
  rw [related, related, hx, hy]

/-- Equality of doubles does not mind the order, `nan` included. -/
theorem equal_comm (x y : Double) : x.equal y = y.equal x := by
  rw [equal, equal, related, related]
  cases x.position? with
  | none => cases y.position? <;> rfl
  | some i =>
    cases y.position? with
    | none => rfl
    | some j => exact BEq.comm

theorem position?_eq_none_iff {x : Double} : x.position? = none ↔ x = .nan := by
  cases x <;> simp [position?]

/-- A double equals itself unless it is `nan`, ... -/
theorem equal_self_iff {x : Double} : x.equal x = true ↔ x ≠ .nan := by
  rw [equal, related, Ne, ← position?_eq_none_iff]
  cases x.position? <;> simp

/-- ... and is at most itself unless it is `nan`. -/
theorem le_self_iff {x : Double} : x.le x = true ↔ x ≠ .nan := by
  rw [le, related, Ne, ← position?_eq_none_iff]
  cases x.position? <;> simp

end Double

/-! ## Two ways to compare

  Taken apart once, so that no proof has to look into the comparisons again. -/

namespace Comparison

/-- What a comparison says of two numbers. -/
def onNumbers : Comparison → Double → Double → Bool
  | greaterThan, x, y => y.lt x
  | lessThan, x, y => x.lt y
  | greaterEqual, x, y => y.le x
  | lessEqual, x, y => x.le y
  | equal, x, y => x.equal y
  | notEqual, x, y => !x.equal y
  | _, _, _ => false

/-- What it says where one side is no number, by whether the texts agree. -/
def onTexts : Comparison → Bool → Bool
  | equal, agree => agree
  | notEqual, agree => !agree
  | _, _ => false

/-- **A comparison** sees two numbers, or else whether two texts agree. -/
theorem holds_eq {comparison : Comparison} (h : comparison.isSearch = false) (left right : Cell) :
    comparison.holds left right =
      match left.number?, right.number? with
      | some x, some y => comparison.onNumbers x y
      | _, _ => comparison.onTexts (left.foldedText == right.foldedText) := by
  cases comparison with
  | contains | startsWith | endsWith => cases h
  | equal => rfl
  | notEqual =>
    rw [holds, Cell.same]
    cases left.number? <;> cases right.number? <;> rfl
  | greaterThan | lessThan | greaterEqual | lessEqual =>
    rw [holds, Cell.ordered]
    cases left.number? <;> cases right.number? <;> rfl

/-- A comparison of numbers sees their places only. -/
theorem onNumbers_congr (comparison : Comparison) {x x' y y' : Double}
    (hx : x.position? = x'.position?) (hy : y.position? = y'.position?) :
    comparison.onNumbers x y = comparison.onNumbers x' y' := by
  cases comparison with
  | greaterThan | greaterEqual => exact Double.related_congr hy hx
  | lessThan | lessEqual | equal => exact Double.related_congr hx hy
  | notEqual => exact congrArg not (Double.related_congr hx hy)
  | contains | startsWith | endsWith => rfl

/-! ## Exchanged sides

  A table of what becomes of each comparison. For numbers the order is turned round, for texts
  nothing changes. -/

/-- The mirrored comparison sees the numbers the other way round. -/
theorem onNumbers_mirrored (comparison : Comparison) (x y : Double) :
    comparison.mirrored.onNumbers x y = comparison.onNumbers y x := by
  cases comparison with
  | equal => exact Double.equal_comm x y
  | notEqual => exact congrArg not (Double.equal_comm x y)
  | greaterThan | lessThan | greaterEqual | lessEqual | contains | startsWith | endsWith => rfl

/-- On texts it makes no difference, as agreement has no order. -/
theorem onTexts_mirrored (comparison : Comparison) (agree : Bool) :
    comparison.mirrored.onTexts agree = comparison.onTexts agree := by
  cases comparison <;> rfl

/-- **The mirrored comparison** is the comparison with its sides exchanged. -/
theorem holds_mirrored {comparison : Comparison} (h : comparison.isSearch = false)
    (left right : Cell) : comparison.mirrored.holds left right = comparison.holds right left := by
  have hmirrored : comparison.mirrored.isSearch = false := by rw [isSearch_mirrored, h]
  have hagree : (left.foldedText == right.foldedText) = (right.foldedText == left.foldedText) :=
    BEq.comm
  rw [holds_eq hmirrored, holds_eq h, hagree]
  cases left.number? with
  | none => cases right.number? <;> exact onTexts_mirrored ..
  | some x =>
    cases right.number? with
    | none => exact onTexts_mirrored ..
    | some y => exact onNumbers_mirrored ..

end Comparison

/-! ## Cells that compare alike

  What it is for a cell to be as good as another, on either side and against any third. -/

namespace Cell

/-- No comparison tells two cells apart, on either side of it. -/
def Alike (cell cell' : Cell) : Prop :=
  ∀ comparison : Comparison, comparison.isSearch = false → ∀ other,
    comparison.holds cell other = comparison.holds cell' other ∧
      comparison.holds other cell = comparison.holds other cell'

/-- By the exchange of sides, one side is enough. -/
theorem alike_of_left {cell cell' : Cell}
    (h : ∀ comparison : Comparison, comparison.isSearch = false → ∀ other,
      comparison.holds cell other = comparison.holds cell' other) : Alike cell cell' := by
  intro comparison hsearch other
  have hmirrored : comparison.mirrored.isSearch = false := by
    rw [Comparison.isSearch_mirrored, hsearch]
  constructor
  · exact h comparison hsearch other
  · rw [← Comparison.holds_mirrored hsearch, ← Comparison.holds_mirrored hsearch]
    exact h comparison.mirrored hmirrored other

theorem Alike.refl (cell : Cell) : Alike cell cell := fun _ _ _ => ⟨rfl, rfl⟩

/-- Two cells may be exchanged at once. -/
theorem Alike.holds_eq {left left' right right' : Cell} (hleft : Alike left left')
    (hright : Alike right right') {comparison : Comparison} (h : comparison.isSearch = false) :
    comparison.holds left right = comparison.holds left' right' :=
  ((hleft comparison h right).1).trans (hright comparison h left').2

/-- A cell that shows a number by figures. -/
structure Figured (cell : Cell) : Prop where
  digit : ∃ c ∈ cell.asText.toList, c.isDigit = true
  reads : (Double.parse? cell.asText.toList).isSome = true

/-- Figures are not blank. -/
theorem isBlank_of_isFigure {c : Char} (h : Decimal.isFigure c = true) : isBlank c = false :=
  forall_of_ascii (P := fun c => Decimal.isFigure c = true → isBlank c = false) (by decide)
    (toNat_lt_of_isFigure h) h

/-- So there is nothing to trim around them. -/
theorem Figured.trim_eq {cell : Cell} (h : cell.Figured) :
    trim cell.asText.toList = cell.asText.toList := by
  obtain ⟨v, hv⟩ := Option.isSome_iff_exists.mp h.reads
  refine trim_of_tight (tight_of_no_blank fun c hc => ?_)
  exact isBlank_of_isFigure (Double.isFigure_of_parse? h.digit hv c hc)

/-- What is no number does not read as one. -/
theorem parse?_of_number?_eq_none {cell : Cell} (h : cell.number? = none) :
    Double.parse? (trim cell.asText.toList) = none := by
  cases cell with
  | int | float | bool => cases h
  | text s => exact h
  | null => decide

/-- **Figures** do not agree with what is no number: upper case leaves them as they are, so a text
    that agreed with them would read as a number as well. -/
theorem Figured.foldedText_ne {cell other : Cell} (h : cell.Figured) (hother : other.number? = none) :
    cell.foldedText ≠ other.foldedText := by
  intro heq
  rw [foldedText, h.trim_eq] at heq
  have hsome := isSome_parse?_of_upper_eq heq.symm h.digit h.reads
  rw [parse?_of_number?_eq_none hother] at hsome
  cases hsome

/-- Two numbers in the same place, both shown by figures, compare alike. -/
theorem Figured.alike {cell cell' : Cell} {x x' : Double} (h : cell.Figured) (h' : cell'.Figured)
    (hx : cell.number? = some x) (hx' : cell'.number? = some x')
    (hplace : x.position? = x'.position?) : Alike cell cell' := by
  refine alike_of_left fun comparison hsearch other => ?_
  rw [Comparison.holds_eq hsearch, Comparison.holds_eq hsearch, hx, hx']
  cases hother : other.number? with
  | some y => exact comparison.onNumbers_congr hplace rfl
  | none =>
    have hno : (cell.foldedText == other.foldedText) = false :=
      beq_eq_false_iff_ne.mpr (h.foldedText_ne hother)
    have hno' : (cell'.foldedText == other.foldedText) = false :=
      beq_eq_false_iff_ne.mpr (h'.foldedText_ne hother)
    rw [hno, hno']

/-! ## Kinds

  The kinds in which a raw text and the inferred cell may differ: an integer or a finite double
  where the text stands for a number. -/

/-- An integer shows figures, ... -/
theorem figured_int (i : Int64) : Figured (.int i) where
  digit := by
    rw [asText, String.toList_ofList, ← Json.Spelt.lexeme_ofInt]
    exact (Json.Spelt.ofInt i.toInt).exists_isDigit_lexeme
  reads := by
    rw [asText, String.toList_ofList, Double.parse?_intText]
    rfl

/-- ... and so does a double that is finite. -/
theorem figured_float {v : Double} (h : v.isFinite = true) : Figured (.float v) where
  digit := by
    rw [asText, String.toList_ofList]
    cases v with
    | nan => cases h
    | signed negative rank hrank =>
      obtain ⟨n, hlexeme, -⟩ := Double.exists_lexeme_eq_text (of_decide_eq_true h)
      rw [← hlexeme]
      exact n.exists_isDigit_lexeme
  reads := by
    rw [asText, String.toList_ofList, Double.parse?_text h]
    rfl

end Cell

/-- What is read from figures is finite or infinite, and never `nan`. -/
theorem Double.isFinite_of_parse? {cs : List Char} {v : Double}
    (hdigit : ∃ c ∈ cs, c.isDigit = true) (h : parse? cs = some v)
    (hinfinity : ∀ negative, v ≠ .infinity negative) : v.isFinite = true := by
  obtain ⟨hno, hno'⟩ := not_word_of_digit hdigit
  rw [parse?_of_no_word hno hno'] at h
  obtain ⟨d, -, rfl⟩ := Option.map_eq_some_iff.mp h
  refine decide_eq_true (Nat.lt_of_le_of_ne (Nat.min_le_right ..) fun hmin => ?_)
  refine hinfinity (Decimal.spanSign cs).1 ?_
  rw [infinity, ofRank_of_le _ (Nat.le_refl _)]
  simp only [ofRank, hmin]

namespace Cell

/-- **A number** compares as the text that it was read from, unless it is infinite. Cell and text
    are both figured, and their numbers have the same place: the integer and the double that the
    text reads as differ at most in the sign of zero. -/
theorem alike_of_read? {raw : String} {n : Numeral} (h : Numeral.read? raw.toList = some n)
    (hinfinity : ∀ negative, ofNumeral n ≠ .float (.infinity negative)) :
    Alike (ofNumeral n) (.text raw) := by
  obtain ⟨hdigit, v, hv, hcell, x, hx, hplace⟩ : (∃ c ∈ raw.toList, c.isDigit = true) ∧
      ∃ v, Double.parse? raw.toList = some v ∧ (ofNumeral n).Figured ∧
        ∃ x, (ofNumeral n).number? = some x ∧ x.position? = v.position? := by
    -- an integer is tried first, and a double only if the text has a digit
    rw [Numeral.read?.eq_def] at h
    split at h
    next i hi =>
      obtain rfl := Option.some.inj h
      obtain ⟨hdigit, v, hv, hplace⟩ :=
        Double.exists_parse?_of_parseInt? (parseInt64?_eq_some_iff.mp hi)
      exact ⟨hdigit, v, hv, figured_int i, _, rfl, hplace.symm⟩
    next =>
      split at h
      next hany =>
        obtain ⟨v, hv, rfl⟩ := Option.map_eq_some_iff.mp h
        have hdigit := List.any_eq_true.mp hany
        have hfinite := Double.isFinite_of_parse? hdigit hv
          fun negative heq => hinfinity negative (congrArg float heq)
        exact ⟨hdigit, v, hv, figured_float hfinite, v, rfl, rfl⟩
      next => cases h
  have htext : (text raw).Figured := ⟨hdigit, by rw [asText, hv]; rfl⟩
  have hnumber : (text raw).number? = some v := (congrArg Double.parse? htext.trim_eq).trans hv
  exact hcell.alike htext hx hnumber hplace

/-- A text that is read as a number is inferred to be that number. -/
theorem infer_of_read? {raw : String} {n : Numeral} (h : Numeral.read? raw.toList = some n) :
    infer raw = ofNumeral n := by
  have hne : raw.toList ≠ [] := by
    intro hnil
    rw [hnil] at h
    cases h
  rw [infer, if_neg hne, h]

/-- **The inferred cell** compares as the raw text, truth values and infinities apart. -/
theorem alike_infer {raw : String}
    (hword : lowerAscii raw.toList ∉ ["true".toList, "false".toList])
    (hinfinity : ∀ negative, infer raw ≠ .float (.infinity negative)) :
    Alike (infer raw) (.text raw) := by
  -- An empty text becomes the empty cell, which no comparison tells from an empty text.
  by_cases hempty : raw.toList = []
  · obtain rfl : raw = "" := String.toList_eq_nil_iff.mp hempty
    exact alike_of_left fun comparison hsearch other => by
      rw [Comparison.holds_eq hsearch, Comparison.holds_eq hsearch]
      rfl
  · cases hread : Numeral.read? raw.toList with
    | some n =>
      rw [infer_of_read? hread] at hinfinity ⊢
      exact alike_of_read? hread hinfinity
    | none =>
      -- Without a number in it the text is left a text, since it is no truth value's name.
      have htrue : lowerAscii raw.toList ≠ "true".toList :=
        fun heq => hword (heq ▸ List.mem_cons_self ..)
      have hfalse : lowerAscii raw.toList ≠ "false".toList :=
        fun heq => hword (heq ▸ List.mem_cons_of_mem _ (List.mem_cons_self ..))
      have hinfer : infer raw = .text raw := by
        simp only [infer, if_neg hempty, hread, if_neg htrue, if_neg hfalse]
      rw [hinfer]
      exact .refl _

end Cell

/-! ## Conditions on cells that compare alike

  From cells to rows: one cell is exchanged for another that compares alike, and the condition holds
  as before. -/

section Rows

open Cell (Alike)

variable {row row' : Row} (hrow : ∀ name, Option.Rel Alike (row.get? name) (row'.get? name))
include hrow

/-- An operand stands for cells that compare alike, or for none in both rows. -/
theorem Operand.resolve?_of_alike (operand : Operand) :
    Option.Rel Alike (operand.resolve? row) (operand.resolve? row') := by
  cases operand with
  | column name => exact hrow name
  | word s =>
    have hcell := hrow s
    rw [resolve?, resolve?]
    generalize row.get? s = cell at *
    generalize row'.get? s = cell' at *
    cases hcell with
    | some h => exact .some h
    | none => exact .some (.refl _)
  | literal | int | float => exact .some (.refl _)

/-- **A condition** that searches nothing holds alike in rows whose cells compare alike. -/
theorem Condition.holds_of_alike {c : Condition} (h : c.comparison.isSearch = false) :
    c.holds row = c.holds row' := by
  rw [Condition.holds, Condition.holds]
  have hcell := hrow c.column
  have hoperand := c.operand.resolve?_of_alike hrow
  generalize row.get? c.column = cell at *
  generalize row'.get? c.column = cell' at *
  cases hcell with
  | none => rfl
  | some hcell =>
    generalize c.operand.resolve? row = expected at *
    generalize c.operand.resolve? row' = expected' at *
    cases hoperand with
    | none => rfl
    | some hexpected => exact hcell.holds_eq hexpected h

end Rows

/-- A row in which one cell is exchanged for one that compares alike. -/
theorem Row.get?_of_alike {cell cell' : Cell} (h : cell.Alike cell')
    (front back : List (String × Cell)) (name other : String) :
    Option.Rel Cell.Alike (Row.get? ⟨front ++ (name, cell) :: back⟩ other)
      (Row.get? ⟨front ++ (name, cell') :: back⟩ other) := by
  have hrefl : ∀ o : Option Cell, Option.Rel Cell.Alike o o := by
    intro o
    cases o with
    | none => exact .none
    | some cell => exact .some (.refl cell)
  rw [get?, get?, List.find?_append, List.find?_append]
  cases front.find? (·.1 == other) with
  | some field => exact hrefl _
  | none =>
    rw [Option.none_or, Option.none_or, List.find?_cons, List.find?_cons]
    cases name == other with
    | true => exact .some h
    | false => exact hrefl _

/-- **Inference does not show** in a comparison: a raw text may be typed or left as it is, as a cell
    and as an operand, on either side. -/
theorem Cell.infer_compares_as_text {raw : String}
    (hword : lowerAscii raw.toList ∉ ["true".toList, "false".toList])
    (hinfinity : ∀ negative, infer raw ≠ .float (.infinity negative)) {comparison : Comparison}
    (hsearch : comparison.isSearch = false) :
    (∀ other, comparison.holds (infer raw) other = comparison.holds (.text raw) other ∧
      comparison.holds other (infer raw) = comparison.holds other (.text raw)) ∧
    (∀ column operand name front back,
      Condition.holds ⟨column, comparison, operand⟩ ⟨front ++ (name, infer raw) :: back⟩ =
        Condition.holds ⟨column, comparison, operand⟩ ⟨front ++ (name, .text raw) :: back⟩) ∧
    ∀ n, Numeral.read? raw.toList = some n → ∀ column operand row,
      operand.resolve? row = some (.text raw) →
        Condition.holds ⟨column, comparison, .ofNumeral n⟩ row =
          Condition.holds ⟨column, comparison, operand⟩ row := by
  have halike := alike_infer hword hinfinity
  refine ⟨halike comparison hsearch, ?_, ?_⟩
  · intro column operand name front back
    exact Condition.holds_of_alike (Row.get?_of_alike halike front back name) hsearch
  · intro n hread column operand row hoperand
    -- A number in a condition resolves to the very cell that inference makes of its text.
    have hresolve : (Operand.ofNumeral n).resolve? row = some (infer raw) := by
      rw [infer_of_read? hread]
      cases n <;> rfl
    rw [Condition.holds, Condition.holds, hresolve, hoperand]
    cases row.get? column with
    | none => rfl
    | some cell => exact (halike comparison hsearch cell).2

/-- An integer with a plus and a zero in front, against a text with blanks and a point, and in a
    row. -/
theorem Cell.infer_compares_as_text_of_signed_integer :
    Comparison.equal.holds (infer "+05") (.text " 5.0 ") =
        Comparison.equal.holds (.text "+05") (.text " 5.0 ") ∧
      Condition.holds ⟨"A", .lessThan, .int 5⟩ ⟨[("B", .null), ("A", .text "4")]⟩ =
        Condition.holds ⟨"A", .lessThan, .literal "+05"⟩ ⟨[("B", .null), ("A", .text "4")]⟩ := by
  have hinfer : infer "+05" = .int 5 := by decide +kernel
  have hword : lowerAscii "+05".toList ∉ ["true".toList, "false".toList] := by decide +kernel
  have hinfinity : ∀ negative, infer "+05" ≠ .float (.infinity negative) := by
    rw [hinfer]
    nofun
  constructor
  · exact ((infer_compares_as_text hword hinfinity rfl).1 _).1
  · exact (infer_compares_as_text hword hinfinity rfl).2.2 (.int 5) (by decide +kernel) "A" _ _ rfl

/-! ## Words

  What is true of texts without a digit, with the two exceptions that the reader of doubles
  makes. -/

namespace Double

/-- **The word** for what is no number is the only text that reads as it. -/
theorem parse?_eq_nan_iff {cs : List Char} : parse? cs = some .nan ↔ NanWord cs := by
  constructor
  · intro h
    by_contra hnan
    by_cases hinfinity : InfinityWord cs
    · rw [parse?_of_infinityWord hinfinity] at h
      cases h
    · rw [parse?_of_no_word hinfinity hnan] at h
      obtain ⟨d, -, hd⟩ := Option.map_eq_some_iff.mp h
      cases hd
  · exact parse?_of_nanWord

/-- Without a digit, the words for infinity are all that has a place among the numbers. -/
theorem exists_place_iff {cs : List Char} (h : ∀ c ∈ cs, c.isDigit = false) :
    (∃ v, parse? cs = some v ∧ v ≠ .nan) ↔ InfinityWord cs := by
  constructor
  · rintro ⟨v, hv, hplace⟩
    by_contra hinfinity
    by_cases hnan : NanWord cs
    · rw [parse?_of_nanWord hnan] at hv
      exact hplace (Option.some.inj hv).symm
    · rw [parse?_of_no_digit h hinfinity hnan] at hv
      cases hv
  · intro hinfinity
    exact ⟨_, parse?_of_infinityWord hinfinity, nofun⟩

end Double

namespace Comparison

section Orderings

variable {comparison : Comparison} (h : comparison.isOrdering = true)
include h

/-- An ordering is no search. -/
theorem isSearch_of_isOrdering : comparison.isSearch = false := by
  cases comparison with
  | greaterThan | lessThan | greaterEqual | lessEqual => rfl
  | equal | notEqual | contains | startsWith | endsWith => cases h

/-- Texts are not ordered, whether they agree or not. -/
theorem onTexts_of_isOrdering (agree : Bool) : comparison.onTexts agree = false := by
  cases comparison with
  | greaterThan | lessThan | greaterEqual | lessEqual => rfl
  | equal | notEqual | contains | startsWith | endsWith => cases h

/-- Nor is `nan`, against any number. -/
theorem onNumbers_nan_of_isOrdering (y : Double) : comparison.onNumbers .nan y = false := by
  cases comparison with
  | greaterThan | greaterEqual => cases y <;> rfl
  | lessThan | lessEqual => rfl
  | equal | notEqual | contains | startsWith | endsWith => cases h

end Orderings

end Comparison

namespace Cell

/-- **All orderings fail** for a cell, on either side, if it is no number or `nan`, and only then. -/
theorem orderings_fail_iff {cell : Cell} :
    (∀ comparison : Comparison, comparison.isOrdering = true → ∀ other,
      comparison.holds cell other = false ∧ comparison.holds other cell = false) ↔
      ¬ ∃ v, cell.number? = some v ∧ v ≠ .nan := by
  constructor
  · rintro h ⟨v, hv, hnan⟩
    -- a number in some place is at least itself
    have hself := (h .greaterEqual rfl cell).1
    rw [Comparison.holds_eq rfl, hv] at hself
    exact absurd (Double.le_self_iff.mpr hnan) (Bool.eq_false_iff.mp hself)
  · intro hnone
    have hleft : ∀ comparison : Comparison, comparison.isOrdering = true → ∀ other,
        comparison.holds cell other = false := by
      intro comparison h other
      rw [Comparison.holds_eq (Comparison.isSearch_of_isOrdering h)]
      cases hv : cell.number? with
      | none => exact Comparison.onTexts_of_isOrdering h _
      | some v =>
        obtain rfl : v = .nan := by_contra fun hnan => hnone ⟨v, hv, hnan⟩
        cases other.number? with
        | none => exact Comparison.onTexts_of_isOrdering h _
        | some y => exact Comparison.onNumbers_nan_of_isOrdering h y
    intro comparison h other
    have hmirrored : comparison.mirrored.isOrdering = true := by
      rw [Comparison.isOrdering_mirrored, h]
    refine ⟨hleft comparison h other, ?_⟩
    rw [← Comparison.holds_mirrored (Comparison.isSearch_of_isOrdering h)]
    exact hleft comparison.mirrored hmirrored other

/-- **A cell equals itself** unless it is `nan`. -/
theorem same_self_iff {cell : Cell} : cell.same cell = true ↔ cell.number? ≠ some .nan := by
  rw [same]
  cases cell.number? with
  | none => simp
  | some v => simp [Double.equal_self_iff]

/-- **A text without a digit** fails all orderings, unless it is a word for infinity, and equals
    itself, as a literal and in its own column, unless it is the word for what is no number. -/
theorem compares_of_no_digit {s : String} (h : ∀ c ∈ s.toList, c.isDigit = false) :
    ((∀ comparison : Comparison, comparison.isOrdering = true → ∀ other,
      comparison.holds (.text s) other = false ∧ comparison.holds other (.text s) = false) ↔
        ¬ Double.InfinityWord (trim s.toList)) ∧
    ∀ column row, row.get? column = some (.text s) → ∀ operand ∈ [.literal s, .column column],
      (Condition.holds ⟨column, .equal, operand⟩ row = true ↔
        ¬ Double.NanWord (trim s.toList)) := by
  have htrim : ∀ c ∈ trim s.toList, c.isDigit = false :=
    fun c hc => h c ((trim_sublist s.toList).subset hc)
  constructor
  -- Without a digit the only places are those of the two infinities.
  · rw [orderings_fail_iff, ← Double.exists_place_iff htrim]
    rfl
  · intro column row hcell operand hoperand
    have hresolve : operand.resolve? row = some (.text s) := by
      rcases List.mem_pair.mp hoperand with rfl | rfl
      · rfl
      · exact hcell
    rw [Condition.holds, hcell, hresolve, ← Double.parse?_eq_nan_iff]
    exact same_self_iff

/-- The word `inf` is in order with numbers, and it equals itself. -/
theorem compares_of_no_digit_of_infinity :
    (∀ c ∈ "inf".toList, c.isDigit = false) ∧
      ¬ (∀ comparison : Comparison, comparison.isOrdering = true → ∀ other,
        comparison.holds (.text "inf") other = false ∧
          comparison.holds other (.text "inf") = false) ∧
      Condition.holds ⟨"A", .equal, .column "A"⟩ ⟨[("A", .text "inf")]⟩ = true := by
  have hdigits : ∀ c ∈ "inf".toList, c.isDigit = false := by decide
  refine ⟨hdigits, ?_, ?_⟩
  · rw [(compares_of_no_digit hdigits).1]
    decide +kernel
  · rw [(compares_of_no_digit hdigits).2 "A" ⟨[("A", .text "inf")]⟩ rfl (.column "A")
      (by decide)]
    decide +kernel

end Cell

end TableRules
