/-
  MIRRORED CONDITIONS: a comparison whose column is on the right.

  1. **Sides** — a segment without parentheses whose two sides hold no character of a lexeme is cut
     at the one that is between them (`findLexeme?_between`), with or without blanks around it.

  2. **Names** — a side that is no column in any letter case names none, and as an operand it stands
     for some cell in every row.

  3. **Meaning** — the condition that is read has the column on its left and the comparison
     mirrored, and holds wherever the comparison that was written does.

  Two things have to go together.  The parser may take the column from the right only if the left
  side is no column in any letter case; that is known of the text.  The row must have a value for
  what is left then, and it always does, because an operand that is no column stands for itself.
  So the condition never fails for want of a cell, and mirroring alone decides.
-/
import TableRules.Proofs.BoundConditions
import TableRules.Proofs.CellComparisons
import TableRules.Proofs.Segments

namespace TableRules

open Text

namespace Expression

/-! ## Sides

  What is around a side is trimmed twice, with the segment and by itself, and the result is the
  same. -/

/-- Between two sides without such characters the lexeme is found. -/
theorem findLexeme?_between {lexeme : Lexeme} (hlexeme : lexeme ∈ lexemes) {left right : List Char}
    (hleft : ∀ c ∈ left, c ∉ symbolChars) (hright : ∀ c ∈ right, c ∉ symbolChars) :
    findLexeme? (left ++ (lexeme.spelling.toList ++ right)) = some (lexeme, left, right) := by
  have hhead : right.head? ≠ some '=' :=
    fun heq => hright '=' (List.mem_of_mem_head? heq) (by decide)
  exact findLexeme?_eq_some hlexeme hleft hhead
    fun other hother => not_infix_of_not_mem (mem_lexemes_of_mem_earlier hother) hright

/-- Without parentheses nothing is taken off but blanks. -/
theorem stripParens_of_no_parens {cs : List Char} (h : ∀ c ∈ cs, c ∉ parens) :
    stripParens cs = trim cs := by
  refine if_neg fun hwrapped => ?_
  have hmem : '(' ∈ trim cs := List.mem_of_mem_head? hwrapped.2.1
  exact h '(' ((trim_sublist cs).subset hmem) (by decide)

/-- Blanks around a text make no difference to the words in it. -/
theorem hasWord_trim {keywords : List (List Char)} (hkeywords : keywords ⊆ reservedWords)
    (cs : List Char) : hasWord keywords none (trim cs) = hasWord keywords none cs := by
  obtain ⟨gap, gap', hgap, hgap', hcs⟩ := exists_eq_append_trim cs
  rw [List.append_assoc] at hcs
  conv_rhs => rw [hcs]
  exact (hasWord_between hkeywords hgap.isWordChar hgap'.isWordChar (trim cs)).symm

/-- Trimmed as a whole, two sides lose the blanks at the outer ends. -/
theorem exists_trim_eq {left right : List Char} (hleft : ¬ Blank left) (hright : ¬ Blank right)
    (middle : List Char) : ∃ left' right',
      trim (left ++ (middle ++ right)) = left' ++ (middle ++ right') ∧
        trim left' = trim left ∧ trim right' = trim right ∧ left' ⊆ left ∧ right' ⊆ right := by
  obtain ⟨front, gap, hfront, hgap, hsplit⟩ := exists_eq_append_trim left
  obtain ⟨gap', back, hgap', hback, hsplit'⟩ := exists_eq_append_trim right
  -- The outer gaps go with the trimming; the inner ones stay beside what stands in the middle.
  refine ⟨trim left ++ gap, gap' ++ trim right, ?_, trim_append_right (tight_trim left) hgap,
    trim_append_left hgap' (tight_trim right), ?_, ?_⟩
  · have htight := tight_append (mt trim_eq_nil_iff.mp hleft) (mt trim_eq_nil_iff.mp hright)
      (tight_trim left) (tight_trim right) (gap ++ (middle ++ gap'))
    have hparts : left ++ (middle ++ right) =
        front ++ (trim left ++ ((gap ++ (middle ++ gap')) ++ trim right)) ++ back := by
      conv_lhs => rw [hsplit, hsplit']
      simp only [List.append_assoc]
    rw [hparts, trim_append hfront htight hback]
    simp only [List.append_assoc]
  · intro c hc
    rw [hsplit, List.append_assoc]
    exact List.mem_append_right front hc
  · intro c hc
    rw [hsplit']
    exact List.mem_append_left back hc

/-! ## Names

  A side may be a column for the parser of conditions, which does not mind the letter case, and for
  the reader of operands, which does. -/

/-- A text that is no column in any letter case names none. -/
theorem resolveColumn?_eq_none {columns : List String} {name : List Char}
    (h : ∀ column ∈ columns, lower column.toList ≠ lower name) :
    resolveColumn? name columns = none := by
  have hlower : columns.find? (fun column => lower column.toList == lower name) = none :=
    List.find?_eq_none.mpr fun column hcolumn heq => h column hcolumn (beq_iff_eq.mp heq)
  have hexact : columns.find? (fun column => column.toList == name) = none :=
    List.find?_eq_none.mpr fun column hcolumn heq =>
      h column hcolumn (congrArg lower (beq_iff_eq.mp heq))
  rw [resolveColumn?, hlower, hexact]
  rfl

/-- A comparison whose right side alone is a column. -/
theorem parseComparison?_of_right {columns : List String} {cs left right : List Char}
    {lexeme : Lexeme} {column : String} (hfind : findLexeme? cs = some (lexeme, left, right))
    (hleft : trim left ≠ []) (hright : trim right ≠ [])
    (hnone : resolveColumn? (trim left) columns = none)
    (hcolumn : resolveColumn? (trim right) columns = some column) :
    parseComparison? cs columns =
      some ⟨column, lexeme.comparison.mirrored, resolveOperand (trim left) columns⟩ := by
  rw [parseComparison?, hfind]
  simp only [Option.bind_eq_bind, Option.bind_some, hleft, hright, or_self, if_false, hnone,
    hcolumn]

/-- **A segment** whose right side alone is a column. -/
theorem parseCondition?_of_right {columns : List String} {lexeme : Lexeme}
    (hlexeme : lexeme ∈ lexemes) {left right : List Char} (hleft : ¬ Blank left)
    (hright : ¬ Blank right) (hmarks : ∀ c ∈ left ++ right, c ∉ symbolChars ∧ c ∉ parens)
    (hwords : hasWord searchWords none left = false ∧ hasWord searchWords none right = false)
    (hnone : resolveColumn? (trim left) columns = none) {column : String}
    (hcolumn : resolveColumn? (trim right) columns = some column) :
    parseCondition? (left ++ (lexeme.spelling.toList ++ right)) columns =
      some ⟨column, lexeme.comparison.mirrored, resolveOperand (trim left) columns⟩ := by
  have hspelling : ∀ lexeme ∈ lexemes, ∀ c ∈ lexeme.spelling.toList,
      isWordChar c = false ∧ c ∉ parens := by decide +kernel
  have hparens : ∀ c ∈ left ++ (lexeme.spelling.toList ++ right), c ∉ parens := by
    intro c hc
    rcases List.mem_append.mp hc with hc | hc
    · exact (hmarks c (List.mem_append_left right hc)).2
    · rcases List.mem_append.mp hc with hc | hc
      · exact (hspelling lexeme hlexeme c hc).2
      · exact (hmarks c (List.mem_append_right left hc)).2
  have hword : hasWord searchWords none (left ++ (lexeme.spelling.toList ++ right)) = false := by
    rw [hasWord_around searchWords_subset (spelling_ne_nil hlexeme)
      fun c hc => (hspelling lexeme hlexeme c hc).1, hwords.1, hwords.2]
    rfl
  have hleft' : trim left ≠ [] := mt trim_eq_nil_iff.mp hleft
  have hright' : trim right ≠ [] := mt trim_eq_nil_iff.mp hright
  -- the segment is trimmed as a whole first, and each of its sides after
  obtain ⟨front, back, htrim, hfront, hback, hsub, hsub'⟩ :=
    exists_trim_eq hleft hright lexeme.spelling.toList
  have hne : front ++ (lexeme.spelling.toList ++ back) ≠ [] :=
    List.append_ne_nil_of_right_ne_nil _
      (List.append_ne_nil_of_left_ne_nil (spelling_ne_nil hlexeme) _)
  have hfind := findLexeme?_between hlexeme
    (fun c hc => (hmarks c (List.mem_append_left right (hsub hc))).1)
    (fun c hc => (hmarks c (List.mem_append_right left (hsub' hc))).1)
  rw [← hasWord_trim searchWords_subset, htrim] at hword
  rw [parseCondition?, stripParens_of_no_parens hparens, htrim]
  rw [if_neg hne, hword, if_neg Bool.false_ne_true, parseComparison?_of_right hfind
    (hfront ▸ hleft') (hback ▸ hright') (hfront ▸ hnone) (hback ▸ hcolumn), hfront]

/-- As an operand, a text that is no column is something else. -/
theorem column?_resolveOperand {columns : List String} {raw : List Char}
    (h : ∀ column ∈ columns, column.toList ≠ trim raw) :
    (resolveOperand raw columns).column? = none := by
  have hany : columns.any (·.toList == trim raw) = false :=
    List.any_eq_false.mpr fun column hcolumn heq => h column hcolumn (beq_iff_eq.mp heq)
  rw [resolveOperand, hany]
  split
  next => rfl
  next =>
    rw [if_neg Bool.false_ne_true]
    split
    next n _ => cases n <;> rfl
    next => rfl

end Expression

/-- What names no column stands for a cell in every row. -/
theorem Operand.exists_resolve? {operand : Operand} (h : operand.column? = none) (row : Row) :
    ∃ value, operand.resolve? row = some value := by
  cases operand with
  | column name => cases h
  | literal | int | float | word => exact ⟨_, rfl⟩

open Expression

/-! ## Meaning -/

/-- **A column on the right** is put on the left, and the comparison mirrored with it: the condition
    holds on a row if the comparison that is written holds between what the left side stands for
    there and the cell of the column. -/
theorem Expression.parseCondition?_mirrored {columns : List String} {lexeme : Lexeme}
    (hlexeme : lexeme ∈ lexemes) {left right : List Char} (hleft : ¬ Blank left)
    (hright : ¬ Blank right) (hmarks : ∀ c ∈ left ++ right, c ∉ symbolChars ∧ c ∉ parens)
    (hwords : hasWord searchWords none left = false ∧ hasWord searchWords none right = false)
    (hnone : ∀ column ∈ columns, lower column.toList ≠ lower (trim left))
    (hsome : ∃ column ∈ columns, lower column.toList = lower (trim right)) :
    ∃ column condition,
      columns.find? (fun column => lower column.toList == lower (trim right)) = some column ∧
      parseCondition? (left ++ (lexeme.spelling.toList ++ right)) columns = some condition ∧
      condition.column = column ∧ condition.operand = resolveOperand (trim left) columns ∧
      ∀ row cell, Row.get? row column = some cell →
        ∃ value, condition.operand.resolve? row = some value ∧
          condition.holds row = lexeme.comparison.holds value cell := by
  obtain ⟨column, hfind⟩ : ∃ column,
      columns.find? (fun column => lower column.toList == lower (trim right)) = some column := by
    obtain ⟨column, hmem, hsame⟩ := hsome
    exact Option.isSome_iff_exists.mp (List.find?_isSome.mpr ⟨column, hmem, beq_iff_eq.mpr hsame⟩)
  have hcolumn : resolveColumn? (trim right) columns = some column := by
    rw [resolveColumn?, hfind, Option.some_or]
  have hread := parseCondition?_of_right hlexeme hleft hright hmarks hwords
    (resolveColumn?_eq_none hnone) hcolumn
  -- what is no column in any letter case is none in its own
  have hoperand : (resolveOperand (trim left) columns).column? = none := by
    refine column?_resolveOperand fun other hother heq => hnone other hother ?_
    rw [heq, trim_of_tight (tight_trim left)]
  generalize resolveOperand (trim left) columns = operand at hread hoperand ⊢
  refine ⟨column, _, hfind, hread, rfl, rfl, ?_⟩
  intro row cell hcell
  obtain ⟨value, hvalue⟩ := Operand.exists_resolve? hoperand row
  have hsearch : ∀ lexeme ∈ lexemes, lexeme.comparison.isSearch = false := by decide
  refine ⟨value, hvalue, ?_⟩
  rw [← Comparison.holds_mirrored (hsearch lexeme hlexeme)]
  exact Condition.holds_of_found (c := ⟨column, lexeme.comparison.mirrored, operand⟩) hcell hvalue _

/-- A number on the left, and a column in another letter case on the right. -/
theorem Expression.parseCondition?_mirrored_of_five : ∃ condition,
    parseCondition? "5 < a".toList ["A"] = some condition ∧ condition.column = "A" ∧
      ∃ value, condition.operand.resolve? ⟨[("A", .int 7)]⟩ = some value ∧
        condition.holds ⟨[("A", .int 7)]⟩ = Comparison.lessThan.holds value (.int 7) := by
  have hlexeme : (⟨"<", .lessThan⟩ : Lexeme) ∈ lexemes := by decide
  have hmarks : ∀ c ∈ ['5', ' '] ++ [' ', 'a'], c ∉ symbolChars ∧ c ∉ parens := by decide
  have hnone : ∀ column ∈ ["A"], lower column.toList ≠ lower (trim ['5', ' ']) := by decide +kernel
  have hsome : ∃ column ∈ ["A"], lower column.toList = lower (trim [' ', 'a']) := by decide +kernel
  obtain ⟨column, condition, hfind, hread, hcolumn, -, hholds⟩ :=
    parseCondition?_mirrored hlexeme (by decide) (by decide) hmarks (by decide +kernel) hnone hsome
  obtain rfl : column = "A" := List.mem_singleton.mp (List.mem_of_find?_eq_some hfind)
  exact ⟨condition, hread, hcolumn, hholds _ (.int 7) rfl⟩

end TableRules
