/-
  THE GRAMMAR: the expressions that are read without loss.

  1. **What may be written** — inductive relations between a text and what it means: `Symbol` for
     the comparisons, `OperandText` for operands, `Clause` for one condition, `Item` for a
     condition with or without parentheses, and `Sequence` for items joined by connectives.  Each
     leaves the blanks, the letter case and the quotes to the writer.

  2. **Operands and clauses** — each is read as what it means.  An operand is FRAMED: one word
     that is not reserved, with a sign or quotes around it, so no scanner stops inside.

  3. **Sequences** — by induction on the sequence, the text is cut exactly at its connectives and
     each segment is an item (`Sequence.cut_eq`).  So nothing is dropped (`parse_of_sequence`).

  The crux is that the scanners know nothing of the grammar: one looks for connectives through
  the whole text, one for the words of a search through a segment, one for the symbols of a
  comparison, and none of them minds quotes.  So a text is read as it was meant only if no scanner
  finds anything in a place where nothing was meant.  `Framed` and `Name` say that of the two
  sides, and `Laid` puts the sides together with what stands between them: a symbol, whose
  characters belong to no word, or the word of a search with blanks around it, which is not a
  connective.  From `Laid` alone follows what the three scanners see, so the two kinds of clause
  are told apart once, in `Clause.exists_laid`, and not again for each scanner.

  The letter case is free throughout.  What is written is compared with what is meant after
  `lowerAscii`, and the scanners fold letters in the same way, so no lemma speaks of capitals.
-/
import Mathlib.Data.List.Forall2
import Mathlib.Data.List.Nodup
import TableRules.Proofs.NumberTexts
import TableRules.Proofs.Segments

namespace TableRules

open Text

namespace Expression

/-! ## What may be written

  The relations leave open all that a writer is free in, and nothing else. They are read from right
  to left: of this text, this is the meaning. -/

/-- Columns that the grammar can tell apart: names that start with no digit, no two of them equal
    up to the case of their letters. -/
structure Nameable (columns : List String) : Prop where
  /-- Each is a name: one word that the rule language does not have for itself. -/
  name : ∀ column ∈ columns, Name column.toList
  /-- A digit would make it look like a number. -/
  start : ∀ column ∈ columns, ∀ c ∈ column.toList.head?, c.isDigit = false
  /-- No two are the same up to the case of ASCII letters. -/
  distinct : (columns.map fun column => lowerAscii column.toList).Nodup

/-- How a comparison is written between its sides. -/
inductive Symbol : Comparison → List Char → Prop where
  /-- As it is written in a stored rule: `>=`, `<=`, `!=`, `==`, `>` or `<`. -/
  | own {comparison : Comparison} (h : comparison.isSearch = false) :
      Symbol comparison comparison.symbol.toList
  /-- A single equals sign will do as well. -/
  | single : Symbol .equal ['=']

/-- How an operand is written: an integer of 64 bits, a column, or quoted text. -/
inductive OperandText (columns : List String) : List Char → Operand → Prop where
  /-- Digits with a sign or none, however many zeros come first. -/
  | int {sign digits : List Char} {value : Int64} (hsign : sign ∈ [[], ['+'], ['-']])
      (hne : digits ≠ []) (hdigits : ∀ d ∈ digits, d.isDigit = true)
      (hvalue : value.toInt = if sign = ['-'] then -(Nat.ofDigitChars 10 digits 0 : Int)
        else Nat.ofDigitChars 10 digits 0) :
      OperandText columns (sign ++ digits) (.int value)
  /-- The name of a column, in its own letter case. -/
  | column {name : String} (h : name ∈ columns) : OperandText columns name.toList (.column name)
  /-- One word between quotes of either kind, which is not reserved. -/
  | quoted {quote : Char} {s : List Char} (hquote : quote = '"' ∨ quote = '\'')
      (hplain : ∀ c ∈ s, isPlain c = true) (hword : lowerAscii s ∉ reservedWords) :
      OperandText columns (quote :: (s ++ [quote])) (.literal (String.ofList s))

/-- How a condition is written. -/
inductive Clause (columns : List String) : List Char → Condition → Prop where
  /-- A column, a symbol and an operand, with blanks between them or without. -/
  | comparison {column : String} {name gap symbol gap' text : List Char} {comparison : Comparison}
      {operand : Operand} (hcolumn : column ∈ columns)
      (hname : lowerAscii name = lowerAscii column.toList) (hgap : Blank gap)
      (hsymbol : Symbol comparison symbol) (hgap' : Blank gap')
      (hoperand : OperandText columns text operand) :
      Clause columns (name ++ (gap ++ (symbol ++ (gap' ++ text)))) ⟨column, comparison, operand⟩
  /-- A column, the word of a search and quoted text, with blanks around the word. -/
  | search {column : String} {name gap word gap' s : List Char} {comparison : Comparison}
      {quote : Char} (hcolumn : column ∈ columns)
      (hname : lowerAscii name = lowerAscii column.toList) (hgap : Blank gap) (hgapne : gap ≠ [])
      (hcomparison : comparison.isSearch = true)
      (hword : lowerAscii word = comparison.symbol.toList) (hgap' : Blank gap')
      (hgapne' : gap' ≠ []) (hquote : quote = '"' ∨ quote = '\'')
      (hplain : ∀ c ∈ s, isPlain c = true) (hneedle : lowerAscii s ∉ reservedWords) :
      Clause columns (name ++ (gap ++ (word ++ (gap' ++ quote :: (s ++ [quote])))))
        ⟨column, comparison, .literal (String.ofList s)⟩

/-- A condition, with a pair of parentheses around it or without. -/
inductive Item (columns : List String) : List Char → Condition → Prop where
  /-- As it is. -/
  | bare {text : List Char} {c : Condition} (h : Clause columns text c) : Item columns text c
  /-- In parentheses, with blanks inside them or without. -/
  | wrapped {gap text gap' : List Char} {c : Condition} (hgap : Blank gap)
      (h : Clause columns text c) (hgap' : Blank gap') :
      Item columns ('(' :: (gap ++ text ++ gap') ++ [')']) c

/-- Conditions joined by connectives, with blanks around each connective. -/
inductive Sequence (columns : List String) :
    List Char → List Condition → List Connective → Prop where
  /-- A single item. -/
  | one {text : List Char} {c : Condition} (h : Item columns text c) : Sequence columns text [c] []
  /-- An item, a connective in any letter case, and a sequence. -/
  | join {text gap word gap' rest : List Char} {c : Condition} {conditions : List Condition}
      {connective : Connective} {connectives : List Connective} (h : Item columns text c)
      (hgap : Blank gap) (hgapne : gap ≠ []) (hword : lowerAscii word = connective.symbol.toList)
      (hgap' : Blank gap') (hgapne' : gap' ≠ [])
      (hrest : Sequence columns rest conditions connectives) :
      Sequence columns (text ++ gap ++ (word ++ (gap' ++ rest))) (c :: conditions)
        (connective :: connectives)

/-! ## Columns

  What is asked of the columns is asked once, and passed on to every clause. -/

namespace Nameable

variable {columns : List String} (h : Nameable columns) {column : String} {name : List Char}
  (hcolumn : column ∈ columns) (hname : lowerAscii name = lowerAscii column.toList)
include h hcolumn hname

/-- What is written for a column is a name as well: the letter case changes nothing that a name
    needs. -/
theorem name_of_lowerAscii_eq : Name name :=
  Expression.name_of_lowerAscii_eq (h.name column hcolumn) hname

/-- A column is found in any letter case. -/
theorem resolveColumn? : resolveColumn? name columns = some column := by
  have hlower : ∀ {cs : List Char}, Name cs → lower cs = lowerAscii cs := fun hcs =>
    lower_of_ascii fun c hc => lt_of_isPlain (hcs.plain c hc)
  have hwritten := hlower (h.name_of_lowerAscii_eq hcolumn hname)
  refine resolveColumn?_eq_some hcolumn ?_ fun other hother heq => ?_
  · rw [hlower (h.name column hcolumn), hwritten, hname]
  · rw [hlower (h.name other hother), hwritten, hname] at heq
    exact List.inj_on_of_nodup_map h.distinct hother hcolumn heq

end Nameable

/-! ## Framed words

  Whatever may stand on the right side of a clause is one word in a frame. The frame may be empty,
  and the word too, between two quotes. -/

/-- A word that is not reserved, with a sign or quotes around it. -/
def Framed (cs : List Char) : Prop :=
  ∃ front word back, cs = front ++ (word ++ back) ∧ (∀ c ∈ front, c ∈ frameChars) ∧
    (∀ c ∈ back, c ∈ frameChars) ∧ (∀ c ∈ word, isPlain c = true) ∧ lowerAscii word ∉ reservedWords

/-- A name is framed, by nothing. -/
theorem framed_of_name {cs : List Char} (h : Name cs) : Framed cs :=
  ⟨[], cs, [], (List.append_nil cs).symm, nofun, nofun, h.plain, h.unreserved⟩

/-- Quotes frame their text, if the text is no reserved word. -/
theorem framed_quoted {quote : Char} {s : List Char} (hquote : quote = '"' ∨ quote = '\'')
    (hplain : ∀ c ∈ s, isPlain c = true) (hword : lowerAscii s ∉ reservedWords) :
    Framed (quote :: (s ++ [quote])) := by
  have hmem : ∀ c ∈ [quote], c ∈ frameChars := by
    rintro c hc
    rw [List.mem_singleton.mp hc]
    rcases hquote with rfl | rfl <;> decide
  exact ⟨[quote], s, [quote], rfl, hmem, hmem, hplain, hword⟩

/-- No reserved word has a digit. -/
theorem lowerAscii_digits_not_mem {digits : List Char} (hne : digits ≠ [])
    (hdigits : ∀ d ∈ digits, d.isDigit = true) : lowerAscii digits ∉ reservedWords := by
  obtain ⟨d, ds, rfl⟩ := List.exists_cons_of_ne_nil hne
  have hd := hdigits d (List.mem_cons_self ..)
  have hlower : d.toLower.isDigit = true := by
    rw [toLower_of_isDigit hd]
    exact hd
  have hreserved : ∀ keyword ∈ reservedWords, ∀ c ∈ keyword, c.isDigit = false := by decide
  intro hmem
  have hnone := hreserved _ hmem d.toLower (List.mem_cons_self ..)
  rw [hlower] at hnone
  cases hnone

/-- Every operand is framed: an integer has its digits for the word, a column its name. -/
theorem framed_operandText {columns : List String} (hcolumns : Nameable columns) {text : List Char}
    {operand : Operand} (h : OperandText columns text operand) : Framed text := by
  cases h with
  | @int sign digits value hsign hne hdigits hvalue =>
    refine ⟨sign, digits, [], by rw [List.append_nil], ?_, nofun,
      fun d hd => isPlain_of_isDigit (hdigits d hd), lowerAscii_digits_not_mem hne hdigits⟩
    have hall : ∀ sign ∈ [[], ['+'], ['-']], ∀ c ∈ sign, c ∈ frameChars := by decide
    exact hall sign hsign
  | column hmem => exact framed_of_name (hcolumns.name _ hmem)
  | quoted hquote hplain hword => exact framed_quoted hquote hplain hword

namespace Framed

variable {cs : List Char} (h : Framed cs)
include h

/-- A framed text is made of plain characters and the characters of the frame. -/
theorem plain_or_mem {c : Char} (hc : c ∈ cs) : isPlain c = true ∨ c ∈ frameChars := by
  obtain ⟨front, word, back, rfl, hfront, hback, hplain, -⟩ := h
  rcases List.mem_append.mp hc with hc | hc
  · exact .inr (hfront c hc)
  · exact (List.mem_append.mp hc).imp (hplain c) (hback c)

/-- So it neither starts nor ends with a blank, ... -/
theorem tight : Tight cs := tight_of_no_blank fun _ hc => (h.plain_or_mem hc).elim
  (fun hplain => isBlank_of_isWordChar (isWordChar_of_isPlain hplain))
  fun hframe => isBlank_of_mem_marks (frameChars_subset hframe)

/-- Neither a character of a lexeme nor a parenthesis. -/
theorem not_mem {c : Char} (hc : c ∈ cs) : c ∉ symbolChars ∧ c ∉ parens := by
  rcases h.plain_or_mem hc with hplain | hframe
  · have hnone := not_mem_marks_of_isPlain hplain
    exact ⟨fun hmem => hnone (symbolChars_subset hmem), fun hmem => hnone (parens_subset hmem)⟩
  · have hall : ∀ c ∈ frameChars, c ∉ symbolChars ∧ c ∉ parens := by decide
    exact hall c hframe

/-- ... and it holds no word of the rule language: the frame ends a word, and the one word within is
    not reserved. -/
theorem hasWord {keywords : List (List Char)} (hkeywords : keywords ⊆ reservedWords) :
    hasWord keywords none cs = false := by
  have hmarks : ∀ c ∈ frameChars, isWordChar c = false := fun _ hc =>
    isWordChar_of_mem_marks (frameChars_subset hc)
  obtain ⟨front, word, back, rfl, hfront, hback, hplain, hword⟩ := h
  rw [hasWord_between hkeywords (fun c hc => hmarks c (hfront c hc))
    fun c hc => hmarks c (hback c hc)]
  exact hasWord_of_unreserved hkeywords hplain hword

end Framed

/-! ## Operands

  The three readings of an operand are tried in order, and no operand of one kind is taken for one
  of another. -/

/-- An operand is never empty. -/
theorem OperandText.ne_nil {columns : List String} (hcolumns : Nameable columns) {text : List Char}
    {operand : Operand} (h : OperandText columns text operand) : text ≠ [] := by
  cases h with
  | int hsign hne => exact List.append_ne_nil_of_right_ne_nil _ hne
  | column hmem => exact (hcolumns.name _ hmem).ne_nil
  | @quoted quote s => exact List.cons_ne_nil quote _

/-- An integer is read with its sign. -/
theorem parseInt64?_append {sign digits : List Char} {value : Int64}
    (hsign : sign ∈ [[], ['+'], ['-']]) (hne : digits ≠ [])
    (hdigits : ∀ d ∈ digits, d.isDigit = true)
    (hvalue : value.toInt = if sign = ['-'] then -(Nat.ofDigitChars 10 digits 0 : Int)
      else Nat.ofDigitChars 10 digits 0) : parseInt64? (sign ++ digits) = some value := by
  have hspan : Decimal.spanSign (sign ++ digits) = (decide (sign = ['-']), digits) := by
    simp only [List.mem_cons, List.not_mem_nil, or_false] at hsign
    rcases hsign with rfl | rfl | rfl
    -- Without a sign the first digit must not be taken for one.
    · rw [List.nil_append, Decimal.spanSign.eq_def]
      split
      next => exact absurd (hdigits '-' (List.mem_cons_self ..)) (by decide)
      next => exact absurd (hdigits '+' (List.mem_cons_self ..)) (by decide)
      next => rfl
    · rfl
    · rfl
  rw [parseInt64?_eq_some_iff, Decimal.parseInt?, hspan]
  dsimp only
  rw [if_pos ⟨hne, List.all_eq_true.mpr hdigits⟩, hvalue]
  simp only [decide_eq_true_eq]
  rfl

/-- An integer starts with a sign or a digit. -/
theorem exists_head_of_int {sign digits : List Char} (hsign : sign ∈ [[], ['+'], ['-']])
    (hne : digits ≠ []) (hdigits : ∀ d ∈ digits, d.isDigit = true) :
    ∃ c, (sign ++ digits).head? = some c ∧ (c ∈ ['+', '-'] ∨ c.isDigit = true) := by
  obtain ⟨d, ds, rfl⟩ := List.exists_cons_of_ne_nil hne
  simp only [List.mem_cons, List.not_mem_nil, or_false] at hsign
  rcases hsign with rfl | rfl | rfl
  · exact ⟨d, rfl, .inr (hdigits d (List.mem_cons_self ..))⟩
  · exact ⟨'+', rfl, .inl (by decide)⟩
  · exact ⟨'-', rfl, .inl (by decide)⟩

/-- **An operand** is read as what it stands for. Quotes are looked for first, then a column, then
    an integer: neither of the later two starts with a quote, and no column starts with a sign or a
    digit. -/
theorem resolveOperand_eq {columns : List String} (hcolumns : Nameable columns) {text : List Char}
    {operand : Operand} (h : OperandText columns text operand) :
    resolveOperand text columns = operand := by
  have htight := (framed_operandText hcolumns h).tight
  cases h with
  | @int sign digits value hsign hne hdigits hvalue =>
    obtain ⟨c, hhead, hc⟩ := exists_head_of_int hsign hne hdigits
    have hunquote : unquote? (sign ++ digits) = none := by
      refine unquote?_eq_none htight fun d hd => ?_
      obtain rfl := Option.some.inj (hhead.symm.trans hd)
      constructor <;> rintro rfl <;> simp at hc
    -- a column starts with a letter or an underscore
    have hcolumn : ¬ columns.any (·.toList == sign ++ digits) = true := by
      intro hany
      obtain ⟨column, hmem, heq⟩ := List.any_eq_true.mp hany
      rw [← beq_iff_eq.mp heq] at hhead
      rcases hc with hsigned | hdigit
      · refine not_mem_marks_of_isPlain ((hcolumns.name column hmem).plain c
          (List.mem_of_mem_head? hhead)) ?_
        have hall : ∀ c ∈ ['+', '-'], c ∈ marks := by decide
        exact hall c hsigned
      · rw [hcolumns.start column hmem c hhead] at hdigit
        cases hdigit
    rw [resolveOperand, trim_of_tight htight, hunquote]
    dsimp only
    rw [if_neg hcolumn, Numeral.read?, parseInt64?_append hsign hne hdigits hvalue]
    rfl
  | @column name hmem =>
    have hunquote : unquote? name.toList = none := by
      refine unquote?_eq_none htight fun c hc => ?_
      have hplain := (hcolumns.name name hmem).plain c (List.mem_of_mem_head? hc)
      constructor <;> rintro rfl <;> simp [isPlain] at hplain
    have hcolumn : columns.any (·.toList == name.toList) = true :=
      List.any_eq_true.mpr ⟨name, hmem, beq_self_eq_true _⟩
    rw [resolveOperand, trim_of_tight htight, hunquote]
    dsimp only
    rw [if_pos hcolumn, String.ofList_toList]
  | quoted hquote hplain hword => exact resolveOperand_quoted hquote _ columns

/-! ## Clauses

  First a comparison is read, where the lexeme has to be found; then the parts of a clause of either
  kind, and what the scanners make of them. -/

/-- Every symbol is a lexeme. -/
theorem exists_lexeme_of_symbol {comparison : Comparison} {symbol : List Char}
    (h : Symbol comparison symbol) :
    ∃ lexeme ∈ lexemes, lexeme.spelling.toList = symbol ∧ lexeme.comparison = comparison := by
  cases h with
  | single => exact ⟨⟨"=", .equal⟩, by decide, rfl, rfl⟩
  | own hown =>
    refine ⟨⟨comparison.symbol, comparison⟩, ?_, rfl, rfl⟩
    cases comparison <;> first | decide | cases hown

/-- **A comparison** is read, with its lexeme between the name and the operand. -/
theorem parseComparison?_clause {columns : List String} (hcolumns : Nameable columns)
    {column : String} {name gap symbol gap' text : List Char} {comparison : Comparison}
    {operand : Operand} (hcolumn : column ∈ columns)
    (hname : lowerAscii name = lowerAscii column.toList) (hgap : Blank gap)
    (hsymbol : Symbol comparison symbol) (hgap' : Blank gap')
    (hoperand : OperandText columns text operand) :
    parseComparison? (name ++ (gap ++ (symbol ++ (gap' ++ text)))) columns =
      some ⟨column, comparison, operand⟩ := by
  obtain ⟨lexeme, hlexeme, rfl, rfl⟩ := exists_lexeme_of_symbol hsymbol
  have hwritten := hcolumns.name_of_lowerAscii_eq hcolumn hname
  have hframed := framed_operandText hcolumns hoperand
  have hfree : ∀ {gap : List Char}, Blank gap → ∀ c ∈ gap, c ∉ symbolChars := fun hgap c hc hmem =>
    not_mem_marks_of_isBlank (hgap c hc) (symbolChars_subset hmem)
  have hleft : ∀ c ∈ name ++ gap, c ∉ symbolChars := by
    intro c hc hmem
    rcases List.mem_append.mp hc with hc | hc
    · exact not_mem_marks_of_isPlain (hwritten.plain c hc) (symbolChars_subset hmem)
    · exact hfree hgap c hc hmem
  have hright : ∀ c ∈ gap' ++ text, c ∉ symbolChars := by
    intro c hc hmem
    rcases List.mem_append.mp hc with hc | hc
    · exact hfree hgap' c hc hmem
    · exact (hframed.not_mem hc).1 hmem
  -- the lexeme is the first one that stands anywhere: no other does, on either side of it
  have hfind : findLexeme? (name ++ (gap ++ (lexeme.spelling.toList ++ (gap' ++ text)))) =
      some (lexeme, name ++ gap, gap' ++ text) := by
    rw [← List.append_assoc]
    refine findLexeme?_eq_some hlexeme hleft (fun hhead => ?_) fun other hother =>
      not_infix_of_not_mem (mem_lexemes_of_mem_earlier hother) hright
    exact hright '=' (List.mem_of_mem_head? hhead) (by decide)
  have htrim : trim (name ++ gap) = name := trim_append_right hwritten.tight hgap
  have htext : trim (gap' ++ text) = text := trim_append_left hgap' hframed.tight
  rw [parseComparison?_of_findLexeme? hfind, htext, resolveOperand_eq hcolumns hoperand]
  · rw [htext]
    exact hoperand.ne_nil hcolumns
  · rw [htrim]
    exact hwritten.ne_nil
  · rw [htrim]
    exact hcolumns.resolveColumn? hcolumn hname

/-- The parts of a clause: a name, what compares it, and a framed word, with blanks between. -/
structure Laid (name gap middle gap' tail : List Char) : Prop where
  /-- The side in front is a name. -/
  named : Name name
  blank : Blank gap
  blank' : Blank gap'
  /-- Something stands between the sides, ... -/
  middle_ne_nil : middle ≠ []
  /-- ... which is a symbol, or the word of a search with blanks around it. -/
  compares : (∀ c ∈ middle, c ∈ symbolChars) ∨ (gap ≠ [] ∧ gap' ≠ [] ∧
    ∃ comparison : Comparison, comparison.isSearch = true ∧
      lowerAscii middle = comparison.symbol.toList)
  /-- The side behind is framed, and is not empty. -/
  framed : Framed tail
  tail_ne_nil : tail ≠ []

/-- A symbol is made of the characters of symbols. -/
theorem mem_symbolChars_of_symbol {comparison : Comparison} {symbol : List Char}
    (h : Symbol comparison symbol) : ∀ c ∈ symbol, c ∈ symbolChars := by
  obtain ⟨lexeme, hlexeme, rfl, -⟩ := exists_lexeme_of_symbol h
  have hall : ∀ lexeme ∈ lexemes, ∀ c ∈ lexeme.spelling.toList, c ∈ symbolChars := by decide
  exact hall lexeme hlexeme

/-- A comparison falls into the parts of a clause. -/
theorem laid_of_comparison {columns : List String} (hcolumns : Nameable columns) {column : String}
    {name gap symbol gap' text : List Char} {comparison : Comparison} {operand : Operand}
    (hcolumn : column ∈ columns) (hname : lowerAscii name = lowerAscii column.toList)
    (hgap : Blank gap) (hsymbol : Symbol comparison symbol) (hgap' : Blank gap')
    (hoperand : OperandText columns text operand) : Laid name gap symbol gap' text where
  named := hcolumns.name_of_lowerAscii_eq hcolumn hname
  blank := hgap
  blank' := hgap'
  middle_ne_nil := by
    obtain ⟨lexeme, hlexeme, rfl, -⟩ := exists_lexeme_of_symbol hsymbol
    exact spelling_ne_nil hlexeme
  compares := .inl (mem_symbolChars_of_symbol hsymbol)
  framed := framed_operandText hcolumns hoperand
  tail_ne_nil := hoperand.ne_nil hcolumns

/-- Every clause falls into such parts. From here on the two kinds of clause need not be told
    apart. -/
theorem Clause.exists_laid {columns : List String} (hcolumns : Nameable columns) {text : List Char}
    {c : Condition} (h : Clause columns text c) : ∃ name gap middle gap' tail,
      text = name ++ (gap ++ (middle ++ (gap' ++ tail))) ∧ Laid name gap middle gap' tail := by
  cases h with
  | comparison hcolumn hname hgap hsymbol hgap' hoperand =>
    exact ⟨_, _, _, _, _, rfl,
      laid_of_comparison hcolumns hcolumn hname hgap hsymbol hgap' hoperand⟩
  | @search column name gap word gap' s comparison quote hcolumn hname hgap hgapne hcomparison hword
      hgap' hgapne' hquote hplain hneedle =>
    have hne : word ≠ [] := by
      rintro rfl
      cases comparison <;> cases hword
    exact ⟨_, _, _, _, _, rfl, hcolumns.name_of_lowerAscii_eq hcolumn hname, hgap, hgap', hne,
      .inr ⟨hgapne, hgapne', comparison, hcomparison, hword⟩, framed_quoted hquote hplain hneedle,
      List.cons_ne_nil quote _⟩

namespace Laid

variable {name gap middle gap' tail : List Char} (h : Laid name gap middle gap' tail)
include h

/-- A clause is not empty, ... -/
theorem ne_nil : name ++ (gap ++ (middle ++ (gap' ++ tail))) ≠ [] :=
  List.append_ne_nil_of_left_ne_nil h.named.ne_nil _

/-- ... neither starts nor ends with a blank, ... -/
theorem tight : Tight (name ++ (gap ++ (middle ++ (gap' ++ tail)))) := by
  have htight := tight_append h.named.ne_nil h.tail_ne_nil h.named.tight h.framed.tight
    (gap ++ (middle ++ gap'))
  simpa only [List.append_assoc] using htight

/-- ... and holds no parentheses, in none of its five parts. -/
theorem no_parens : ∀ c ∈ name ++ (gap ++ (middle ++ (gap' ++ tail))), c ∉ parens := by
  have hplain : ∀ {c}, isPlain c = true → c ∉ parens := fun hc hmem =>
    not_mem_marks_of_isPlain hc (parens_subset hmem)
  have hblank : ∀ {c}, isBlank c = true → c ∉ parens := fun hc hmem =>
    not_mem_marks_of_isBlank hc (parens_subset hmem)
  intro c hc
  simp only [List.mem_append] at hc
  -- part by part, from the name to the operand
  rcases hc with hc | hc | hc | hc | hc
  · exact hplain (h.named.plain c hc)
  · exact hblank (h.blank c hc)
  · rcases h.compares with hsymbol | ⟨-, -, comparison, hcomparison, hword⟩
    · have hall : ∀ c ∈ symbolChars, c ∉ parens := by decide
      exact hall c (hsymbol c hc)
    · exact hplain ((plain_of_searchWord hcomparison hword).1 c hc)
  · exact hblank (h.blank' c hc)
  · exact (h.framed.not_mem hc).2

/-- A comparison holds none of the words of the rule language. -/
theorem hasWord_of_symbolChars {keywords : List (List Char)} (hkeywords : keywords ⊆ reservedWords)
    (hsymbol : ∀ c ∈ middle, c ∈ symbolChars) :
    hasWord keywords none (name ++ (gap ++ (middle ++ (gap' ++ tail)))) = false := by
  have hnone : ∀ c ∈ gap ++ (middle ++ gap'), isWordChar c = false := by
    intro c hc
    simp only [List.mem_append] at hc
    rcases hc with hc | hc | hc
    · exact h.blank.isWordChar c hc
    · exact isWordChar_of_mem_marks (symbolChars_subset (hsymbol c hc))
    · exact h.blank'.isWordChar c hc
  have hne : gap ++ (middle ++ gap') ≠ [] := by simp [h.middle_ne_nil]
  have haround := hasWord_around hkeywords hne hnone name tail
  simp only [List.append_assoc] at haround
  rw [haround, h.named.hasWord hkeywords, h.framed.hasWord hkeywords]
  rfl

/-- A clause holds no connective: a comparison holds no word at all, and the word of a search is
    another. -/
theorem hasWord_connectiveWords :
    hasWord connectiveWords none (name ++ (gap ++ (middle ++ (gap' ++ tail)))) = false := by
  rcases h.compares with hsymbol | ⟨hgapne, hgapne', comparison, hcomparison, hword⟩
  · exact h.hasWord_of_symbolChars connectiveWords_subset hsymbol
  · rw [hasWord_around connectiveWords_subset hgapne h.blank.isWordChar,
      hasWord_around connectiveWords_subset hgapne' h.blank'.isWordChar,
      h.named.hasWord connectiveWords_subset, h.framed.hasWord connectiveWords_subset,
      (plain_of_searchWord hcomparison hword).2.2]
    rfl

/-- What compares starts with no blank and no connective. -/
theorem head_middle : ∀ c ∈ middle.head?,
    isBlank c = false ∧ foldLetter c ≠ 'a' ∧ foldLetter c ≠ 'o' := by
  intro c hc
  rcases h.compares with hsymbol | ⟨-, -, comparison, hcomparison, hword⟩
  · have hall : ∀ c ∈ symbolChars, isBlank c = false ∧ foldLetter c ≠ 'a' ∧ foldLetter c ≠ 'o' := by
      decide
    exact hall c (hsymbol c (List.mem_of_mem_head? hc))
  · obtain ⟨hplain, hstart, -⟩ := plain_of_searchWord hcomparison hword
    have hwordChar := isWordChar_of_isPlain (hplain c (List.mem_of_mem_head? hc))
    exact ⟨isBlank_of_isWordChar hwordChar, hstart c hc⟩

/-- Behind the name a word ends, at a blank or at a symbol. -/
theorem isEdge_head (rest : List Char) : isEdge (gap ++ (middle ++ rest)).head? = true := by
  by_cases hgap : gap = []
  · rcases h.compares with hsymbol | ⟨hgapne, -⟩
    · rw [hgap, List.nil_append, List.head?_append_of_ne_nil _ h.middle_ne_nil]
      exact isEdge_head? fun c hc => isWordChar_of_mem_marks (symbolChars_subset (hsymbol c hc))
    · exact absurd hgap hgapne
  · rw [List.head?_append_of_ne_nil _ hgap]
    exact isEdge_head? h.blank.isWordChar

/-- No connective stands behind the name. -/
theorem keywordAt?_eq_none (rest : List Char) :
    keywordAt? ((gap ++ (middle ++ rest)).dropWhile isBlank) = none := by
  have hhead : (middle ++ rest).head? = middle.head? :=
    List.head?_append_of_ne_nil _ h.middle_ne_nil
  rw [dropWhile_isBlank h.blank fun c hc => (h.head_middle c (hhead ▸ hc)).1]
  exact Expression.keywordAt?_eq_none fun c hc => (h.head_middle c (hhead ▸ hc)).2

end Laid

/-- **A clause** is read as its condition. The parser looks for the word of a search first, and a
    comparison holds none. -/
theorem Clause.parseCondition?_eq_some {columns : List String} (hcolumns : Nameable columns)
    {text segment : List Char} {c : Condition} (h : Clause columns text c)
    (hsegment : stripParens segment = text) : parseCondition? segment columns = some c := by
  cases h with
  | @comparison column name gap symbol gap' text comparison operand hcolumn hname hgap hsymbol hgap'
      hoperand =>
    -- Symbols hold no letters, so no search word is found and the symbols are looked for.
    have hlaid : Laid name gap symbol gap' text := laid_of_comparison hcolumns hcolumn hname hgap
      hsymbol hgap' hoperand
    rw [parseCondition?, hsegment, if_neg hlaid.ne_nil,
      hlaid.hasWord_of_symbolChars searchWords_subset (mem_symbolChars_of_symbol hsymbol)]
    exact parseComparison?_clause hcolumns hcolumn hname hgap hsymbol hgap' hoperand
  | search hcolumn hname hgap hgapne hcomparison hword hgap' hgapne' hquote hplain hneedle =>
    -- The search word stands between gaps, so it is found before any symbol is looked for.
    have hwritten := hcolumns.name_of_lowerAscii_eq hcolumn hname
    rw [parseCondition?, hsegment, if_neg (List.append_ne_nil_of_left_ne_nil hwritten.ne_nil _),
      hasWord_of_search hgap hgapne hcomparison hword hgap' hgapne']
    exact parseSearch?_append hwritten.ne_nil hwritten.no_blank hgap hgapne hcomparison hword hgap'
      hgapne' hquote (hcolumns.resolveColumn? hcolumn hname)

/-! ## Items

  Parentheses around a clause, and what the scanner of connectives makes of those. -/

section Item

variable {columns : List String} (hcolumns : Nameable columns) {text : List Char} {c : Condition}
  (h : Item columns text c)
include hcolumns h

/-- An item is not empty, with parentheses or without, ... -/
theorem Item.ne_nil : text ≠ [] := by
  cases h with
  | bare h =>
    obtain ⟨name, gap, middle, gap', tail, rfl, hlaid⟩ := h.exists_laid hcolumns
    exact hlaid.ne_nil
  | wrapped => exact List.cons_ne_nil '(' _

/-- ... and neither starts nor ends with a blank. -/
theorem Item.tight : Tight text := by
  cases h with
  | bare h =>
    obtain ⟨name, gap, middle, gap', tail, rfl, hlaid⟩ := h.exists_laid hcolumns
    exact hlaid.tight
  | wrapped => exact tight_of_ends (by decide) (by decide) _

/-- No connective stands within an item. -/
theorem Item.hasWord : hasWord connectiveWords none text = false := by
  cases h with
  | bare h =>
    obtain ⟨name, gap, middle, gap', tail, rfl, hlaid⟩ := h.exists_laid hcolumns
    exact hlaid.hasWord_connectiveWords
  | @wrapped gap text gap' c hgap h hgap' =>
    obtain ⟨name, before, middle, behind, tail, rfl, hlaid⟩ := h.exists_laid hcolumns
    -- the parentheses and the blanks by them are no characters of a word
    have hfront : ∀ c ∈ '(' :: gap, isWordChar c = false :=
      List.forall_mem_cons.mpr ⟨by decide, hgap.isWordChar⟩
    have hback : ∀ c ∈ gap' ++ [')'], isWordChar c = false :=
      List.forall_mem_append.mpr ⟨hgap'.isWordChar, List.forall_mem_singleton.mpr (by decide)⟩
    have hbetween := hasWord_between connectiveWords_subset hfront hback
      (name ++ (before ++ (middle ++ (behind ++ tail))))
    rw [hlaid.hasWord_connectiveWords] at hbetween
    simpa only [List.append_assoc, List.cons_append] using hbetween

/-- **An item** is read as its condition. -/
theorem Item.parseCondition?_eq_some : parseCondition? text columns = some c := by
  cases h with
  | bare h =>
    refine h.parseCondition?_eq_some hcolumns ?_
    obtain ⟨name, gap, middle, gap', tail, rfl, hlaid⟩ := h.exists_laid hcolumns
    refine stripParens_of_head hlaid.tight fun hhead => ?_
    exact hlaid.no_parens '(' (List.mem_of_mem_head? hhead) (by decide)
  | wrapped hgap h hgap' =>
    refine h.parseCondition?_eq_some hcolumns ?_
    obtain ⟨name, gap, middle, gap', tail, rfl, hlaid⟩ := h.exists_laid hcolumns
    exact stripParens_wrapped hgap hlaid.tight hgap' hlaid.no_parens

/-- What starts with an item is no reference expression. -/
theorem Item.isReferenceExpression_eq_false {more : List Char} (htight : Tight (text ++ more)) :
    isReferenceExpression (text ++ more) = false := by
  cases h with
  | bare h =>
    obtain ⟨name, gap, middle, gap', tail, rfl, hlaid⟩ := h.exists_laid hcolumns
    simp only [List.append_assoc] at htight ⊢
    exact isReferenceExpression_of_name hlaid.named.wordChars htight (hlaid.isEdge_head _)
      (hlaid.keywordAt?_eq_none _)
  | @wrapped gap text gap' c hgap h hgap' =>
    -- a parenthesis ends the empty name in front of it
    have hempty : ∀ c ∈ ([] : List Char), isWordChar c = true := nofun
    refine @isReferenceExpression_of_name [] _ hempty htight rfl
      (keywordAt?_eq_none fun c hc => ?_)
    obtain rfl := Option.some.inj hc
    decide

end Item

/-! ## Sequences

  The first item comes off with its connective, and the sequence goes on behind it. -/

/-- Nor is a sequence empty, or blank at an end: its ends are the ends of items. -/
theorem Sequence.tight {columns : List String} (hcolumns : Nameable columns) {text : List Char}
    {conditions : List Condition} {connectives : List Connective}
    (h : Sequence columns text conditions connectives) : text ≠ [] ∧ Tight text := by
  induction h with
  | one h => exact ⟨h.ne_nil hcolumns, h.tight hcolumns⟩
  | @join text gap word gap' rest c conditions connective connectives h hgap hgapne hword hgap'
      hgapne' hrest ih =>
    have htight := tight_append (h.ne_nil hcolumns) ih.1 (h.tight hcolumns) ih.2
      (gap ++ (word ++ gap'))
    refine ⟨by simp [h.ne_nil hcolumns], ?_⟩
    simpa only [List.append_assoc] using htight

/-- A sequence starts with an item, so it is no reference expression. -/
theorem Sequence.isReferenceExpression_eq_false {columns : List String}
    (hcolumns : Nameable columns) {text : List Char} {conditions : List Condition}
    {connectives : List Connective}
    (h : Sequence columns text conditions connectives) : isReferenceExpression text = false := by
  have htight := (h.tight hcolumns).2
  cases h with
  | one h =>
    rw [← List.append_nil text] at htight ⊢
    exact h.isReferenceExpression_eq_false hcolumns htight
  | join h =>
    simp only [List.append_assoc] at htight ⊢
    exact h.isReferenceExpression_eq_false hcolumns htight

/-- **A sequence** is cut at its connectives, into its items. The blanks in front are free, since
    the blanks behind a connective stay with the next segment. -/
theorem Sequence.cut_eq {columns : List String} (hcolumns : Nameable columns) {text : List Char}
    {conditions : List Condition} {connectives : List Connective}
    (h : Sequence columns text conditions connectives) {gap : List Char} (hgap : Blank gap) :
    (Chain.cut wordAt? (gap ++ text)).connectives = connectives ∧
      List.Forall₂ (Item columns) ((Chain.cut wordAt? (gap ++ text)).segments.map trim)
        conditions := by
  induction h generalizing gap with
  | @one text c h =>
    have hnone : hasWord connectiveWords none (gap ++ text) = false := by
      have hbetween := hasWord_between connectiveWords_subset hgap.isWordChar blank_nil.isWordChar
        text
      rwa [h.hasWord hcolumns, List.append_nil] at hbetween
    have htrim : trim (gap ++ text) = text := trim_append_left hgap (h.tight hcolumns)
    rw [cut_eq_single hnone]
    refine ⟨rfl, ?_⟩
    rw [Chain.segments, List.map_nil, List.map_singleton, htrim]
    exact .cons h .nil
  | @join text before word behind rest c conditions connective connectives h hbefore hne hword
      hbehind hne' hrest ih =>
    have hnone : hasWord connectiveWords none (gap ++ (text ++ before)) = false := by
      rw [hasWord_between connectiveWords_subset hgap.isWordChar hbefore.isWordChar]
      exact h.hasWord hcolumns
    have hspells := spells_of_lowerAscii
      (lettered_connectiveWords _ (symbol_mem_connectiveWords connective)).plain hword
    have hlast : isEdge (gap ++ (text ++ before)).getLast? = true := by
      rw [← List.append_assoc, List.getLast?_append_of_ne_nil _ hne]
      exact isEdge_getLast? hbefore.isWordChar
    have hnext : isEdge (behind ++ rest).head? = true := by
      rw [List.head?_append_of_ne_nil _ hne']
      exact isEdge_head? hbehind.isWordChar
    -- the first item and its blanks come off in front of the first connective
    have hcut : Chain.cut wordAt? (gap ++ (text ++ before ++ (word ++ (behind ++ rest)))) =
        (((Chain.cut wordAt? (behind ++ rest)).join ⟨connective, word⟩).prepend
          (gap ++ (text ++ before))) := by
      rw [← List.append_assoc, cut_append hnone (.inl hlast), cut_keyword hspells hnext]
    have htrim : trim (gap ++ (text ++ before)) = text := by
      have htrim := trim_append hgap (h.tight hcolumns) hbefore
      rwa [List.append_assoc] at htrim
    obtain ⟨hconnectives, hsegments⟩ := ih hbehind
    rw [hcut]
    constructor
    · rw [← hconnectives]
      rfl
    · rw [← htrim] at h
      refine .cons ?_ hsegments
      simpa [Chain.prepend, Chain.join] using h

/-- Every segment that is an item is kept, and read as its condition. -/
theorem read_items {columns : List String} (hcolumns : Nameable columns)
    {segments : List (List Char)} {conditions : List Condition}
    (h : List.Forall₂ (Item columns) segments conditions) :
    segments.filter (· ≠ []) = segments ∧
      segments.filterMap (parseCondition? · columns) = conditions ∧
      (segments.filter fun segment => (parseCondition? segment columns).isNone) = [] := by
  induction h with
  | nil => exact ⟨rfl, rfl, rfl⟩
  | cons h _ ih =>
    obtain ⟨hfilter, hread, hdropped⟩ := ih
    have hne := h.ne_nil hcolumns
    have hcondition := h.parseCondition?_eq_some hcolumns
    refine ⟨?_, ?_, ?_⟩
    · rw [List.filter_cons_of_pos (by simpa using hne), hfilter]
    · rw [List.filterMap_cons, hcondition]
      exact congrArg _ hread
    · rw [List.filter_cons_of_neg (by simp [hcondition]), hdropped]

/-- A sequence has at least one condition. -/
theorem Sequence.conditions_ne_nil {columns : List String} {text : List Char}
    {conditions : List Condition} {connectives : List Connective}
    (h : Sequence columns text conditions connectives) : conditions ≠ [] := by
  cases h <;> exact List.cons_ne_nil _ _

end Expression

namespace Parser

open Expression

/-- **Whatever the grammar can write is read without loss**: all its conditions, all its
    connectives, and nothing is told to be dropped. -/
theorem parse_of_sequence {columns : List String} (hcolumns : Nameable columns) {text : List Char}
    {conditions : List Condition} {connectives : List Connective}
    (h : Sequence columns text conditions connectives) {gap gap' : List Char} (hgap : Blank gap)
    (hgap' : Blank gap') {expression : String}
    (hexpression : expression.toList = gap ++ text ++ gap') (parser : Parser) (registry : Registry)
    (given : Option String) :
    ∃ rule, rule = Rule.ofConditions (parser.chooseName registry text given).1 conditions
        connectives (String.ofList text) ∧
      parser.parse registry expression columns given =
        ⟨.ok rule, (parser.chooseName registry text given).2, (registry.insert rule).1, []⟩ := by
  obtain ⟨hne, htight⟩ := h.tight hcolumns
  obtain ⟨hconnectives, hitems⟩ := h.cut_eq hcolumns blank_nil
  obtain ⟨hfilter, hread, hdropped⟩ := read_items hcolumns hitems
  rw [List.nil_append] at hconnectives hfilter hread hdropped
  -- no item is empty, so leaving out the empty segments leaves out none
  have hsegments : segmentsOf (Chain.cut wordAt? text) =
      (Chain.cut wordAt? text).segments.map trim := hfilter
  refine ⟨_, rfl, ?_⟩
  rw [parse, hexpression, trim_append hgap htight hgap']
  dsimp only
  rw [if_neg hne, if_neg (by simp [h.isReferenceExpression_eq_false hcolumns]), conditionRule,
    hsegments, hread, hdropped, hconnectives, if_neg h.conditions_ne_nil]
  rfl

/-- Three columns that the grammar can tell apart, one of which looks like the name of a rule. -/
theorem nameable_three : Nameable ["A", "b_c", "Rule1"] where
  name := by decide
  start := by
    simp
  distinct := by decide

/-- Parentheses, a sign, both quotes, and names and words in any letter case. -/
theorem sequence_of_four : Sequence ["A", "b_c", "Rule1"]
    "( a>=-05) aNd Rule1 = \"x_1\" OR B_C Starts_With 'pre'\tor b_c != A".toList
    [⟨"A", .greaterEqual, .int (-5)⟩, ⟨"Rule1", .equal, .literal "x_1"⟩,
      ⟨"b_c", .startsWith, .literal "pre"⟩, ⟨"b_c", .notEqual, .column "A"⟩] [.and, .or, .or] := by
  have space : Blank [' '] := by decide
  have first : Clause ["A", "b_c", "Rule1"] "a>=-05".toList ⟨"A", .greaterEqual, .int (-5)⟩ :=
    .comparison (show "A" ∈ ["A", "b_c", "Rule1"] by decide)
      (show lowerAscii ['a'] = _ by decide) blank_nil (show Symbol .greaterEqual _ from .own rfl)
      blank_nil
      (.int (show ['-'] ∈ _ by decide) (show ['0', '5'] ≠ [] by decide) (by decide)
        (show (-5 : Int64).toInt = _ by decide))
  have second : Clause ["A", "b_c", "Rule1"] "Rule1 = \"x_1\"".toList
      ⟨"Rule1", .equal, .literal "x_1"⟩ :=
    .comparison (by decide) (show lowerAscii "Rule1".toList = _ by decide) space .single space
      (.quoted (show '"' = _ ∨ _ by decide) (show ∀ c ∈ "x_1".toList, _ by decide) (by decide))
  have third : Clause ["A", "b_c", "Rule1"] "B_C Starts_With 'pre'".toList
      ⟨"b_c", .startsWith, .literal "pre"⟩ :=
    .search (by decide) (show lowerAscii "B_C".toList = _ by decide) space (by decide) rfl
      (show lowerAscii "Starts_With".toList = _ by decide) space (by decide)
      (show '\'' = _ ∨ _ by decide) (show ∀ c ∈ "pre".toList, _ by decide) (by decide)
  have fourth : Clause ["A", "b_c", "Rule1"] "b_c != A".toList ⟨"b_c", .notEqual, .column "A"⟩ :=
    .comparison (show "b_c" ∈ ["A", "b_c", "Rule1"] by decide)
      (show lowerAscii "b_c".toList = _ by decide) space (show Symbol .notEqual _ from .own rfl)
      space (.column (show "A" ∈ ["A", "b_c", "Rule1"] by decide))
  exact .join (.wrapped space first blank_nil) space (by decide)
    (show lowerAscii "aNd".toList = _ by decide) space (by decide) <|
    .join (.bare second) space (by decide) (show lowerAscii "OR".toList = _ by decide) space
      (by decide) <|
    .join (.bare third) (show Blank ['\t'] by decide) (by decide)
      (show lowerAscii "or".toList = _ by decide) space (by decide) <|
    .one (.bare fourth)

/-- Four conditions under three connectives, with blanks around the whole. -/
theorem parse_of_sequence_of_four : ∃ rule, rule = Rule.ofConditions "mixed"
      [⟨"A", .greaterEqual, .int (-5)⟩, ⟨"Rule1", .equal, .literal "x_1"⟩,
        ⟨"b_c", .startsWith, .literal "pre"⟩, ⟨"b_c", .notEqual, .column "A"⟩] [.and, .or, .or]
      "( a>=-05) aNd Rule1 = \"x_1\" OR B_C Starts_With 'pre'\tor b_c != A" ∧
    fresh.parse .empty " ( a>=-05) aNd Rule1 = \"x_1\" OR B_C Starts_With 'pre'\tor b_c != A "
      ["A", "b_c", "Rule1"] (some "mixed") =
        ⟨.ok rule, fresh, (Registry.empty.insert rule).1, []⟩ :=
  parse_of_sequence nameable_three sequence_of_four (show Blank [' '] by decide)
    (show Blank [' '] by decide) (by decide) fresh .empty (some "mixed")

end Parser

end TableRules
