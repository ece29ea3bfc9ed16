/-
  QUOTED TEXT: what the scanners see between quotes.

  No scanner knows about quotes, so a text between them is taken whole only where nothing in it
  is looked for.  The expressions here are a column, an operator and quoted text, with one space
  around the operator.

  1. **What disturbs** — a connective always does.  Where the operator is a comparison, a search
     word does too, and so does a lexeme that is looked for before the operator's own.
     Parentheses never do, and behind a search word neither do lexemes and search words.

  2. **Operands** — quoted text has two quotes.  An earlier lexeme parts them, so that neither
     side is read as quoted (`two_le_countP_of_literal`).

  3. **Rules** — the expression gives the one condition that it seems to state if and only if
     nothing disturbs it (`parse_quoted_iff`).

  That the condition is read when nothing disturbs it is what other files show for texts in
  general.  The crux is the converse, that whatever disturbs really spoils the reading.  A
  connective leaves its mark in the rule, which then has a connective.  A search word sends the
  segment to the reader of searches, and what this reads is a search.  A lexeme that is looked for
  earlier is harder, because the sides that it parts may still be read, one as a column and the
  other as an operand.  But the text between the quotes has no quote of its own, so each side has
  one quote and not two; and an operand with fewer than two quotes is never quoted text.
-/
import TableRules.Proofs.Segments

namespace TableRules

open Text

namespace Expression

/-! ## What disturbs

  Said of the text alone, in the terms of what it holds, and decidable: what the scanners do comes
  in only with `undisturbed_iff`. -/

/-- The operators that may stand before quoted text. -/
def textOperators : List Lexeme := [
  ⟨"=", .equal⟩, ⟨"==", .equal⟩, ⟨"!=", .notEqual⟩, ⟨"contains", .contains⟩,
  ⟨"starts_with", .startsWith⟩, ⟨"ends_with", .endsWith⟩]

/-- A column, an operator, and quoted text. -/
def quotedExpression (column : String) (operator : Lexeme) (s : String) : String :=
  column ++ " " ++ operator.spelling ++ " \"" ++ s ++ "\""

/-- Nothing in the text is looked for before the operator is found. -/
structure Undisturbed (operator : Lexeme) (cs : List Char) : Prop where
  /-- No connective, whatever the operator. -/
  connective : ∀ keyword ∈ connectiveWords, ¬ HoldsWord keyword cs
  /-- Where it is a comparison, no search word ... -/
  search : operator.comparison.isSearch = false → ∀ keyword ∈ searchWords, ¬ HoldsWord keyword cs
  /-- ... and no lexeme that is looked for before it. -/
  lexeme : operator.comparison.isSearch = false →
    ∀ other ∈ operator.earlier, ¬ other.spelling.toList <:+: cs

/-- What disturbs is what the scanners look for. -/
theorem undisturbed_iff {operator : Lexeme} {cs : List Char} : Undisturbed operator cs ↔
    hasWord connectiveWords none cs = false ∧ (operator.comparison.isSearch = false →
      hasWord searchWords none cs = false ∧
      ∀ other ∈ operator.earlier, ¬ occursIn other.spelling.toList cs = true) := by
  simp only [hasWord_eq_false_iff lettered_connectiveWords,
    hasWord_eq_false_iff lettered_searchWords, occursIn_iff]
  exact ⟨fun h => ⟨h.connective, fun hsearch => ⟨h.search hsearch, h.lexeme hsearch⟩⟩,
    fun h => ⟨h.1, fun hsearch => (h.2 hsearch).1, fun hsearch => (h.2 hsearch).2⟩⟩

instance (operator : Lexeme) (cs : List Char) : Decidable (Undisturbed operator cs) :=
  decidable_of_iff _ undisturbed_iff.symm

/-! ## Operands

  Quotes are counted. An operand that is read as quoted text has two of them, wherever the sides
  were parted, so it is enough to know how many a side has. -/

/-- Single and double quotes. -/
def isQuote (c : Char) : Bool := c == '"' || c == '\''

/-- What is between quotes has two of them around it. -/
theorem two_le_countP_of_unquote? {raw cs : List Char} (h : unquote? raw = some cs) :
    2 ≤ raw.countP isQuote := by
  refine Nat.le_trans ?_ ((trim_sublist raw).countP_le)
  rw [unquote?] at h
  split at h
  next => cases h
  next quote cs heq =>
    split at h
    next hquoted =>
      have hquote : isQuote quote = true := by rcases hquoted.1 with rfl | rfl <;> rfl
      have hmem : quote ∈ cs := List.mem_of_mem_getLast? hquoted.2
      rw [heq, List.countP_cons_of_pos hquote]
      exact Nat.succ_le_succ (List.countP_pos_iff.mpr ⟨quote, hmem, hquote⟩)
    next => cases h

/-- An operand is taken for quoted text only if it has two quotes. -/
theorem two_le_countP_of_literal {raw : List Char} {columns : List String} {s : String}
    (h : resolveOperand raw columns = .literal s) : 2 ≤ raw.countP isQuote := by
  rw [resolveOperand] at h
  split at h
  next cs hunquote =>
    exact Nat.le_trans (two_le_countP_of_unquote? hunquote) ((trim_sublist raw).countP_le)
  next =>
    split at h
    next => cases h
    next =>
      split at h
      next n _ => cases n <;> cases h
      next => cases h

/-- A comparison has quoted text on one of its sides only if there are two quotes on that side. -/
theorem two_le_countP_of_parseComparison? {cs left right : List Char} {columns : List String}
    {lexeme : Lexeme} {c : Condition} {s : String}
    (hfind : findLexeme? cs = some (lexeme, left, right))
    (h : parseComparison? cs columns = some c) (hliteral : c.operand = .literal s) :
    2 ≤ left.countP isQuote ∨ 2 ≤ right.countP isQuote := by
  have htrim : ∀ {cs}, 2 ≤ (trim cs).countP isQuote → 2 ≤ cs.countP isQuote := fun {cs} h =>
    Nat.le_trans h ((trim_sublist cs).countP_le)
  rw [parseComparison?, hfind] at h
  simp only [Option.bind_eq_bind, Option.bind_some] at h
  split at h
  next => cases h
  next =>
    split at h
    next =>
      obtain rfl := Option.some.inj h
      -- The column stands on the left, so the quoted text is on the right; and the other way round.
      exact .inr (htrim (two_le_countP_of_literal hliteral))
    next =>
      obtain rfl := Option.some.inj h
      exact .inl (htrim (two_le_countP_of_literal hliteral))
    next => cases h

/-! ## Conditions

  The expression is one segment as long as no connective stands in the text. What it is read as is
  decided by the scanner that gets it: the reader of searches or that of comparisons. -/

section Text

variable {columns : List String} {column : String} {operator : Lexeme} {s : String}

/-- The parts of the expression as the scanners see them. -/
theorem toList_quotedExpression (column : String) (operator : Lexeme) (s : String) :
    (quotedExpression column operator s).toList = column.toList ++ [' '] ++
      (operator.spelling.toList ++ ([' ', '"'] ++ (s.toList ++ ['"']))) := by
  simp [quotedExpression]

/-- An operator that does not search is a lexeme, ... -/
theorem mem_lexemes_of_mem_textOperators (h : operator ∈ textOperators)
    (hsearch : operator.comparison.isSearch = false) : operator ∈ lexemes := by
  have hall : ∀ operator ∈ textOperators, operator.comparison.isSearch = false →
      operator ∈ lexemes := by decide
  exact hall operator h hsearch

/-- ... and one that does is a search word. -/
theorem lowerAscii_of_mem_textOperators (h : operator ∈ textOperators)
    (hsearch : operator.comparison.isSearch = true) :
    lowerAscii operator.spelling.toList = operator.comparison.symbol.toList := by
  have hall : ∀ operator ∈ textOperators, operator.comparison.isSearch = true →
      lowerAscii operator.spelling.toList = operator.comparison.symbol.toList := by decide
  exact hall operator h hsearch

/-- Where a lexeme is found, it stands between the quotes. -/
theorem exists_of_cutAt?_quoted {lexeme : Lexeme} (hlexeme : lexeme ∈ lexemes)
    {cs before after : List Char}
    (h : cutAt? lexeme.spelling.toList ([' ', '"'] ++ (cs ++ ['"'])) = some (before, after)) :
    ∃ front back, before = [' ', '"'] ++ front ∧ after = back ++ ['"'] ∧
      front ++ lexeme.spelling.toList ++ back = cs := by
  rw [cutAt?_of_no_marks hlexeme (by decide)] at h
  obtain ⟨⟨front, rest⟩, hcut, heq⟩ := Option.map_eq_some_iff.mp h
  obtain ⟨rfl, rfl⟩ := Prod.mk.inj heq
  have htext := cutAt?_eq_some hcut
  rcases List.eq_nil_or_concat' rest with rfl | ⟨back, d, rfl⟩
  · -- the last character is a quote, which ends no lexeme
    have hall : ∀ lexeme ∈ lexemes, lexeme.spelling.toList ≠ [] ∧
        lexeme.spelling.toList.getLast? ≠ some '"' := by decide
    obtain ⟨hne, hlast⟩ := hall lexeme hlexeme
    refine absurd ?_ hlast
    rw [← List.getLast?_append_of_ne_nil front hne, ← List.append_nil (front ++ _), htext]
    exact List.getLast?_concat
  · rw [← List.append_assoc] at htext
    obtain ⟨rfl, hd⟩ := List.append_inj' htext rfl
    exact ⟨front, back, rfl, by rw [(List.cons.inj hd).1], rfl⟩

/-- A lexeme occurs with the quotes around a text if and only if it occurs in the text. -/
theorem quoted_infix_iff {lexeme : Lexeme} (hlexeme : lexeme ∈ lexemes) {cs : List Char} :
    lexeme.spelling.toList <:+: [' ', '"'] ++ (cs ++ ['"']) ↔ lexeme.spelling.toList <:+: cs := by
  constructor
  · intro h
    obtain ⟨⟨before, after⟩, hcut⟩ := Option.isSome_iff_exists.mp (occursIn_iff.mpr h)
    obtain ⟨front, back, -, -, heq⟩ := exists_of_cutAt?_quoted hlexeme hcut
    exact ⟨front, back, heq⟩
  · rintro ⟨front, back, rfl⟩
    exact ⟨[' ', '"'] ++ front, back ++ ['"'], by simp⟩

/-- A lexeme between the quotes leaves one of them on either side. -/
theorem countP_le_one_of_cutAt? {lexeme : Lexeme} (hlexeme : lexeme ∈ lexemes)
    {cs before after : List Char} (hcs : cs.countP isQuote = 0)
    (h : cutAt? lexeme.spelling.toList ([' ', '"'] ++ (cs ++ ['"'])) = some (before, after)) :
    before.countP isQuote ≤ 1 ∧ after.countP isQuote ≤ 1 := by
  obtain ⟨front, back, rfl, rfl, rfl⟩ := exists_of_cutAt?_quoted hlexeme h
  have hquotes : [' ', '"'].countP isQuote = 1 ∧ ['"'].countP isQuote = 1 := by decide
  simp only [List.countP_append] at hcs ⊢
  omega

/-- In front of the operator there is nothing of a lexeme. -/
theorem left_not_mem_symbolChars (hname : Name column.toList) :
    ∀ c ∈ column.toList ++ [' '], c ∉ symbolChars := by
  intro c hc hmem
  rcases List.mem_append.mp hc with hc | hc
  · exact not_mem_marks_of_isPlain (hname.plain c hc) (symbolChars_subset hmem)
  · rw [List.mem_singleton.mp hc] at hmem
    exact absurd hmem (by decide)

/-- **An earlier lexeme** in quoted text is found there, and parts the quotes. On the left of it are
    the column, the operator and one quote, on the right the other quote. -/
theorem operand_ne_literal (hname : Name column.toList) (hlexeme : operator ∈ lexemes)
    (hs : ∀ c ∈ s.toList, isQuote c = false) {other : Lexeme} (hother : other ∈ operator.earlier)
    (hoccurs : other.spelling.toList <:+: s.toList) {c : Condition}
    (h : parseComparison? (quotedExpression column operator s).toList columns = some c)
    (needle : String) : c.operand ≠ .literal needle := by
  intro hliteral
  -- some earlier lexeme is found first, perhaps another than the one that occurs
  have hsome : (operator.earlier.findSome? fun other =>
      (cutAt? other.spelling.toList ([' ', '"'] ++ (s.toList ++ ['"']))).map (other, ·)).isSome =
        true := by
    refine List.findSome?_isSome_iff.mpr ⟨other, hother, ?_⟩
    rw [Option.isSome_map]
    exact occursIn_iff.mpr ((quoted_infix_iff (mem_lexemes_of_mem_earlier hother)).mpr hoccurs)
  obtain ⟨⟨first, before, after⟩, hfirst⟩ := Option.isSome_iff_exists.mp hsome
  have hfind : findLexeme? (quotedExpression column operator s).toList = some (first,
      column.toList ++ [' '] ++ (operator.spelling.toList ++ before), after) := by
    have hrest : ([' ', '"'] ++ (s.toList ++ ['"'])).head? ≠ some '=' := by simp
    rw [toList_quotedExpression, findLexeme?_append hlexeme (left_not_mem_symbolChars hname) hrest,
      hfirst]
    rfl
  obtain ⟨found, hmem, hcut⟩ := List.exists_of_findSome?_eq_some hfirst
  obtain ⟨cut, hcut, heq⟩ := Option.map_eq_some_iff.mp hcut
  obtain ⟨rfl, rfl⟩ := Prod.mk.inj heq
  have hnone : ∀ {cs : List Char}, (∀ c ∈ cs, isQuote c = false) → cs.countP isQuote = 0 := by
    intro cs h
    simpa [List.countP_eq_zero] using h
  obtain ⟨hbefore, hafter⟩ :=
    countP_le_one_of_cutAt? (mem_lexemes_of_mem_earlier hmem) (hnone hs) hcut
  -- neither the column nor the operator has a quote
  have hfront : (column.toList ++ [' '] ++ operator.spelling.toList).countP isQuote = 0 := by
    have hplain : ∀ c ∈ column.toList, isQuote c = false := fun c hc => by
      rw [← Bool.not_eq_true]
      intro hquote
      rcases Bool.or_eq_true_iff.mp hquote with h | h <;>
        exact not_mem_marks_of_isPlain (hname.plain c hc) (by rw [beq_iff_eq.mp h]; decide)
    have hall : ∀ lexeme ∈ lexemes, ∀ c ∈ lexeme.spelling.toList, isQuote c = false := by decide
    rw [List.countP_append, List.countP_append, hnone hplain, hnone (hall operator hlexeme)]
    rfl
  rcases two_le_countP_of_parseComparison? hfind h hliteral with htwo | htwo
  · rw [← List.append_assoc, List.countP_append, hfront] at htwo
    omega
  · omega

end Text

/-- A closing quote belongs to no word. -/
theorem hasWord_append_quote {keywords : List (List Char)} (hkeywords : keywords ⊆ reservedWords)
    (cs : List Char) : hasWord keywords none (cs ++ ['"']) = hasWord keywords none cs := by
  have hquote : ∀ c ∈ ['"'], isWordChar c = false := by decide +kernel
  exact hasWord_between hkeywords blank_nil.isWordChar hquote cs

section Expression

variable {columns : List String} {column : String} (hname : Name column.toList)
include hname

/-- The expression is not empty, ... -/
theorem quotedExpression_ne_nil (operator : Lexeme) (s : String) :
    (quotedExpression column operator s).toList ≠ [] := by
  rw [toList_quotedExpression, List.append_assoc]
  exact List.append_ne_nil_of_left_ne_nil hname.ne_nil _

/-- ... has no blanks at its ends, ... -/
theorem tight_quotedExpression (operator : Lexeme) (s : String) :
    Tight (quotedExpression column operator s).toList := by
  have hquote : Tight ['"'] := ⟨by decide, by decide⟩
  have htight := tight_append hname.ne_nil (List.cons_ne_nil _ _) hname.tight hquote
    ([' '] ++ (operator.spelling.toList ++ ([' ', '"'] ++ s.toList)))
  rw [toList_quotedExpression]
  simpa only [List.append_assoc] using htight

/-- ... is in no parentheses, as it starts with a name, ... -/
theorem stripParens_quotedExpression (operator : Lexeme) (s : String) :
    stripParens (quotedExpression column operator s).toList =
      (quotedExpression column operator s).toList := by
  refine stripParens_of_head (tight_quotedExpression hname operator s) fun hhead => ?_
  rw [toList_quotedExpression, List.append_assoc,
    List.head?_append_of_ne_nil _ hname.ne_nil] at hhead
  exact hname.head?_ne hhead

variable {operator : Lexeme} (hoperator : operator ∈ textOperators) {s : String}
include hoperator

/-- Around the quotes of a comparison stands no word of the rule language. -/
theorem hasWord_of_comparison {keywords : List (List Char)} (hkeywords : keywords ⊆ reservedWords)
    (hsearch : operator.comparison.isSearch = false) :
    hasWord keywords none (quotedExpression column operator s).toList =
      hasWord keywords none s.toList := by
  have hall : ∀ lexeme ∈ lexemes, ∀ c ∈ [' '] ++ (lexeme.spelling.toList ++ [' ', '"']),
      isWordChar c = false := by decide +kernel
  have hmiddle := hall operator (mem_lexemes_of_mem_textOperators hoperator hsearch)
  have hne : [' '] ++ (operator.spelling.toList ++ [' ', '"']) ≠ [] := List.cons_ne_nil _ _
  have haround := hasWord_around hkeywords hne hmiddle column.toList (s.toList ++ ['"'])
  rw [hname.hasWord hkeywords, hasWord_append_quote hkeywords, Bool.false_or] at haround
  rw [toList_quotedExpression]
  simpa only [List.append_assoc] using haround

/-- Around the quotes stands no connective. -/
theorem hasWord_quotedExpression :
    hasWord connectiveWords none (quotedExpression column operator s).toList =
      hasWord connectiveWords none s.toList := by
  cases hsearch : operator.comparison.isSearch with
  | false => exact hasWord_of_comparison hname hoperator connectiveWords_subset hsearch
  | true =>
    have hword := (plain_of_searchWord hsearch
      (lowerAscii_of_mem_textOperators hoperator hsearch)).2.2
    have hspace : ∀ c ∈ [' '], isWordChar c = false := by decide +kernel
    have hopen : ∀ c ∈ [' ', '"'], isWordChar c = false := by decide +kernel
    rw [toList_quotedExpression, List.append_assoc,
      hasWord_around connectiveWords_subset (List.cons_ne_nil ' ' []) hspace,
      hasWord_around connectiveWords_subset (List.cons_ne_nil ' ' ['"']) hopen,
      hname.hasWord connectiveWords_subset, hword, hasWord_append_quote connectiveWords_subset,
      Bool.false_or, Bool.false_or]

/-- ... and is no reference expression, as an operator stands behind the name. -/
theorem isReferenceExpression_quotedExpression :
    isReferenceExpression (quotedExpression column operator s).toList = false := by
  have htight := tight_quotedExpression hname operator s
  have hall : ∀ operator ∈ textOperators, ∃ c ∈ operator.spelling.toList.head?,
      isBlank c = false ∧ foldLetter c ≠ 'a' ∧ foldLetter c ≠ 'o' := by decide
  obtain ⟨c, hc, hblank, hfold⟩ := hall operator hoperator
  -- Behind the name comes an operator, which begins like no connective; so no chain goes on there.
  obtain ⟨cs, hspelling⟩ := List.head?_eq_some_iff.mp hc
  rw [toList_quotedExpression, List.append_assoc] at htight ⊢
  refine isReferenceExpression_of_name hname.wordChars htight rfl ?_
  have hdrop : ([' '] ++
      (operator.spelling.toList ++ ([' ', '"'] ++ (s.toList ++ ['"'])))).dropWhile isBlank =
        operator.spelling.toList ++ ([' ', '"'] ++ (s.toList ++ ['"'])) := by
    refine dropWhile_isBlank (by decide) fun d hd => ?_
    rw [hspelling] at hd
    rwa [← Option.some.inj hd]
  rw [hdrop]
  refine keywordAt?_eq_none fun d hd => ?_
  rw [hspelling] at hd
  rwa [← Option.some.inj hd]

end Expression

/-- What is read as a search searches. -/
theorem isSearch_of_parseSearch? {cs : List Char} {columns : List String} {c : Condition}
    (h : parseSearch? cs columns = some c) : c.comparison.isSearch = true := by
  obtain ⟨⟨name, word, needle⟩, -, h⟩ := Option.bind_eq_some_iff.mp h
  obtain ⟨column, -, h⟩ := Option.bind_eq_some_iff.mp h
  obtain ⟨comparison, hfind, h⟩ := Option.bind_eq_some_iff.mp h
  obtain rfl := Option.some.inj h
  have hall : ∀ comparison ∈ searches, comparison.isSearch = true := by decide
  exact hall comparison (List.mem_of_find?_eq_some hfind)

section Reading

variable {columns : List String} {column : String} (hname : Name column.toList)
  (hcolumn : column ∈ columns)
  (hunique : ∀ other ∈ columns, lower other.toList = lower column.toList → other = column)
  {operator : Lexeme} (hoperator : operator ∈ textOperators) {s : String}
include hname hcolumn hunique hoperator

/-- A search takes its quoted text whole. -/
theorem parseCondition?_of_search (hsearch : operator.comparison.isSearch = true) :
    parseCondition? (quotedExpression column operator s).toList columns =
      some ⟨column, operator.comparison, .literal s⟩ := by
  have hresolve := resolveColumn?_eq_some hcolumn rfl hunique
  have hword := lowerAscii_of_mem_textOperators hoperator hsearch
  have hspace : Blank [' '] := by decide
  have hne : [' '] ≠ [] := by decide
  have hlist : (quotedExpression column operator s).toList = column.toList ++ ([' '] ++
      (operator.spelling.toList ++ ([' '] ++ '"' :: (s.toList ++ ['"'])))) := by
    rw [toList_quotedExpression, List.append_assoc]
    rfl
  rw [hlist, parseCondition?_append hname.ne_nil hname.no_blank hspace hne hsearch hword hspace hne
    (.inl rfl) hname.head?_ne hresolve, String.ofList_toList]

/-- A comparison takes its quoted text whole if no earlier lexeme occurs in it. -/
theorem parseComparison?_quotedExpression (hs : ∀ c ∈ s.toList, isQuote c = false)
    (hsearch : operator.comparison.isSearch = false) :
    parseComparison? (quotedExpression column operator s).toList columns =
        some ⟨column, operator.comparison, .literal s⟩ ↔
      ∀ other ∈ operator.earlier, ¬ other.spelling.toList <:+: s.toList := by
  have hlexeme := mem_lexemes_of_mem_textOperators hoperator hsearch
  constructor
  · intro h other hother hoccurs
    exact operand_ne_literal hname hlexeme hs hother hoccurs h s rfl
  · intro h
    have hspace : Blank [' '] := by decide
    -- The quotes and the blank around the text hold no symbol, so it is enough to look inside.
    have hearlier : ∀ other ∈ operator.earlier,
        ¬ other.spelling.toList <:+: [' ', '"'] ++ (s.toList ++ ['"']) := fun other hother =>
      mt (quoted_infix_iff (mem_lexemes_of_mem_earlier hother)).mp (h other hother)
    have hfind : findLexeme? (quotedExpression column operator s).toList =
        some (operator, column.toList ++ [' '], [' ', '"'] ++ (s.toList ++ ['"'])) := by
      rw [toList_quotedExpression]
      exact findLexeme?_eq_some hlexeme (left_not_mem_symbolChars hname) (by simp) hearlier
    have hleft : trim (column.toList ++ [' ']) = column.toList :=
      trim_append_right hname.tight hspace
    have hright : trim ([' ', '"'] ++ (s.toList ++ ['"'])) = '"' :: (s.toList ++ ['"']) :=
      trim_append_left hspace (tight_of_ends (by decide) (by decide) s.toList)
    have hcondition := parseComparison?_of_findLexeme? hfind
      (by rw [hright]; exact List.cons_ne_nil '"' _) (by rw [hleft]; exact hname.ne_nil)
      (by rw [hleft]; exact resolveColumn?_eq_some hcolumn rfl hunique)
    rw [hcondition, hright, resolveOperand_quoted (.inl rfl), String.ofList_toList]

/-- **The condition** that the expression seems to state is read if nothing disturbs it. -/
theorem parseCondition?_quotedExpression (hs : ∀ c ∈ s.toList, isQuote c = false) :
    parseCondition? (quotedExpression column operator s).toList columns =
        some ⟨column, operator.comparison, .literal s⟩ ↔
      (operator.comparison.isSearch = false →
        (∀ keyword ∈ searchWords, ¬ HoldsWord keyword s.toList) ∧
        ∀ other ∈ operator.earlier, ¬ other.spelling.toList <:+: s.toList) := by
  cases hsearch : operator.comparison.isSearch with
  | true =>
    exact ⟨fun _ hnot => (nomatch hnot),
      fun _ => parseCondition?_of_search hname hcolumn hunique hoperator hsearch⟩
  | false =>
    rw [parseCondition?, stripParens_quotedExpression hname,
      if_neg (quotedExpression_ne_nil hname operator s),
      hasWord_of_comparison hname hoperator searchWords_subset hsearch]
    -- a search word in the text sends it to the reader of searches
    by_cases hwords : hasWord searchWords none s.toList = true
    · rw [if_pos hwords]
      constructor
      · intro h
        rw [isSearch_of_parseSearch? h] at hsearch
        cases hsearch
      · intro h
        obtain ⟨keyword, hmem, hholds⟩ := (hasWord_iff lettered_searchWords).mp hwords
        exact absurd hholds ((h rfl).1 keyword hmem)
    · have hnone := (hasWord_eq_false_iff lettered_searchWords).mp (Bool.not_eq_true _ ▸ hwords)
      rw [if_neg hwords,
        parseComparison?_quotedExpression hname hcolumn hunique hoperator hs hsearch]
      exact ⟨fun h _ => ⟨hnone, h⟩, fun h => (h rfl).2⟩

end Reading

end Expression

/-! ## Rules

  A rule of one condition and no connective comes of one segment, and of nothing else, so the
  condition can be asked for in the rule. -/

namespace Parser

open Expression

/-- An expression without connectives is one segment. -/
theorem segmentsOf_of_no_connective {cs : List Char} (hcs : Tight cs) (hne : cs ≠ [])
    (h : hasWord connectiveWords none cs = false) : segmentsOf (Chain.cut wordAt? cs) = [cs] := by
  rw [cut_eq_single h, segmentsOf, Chain.segments, List.map_nil, List.map_singleton,
    trim_of_tight hcs]
  exact List.filter_cons_of_pos (decide_eq_true hne)

section Single

variable {columns : List String} {cs : List Char} {name : String} {c : Condition}
  (hcs : Tight cs) (hne : cs ≠ [])
include hcs hne

/-- An expression without connectives that states a condition gives a rule of that condition. -/
theorem conditionRule_of_single (h : hasWord connectiveWords none cs = false)
    (hc : parseCondition? cs columns = some c) :
    (conditionRule name cs columns).1 = .ok (.ofConditions name [c] [] (String.ofList cs)) := by
  have hread : [cs].filterMap (parseCondition? · columns) = [c] := by
    rw [List.filterMap_cons, hc, List.filterMap_nil]
  rw [conditionRule]
  dsimp only
  rw [segmentsOf_of_no_connective hcs hne h, hread, if_neg (List.cons_ne_nil c []), cut_eq_single h]
  rfl

/-- A rule without connectives comes from an expression without. -/
theorem parseCondition?_of_conditionRule {rule : Rule}
    (h : (conditionRule name cs columns).1 = .ok rule) (hconnectives : rule.connectives = [])
    (hc : rule.conditions = [c]) :
    hasWord connectiveWords none cs = false ∧ parseCondition? cs columns = some c := by
  rw [conditionRule] at h
  dsimp only at h
  split at h
  next => cases h
  next =>
    obtain rfl := Except.ok.inj h
    have hnone : hasWord connectiveWords none cs = false :=
      tail_cutAfter_eq_nil_iff.mp (List.map_eq_nil_iff.mp hconnectives)
    refine ⟨hnone, ?_⟩
    have hread : [cs].filterMap (parseCondition? · columns) = [c] := by
      rwa [← segmentsOf_of_no_connective hcs hne hnone]
    have hmem : c ∈ [cs].filterMap (parseCondition? · columns) := by
      rw [hread]
      exact List.mem_singleton_self c
    obtain ⟨segment, hsegment, hcondition⟩ := List.mem_filterMap.mp hmem
    rwa [← List.mem_singleton.mp hsegment]

end Single

/-- What is no reference expression is read as conditions. -/
theorem result_of_conditions {parser : Parser} {registry : Registry} {expression : String}
    {columns : List String} {given : Option String} (htight : Tight expression.toList)
    (hne : expression.toList ≠ []) (h : isReferenceExpression expression.toList = false) :
    (parser.parse registry expression columns given).result =
      (conditionRule (parser.chooseName registry expression.toList given).1 expression.toList
        columns).1 := by
  rw [parse, trim_of_tight htight]
  dsimp only
  rw [if_neg hne, if_neg (by simp [h])]
  split
  next heq => exact heq.symm
  next heq => exact heq.symm

/-- **Quoted text is taken whole** if and only if nothing in it disturbs the scanners. -/
theorem parse_quoted_iff {columns : List String} {column : String} (hname : Name column.toList)
    (hcolumn : column ∈ columns)
    (hunique : ∀ other ∈ columns, lower other.toList = lower column.toList → other = column)
    {operator : Lexeme} (hoperator : operator ∈ textOperators) {s : String}
    (hs : ∀ c ∈ s.toList, isQuote c = false) (parser : Parser) (registry : Registry)
    (given : Option String) :
    (∃ rule, (parser.parse registry (quotedExpression column operator s) columns given).result =
        .ok rule ∧
      rule.conditions = [⟨column, operator.comparison, .literal s⟩] ∧ rule.connectives = []) ↔
    Undisturbed operator s.toList := by
  have htight := tight_quotedExpression hname operator s
  have hne := quotedExpression_ne_nil hname operator s
  have hread := parseCondition?_quotedExpression hname hcolumn hunique hoperator hs
  -- What reads the expression looks for connectives first; in the text is the only place left for
  -- one.
  have hconnectives : hasWord connectiveWords none (quotedExpression column operator s).toList =
      false ↔ ∀ keyword ∈ connectiveWords, ¬ HoldsWord keyword s.toList := by
    rw [hasWord_quotedExpression hname hoperator, hasWord_eq_false_iff lettered_connectiveWords]
  rw [result_of_conditions htight hne (isReferenceExpression_quotedExpression hname hoperator)]
  constructor
  · rintro ⟨rule, hrule, hconditions, hnone⟩
    obtain ⟨hwords, hcondition⟩ := parseCondition?_of_conditionRule htight hne hrule hnone
      hconditions
    exact ⟨hconnectives.mp hwords, fun hsearch => (hread.mp hcondition hsearch).1,
      fun hsearch => (hread.mp hcondition hsearch).2⟩
  · intro h
    have hcondition := hread.mpr fun hsearch => ⟨h.search hsearch, h.lexeme hsearch⟩
    exact ⟨_, conditionRule_of_single htight hne (hconnectives.mpr h.connective) hcondition,
      rfl, rfl⟩

/-- Behind a search word, lexemes, search words and parentheses are mere text. -/
theorem parse_quoted_of_search :
    ∃ rule, (fresh.parse .empty (quotedExpression "A" ⟨"contains", .contains⟩ "(x >= 1) contains y")
        ["A"] none).result = .ok rule ∧
      rule.conditions = [⟨"A", .contains, .literal "(x >= 1) contains y"⟩] ∧
      rule.connectives = [] :=
  (parse_quoted_iff (by decide) (by decide) (by decide +kernel) (by decide) (by decide) fresh .empty
    none).mpr (by decide +kernel)

/-- A connective between quotes is a connective: the first condition is left with a bare word that
    starts with a quote, and the second is dropped. -/
theorem parse_quoted_connective :
    Name "A".toList ∧ (⟨"=", .equal⟩ : Lexeme) ∈ textOperators ∧
      (∀ c ∈ "x AND y".toList, isQuote c = false) ∧
      (fresh.parse .empty "A = \"x AND y\"" ["A"] none).result =
        .ok (.ofConditions "A_x_AND_y" [⟨"A", .equal, .word "\"x"⟩] [.and] "A = \"x AND y\"") ∧
      ¬ ∃ rule, (fresh.parse .empty "A = \"x AND y\"" ["A"] none).result = .ok rule ∧
        rule.conditions = [⟨"A", .equal, .literal "x AND y"⟩] ∧ rule.connectives = [] := by
  have hresult : (fresh.parse .empty "A = \"x AND y\"" ["A"] none).result =
      .ok (.ofConditions "A_x_AND_y" [⟨"A", .equal, .word "\"x"⟩] [.and] "A = \"x AND y\"") := by
    decide +kernel
  refine ⟨by decide, by decide, by decide, hresult, ?_⟩
  rintro ⟨rule, hrule, hconditions, -⟩
  obtain rfl := Except.ok.inj (hresult.symm.trans hrule)
  exact absurd hconditions (by decide)

end Parser

end TableRules
