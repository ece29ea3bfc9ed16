/-
  SEGMENTS: what a segment of an expression is read as, when its parts are known.

  1. **Names** — a `Name` is one word of plain characters that is not a word of the rule language.
     It names the column that is the same in lower case, if there is one such.

  2. **Parentheses** — a pair around the whole segment is taken off, with the blanks inside.

  3. **Comparisons** — the lexeme between two sides is found, unless one that is looked for
     earlier occurs in the right side (`findLexeme?_append`).

  4. **Searches** — a name, a search word, and quoted text with anything in it: all of it is read
     (`parseCondition?_append`).

  5. **References** — what starts with one name and no connective is no reference expression.

  What keeps the scanners apart is which characters each of them looks for.  There are four kinds
  that have nothing in common: blanks, the characters of words, the marks of lexemes, and the
  quotes, signs and parentheses that stand around things.  Most lemmas here say that a text of one
  kind is passed over by the scanner of another.  The exception is the lexemes among themselves,
  where `<` is a part of `<=`.  They are looked for one by one, the longer ones first, and each all
  over the text, so an earlier one far to the right wins over a later one that stands in front.
  `findLexeme?_append` says that exactly, and the plain case follows from it.
-/
import TableRules.Proofs.ParsedRules

namespace TableRules.Expression

open Text

/-! ## Names

  A name is what may stand for a column without a doubt. -/

/-- The characters of the lexemes. -/
def symbolChars : List Char := ['<', '>', '=', '!']

/-- The characters around a number or a quoted text. -/
def frameChars : List Char := ['+', '-', '"', '\'']

/-- The characters around a segment. -/
def parens : List Char := ['(', ')']

/-- The characters that are neither blank nor part of a word, but mean something. -/
def marks : List Char := symbolChars ++ frameChars ++ parens

/-- The marks are of three kinds: characters of lexemes, ... -/
theorem symbolChars_subset : symbolChars ⊆ marks := fun c hc => by simp [marks, hc]

/-- ... characters around a number or quoted text, ... -/
theorem frameChars_subset : frameChars ⊆ marks := fun c hc => by simp [marks, hc]

/-- ... and parentheses. -/
theorem parens_subset : parens ⊆ marks := fun c hc => by simp [marks, hc]

/-- No mark belongs to a word, ... -/
theorem isWordChar_of_mem_marks {c : Char} (h : c ∈ marks) : isWordChar c = false := by
  have hall : ∀ c ∈ marks, isWordChar c = false := by decide +kernel
  exact hall c h

/-- ... and none is blank, ... -/
theorem isBlank_of_mem_marks {c : Char} (h : c ∈ marks) : isBlank c = false := by
  have hall : ∀ c ∈ marks, isBlank c = false := by decide +kernel
  exact hall c h

/-- ... so a plain character is none ... -/
theorem not_mem_marks_of_isPlain {c : Char} (h : isPlain c = true) : c ∉ marks := fun hmem => by
  have hnone := isWordChar_of_mem_marks hmem
  rw [isWordChar_of_isPlain h] at hnone
  cases hnone

/-- ... and neither is a blank. -/
theorem not_mem_marks_of_isBlank {c : Char} (h : isBlank c = true) : c ∉ marks := fun hmem => by
  have hnone := isBlank_of_mem_marks hmem
  rw [h] at hnone
  cases hnone

/-- One word that the rule language does not have for itself. -/
structure Name (cs : List Char) : Prop where
  ne_nil : cs ≠ []
  plain : ∀ c ∈ cs, isPlain c = true
  unreserved : lowerAscii cs ∉ reservedWords

instance (cs : List Char) : Decidable (Name cs) :=
  decidable_of_iff (cs ≠ [] ∧ (∀ c ∈ cs, isPlain c = true) ∧ lowerAscii cs ∉ reservedWords)
    ⟨fun ⟨hne, hplain, hword⟩ => ⟨hne, hplain, hword⟩, fun h => ⟨h.ne_nil, h.plain, h.unreserved⟩⟩

/-- Keywords of the rule language are made of plain characters. -/
theorem lettered_of_subset {keywords : List (List Char)} (h : keywords ⊆ reservedWords) :
    ∀ keyword ∈ keywords, Lettered keyword := fun _ hmem => lettered_of_mem_reservedWords (h hmem)

/-- A word that is none of the keywords holds none. -/
theorem hasWord_of_unreserved {keywords : List (List Char)} (hkeywords : keywords ⊆ reservedWords)
    {word : List Char} (hplain : ∀ c ∈ word, isPlain c = true)
    (hword : lowerAscii word ∉ reservedWords) : hasWord keywords none word = false := by
  rw [← Bool.not_eq_true, hasWord_of_word (lettered_of_subset hkeywords)
    fun c hc => isWordChar_of_isPlain (hplain c hc)]
  rintro ⟨keyword, hmem, hspells⟩
  rw [spells_of_ascii fun c hc => lt_of_isPlain (hplain c hc)] at hspells
  exact hword (hspells ▸ hkeywords hmem)

/-- The connectives are words of the rule language, ... -/
theorem connectiveWords_subset : connectiveWords ⊆ reservedWords := List.subset_append_left ..

/-- ... and so are the words of searches. -/
theorem searchWords_subset : searchWords ⊆ reservedWords := List.subset_append_right ..

namespace Name

variable {cs : List Char} (h : Name cs)
include h

/-- A name is made of characters of words, ... -/
theorem wordChars : ∀ c ∈ cs, isWordChar c = true :=
  fun c hc => isWordChar_of_isPlain (h.plain c hc)

/-- ... so it holds no blank ... -/
theorem no_blank : ∀ c ∈ cs, isBlank c = false :=
  fun c hc => isBlank_of_isWordChar (h.wordChars c hc)

/-- ... and has none at its ends. -/
theorem tight : Tight cs := tight_of_no_blank h.no_blank

/-- No name is in parentheses. -/
theorem head?_ne : cs.head? ≠ some '(' := fun hhead =>
  not_mem_marks_of_isPlain (h.plain _ (List.mem_of_mem_head? hhead)) (by decide)

/-- A name holds no word of the rule language, for it is one word and not one of these. -/
theorem hasWord {keywords : List (List Char)} (hkeywords : keywords ⊆ reservedWords) :
    hasWord keywords none cs = false := hasWord_of_unreserved hkeywords h.plain h.unreserved

end Name

/-- A name may be written in any letter case. -/
theorem name_of_lowerAscii_eq {cs other : List Char} (h : Name other)
    (heq : lowerAscii cs = lowerAscii other) : Name cs where
  ne_nil := fun hnil => h.ne_nil (by simpa [hnil, lowerAscii] using heq.symm)
  plain := fun c hc => by
    have hmem : c.toLower ∈ lowerAscii other := heq ▸ List.mem_map_of_mem hc
    obtain ⟨d, hd, hlower⟩ := List.mem_map.mp hmem
    rw [← isPlain_toLower, ← hlower, isPlain_toLower]
    exact h.plain d hd
  unreserved := heq ▸ h.unreserved

/-- Where all that passes a test is one member, that is found. -/
theorem find?_eq_some_of_forall {α : Type} {p : α → Bool} {xs : List α} {x : α} (hmem : x ∈ xs)
    (hx : p x = true) (hunique : ∀ y ∈ xs, p y = true → y = x) : xs.find? p = some x := by
  cases hfind : xs.find? p with
  | none => exact absurd hx (List.find?_eq_none.mp hfind x hmem)
  | some y => rw [hunique y (List.mem_of_find?_eq_some hfind) (List.find?_some hfind)]

/-- **A column** is found by any text that is the same in lower case as its name alone. -/
theorem resolveColumn?_eq_some {columns : List String} {column : String} {name : List Char}
    (hmem : column ∈ columns) (hsame : lower column.toList = lower name)
    (hunique : ∀ other ∈ columns, lower other.toList = lower name → other = column) :
    resolveColumn? name columns = some column := by
  have hfind : columns.find? (fun other => lower other.toList == lower name) = some column :=
    find?_eq_some_of_forall hmem (beq_iff_eq.mpr hsame)
      fun other hother heq => hunique other hother (beq_iff_eq.mp heq)
  rw [resolveColumn?, hfind, Option.some_or]

/-! ## Boundaries

  Where one text ends and another begins, if at least one of them does so with a character of no
  word. -/

/-- What stands around a text, and belongs to no word, holds no keyword. -/
theorem hasWord_between {keywords : List (List Char)} (hkeywords : keywords ⊆ reservedWords)
    {front back : List Char} (hfront : ∀ c ∈ front, isWordChar c = false)
    (hback : ∀ c ∈ back, isWordChar c = false) (cs : List Char) :
    hasWord keywords none (front ++ (cs ++ back)) = hasWord keywords none cs := by
  have hlettered := lettered_of_subset hkeywords
  rw [hasWord_append hlettered (.inl (isEdge_getLast? hfront)),
    hasWord_append hlettered (.inr (isEdge_head? hback)), hasWord_of_no_word hlettered hfront,
    hasWord_of_no_word hlettered hback, Bool.or_false, Bool.false_or]

/-- Two texts with something between them that belongs to no word. -/
theorem hasWord_around {keywords : List (List Char)} (hkeywords : keywords ⊆ reservedWords)
    {middle : List Char} (hne : middle ≠ []) (hmiddle : ∀ c ∈ middle, isWordChar c = false)
    (left right : List Char) :
    hasWord keywords none (left ++ (middle ++ right)) =
      (hasWord keywords none left || hasWord keywords none right) := by
  have hlettered := lettered_of_subset hkeywords
  have hhead : isEdge (middle ++ right).head? = true := by
    rw [List.head?_append_of_ne_nil _ hne]
    exact isEdge_head? hmiddle
  rw [hasWord_append hlettered (.inr hhead),
    hasWord_append hlettered (.inl (isEdge_getLast? hmiddle)),
    hasWord_of_no_word hlettered hmiddle, Bool.false_or]

/-! ## Parentheses

  Only the plain case, a pair around a text without any. -/

/-- Without parentheses the depth stays. -/
theorem closesEarly_append {front : List Char} (h : ∀ c ∈ front, c ∉ parens) (depth : Nat)
    (rest : List Char) : closesEarly depth (front ++ rest) = closesEarly depth rest := by
  induction front with
  | nil => rfl
  | cons c front ih =>
    have hc := h c (List.mem_cons_self ..)
    simp only [parens, List.mem_cons, List.not_mem_nil, or_false, not_or] at hc
    rw [List.cons_append, closesEarly, if_neg hc.1, if_neg hc.2,
      ih fun d hd => h d (List.mem_cons_of_mem _ hd)]

/-- What does not start with a parenthesis is left as it is. -/
theorem stripParens_of_head {cs : List Char} (hcs : Tight cs) (h : cs.head? ≠ some '(') :
    stripParens cs = cs := by
  rw [stripParens, trim_of_tight hcs]
  exact if_neg fun hwrapped => h hwrapped.2.1

/-- **A pair of parentheses** around a text without any is taken off. The depth falls to zero at the
    last character and not before, so the two are a pair. -/
theorem stripParens_wrapped {gap cs gap' : List Char} (hgap : Blank gap) (hcs : Tight cs)
    (hgap' : Blank gap') (h : ∀ c ∈ cs, c ∉ parens) :
    stripParens ('(' :: (gap ++ cs ++ gap') ++ [')']) = cs := by
  have hblank : ∀ {gap}, Blank gap → ∀ c ∈ gap, c ∉ parens := fun hgap c hc hmem =>
    not_mem_marks_of_isBlank (hgap c hc) (parens_subset hmem)
  have hinside : ∀ c ∈ gap ++ cs ++ gap', c ∉ parens := by
    intro c hc
    rcases List.mem_append.mp hc with hc | hc
    · exact (List.mem_append.mp hc).elim (hblank hgap c) (h c)
    · exact hblank hgap' c hc
  have htight : Tight ('(' :: (gap ++ cs ++ gap') ++ [')']) :=
    tight_of_ends (by decide) (by decide) _
  -- inside the depth is one throughout
  have hcloses : closesEarly 0 ('(' :: (gap ++ cs ++ gap') ++ [')']) = false := by
    rw [List.cons_append, closesEarly, if_pos rfl, closesEarly_append hinside]
    decide
  have hlength : 2 ≤ ('(' :: (gap ++ cs ++ gap') ++ [')']).length := by
    simp only [List.cons_append, List.length_cons, List.length_append]
    omega
  rw [stripParens, trim_of_tight htight,
    if_pos ⟨hlength, rfl, List.getLast?_concat .., hcloses⟩, List.cons_append, List.tail_cons,
    List.dropLast_concat, trim_append hgap hcs hgap']

/-! ## Comparisons

  Which lexeme is found, and where the text is cut. -/

/-- The lexemes that are looked for before this one. -/
def Lexeme.earlier (lexeme : Lexeme) : List Lexeme := lexemes.takeWhile (· ≠ lexeme)

/-- What is looked for earlier is a lexeme too. -/
theorem mem_lexemes_of_mem_earlier {lexeme other : Lexeme} (h : other ∈ lexeme.earlier) :
    other ∈ lexemes := (List.takeWhile_sublist _).subset h

/-- The lexemes fall into the earlier ones, the lexeme itself, and later ones. -/
theorem exists_lexemes_eq {lexeme : Lexeme} (h : lexeme ∈ lexemes) :
    ∃ later, lexemes = lexeme.earlier ++ lexeme :: later := by
  have hall : ∀ lexeme ∈ lexemes, lexemes =
      lexeme.earlier ++ lexeme :: lexemes.drop (lexeme.earlier.length + 1) := by decide
  exact ⟨_, hall lexeme h⟩

/-- A lexeme starts with one of its characters. -/
theorem head?_spelling_mem {lexeme : Lexeme} (h : lexeme ∈ lexemes) :
    ∃ c ∈ symbolChars, lexeme.spelling.toList.head? = some c := by
  have hall : ∀ lexeme ∈ lexemes, ∃ c ∈ symbolChars, lexeme.spelling.toList.head? = some c := by
    decide
  exact hall lexeme h

/-- So none is empty. -/
theorem spelling_ne_nil {lexeme : Lexeme} (h : lexeme ∈ lexemes) :
    lexeme.spelling.toList ≠ [] := by
  obtain ⟨mark, -, hhead⟩ := head?_spelling_mem h
  intro hnil
  rw [hnil] at hhead
  cases hhead

/-- No earlier lexeme starts within this one, if no equals sign stands behind it. -/
theorem cutAt?_earlier {lexeme other : Lexeme} (hlexeme : lexeme ∈ lexemes)
    (hother : other ∈ lexeme.earlier) {rest : List Char} (hrest : rest.head? ≠ some '=') :
    cutAt? other.spelling.toList (lexeme.spelling.toList ++ rest) =
      (cutAt? other.spelling.toList rest).map
        fun (before, after) => (lexeme.spelling.toList ++ before, after) := by
  have hall : ∀ lexeme ∈ lexemes, ∀ other ∈ lexeme.earlier,
      (other.spelling.toList ≠ [] ∧
        ∀ c ∈ lexeme.spelling.toList, other.spelling.toList.head? ≠ some c) ∨
      ∃ c ∈ symbolChars, lexeme.spelling.toList = [c] ∧ other.spelling.toList = [c, '='] := by
    decide
  -- Either the earlier lexeme begins with a character that this one lacks, or it is this one with
  -- `=` behind it, which `rest` does not begin with.
  rcases hall lexeme hlexeme other hother with ⟨hne, hhead⟩ | ⟨c, -, hspelling, hlonger⟩
  · exact cutAt?_append hne hhead rest
  · have hhere : ¬ [c, '='].isPrefixOf (c :: rest) = true := by
      intro hprefix
      rw [List.isPrefixOf_cons_cons, Bool.and_eq_true] at hprefix
      obtain ⟨after, rfl⟩ := List.isPrefixOf_iff_prefix.mp hprefix.2
      exact hrest rfl
    rw [hspelling, hlonger, List.cons_append, List.nil_append, cutAt?, if_neg hhere]
    rfl

/-- Two functions that agree on a list find the same in it. -/
theorem findSome?_congr {α β : Type} {f g : α → Option β} {xs : List α}
    (h : ∀ x ∈ xs, f x = g x) : xs.findSome? f = xs.findSome? g := by
  induction xs with
  | nil => rfl
  | cons x xs ih =>
    rw [List.findSome?_cons, List.findSome?_cons, h x (List.mem_cons_self ..),
      ih fun y hy => h y (List.mem_cons_of_mem _ hy)]

/-- A lexeme is looked for behind a text without such characters. -/
theorem cutAt?_of_no_marks {lexeme : Lexeme} (hlexeme : lexeme ∈ lexemes) {left : List Char}
    (hleft : ∀ c ∈ left, c ∉ symbolChars) (cs : List Char) :
    cutAt? lexeme.spelling.toList (left ++ cs) =
      (cutAt? lexeme.spelling.toList cs).map fun (before, after) => (left ++ before, after) := by
  obtain ⟨mark, hmark, hhead⟩ := head?_spelling_mem hlexeme
  refine cutAt?_append (spelling_ne_nil hlexeme) (fun c hc heq => ?_) cs
  obtain rfl := Option.some.inj (hhead.symm.trans heq)
  exact hleft mark hc hmark

/-- **The lexeme of a comparison** is found behind a text without such characters, unless an earlier
    one occurs in the rest. The text in front is passed over by all of them, and no earlier lexeme
    starts within this one. -/
theorem findLexeme?_append {lexeme : Lexeme} (hlexeme : lexeme ∈ lexemes) {left rest : List Char}
    (hleft : ∀ c ∈ left, c ∉ symbolChars) (hrest : rest.head? ≠ some '=') :
    findLexeme? (left ++ (lexeme.spelling.toList ++ rest)) =
      ((lexeme.earlier.findSome? fun other =>
          (cutAt? other.spelling.toList rest).map (other, ·)).map
        fun (other, before, after) =>
          (other, left ++ (lexeme.spelling.toList ++ before), after)).or
      (some (lexeme, left, rest)) := by
  obtain ⟨later, hlexemes⟩ := exists_lexemes_eq hlexeme
  -- The lexeme itself is found where it stands; only an earlier one of the list can come before it.
  have hself : cutAt? lexeme.spelling.toList (left ++ (lexeme.spelling.toList ++ rest)) =
      some (left, rest) := by
    simp only [cutAt?_of_no_marks hlexeme hleft, cutAt?_self (spelling_ne_nil hlexeme),
      Option.map_some, List.append_nil]
  have hearlier : (lexeme.earlier.findSome? fun other =>
      (cutAt? other.spelling.toList (left ++ (lexeme.spelling.toList ++ rest))).map (other, ·)) =
      (lexeme.earlier.findSome? fun other =>
          (cutAt? other.spelling.toList rest).map (other, ·)).map
        fun (other, before, after) =>
          (other, left ++ (lexeme.spelling.toList ++ before), after) := by
    rw [List.map_findSome?]
    refine findSome?_congr fun other hother => ?_
    rw [cutAt?_of_no_marks (mem_lexemes_of_mem_earlier hother) hleft,
      cutAt?_earlier hlexeme hother hrest]
    simp only [Function.comp_apply, Option.map_map]
    rfl
  rw [findLexeme?, hlexemes, List.findSome?_append, hearlier, List.findSome?_cons, hself]
  rfl

/-- **Without an earlier one on its right** a lexeme is found where it stands. -/
theorem findLexeme?_eq_some {lexeme : Lexeme} (hlexeme : lexeme ∈ lexemes) {left rest : List Char}
    (hleft : ∀ c ∈ left, c ∉ symbolChars) (hrest : rest.head? ≠ some '=')
    (hearlier : ∀ other ∈ lexeme.earlier, ¬ other.spelling.toList <:+: rest) :
    findLexeme? (left ++ (lexeme.spelling.toList ++ rest)) = some (lexeme, left, rest) := by
  have hnone : (lexeme.earlier.findSome? fun other =>
      (cutAt? other.spelling.toList rest).map (other, ·)) = none := by
    refine List.findSome?_eq_none_iff.mpr fun other hother => Option.map_eq_none_iff.mpr ?_
    rw [← Option.not_isSome_iff_eq_none]
    exact mt occursIn_iff.mp (hearlier other hother)
  rw [findLexeme?_append hlexeme hleft hrest, hnone]
  rfl

/-- A lexeme occurs where its first character does. -/
theorem not_infix_of_not_mem {lexeme : Lexeme} (hlexeme : lexeme ∈ lexemes) {cs : List Char}
    (h : ∀ c ∈ cs, c ∉ symbolChars) : ¬ lexeme.spelling.toList <:+: cs := by
  obtain ⟨mark, hmark, hhead⟩ := head?_spelling_mem hlexeme
  exact fun hoccurs => h mark (hoccurs.subset (List.mem_of_mem_head? hhead)) hmark

/-- A comparison whose left side is a column. -/
theorem parseComparison?_of_findLexeme? {columns : List String} {cs left right : List Char}
    {lexeme : Lexeme} {column : String} (hfind : findLexeme? cs = some (lexeme, left, right))
    (hright : trim right ≠ []) (hne : trim left ≠ [])
    (hcolumn : resolveColumn? (trim left) columns = some column) :
    parseComparison? cs columns =
      some ⟨column, lexeme.comparison, resolveOperand (trim right) columns⟩ := by
  rw [parseComparison?, hfind]
  simp only [Option.bind_eq_bind, Option.bind_some, hne, hright, or_self, if_false, hcolumn]

/-! ## Operands

  Quotes come first: what is in quotes is text, even if a column has the same name. -/

/-- Quotes are not blank. -/
theorem isBlank_of_quote {quote : Char} (h : quote = '"' ∨ quote = '\'') :
    isBlank quote = false := by
  rcases h with rfl | rfl <;> decide

/-- What is not quoted starts with something else. -/
theorem unquote?_eq_none {cs : List Char} (hcs : Tight cs)
    (h : ∀ c ∈ cs.head?, c ≠ '"' ∧ c ≠ '\'') : unquote? cs = none := by
  rw [unquote?, trim_of_tight hcs]
  cases cs with
  | nil => rfl
  | cons c cs =>
    obtain ⟨hdouble, hsingle⟩ := h c rfl
    exact if_neg fun hquoted => hquoted.1.elim hdouble hsingle

/-- Quoted text may hold anything. -/
theorem unquote?_eq_some {quote : Char} (h : quote = '"' ∨ quote = '\'') (s : List Char) :
    unquote? (quote :: (s ++ [quote])) = some s := by
  rw [unquote?, trim_of_tight (tight_of_ends (isBlank_of_quote h) (isBlank_of_quote h) s)]
  dsimp only
  rw [if_pos ⟨h, List.getLast?_concat ..⟩, List.dropLast_concat]

/-- Quoted text is an operand as it stands, even if a column is named like it. -/
theorem resolveOperand_quoted {quote : Char} (h : quote = '"' ∨ quote = '\'') (s : List Char)
    (columns : List String) :
    resolveOperand (quote :: (s ++ [quote])) columns = .literal (String.ofList s) := by
  rw [resolveOperand, trim_of_tight (tight_of_ends (isBlank_of_quote h) (isBlank_of_quote h) s),
    unquote?_eq_some h]

/-! ## Searches

  The parts of a search from left to right, for any text between the quotes. The name ends at the
  first blank, the word at the next, and the text at the last character. -/

/-- The search words start differently, so the one that is spelled is the first one found. -/
theorem find?_searchWords {keyword word : List Char} (hmem : keyword ∈ searchWords)
    (h : spells keyword word = true) (rest : List Char) :
    (searchWords.find? fun other => spells other ((word ++ rest).take other.length)) =
      some keyword := by
  refine find?_eq_some_of_forall hmem ?_ fun other hother hspells => ?_
  · rw [← length_of_spells h, List.take_left]
    exact h
  · have hheads : ∀ other ∈ searchWords, ∀ keyword ∈ searchWords,
        other.head? = keyword.head? → other = keyword := by decide
    refine hheads other hother keyword hmem ?_
    obtain ⟨c, cs, rfl⟩ := List.exists_cons_of_ne_nil
      (ne_nil_of_spells h (lettered_searchWords keyword hmem).ne_nil)
    have hlength := length_of_spells hspells
    obtain ⟨d, ds, rfl⟩ := List.exists_cons_of_ne_nil (lettered_searchWords other hother).ne_nil
    rw [← beq_iff_eq.mp h, ← beq_iff_eq.mp hspells]
    rfl

/-- Quotes around a text with anything in it. -/
theorem quoted?_eq_some {quote : Char} (h : quote = '"' ∨ quote = '\'') (s : List Char) :
    quoted? (quote :: (s ++ [quote])) = some s := by
  rw [quoted?, if_pos ⟨h, List.getLast?_concat ..⟩, List.dropLast_concat]

/-- A search starts with a blank. -/
theorem searchAt?_eq_none {c : Char} {cs : List Char} (h : isBlank c = false) :
    searchAt? (c :: cs) = none := by
  rw [searchAt?, Option.bind_eq_bind, Option.bind_eq_none_iff]
  intro keyword _
  refine if_neg fun hblank => ?_
  have hc : isBlank c = true := by simpa using hblank.1
  rw [h] at hc
  cases hc

section Search

variable {gap word gap' keyword s : List Char} {quote : Char}
  (hgap : Blank gap) (hgapne : gap ≠ []) (hmem : keyword ∈ searchWords)
  (hword : spells keyword word = true) (hgap' : Blank gap') (hgapne' : gap' ≠ [])
  (hquote : quote = '"' ∨ quote = '\'')
include hgap hgapne hmem hword hgap' hgapne' hquote

/-- What stands behind the name of a search is recognized: blanks, the word, blanks, and all between
    the outer quotes. -/
theorem searchAt?_append :
    searchAt? (gap ++ (word ++ (gap' ++ quote :: (s ++ [quote])))) = some (word, s) := by
  have hblank : ∀ {gap : List Char}, Blank gap → gap ≠ [] → ∀ rest,
      (gap ++ rest).head?.any isBlank = true := by
    intro gap hgap hne rest
    obtain ⟨c, cs, rfl⟩ := List.exists_cons_of_ne_nil hne
    simpa using hgap c (List.mem_cons_self ..)
  have hlettered := lettered_searchWords keyword hmem
  have htight := tight_of_isWordChar (isWordChar_of_spells hword hlettered.plain)
  -- first the blanks before the word, then those before the quotes
  have hstart : (gap ++ (word ++ (gap' ++ quote :: (s ++ [quote])))).dropWhile isBlank =
      word ++ (gap' ++ quote :: (s ++ [quote])) := by
    refine dropWhile_isBlank hgap fun c hc => htight.head c ?_
    rwa [List.head?_append_of_ne_nil _ (ne_nil_of_spells hword hlettered.ne_nil)] at hc
  have hquoted : (gap' ++ quote :: (s ++ [quote])).dropWhile isBlank = quote :: (s ++ [quote]) := by
    refine dropWhile_isBlank hgap' fun c hc => ?_
    obtain rfl := Option.some.inj hc
    exact isBlank_of_quote hquote
  rw [searchAt?, hstart]
  simp only [find?_searchWords hmem hword, Option.bind_eq_bind, Option.bind_some,
    ← length_of_spells hword, List.take_left, List.drop_left]
  rw [if_pos ⟨hblank hgap hgapne _, hblank hgap' hgapne' _⟩, hquoted, quoted?_eq_some hquote,
    Option.map_some]

/-- **A search** is a name, blanks, a search word, blanks and quoted text. -/
theorem splitSearch?_append {name : List Char} (hne : name ≠ [])
    (hname : ∀ c ∈ name, isBlank c = false) :
    splitSearch? (name ++ (gap ++ (word ++ (gap' ++ quote :: (s ++ [quote]))))) =
      some (name, word, s) := by
  have hsearch := searchAt?_append (s := s) hgap hgapne hmem hword hgap' hgapne' hquote
  induction name with
  | nil => exact absurd rfl hne
  | cons c name ih =>
    cases name with
    | nil => simp only [List.cons_append, List.nil_append, splitSearch?, hsearch]
    | cons d name =>
      -- A name holds no blank, so no search word begins inside of it.
      have hd := hname d (List.mem_cons_of_mem _ (List.mem_cons_self ..))
      rw [List.cons_append, splitSearch?, List.cons_append, searchAt?_eq_none hd,
        ← List.cons_append,
        ih (List.cons_ne_nil d name) fun e he => hname e (List.mem_cons_of_mem _ he)]
      rfl

end Search

/-- The symbols of searches are the words of searches. -/
theorem symbol_mem_searchWords {comparison : Comparison} (h : comparison.isSearch = true) :
    comparison.symbol.toList ∈ searchWords := by
  cases comparison <;> first | decide | cases h

/-- A search word is known by its spelling, in any letter case. -/
theorem find?_searches {comparison : Comparison} (h : comparison.isSearch = true) :
    (searches.find? fun other => other.symbol.toList == comparison.symbol.toList) =
      some comparison := by
  cases comparison <;> first | decide | cases h

/-- A search word is written in plain letters, and none of them starts a connective. -/
theorem plain_of_searchWord {word : List Char} {comparison : Comparison}
    (hcomparison : comparison.isSearch = true) (h : lowerAscii word = comparison.symbol.toList) :
    (∀ c ∈ word, isPlain c = true) ∧ (∀ c ∈ word.head?, foldLetter c ≠ 'a' ∧ foldLetter c ≠ 'o') ∧
      hasWord connectiveWords none word = false := by
  have hsymbols : ∀ keyword ∈ searchWords, (∀ c ∈ keyword, isPlain c = true) ∧
      (∀ c ∈ keyword.head?, c ≠ 'a' ∧ c ≠ 'o') ∧ keyword ∉ connectiveWords := by decide
  obtain ⟨hplain, hstart, hnot⟩ := hsymbols _ (symbol_mem_searchWords hcomparison)
  rw [← h] at hplain hstart hnot
  have hword : ∀ c ∈ word, isPlain c = true := fun c hc =>
    isPlain_toLower c ▸ hplain c.toLower (List.mem_map_of_mem hc)
  refine ⟨hword, fun c hc => ?_, ?_⟩
  · rw [foldLetter_of_ascii (lt_of_isPlain (hword c (List.mem_of_mem_head? hc)))]
    exact hstart c.toLower (by rw [lowerAscii, List.head?_map]; exact Option.mem_map_of_mem _ hc)
  · rw [← Bool.not_eq_true, hasWord_of_word lettered_connectiveWords
      fun c hc => isWordChar_of_isPlain (hword c hc)]
    rintro ⟨keyword, hmem, hspells⟩
    rw [spells_of_ascii fun c hc => lt_of_isPlain (hword c hc)] at hspells
    exact hnot (hspells ▸ hmem)

/-- A segment with a search word between blanks is taken for a search. -/
theorem hasWord_of_search {name gap word gap' : List Char} {comparison : Comparison}
    (hgap : Blank gap) (hgapne : gap ≠ []) (hcomparison : comparison.isSearch = true)
    (hword : lowerAscii word = comparison.symbol.toList) (hgap' : Blank gap') (hgapne' : gap' ≠ [])
    (rest : List Char) :
    hasWord searchWords none (name ++ (gap ++ (word ++ (gap' ++ rest)))) = true := by
  have hmem := symbol_mem_searchWords hcomparison
  have hspells := spells_of_lowerAscii (lettered_searchWords _ hmem).plain hword
  refine (hasWord_iff lettered_searchWords).mpr ⟨_, hmem, name ++ gap, word, gap' ++ rest,
    (List.append_assoc ..).symm, hspells, ?_, ?_⟩
  · rw [List.getLast?_append_of_ne_nil _ hgapne]
    exact isEdge_getLast? hgap.isWordChar
  · rw [List.head?_append_of_ne_nil _ hgapne']
    exact isEdge_head? hgap'.isWordChar

section Condition

variable {columns : List String} {name gap word gap' s : List Char} {comparison : Comparison}
  {quote : Char} (hne : name ≠ []) (hname : ∀ c ∈ name, isBlank c = false) (hgap : Blank gap)
  (hgapne : gap ≠ []) (hcomparison : comparison.isSearch = true)
  (hword : lowerAscii word = comparison.symbol.toList) (hgap' : Blank gap') (hgapne' : gap' ≠ [])
  (hquote : quote = '"' ∨ quote = '\'')
include hne hname hgap hgapne hcomparison hword hgap' hgapne' hquote

/-- The condition that a search states. -/
theorem parseSearch?_append {column : String}
    (hcolumn : resolveColumn? name columns = some column) :
    parseSearch? (name ++ (gap ++ (word ++ (gap' ++ quote :: (s ++ [quote]))))) columns =
      some ⟨column, comparison, .literal (String.ofList s)⟩ := by
  have hmem := symbol_mem_searchWords hcomparison
  have hspells := spells_of_lowerAscii (lettered_searchWords _ hmem).plain hword
  have hsplit := splitSearch?_append (s := s) hgap hgapne hmem hspells hgap' hgapne' hquote
    hne hname
  rw [parseSearch?, hsplit]
  simp only [Option.bind_eq_bind, Option.bind_some, trim_of_tight (tight_of_no_blank hname),
    hcolumn, hword, find?_searches hcomparison]

/-- A segment that is a search, and not in parentheses, states that condition. -/
theorem parseCondition?_append {column : String} (hhead : name.head? ≠ some '(')
    (hcolumn : resolveColumn? name columns = some column) :
    parseCondition? (name ++ (gap ++ (word ++ (gap' ++ quote :: (s ++ [quote]))))) columns =
      some ⟨column, comparison, .literal (String.ofList s)⟩ := by
  have hquoted := tight_of_ends (isBlank_of_quote hquote) (isBlank_of_quote hquote) s
  have hsegment := tight_append hne (List.cons_ne_nil quote _) (tight_of_no_blank hname) hquoted
    (gap ++ (word ++ gap'))
  simp only [List.append_assoc] at hsegment
  rw [parseCondition?, stripParens_of_head hsegment (by rwa [List.head?_append_of_ne_nil _ hne]),
    if_neg (List.append_ne_nil_of_left_ne_nil hne _),
    hasWord_of_search hgap hgapne hcomparison hword hgap' hgapne', if_pos rfl]
  exact parseSearch?_append hne hname hgap hgapne hcomparison hword hgap' hgapne' hquote hcolumn

/-- **A search is read whole**: the first column that is the name in lower case, the search word
    behind it, and all between the outer quotes, be it quotes, lexemes or search words. -/
theorem parseCondition?_reads_search (hhead : name.head? ≠ some '(')
    (hcolumn : ∃ column ∈ columns, lower column.toList = lower name) :
    ∃ front column back, columns = front ++ column :: back ∧
      lower column.toList = lower name ∧ (∀ other ∈ front, lower other.toList ≠ lower name) ∧
      parseCondition? (name ++ (gap ++ (word ++ (gap' ++ quote :: (s ++ [quote]))))) columns =
        some ⟨column, comparison, .literal (String.ofList s)⟩ := by
  obtain ⟨known, hknown, hsame⟩ := hcolumn
  obtain ⟨column, hfind⟩ := Option.isSome_iff_exists.mp
    (List.find?_isSome (p := fun column : String => lower column.toList == lower name).mpr
      ⟨known, hknown, beq_iff_eq.mpr hsame⟩)
  have hresolve : resolveColumn? name columns = some column := by
    rw [resolveColumn?, hfind, Option.some_or]
  obtain ⟨hcolumn, front, back, hcolumns, hfront⟩ := List.find?_eq_some_iff_append.mp hfind
  refine ⟨front, column, back, hcolumns, beq_iff_eq.mp hcolumn, fun other hother hlower => ?_, ?_⟩
  · have hnot := hfront other hother
    rw [beq_iff_eq.mpr hlower] at hnot
    cases hnot
  · exact parseCondition?_append hne hname hgap hgapne hcomparison hword hgap' hgapne' hquote hhead
      hresolve

end Condition

/-- The text may hold a search of its own, and the name may be a search word. -/
theorem parseCondition?_reads_search_nested :
    let name := "CONTAINS".toList
    let inner := "x\" contains \"y\n".toList
    (∀ c ∈ name, isBlank c = false) ∧ lowerAscii "Contains".toList = "contains".toList ∧
      parseCondition? (name ++ ("  ".toList ++ ("Contains".toList ++
        ("\t".toList ++ '"' :: (inner ++ ['"']))))) ["A", "contains", "Contains"] =
        some ⟨"contains", .contains, .literal "x\" contains \"y\n"⟩ := by
  intro name inner
  have hname : ∀ c ∈ name, isBlank c = false := by decide
  have hword : lowerAscii "Contains".toList = Comparison.contains.symbol.toList := by decide
  obtain ⟨front, column, back, hcolumns, hcolumn, hfront, hparse⟩ :=
    @parseCondition?_reads_search ["A", "contains", "Contains"] name "  ".toList "Contains".toList
      "\t".toList inner .contains '"' (by decide) hname (by decide) (by decide) rfl hword
      (by decide) (by decide) (.inl rfl) (by decide) ⟨"contains", by decide, by decide +kernel⟩
  have hfirst : column = "contains" := by
    rcases front with - | ⟨first, - | ⟨second, front⟩⟩
    · obtain rfl := (List.cons.inj hcolumns).1
      exact absurd hcolumn (by decide +kernel)
    · exact (List.cons.inj (List.cons.inj hcolumns).2).1.symm
    · obtain rfl := (List.cons.inj (List.cons.inj hcolumns).2).1
      exact absurd (by decide +kernel) (hfront "contains" (by simp))
  refine ⟨hname, hword, ?_⟩
  rw [hparse, hfirst]
  rfl

/-! ## References

  A condition is never taken for references: one name is not enough, and behind it no connective
  stands. -/

/-- A connective starts with one of two letters. -/
theorem keywordAt?_eq_none {cs : List Char}
    (h : ∀ c ∈ cs.head?, foldLetter c ≠ 'a' ∧ foldLetter c ≠ 'o') : keywordAt? cs = none := by
  refine Option.eq_none_iff_forall_not_mem.mpr fun ⟨connective, n⟩ hkeyword => ?_
  have hspells := beq_iff_eq.mp (spells_of_keywordAt? hkeyword)
  cases cs with
  | nil => cases connective <;> simp [Connective.symbol] at hspells
  | cons c cs =>
    obtain ⟨ha, ho⟩ := h c rfl
    cases n with
    | zero => cases connective <;> simp [Connective.symbol] at hspells
    | succ n =>
      cases connective
      · exact ha (List.cons.inj hspells).1
      · exact ho (List.cons.inj hspells).1

/-- Where no keyword stands behind the blanks, no spaced connective starts. -/
theorem spacedAt?_of_keywordAt?_eq_none {before : Option Char} {cs : List Char}
    (h : keywordAt? (cs.dropWhile isBlank) = none) : spacedAt? before cs = none := by
  rw [spacedAt?]
  simp only [h]

/-- **One name without a connective behind it** is not the start of a reference expression. Whatever
    reference is read in front ends with the name or within it, and no connective starts there. -/
theorem isReferenceExpression_of_name {name rest : List Char}
    (hname : ∀ c ∈ name, isWordChar c = true) (htight : Tight (name ++ rest))
    (hedge : isEdge rest.head? = true)
    (hnone : keywordAt? (rest.dropWhile isBlank) = none) :
    isReferenceExpression (name ++ rest) = false := by
  rw [isReferenceExpression, trim_of_tight htight]
  split
  next rest' hafter =>
    obtain ⟨reference, heq, href⟩ := isReference_of_afterReference? hafter
    have hspaced : spacedAt? none rest' = none := by
      -- the reference and the name are two starts of one text, so one goes on with the other
      rcases List.append_eq_append_iff.mp heq with ⟨more, rfl, rfl⟩ | ⟨more, rfl, rfl⟩
      · cases more with
        | nil => exact spacedAt?_of_keywordAt?_eq_none hnone
        | cons c more =>
          have hc := href.wordChars c (by simp)
          rw [isEdge_iff.mp hedge c rfl] at hc
          cases hc
      · cases more with
        | nil => exact spacedAt?_of_keywordAt?_eq_none hnone
        | cons c more => exact spacedAt?_eq_none (isBlank_of_isWordChar (hname c (by simp)))
    simp only [hspaced]
  next => rfl

end TableRules.Expression
