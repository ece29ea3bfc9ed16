/-
  PARSED RULES: what every rule is like that a parser returns.

  1. **References** — `IsReference` says what a reference is: the word `Rule` in any letter case
     and decimal digits.  What starts like a reference expression is recognized by its first two
     references; it is cut at its spaced connectives.  The two readers agree on the first
     reference, which is a segment of its own (`parseReferences_ne_nil`).

  2. **Conditions** — a condition names columns of the table only, and a search has quoted text
     for its operand (`formed_of_parseCondition?`).

  3. **Rules** — a rule has conditions or references, never both and never none, and there are
     always enough connectives to join them all, however many segments were dropped
     (`formed_of_parse`).

  The crux of the references is that two scanners read the same text.  One looks at its start for
  a reference, a connective and nothing more, and says that this is a reference expression; the
  other cuts the whole text at connectives between blanks and keeps the segments that are
  references.  They could disagree, and a rule without references would be made.  They do not: the
  connective that the first one found is the first that the second one comes to, since within a
  reference there is no blank at which it could start, and so the first segment is the reference.
-/
import TableRules.Evaluation.Condition
import TableRules.Parser
import TableRules.Proofs.Keywords

namespace TableRules

open Text

namespace Expression

/-! ## References

  What is read as a reference, as a text. -/

/-- The word `Rule` in any letter case, and decimal digits. -/
def IsReference (cs : List Char) : Prop :=
  ∃ word digits, cs = word ++ digits ∧ lowerAscii word = ['r', 'u', 'l', 'e'] ∧ digits ≠ [] ∧
    ∀ d ∈ digits, isReferenceDigit d = true

/-- A digit of a reference is a character of a word. -/
theorem isWordChar_of_isReferenceDigit {c : Char} (h : isReferenceDigit c = true) :
    isWordChar c = true := by
  obtain ⟨hdigit, hknown⟩ := Bool.and_eq_true_iff.mp h
  rw [isWordChar, hdigit, hknown]
  simp

/-- What is read at the start of a text is a reference: the word, and then digits up to what is
    none. -/
theorem isReference_of_afterReference? {cs rest : List Char} (h : afterReference? cs = some rest) :
    ∃ reference, cs = reference ++ rest ∧ IsReference reference := by
  obtain ⟨number, hword, h⟩ := Option.bind_eq_some_iff.mp h
  rw [afterKeyword?] at hword
  split at hword
  next hspells =>
    obtain rfl := Option.some.inj hword
    split at h
    next hdigit =>
      obtain rfl := Option.some.inj h
      generalize hnumber : cs.drop ['r', 'u', 'l', 'e'].length = number at hdigit
      -- The reference is the keyword's four letters and the digits behind them; what is left
      -- follows it.
      refine ⟨cs.take 4 ++ number.takeWhile isReferenceDigit, ?_, _, _, rfl,
        lowerAscii_of_spells (by decide) (by decide) hspells, ?_,
        fun d hd => List.mem_takeWhile_imp hd⟩
      · rw [List.append_assoc, List.takeWhile_append_dropWhile, ← hnumber]
        exact (List.take_append_drop 4 cs).symm
      · cases number with
        | nil => cases hdigit
        | cons d number =>
          rw [List.takeWhile_cons_of_pos (by simpa using hdigit)]
          exact List.cons_ne_nil d _
    next => cases h
  next => cases hword

namespace IsReference

variable {cs : List Char} (h : IsReference cs)
include h

/-- So is every character of a reference. -/
theorem wordChars : ∀ c ∈ cs, isWordChar c = true := by
  obtain ⟨word, digits, rfl, hword, -, hdigits⟩ := h
  have hplain : ∀ c ∈ ['r', 'u', 'l', 'e'], isPlain c = true := by decide
  intro c hc
  rcases List.mem_append.mp hc with hc | hc
  · exact isWordChar_of_spells (spells_of_lowerAscii hplain hword) hplain c hc
  · exact isWordChar_of_isReferenceDigit (hdigits c hc)

/-- A reference is read up to what cannot be a digit of it. -/
theorem afterReference?_append {rest : List Char}
    (hrest : ∀ c ∈ rest.head?, isReferenceDigit c = false) :
    Expression.afterReference? (cs ++ rest) = some rest := by
  obtain ⟨word, digits, rfl, hword, hne, hdigits⟩ := h
  have hspells : spells ['r', 'u', 'l', 'e'] word = true := spells_of_lowerAscii (by decide) hword
  have hall : (digits ++ rest).dropWhile isReferenceDigit = rest.dropWhile isReferenceDigit :=
    List.dropWhile_append_of_pos hdigits
  -- The digits end where `rest` begins, since it begins with no digit.
  have hstop : rest.dropWhile isReferenceDigit = rest := by
    cases rest with
    | nil => rfl
    | cons c rest => exact List.dropWhile_cons_of_neg (by simp [hrest c rfl])
  obtain ⟨d, ds, rfl⟩ := List.exists_cons_of_ne_nil hne
  have hd : isReferenceDigit d = true := hdigits d (List.mem_cons_self ..)
  rw [Expression.afterReference?, afterKeyword?, ← length_of_spells hspells, List.append_assoc,
    List.take_left, List.drop_left, if_pos hspells]
  simp only [Option.bind_eq_bind, Option.bind_some, List.cons_append, List.head?_cons,
    Option.any_some, hd, if_true]
  rw [← List.cons_append, hall, hstop]

/-- A reference by itself is read to its end. -/
theorem afterReference? : afterReference? cs = some [] := by
  have hall : Expression.afterReference? (cs ++ []) = some [] :=
    h.afterReference?_append fun c hc => (nomatch hc)
  rwa [List.append_nil] at hall

end IsReference

/-- **A reference** is what is read as one. -/
theorem isReference_iff {cs : List Char} : isReference cs = true ↔ IsReference cs := by
  constructor
  · intro h
    obtain ⟨reference, hcs, href⟩ := isReference_of_afterReference? (beq_iff_eq.mp h)
    rwa [hcs, List.append_nil]
  · exact fun h => beq_iff_eq.mpr h.afterReference?

/-! ## Cutting at spaced connectives

  Where the first cut is made in what starts like a reference expression. -/

/-- No spaced connective starts at a character that is not blank. -/
theorem spacedAt?_eq_none {before : Option Char} {c : Char} {cs : List Char}
    (h : isBlank c = false) : spacedAt? before (c :: cs) = none := by
  have hgap : (c :: cs).takeWhile isBlank = [] := List.takeWhile_cons_of_neg (by simp [h])
  rw [spacedAt?]
  dsimp only
  split
  next => rw [dif_neg fun hne => hne.1 hgap]
  next => rfl

/-- What starts like a reference expression has its first reference for a segment, because the
    connective behind it is the first one in the text. -/
theorem exists_reference_of_isReferenceExpression {expression : List Char}
    (h : isReferenceExpression expression = true) :
    ∃ reference tail, IsReference reference ∧
      Chain.cut spacedAt? (trim expression) = ⟨reference, tail⟩ := by
  rw [isReferenceExpression] at h
  split at h
  next rest hafter =>
    split at h
    next m hm =>
      obtain ⟨reference, hcs, href⟩ := isReference_of_afterReference? hafter
      -- cut at the connective that was found, wherever the scan has come from
      have hjoin : ∀ before, Chain.cutAfter spacedAt? before rest =
          (Chain.cutAfter spacedAt? m.lexeme.getLast? m.rest).join
            ⟨m.connective, m.lexeme⟩ := by
        intro before
        rw [Chain.cutAfter.eq_def]
        simp only [show spacedAt? before rest = some m from hm]
      refine ⟨reference, ((Chain.cutAfter spacedAt? m.lexeme.getLast? m.rest).join
        ⟨m.connective, m.lexeme⟩).tail, href, ?_⟩
      rw [Chain.cut, hcs, cutAfter_append, hjoin, Chain.join, Chain.prepend, List.append_nil]
      intro front c back hsplit
      -- within the reference nothing is blank
      exact spacedAt?_eq_none (isBlank_of_isWordChar (href.wordChars c (by simp [hsplit])))
    next => cases h
  next => cases h

/-- **A reference expression** gives at least one reference. -/
theorem parseReferences_ne_nil {expression : List Char}
    (h : isReferenceExpression expression = true) : (parseReferences expression).1 ≠ [] := by
  obtain ⟨reference, tail, href, hcut⟩ := exists_reference_of_isReferenceExpression h
  have hread : isReference (trim reference) = true := by
    rw [trim_of_tight (tight_of_isWordChar href.wordChars)]
    exact isReference_iff.mpr href
  refine List.ne_nil_of_mem (a := trim reference) (List.mem_filter.mpr ⟨?_, hread⟩)
  rw [hcut]
  exact List.mem_cons_self ..

/-- What is kept as a reference is one. -/
theorem isReference_of_mem_parseReferences {expression reference : List Char}
    (h : reference ∈ (parseReferences expression).1) : IsReference reference :=
  isReference_iff.mp (List.mem_filter.mp h).2

/-- There is one segment more than there are connectives. -/
theorem Chain.length_segments (chain : Chain) :
    chain.segments.length = chain.connectives.length + 1 := by
  simp [segments, connectives]

/-- However many segments are left out, there are at most as many references as connectives, and one
    more. -/
theorem length_parseReferences (expression : List Char) :
    (parseReferences expression).1.length ≤ (parseReferences expression).2.length + 1 :=
  calc (parseReferences expression).1.length
    _ ≤ ((Chain.cut spacedAt? (trim expression)).segments.map trim).length :=
      List.length_filter_le ..
    _ = (parseReferences expression).2.length + 1 := by
      rw [List.length_map, Chain.length_segments]
      rfl

end Expression

/-! ## Conditions

  What every condition is like, whatever the segment it was read from. -/

/-- A condition names columns of the table only, and searches for quoted text only. -/
structure Condition.Formed (columns : List String) (c : Condition) : Prop where
  /-- The column is one of the table. -/
  column : c.column ∈ columns
  /-- So is the column on the other side, if there is one. -/
  operand : ∀ name, c.operand = .column name → name ∈ columns
  /-- A search looks for quoted text. -/
  search : c.comparison.isSearch = true → c.operand.isLiteral = true

namespace Expression

variable {columns : List String}

/-- A column that is found is one of the table. -/
theorem mem_of_resolveColumn? {name : List Char} {column : String}
    (h : resolveColumn? name columns = some column) : column ∈ columns := by
  rcases Option.or_eq_some_iff.mp h with h | ⟨-, h⟩
  · exact List.mem_of_find?_eq_some h
  · exact List.mem_of_find?_eq_some h

/-- An operand names a column only if there is one of exactly that name. -/
theorem mem_of_resolveOperand {raw : List Char} {name : String}
    (h : resolveOperand raw columns = .column name) : name ∈ columns := by
  rw [resolveOperand] at h
  split at h
  next => cases h
  next =>
    split at h
    next hany =>
      obtain ⟨column, hmem, heq⟩ := List.any_eq_true.mp hany
      obtain rfl := Operand.column.inj h
      rwa [← beq_iff_eq.mp heq, String.ofList_toList]
    next =>
      split at h
      next n _ => cases n <;> cases h
      next => cases h

/-- It is a bare word only if there is none. -/
theorem not_mem_of_resolveOperand {raw : List Char} {word : String}
    (h : resolveOperand raw columns = .word word) : word ∉ columns := by
  rw [resolveOperand] at h
  split at h
  next => cases h
  next =>
    split at h
    next => cases h
    next hany =>
      split at h
      next n _ => cases n <;> cases h
      next =>
        obtain rfl := Operand.word.inj h
        exact fun hmem => hany (List.any_eq_true.mpr ⟨_, hmem, beq_iff_eq.mpr String.toList_ofList⟩)

/-- No lexeme is written for a search. -/
theorem isSearch_of_findLexeme? {cs : List Char} {lexeme : Lexeme} {sides : List Char × List Char}
    (h : findLexeme? cs = some (lexeme, sides)) : lexeme.comparison.isSearch = false := by
  obtain ⟨found, hmem, hcut⟩ := List.exists_of_findSome?_eq_some h
  obtain ⟨cut, -, heq⟩ := Option.map_eq_some_iff.mp hcut
  obtain ⟨rfl, -⟩ := Prod.mk.inj heq
  have hall : ∀ lexeme ∈ lexemes, lexeme.comparison.isSearch = false := by decide
  exact hall found hmem

/-- A comparison is well formed, with its column on either side, ... -/
theorem formed_of_parseComparison? {cs : List Char} {c : Condition}
    (h : parseComparison? cs columns = some c) : c.Formed columns := by
  obtain ⟨⟨lexeme, left, right⟩, hlexeme, h⟩ := Option.bind_eq_some_iff.mp h
  have hsearch := isSearch_of_findLexeme? hlexeme
  dsimp only at h
  split at h
  next => cases h
  next =>
    split at h
    next column _ hcolumn =>
      obtain rfl := Option.some.inj h
      exact ⟨mem_of_resolveColumn? hcolumn, fun name hname => mem_of_resolveOperand hname,
        fun hyes => absurd hyes (by simp [hsearch])⟩
    next column _ hcolumn =>
      obtain rfl := Option.some.inj h
      exact ⟨mem_of_resolveColumn? hcolumn, fun name hname => mem_of_resolveOperand hname,
        fun hyes => absurd hyes (by simp [Comparison.isSearch_mirrored, hsearch])⟩
    next => cases h

/-- ... and so is a search. -/
theorem formed_of_parseSearch? {cs : List Char} {c : Condition}
    (h : parseSearch? cs columns = some c) : c.Formed columns := by
  obtain ⟨⟨name, word, needle⟩, -, h⟩ := Option.bind_eq_some_iff.mp h
  obtain ⟨column, hcolumn, h⟩ := Option.bind_eq_some_iff.mp h
  obtain ⟨comparison, -, h⟩ := Option.bind_eq_some_iff.mp h
  obtain rfl := Option.some.inj h
  exact ⟨mem_of_resolveColumn? hcolumn, fun name hname => (nomatch hname), fun _ => rfl⟩

/-- **Every condition** that is read from a segment is well formed. -/
theorem formed_of_parseCondition? {segment : List Char} {c : Condition}
    (h : parseCondition? segment columns = some c) : c.Formed columns := by
  rw [parseCondition?] at h
  split at h
  next => cases h
  next =>
    split at h
    next => exact formed_of_parseSearch? h
    next => exact formed_of_parseComparison? h

/-- What a condition compares with is quoted text, or what stood on the other side. -/
theorem operand_of_parseCondition? {segment : List Char} {c : Condition}
    (h : parseCondition? segment columns = some c) :
    (∃ s, c.operand = .literal s) ∨ ∃ raw, c.operand = resolveOperand raw columns := by
  rw [parseCondition?] at h
  -- a search has quoted text; a comparison takes its column from either side
  split at h
  next => cases h
  next =>
    split at h
    next =>
      obtain ⟨⟨name, word, needle⟩, -, h⟩ := Option.bind_eq_some_iff.mp h
      obtain ⟨column, -, h⟩ := Option.bind_eq_some_iff.mp h
      obtain ⟨comparison, -, h⟩ := Option.bind_eq_some_iff.mp h
      obtain rfl := Option.some.inj h
      exact .inl ⟨_, rfl⟩
    next =>
      obtain ⟨⟨lexeme, left, right⟩, -, h⟩ := Option.bind_eq_some_iff.mp h
      dsimp only at h
      split at h
      next => cases h
      next =>
        split at h
        next =>
          obtain rfl := Option.some.inj h
          exact .inr ⟨_, rfl⟩
        next =>
          obtain rfl := Option.some.inj h
          exact .inr ⟨_, rfl⟩
        next => cases h

end Expression

/-! ## Rules

  Dropped segments leave their connectives behind, so a rule may have too many of them, and never
  too few. -/

/-- Do the connectives join so many outcomes one by one, so that each of them is read? -/
def JoinsAll (connectives : List Connective) (count : Nat) : Prop :=
  ∀ first rest, (first :: rest).length = count → ∃ steps : List (Bool × Connective),
    steps.map Prod.fst = rest ∧ steps.map Prod.snd <+: connectives ∧
    combine (first :: rest) connectives =
      steps.foldl (fun joined (next, c) => c.apply joined next) first

/-- With a connective between every two outcomes, all are joined. -/
theorem joinsAll_of_le {connectives : List Connective} {count : Nat}
    (h : count ≤ connectives.length + 1) : JoinsAll connectives count := by
  intro first rest hcount
  have hle : rest.length ≤ connectives.length := by
    rw [List.length_cons] at hcount
    omega
  have hzip : rest.zip connectives = rest.zip (connectives.take rest.length) := by
    conv_lhs => rw [← List.take_append_drop rest.length connectives, ← List.append_nil rest]
    rw [List.zip_append (by simp [hle]), List.append_nil, List.zip_nil_left, List.append_nil]
  refine ⟨rest.zip connectives, List.map_fst_zip hle, ?_, rfl⟩
  rw [hzip, List.map_snd_zip (List.length_take_le ..)]
  exact List.take_prefix ..

/-- A rule of conditions or of references, never of both, that its connectives join, and that
    is described by the expression. -/
structure Rule.Formed (expression : String) (columns : List String) (rule : Rule) : Prop where
  /-- Conditions or references, but not both. -/
  kind : (rule.conditions ≠ [] ∧ rule.references = []) ∨
    (rule.conditions = [] ∧ rule.references ≠ [])
  /-- References are the word `Rule` with a number. -/
  references : ∀ reference ∈ rule.references, Expression.IsReference reference.toList
  /-- Conditions are well formed. -/
  conditions : ∀ c ∈ rule.conditions, c.Formed columns
  /-- The description is the expression without the blanks around it. -/
  description : rule.description = trimmed expression
  /-- There are enough connectives, ... -/
  connectives : rule.conditions.length + rule.references.length ≤ rule.connectives.length + 1
  /-- ... so that all outcomes are joined. -/
  joined : JoinsAll rule.connectives (rule.conditions.length + rule.references.length)

namespace Parser

open Expression

variable {registry : Registry} {name : String} {expression : String} {columns : List String}

/-- A rule of references is well formed: it has a reference, since the scanners agree, and no
    conditions, ... -/
theorem formed_referenceRule (h : isReferenceExpression (trim expression.toList) = true) :
    (referenceRule registry name (trim expression.toList)).1.Formed expression columns := by
  have hlength := length_parseReferences (trim expression.toList)
  have hle : (List.length ([] : List Condition)) +
      ((parseReferences (trim expression.toList)).1.map String.ofList).length ≤
        (parseReferences (trim expression.toList)).2.length + 1 := by
    rw [List.length_nil, List.length_map, Nat.zero_add]
    exact hlength
  refine ⟨.inr ⟨rfl, ?_⟩, ?_, fun c hc => (nomatch hc), rfl, hle, joinsAll_of_le hle⟩
  · exact fun hnil => parseReferences_ne_nil h (List.map_eq_nil_iff.mp hnil)
  · intro reference hmem
    obtain ⟨cs, hcs, rfl⟩ := List.mem_map.mp hmem
    rw [String.toList_ofList]
    exact isReference_of_mem_parseReferences hcs

/-- Segments may be dropped, but then the connectives around them stay. -/
theorem length_conditions_le (chain : Chain) (columns : List String) :
    ((segmentsOf chain).filterMap (parseCondition? · columns)).length ≤
      chain.connectives.length + 1 :=
  calc ((segmentsOf chain).filterMap (parseCondition? · columns)).length
    _ ≤ (segmentsOf chain).length := List.length_filterMap_le ..
    _ ≤ (chain.segments.map trim).length := List.length_filter_le ..
    _ = chain.connectives.length + 1 := by rw [List.length_map, Chain.length_segments]

/-- ... and so is a rule of conditions, as the parser gives up where none is left. -/
theorem formed_conditionRule {rule : Rule}
    (h : (conditionRule name (trim expression.toList) columns).1 = .ok rule) :
    rule.Formed expression columns := by
  rw [conditionRule] at h
  dsimp only at h
  split at h
  next => cases h
  next hne =>
    obtain rfl := Except.ok.inj h
    have hle := length_conditions_le (Chain.cut wordAt? (trim expression.toList)) columns
    refine ⟨.inl ⟨hne, rfl⟩, fun reference hmem => (nomatch hmem), ?_, rfl, hle,
      joinsAll_of_le hle⟩
    intro c hc
    obtain ⟨segment, -, hread⟩ := List.mem_filterMap.mp hc
    exact formed_of_parseCondition? hread

/-- **Whatever a parser returns** is well formed. -/
theorem formed_of_parse {parser : Parser} {given : Option String} {rule : Rule}
    (h : (parser.parse registry expression columns given).result = .ok rule) :
    rule.Formed expression columns := by
  rw [parse] at h
  dsimp only at h
  split at h
  next => cases h
  next =>
    -- The two kinds of rule: references if the whole text reads as such, else conditions.
    by_cases hreference : isReferenceExpression (trim expression.toList) = true
    · simp only [hreference, if_true] at h
      obtain rfl := Except.ok.inj h
      exact formed_referenceRule hreference
    · simp only [hreference] at h
      split at h
      next rule' hrule =>
        obtain rfl := Except.ok.inj h
        exact formed_conditionRule hrule
      next => cases h

/-- What stays of three segments: two conditions, with both connectives. -/
def keptRule : Rule :=
  .ofConditions "A_1_AND_nonsense_OR_b_contain"
    [⟨"A", .greaterThan, .int 1⟩, ⟨"B", .contains, .literal "x"⟩] [.and, .or]
    "A > 1 AND nonsense OR b contains 'x'"

/-- Two conditions are left of three segments, with two connectives between them. -/
theorem formed_of_parse_with_dropped_segment :
    (fresh.parse .empty " A > 1 AND nonsense OR b contains 'x'" ["A", "B"] none).result =
      .ok keptRule ∧
    keptRule.Formed " A > 1 AND nonsense OR b contains 'x'" ["A", "B"] :=
  have h : (fresh.parse .empty " A > 1 AND nonsense OR b contains 'x'" ["A", "B"] none).result =
      .ok keptRule := by decide +kernel
  ⟨h, formed_of_parse h⟩

end Parser

end TableRules
