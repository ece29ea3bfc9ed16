/-
  KEYWORDS: where a keyword stands as a word, and where a text is cut at connectives.

  1. **Letters** — what counts as a letter of a keyword is a word character.  So a keyword cannot
     reach across a word boundary.

  2. **Words** — a text HOLDS a keyword if it stands somewhere between two boundaries.  `hasWord`
     finds out (`hasWord_iff`).  Where there is a boundary between two texts, each can be looked
     through on its own (`hasWord_append`).

  3. **Chains** — a text is cut exactly where it holds connectives.  What holds none is passed
     over (`cut_append`), and where one stands the text is joined (`cut_keyword`).

  A scanner goes from left to right and carries the character in front of where it is, since that
  decides whether a word can start here.  Everything about it is therefore first shown for any
  such character, and `hasWord_of_edge` says when it can be forgotten.  The crux is that a
  boundary on one side of the seam is enough: the last character before it or the first one behind
  it is no part of a word, so no word lies across, and none that ends at the seam or starts there
  is changed.
-/
import TableRules.Expression.Chain
import TableRules.Expression.ConditionText
import TableRules.Proofs.Texts

namespace TableRules.Expression

open Text

/-! ## Letters

  Two characters count as the same letter of a keyword if they are folded to the same one. Beyond
  ASCII there are two that are folded into it, which is why not every keyword is spelled in ASCII
  alone. -/

/-- The keywords of the connectives. -/
def connectiveWords : List (List Char) := connectiveKeywords.map (·.1)

/-- The words that the rule language has for itself. -/
def reservedWords : List (List Char) := connectiveWords ++ searchWords

example : reservedWords = ["and".toList, "or".toList, "contains".toList, "starts_with".toList,
    "ends_with".toList] := by decide

/-- A keyword is made of plain characters. -/
structure Lettered (keyword : List Char) : Prop where
  ne_nil : keyword ≠ []
  plain : ∀ c ∈ keyword, isPlain c = true

/-- The words of the rule language are made of plain characters. -/
theorem lettered_of_mem_reservedWords {keyword : List Char} (h : keyword ∈ reservedWords) :
    Lettered keyword := by
  have hall : ∀ keyword ∈ reservedWords, keyword ≠ [] ∧ ∀ c ∈ keyword, isPlain c = true := by
    decide
  exact ⟨(hall keyword h).1, (hall keyword h).2⟩

/-- What counts as a plain character in a keyword is a word character. -/
theorem isWordChar_of_foldLetter {c : Char} (h : isPlain (foldLetter c) = true) :
    isWordChar c = true := by
  rw [foldLetter] at h
  split at h
  next hs => rw [hs]; decide +kernel
  next =>
    split at h
    next hk => rw [hk]; decide +kernel
    next => exact isWordChar_of_isPlain (isPlain_toLower c ▸ h)

/-- In ASCII a letter counts as its lower case. -/
theorem foldLetter_of_ascii {c : Char} (hc : c.toNat < 128) : foldLetter c = c.toLower :=
  forall_of_ascii (P := fun c => foldLetter c = c.toLower) (by decide) hc

/-- In ASCII to spell a keyword is to be it in lower case. -/
theorem spells_of_ascii {keyword cs : List Char} (h : ∀ c ∈ cs, c.toNat < 128) :
    spells keyword cs = true ↔ lowerAscii cs = keyword := by
  rw [spells, beq_iff_eq, lowerAscii, List.map_congr_left fun c hc => foldLetter_of_ascii (h c hc)]

/-- A keyword may be written in any letter case. -/
theorem spells_of_lowerAscii {keyword word : List Char} (hplain : ∀ c ∈ keyword, isPlain c = true)
    (h : lowerAscii word = keyword) : spells keyword word = true := by
  refine (spells_of_ascii fun c hc => toNat_lt_of_toLower ?_).mpr h
  refine lt_of_isPlain (hplain _ ?_)
  rw [← h]
  exact List.mem_map_of_mem hc

/-- Only `s` and `k` are written outside ASCII too, as the long s and the sign for kelvin. Without
    these two letters a keyword is spelled in ASCII. -/
theorem lowerAscii_of_spells {keyword word : List Char} (hs : 's' ∉ keyword) (hk : 'k' ∉ keyword)
    (h : spells keyword word = true) : lowerAscii word = keyword := by
  rw [← beq_iff_eq.mp h]
  refine List.map_congr_left fun c hc => ?_
  have hmem : foldLetter c ∈ keyword := by
    rw [← beq_iff_eq.mp h]
    exact List.mem_map_of_mem hc
  rw [foldLetter] at hmem ⊢
  split at hmem
  next => exact absurd hmem hs
  next hnots =>
    rw [if_neg hnots]
    split at hmem
    next => exact absurd hmem hk
    next hnotk => rw [if_neg hnotk]

section Spelled

variable {keyword word : List Char} (h : spells keyword word = true)
include h

/-- What spells a keyword is as long, ... -/
theorem length_of_spells : word.length = keyword.length := by
  rw [← beq_iff_eq.mp h, List.length_map]

/-- ... is made of characters of words ... -/
theorem isWordChar_of_spells (hplain : ∀ c ∈ keyword, isPlain c = true) :
    ∀ c ∈ word, isWordChar c = true := by
  intro c hc
  refine isWordChar_of_foldLetter (hplain _ ?_)
  rw [← beq_iff_eq.mp h]
  exact List.mem_map_of_mem hc

/-- ... and is not empty. -/
theorem ne_nil_of_spells (hne : keyword ≠ []) : word ≠ [] := by
  rintro rfl
  exact hne (beq_iff_eq.mp h).symm

end Spelled

/-! ## Words

  `hasWord` asks at every character whether a keyword starts there, and it may start only at an
  edge. These lemmas say when the answer for a text is that for its parts. -/

/-- Does the keyword stand somewhere in the text, between word boundaries? -/
def HoldsWord (keyword cs : List Char) : Prop :=
  ∃ before word after, cs = before ++ (word ++ after) ∧ spells keyword word = true ∧
    isEdge before.getLast? = true ∧ isEdge after.head? = true

/-- An edge is no word character. -/
theorem isEdge_iff {neighbour : Option Char} :
    isEdge neighbour = true ↔ ∀ c ∈ neighbour, isWordChar c = false := by
  cases neighbour <;> simp [isEdge]

/-- A text without characters of words starts at a boundary ... -/
theorem isEdge_head? {cs : List Char} (h : ∀ c ∈ cs, isWordChar c = false) :
    isEdge cs.head? = true := isEdge_iff.mpr fun c hc => h c (List.mem_of_mem_head? hc)

/-- ... and ends at one. -/
theorem isEdge_getLast? {cs : List Char} (h : ∀ c ∈ cs, isWordChar c = false) :
    isEdge cs.getLast? = true := isEdge_iff.mpr fun c hc => h c (List.mem_of_mem_getLast? hc)

/-- A keyword at the start of a text is a word in front of a boundary. -/
theorem startsWithWord_iff {keywords : List (List Char)} {cs : List Char} :
    startsWithWord keywords cs = true ↔ ∃ keyword ∈ keywords, ∃ word after,
      cs = word ++ after ∧ spells keyword word = true ∧ isEdge after.head? = true := by
  rw [startsWithWord, List.any_eq_true]
  refine exists_congr fun keyword => and_congr_right fun _ => ?_
  rw [afterKeyword?]
  constructor
  · intro h
    by_cases hspells : spells keyword (cs.take keyword.length) = true
    · rw [if_pos hspells] at h
      exact ⟨_, _, (List.take_append_drop ..).symm, hspells, h⟩
    · rw [if_neg hspells] at h
      cases h
  · rintro ⟨word, after, rfl, hspells, hedge⟩
    rw [← length_of_spells hspells, List.take_left, List.drop_left, if_pos hspells]
    exact hedge

/-- What stands in front of the next character. -/
theorem getLast?_cons_or (c : Char) (cs : List Char) (before : Option Char) :
    (c :: cs).getLast?.or before = cs.getLast?.or (some c) := by
  simp [List.getLast?_cons]

/-- Within a word no keyword starts. -/
theorem hasWord_inside {keywords : List (List Char)} {before : Option Char} {word : List Char}
    (hbefore : isEdge before = false) (h : ∀ c ∈ word, isWordChar c = true) :
    hasWord keywords before word = false := by
  induction word generalizing before with
  | nil => rfl
  | cons c word ih =>
    have hc : isEdge (some c) = false := by simp [isEdge, h c (List.mem_cons_self ..)]
    rw [hasWord, hbefore, Bool.false_and, Bool.false_or,
      ih hc fun d hd => h d (List.mem_cons_of_mem _ hd)]

section Lettered

variable {keywords : List (List Char)} (hkeywords : ∀ keyword ∈ keywords, Lettered keyword)
include hkeywords

/-- No keyword starts where no word does. -/
theorem startsWithWord_of_edge {cs : List Char} (h : isEdge cs.head? = true) :
    startsWithWord keywords cs = false := by
  rw [← Bool.not_eq_true]
  intro hstarts
  obtain ⟨keyword, hmem, word, after, rfl, hspells, -⟩ := startsWithWord_iff.mp hstarts
  have hlettered := hkeywords keyword hmem
  obtain ⟨c, rest, rfl⟩ := List.exists_cons_of_ne_nil (ne_nil_of_spells hspells hlettered.ne_nil)
  have hc := isWordChar_of_spells hspells hlettered.plain c (List.mem_cons_self ..)
  have hnone := isEdge_iff.mp h c rfl
  rw [hc] at hnone
  cases hnone

/-- What stands beyond a boundary does not matter. -/
theorem startsWithWord_append {cs rest : List Char} (hne : cs ≠ [])
    (hedge : isEdge cs.getLast? = true ∨ isEdge rest.head? = true) :
    startsWithWord keywords (cs ++ rest) = startsWithWord keywords cs := by
  -- a word that takes up all of the text has the boundary behind it
  have hwhole : ∀ {keyword}, keyword ∈ keywords → spells keyword cs = true →
      isEdge rest.head? = true := by
    intro keyword hmem hspells
    rcases hedge with hlast | hrest
    · have hlast' : cs.getLast? = some (cs.getLast hne) := List.getLast?_eq_some_getLast hne
      have hword := isWordChar_of_spells hspells (hkeywords keyword hmem).plain _
        (List.getLast_mem hne)
      rw [isEdge_iff.mp hlast _ hlast'] at hword
      cases hword
    · exact hrest
  rw [Bool.eq_iff_iff, startsWithWord_iff, startsWithWord_iff]
  refine exists_congr fun keyword => and_congr_right fun hmem => ?_
  constructor
  · rintro ⟨word, after, heq, hspells, hafter⟩
    rcases List.append_eq_append_iff.mp heq with ⟨more, rfl, rfl⟩ | ⟨more, rfl, rfl⟩
    · -- the word would go on beyond the boundary
      cases more with
      | nil => exact ⟨cs, [], by rw [List.append_nil], by rwa [List.append_nil] at hspells, rfl⟩
      | cons c more =>
        have hword := isWordChar_of_spells hspells (hkeywords keyword hmem).plain
        have hc := hword c (by simp)
        have hlast := hword (cs.getLast hne) (List.mem_append_left _ (List.getLast_mem hne))
        rcases hedge with hedge | hedge
        · rw [isEdge_iff.mp hedge _ (List.getLast?_eq_some_getLast hne)] at hlast
          cases hlast
        · rw [isEdge_iff.mp hedge c rfl] at hc
          cases hc
    · refine ⟨word, more, rfl, hspells, ?_⟩
      cases more with
      | nil => rfl
      | cons c more => exact hafter
  · rintro ⟨word, after, rfl, hspells, hafter⟩
    refine ⟨word, after ++ rest, List.append_assoc .., hspells, ?_⟩
    cases after with
    | nil => exact hwhole hmem (by rwa [List.append_nil])
    | cons c after => exact hafter

/-- At a boundary it does not matter what stands in front. -/
theorem hasWord_of_edge {before : Option Char} {cs : List Char}
    (h : isEdge before = true ∨ isEdge cs.head? = true) :
    hasWord keywords before cs = hasWord keywords none cs := by
  cases cs with
  | nil => rfl
  | cons c cs =>
    rw [hasWord, hasWord]
    rcases h with h | h
    · rw [h]
      rfl
    · rw [startsWithWord_of_edge hkeywords h, Bool.and_false, Bool.and_false]

/-- **Two texts with a boundary between them** are looked through one by one. By induction on the
    first, with any character in front of it. -/
theorem hasWord_append {cs rest : List Char}
    (hedge : isEdge cs.getLast? = true ∨ isEdge rest.head? = true) :
    hasWord keywords none (cs ++ rest) =
      (hasWord keywords none cs || hasWord keywords none rest) := by
  have hafter : ∀ before, isEdge (cs.getLast?.or before) = true ∨ isEdge rest.head? = true →
      hasWord keywords before (cs ++ rest) =
        (hasWord keywords before cs || hasWord keywords none rest) := by
    induction cs with
    | nil => exact fun before h => hasWord_of_edge hkeywords h
    | cons c cs ih =>
      intro before h
      have hlast' : (c :: cs).getLast? = cs.getLast?.or (some c) := by
        rw [← getLast?_cons_or c cs none, Option.or_none]
      rw [getLast?_cons_or] at h
      -- a boundary at the end of the text is one at the end of the rest, if that is not empty
      have hedge' : isEdge cs.getLast? = true ∨ isEdge rest.head? = true := by
        refine h.imp_left fun h => ?_
        cases hcs : cs.getLast? with
        | none => rfl
        | some d => rwa [hcs] at h
      rw [List.cons_append, hasWord, hasWord, ih hedge' (some c) h, ← List.cons_append,
        startsWithWord_append hkeywords (List.cons_ne_nil c cs) (by rwa [hlast']), Bool.or_assoc]
  exact hafter none (by rwa [Option.or_none])

/-- A single word holds the keyword that it is. -/
theorem hasWord_of_word {word : List Char} (h : ∀ c ∈ word, isWordChar c = true) :
    hasWord keywords none word = true ↔ ∃ keyword ∈ keywords, spells keyword word = true := by
  cases word with
  | nil =>
    refine ⟨fun hnone => (nomatch hnone), fun ⟨keyword, hmem, hspells⟩ => ?_⟩
    exact absurd rfl (ne_nil_of_spells hspells (hkeywords keyword hmem).ne_nil)
  | cons c word =>
    have hc : isEdge (some c) = false := by simp [isEdge, h c (List.mem_cons_self ..)]
    rw [hasWord, hasWord_inside hc fun d hd => h d (List.mem_cons_of_mem _ hd),
      Bool.or_false, show isEdge none = true from rfl, Bool.true_and, startsWithWord_iff]
    refine exists_congr fun keyword => and_congr_right fun hmem => ?_
    constructor
    -- a keyword that is only the start of the word has no boundary behind it
    · rintro ⟨first, after, heq, hspells, hedge⟩
      cases after with
      | nil => rwa [heq, List.append_nil]
      | cons d after =>
        have hd := h d (by rw [heq]; simp)
        rw [isEdge_iff.mp hedge d rfl] at hd
        cases hd
    · exact fun hspells => ⟨c :: word, [], (List.append_nil _).symm, hspells, rfl⟩

/-- What has no word in it has no keyword. -/
theorem hasWord_of_no_word {before : Option Char} {cs : List Char}
    (h : ∀ c ∈ cs, isWordChar c = false) : hasWord keywords before cs = false := by
  induction cs generalizing before with
  | nil => rfl
  | cons c cs ih =>
    rw [hasWord, startsWithWord_of_edge hkeywords (isEdge_head? h),
      ih fun d hd => h d (List.mem_cons_of_mem _ hd), Bool.and_false, Bool.false_or]

end Lettered

/-- Where a keyword is found in a text that follows a character. By induction on the text: it starts
    here, or in the rest. -/
theorem hasWord_eq_true {keywords : List (List Char)} {before : Option Char} {cs : List Char} :
    hasWord keywords before cs = true ↔ ∃ front c back, cs = front ++ c :: back ∧
      isEdge (front.getLast?.or before) = true ∧ startsWithWord keywords (c :: back) = true := by
  induction cs generalizing before with
  | nil => simp [hasWord]
  | cons c cs ih =>
    rw [hasWord, Bool.or_eq_true, Bool.and_eq_true, ih]
    constructor
    -- Either the word stands here or it stands further on, with one character more in front of it.
    · rintro (⟨hedge, hstarts⟩ | ⟨front, d, back, rfl, hedge, hstarts⟩)
      · exact ⟨[], c, cs, rfl, hedge, hstarts⟩
      · exact ⟨c :: front, d, back, rfl, by rwa [getLast?_cons_or], hstarts⟩
    · rintro ⟨front, d, back, heq, hedge, hstarts⟩
      cases front with
      | nil =>
        obtain ⟨rfl, rfl⟩ := List.cons.inj heq
        exact .inl ⟨hedge, hstarts⟩
      | cons e front =>
        obtain ⟨rfl, rfl⟩ := List.cons.inj heq
        rw [getLast?_cons_or] at hedge
        exact .inr ⟨front, d, back, rfl, hedge, hstarts⟩

/-- **A text has a keyword** if and only if it holds it as a word. -/
theorem hasWord_iff {keywords : List (List Char)}
    (hkeywords : ∀ keyword ∈ keywords, Lettered keyword) {cs : List Char} :
    hasWord keywords none cs = true ↔ ∃ keyword ∈ keywords, HoldsWord keyword cs := by
  rw [hasWord_eq_true]
  constructor
  · rintro ⟨front, c, back, rfl, hedge, hstarts⟩
    obtain ⟨keyword, hmem, word, after, heq, hspells, hafter⟩ := startsWithWord_iff.mp hstarts
    rw [Option.or_none] at hedge
    exact ⟨keyword, hmem, front, word, after, by rw [heq], hspells, hedge, hafter⟩
  · rintro ⟨keyword, hmem, before, word, after, rfl, hspells, hedge, hafter⟩
    obtain ⟨c, word, rfl⟩ := List.exists_cons_of_ne_nil
      (ne_nil_of_spells hspells (hkeywords keyword hmem).ne_nil)
    refine ⟨before, c, word ++ after, rfl, by rwa [Option.or_none], ?_⟩
    exact startsWithWord_iff.mpr ⟨keyword, hmem, c :: word, after, rfl, hspells, hafter⟩

/-- And it has none if it holds none. -/
theorem hasWord_eq_false_iff {keywords : List (List Char)}
    (hkeywords : ∀ keyword ∈ keywords, Lettered keyword) {cs : List Char} :
    hasWord keywords none cs = false ↔ ∀ keyword ∈ keywords, ¬ HoldsWord keyword cs := by
  rw [← Bool.not_eq_true, hasWord_iff hkeywords]
  simp only [not_exists, not_and]

/-! ## Connectives

  What is found at the start of a text: the keyword there tells the connective, and its length where
  the text goes on. -/

/-- The connectives are made of plain characters, ... -/
theorem lettered_connectiveWords : ∀ keyword ∈ connectiveWords, Lettered keyword :=
  fun _ h => lettered_of_mem_reservedWords (List.mem_append_left _ h)

/-- ... and so are the words of searches. -/
theorem lettered_searchWords : ∀ keyword ∈ searchWords, Lettered keyword :=
  fun _ h => lettered_of_mem_reservedWords (List.mem_append_right _ h)

/-- The keyword of a connective is its symbol, and no other starts like it. -/
theorem keywordAt?_of_spells {connective : Connective} {word : List Char}
    (h : spells connective.symbol.toList word = true) (rest : List Char) :
    keywordAt? (word ++ rest) = some (connective, word.length) := by
  have hfold := beq_iff_eq.mp h
  have hlength := length_of_spells h
  cases connective with
  | and =>
    -- A spelling has the length of its keyword, so its letters can be named.
    match word, hlength with
    | [a, b, c], _ =>
      obtain ⟨ha, hb, hc⟩ : foldLetter a = 'a' ∧ foldLetter b = 'n' ∧ foldLetter c = 'd' := by
        simpa [Connective.symbol] using hfold
      simp [keywordAt?, connectiveKeywords, spells, ha, hb, hc]
  | or =>
    match word, hlength with
    | [a, b], _ =>
      obtain ⟨ha, hb⟩ : foldLetter a = 'o' ∧ foldLetter b = 'r' := by
        simpa [Connective.symbol] using hfold
      simp [keywordAt?, connectiveKeywords, spells, ha, hb]

/-- What is found at the start of a text is the keyword of a connective. -/
theorem spells_of_keywordAt? {cs : List Char} {connective : Connective} {n : Nat}
    (h : keywordAt? cs = some (connective, n)) :
    spells connective.symbol.toList (cs.take n) = true := by
  obtain ⟨⟨keyword, found⟩, hfind, heq⟩ := Option.map_eq_some_iff.mp h
  obtain ⟨rfl, rfl⟩ := Prod.mk.inj heq
  have hspells := List.find?_some hfind
  have hmem := List.mem_of_find?_eq_some hfind
  have hall : ∀ entry ∈ connectiveKeywords, entry.2.symbol.toList = entry.1 := by decide
  rw [hall _ hmem]
  exact hspells

/-- The symbol of a connective is a keyword, ... -/
theorem symbol_mem_connectiveWords (connective : Connective) :
    connective.symbol.toList ∈ connectiveWords := by
  cases connective <;> decide

/-- ... and each keyword is the symbol of a connective. -/
theorem exists_of_mem_connectiveWords {keyword : List Char} (h : keyword ∈ connectiveWords) :
    ∃ connective : Connective, connective.symbol.toList = keyword := by
  have hall : ∀ keyword ∈ connectiveWords, keyword = Connective.and.symbol.toList ∨
      keyword = Connective.or.symbol.toList := by decide
  rcases hall keyword h with rfl | rfl
  · exact ⟨.and, rfl⟩
  · exact ⟨.or, rfl⟩

/-- A connective that stands as a word is found, and nothing but its word is taken. -/
theorem wordAt?_of_spells {connective : Connective} {word rest : List Char} {before : Option Char}
    (h : spells connective.symbol.toList word = true) (hbefore : isEdge before = true)
    (hrest : isEdge rest.head? = true) : ∃ m, wordAt? before (word ++ rest) = some m ∧
      m.connective = connective ∧ m.lexeme = word ∧ m.rest = rest := by
  have hlettered := lettered_connectiveWords _ (symbol_mem_connectiveWords connective)
  have hne := ne_nil_of_spells h hlettered.ne_nil
  rw [wordAt?]
  simp only [keywordAt?_of_spells h]
  have htake : (word ++ rest).take word.length = word := List.take_left
  have hdrop : (word ++ rest).drop word.length = rest := List.drop_left
  rw [dif_pos (by rwa [htake]), if_pos (by rw [hbefore, hdrop, hrest]; rfl)]
  exact ⟨_, rfl, rfl, htake, hdrop⟩

/-- There is a connective to be found where a keyword starts at a boundary. -/
theorem isSome_wordAt? {before : Option Char} {cs : List Char} :
    (wordAt? before cs).isSome = true ↔
      isEdge before = true ∧ startsWithWord connectiveWords cs = true := by
  constructor
  · intro h
    rw [wordAt?] at h
    split at h
    next connective n hkeyword =>
      split at h
      next =>
        split at h
        next hedges =>
          obtain ⟨hbefore, hafter⟩ := Bool.and_eq_true_iff.mp hedges
          refine ⟨hbefore, startsWithWord_iff.mpr ⟨_, symbol_mem_connectiveWords connective,
            cs.take n, cs.drop n, (List.take_append_drop n cs).symm, ?_, hafter⟩⟩
          exact spells_of_keywordAt? hkeyword
        next => cases h
      next => cases h
    next => cases h
  · rintro ⟨hbefore, hstarts⟩
    -- The keyword that starts here is the lexeme of a connective, with an edge on both sides.
    obtain ⟨keyword, hmem, word, after, rfl, hspells, hafter⟩ := startsWithWord_iff.mp hstarts
    obtain ⟨connective, rfl⟩ := exists_of_mem_connectiveWords hmem
    obtain ⟨m, hm, -⟩ := wordAt?_of_spells hspells hbefore hafter
    rw [hm]
    rfl

/-- No connective is found within a word, or where none starts. -/
theorem wordAt?_eq_none {before : Option Char} {cs : List Char}
    (h : isEdge before = true → startsWithWord connectiveWords cs = false) :
    wordAt? before cs = none := by
  rw [← Option.isNone_iff_eq_none, ← Option.isSome_eq_false_iff, ← Bool.not_eq_true,
    isSome_wordAt?]
  rintro ⟨hbefore, hstarts⟩
  rw [h hbefore] at hstarts
  cases hstarts

/-! ## Chains

  The same cut for any finder, and then for connectives that stand as words. A text without
  connectives is passed over whole, and one that starts with a connective is joined there. -/

/-- The chain with more text in front. -/
def Chain.prepend (cs : List Char) (chain : Chain) : Chain := ⟨cs ++ chain.head, chain.tail⟩

/-- Text in which nothing is found is passed over. -/
theorem cutAfter_append {find? : Finder} {before : Option Char} {cs rest : List Char}
    (h : ∀ front c back, cs = front ++ c :: back →
      find? (front.getLast?.or before) (c :: (back ++ rest)) = none) :
    Chain.cutAfter find? before (cs ++ rest) =
      (Chain.cutAfter find? (cs.getLast?.or before) rest).prepend cs := by
  induction cs generalizing before with
  | nil => rfl
  | cons c cs ih =>
    have hnone := h [] c cs rfl
    rw [List.cons_append, Chain.cutAfter.eq_def]
    simp only [show find? before (c :: (cs ++ rest)) = none from hnone]
    rw [ih, getLast?_cons_or]
    · rfl
    · intro front d back heq
      have hfound := h (c :: front) d back (by rw [heq]; rfl)
      rwa [getLast?_cons_or] at hfound

/-- At a boundary it does not matter what stands in front. -/
theorem cutAfter_of_edge {before : Option Char} {cs : List Char}
    (h : isEdge before = true ∨ isEdge cs.head? = true) :
    Chain.cutAfter wordAt? before cs = Chain.cut wordAt? cs := by
  have hfound : wordAt? before cs = wordAt? none cs := by
    rcases h with h | h
    · simp only [wordAt?, h]
      rfl
    · have hstarts := startsWithWord_of_edge lettered_connectiveWords h
      rw [wordAt?_eq_none fun _ => hstarts, wordAt?_eq_none fun _ => hstarts]
  rw [Chain.cut, Chain.cutAfter.eq_def, Chain.cutAfter.eq_def, hfound]

/-- **What holds no connective is passed over**, up to a boundary. -/
theorem cut_append {cs rest : List Char} (h : hasWord connectiveWords none cs = false)
    (hedge : isEdge cs.getLast? = true ∨ isEdge rest.head? = true) :
    Chain.cut wordAt? (cs ++ rest) = (Chain.cut wordAt? rest).prepend cs := by
  rw [Chain.cut, cutAfter_append, Option.or_none, cutAfter_of_edge hedge]
  intro front c back heq
  refine wordAt?_eq_none fun hbefore => ?_
  have hlast : (c :: back).getLast? = cs.getLast? := by
    rw [heq, List.getLast?_append_of_ne_nil _ (List.cons_ne_nil c back)]
  rw [← List.cons_append, startsWithWord_append lettered_connectiveWords (List.cons_ne_nil c back)
    (by rwa [hlast]), ← Bool.not_eq_true]
  intro hstarts
  rw [hasWord_eq_true.mpr ⟨front, c, back, heq, hbefore, hstarts⟩] at h
  cases h

/-- **Where a connective stands** the text is joined. -/
theorem cut_keyword {connective : Connective} {word rest : List Char}
    (h : spells connective.symbol.toList word = true) (hrest : isEdge rest.head? = true) :
    Chain.cut wordAt? (word ++ rest) = (Chain.cut wordAt? rest).join ⟨connective, word⟩ := by
  obtain ⟨m, hm, hconnective, hlexeme, hleft⟩ :=
    wordAt?_of_spells h (show isEdge none = true from rfl) hrest
  rw [Chain.cut, Chain.cutAfter.eq_def]
  simp only [hm, hconnective, hlexeme, hleft]
  rw [cutAfter_of_edge (.inr hrest)]

/-- A text is cut if and only if it holds a connective. -/
theorem tail_cutAfter_eq_nil_iff {before : Option Char} {cs : List Char} :
    (Chain.cutAfter wordAt? before cs).tail = [] ↔ hasWord connectiveWords before cs = false := by
  generalize hfind : wordAt? = find?
  fun_induction Chain.cutAfter find? before cs with
  | case1 before cs m hm ih =>
    subst hfind
    -- A connective is cut here: the chain has a second segment and the text holds the word.
    obtain ⟨hbefore, hstarts⟩ := isSome_wordAt?.mp (Option.isSome_of_eq_some hm)
    refine ⟨fun h => absurd h (List.cons_ne_nil _ _), fun h => ?_⟩
    cases cs with
    | nil =>
      obtain ⟨keyword, hmem, word, after, heq, hspells, -⟩ := startsWithWord_iff.mp hstarts
      obtain ⟨rfl, -⟩ := List.append_eq_nil_iff.mp heq.symm
      exact absurd rfl (ne_nil_of_spells hspells (lettered_connectiveWords keyword hmem).ne_nil)
    | cons c cs =>
      have hhere : hasWord connectiveWords before (c :: cs) = true :=
        hasWord_eq_true.mpr ⟨[], c, cs, rfl, hbefore, hstarts⟩
      rw [hhere] at h
      cases h
  | case2 before h => exact ⟨fun _ => rfl, fun _ => rfl⟩
  | case3 before c cs hnone ih =>
    subst hfind
    -- No connective here: both sides go on behind the first character.
    rw [Chain.push, ih, hasWord]
    have hhere : (isEdge before && startsWithWord connectiveWords (c :: cs)) = false := by
      rw [← Bool.not_eq_true, Bool.and_eq_true, ← isSome_wordAt?, hnone]
      exact Bool.false_ne_true
    rw [hhere, Bool.false_or]

/-- A text that holds no connective is one segment. -/
theorem cut_eq_single {cs : List Char} (h : hasWord connectiveWords none cs = false) :
    Chain.cut wordAt? cs = ⟨cs, []⟩ := by
  have htail := tail_cutAfter_eq_nil_iff.mpr h
  have htext := Chain.text_cutAfter wordAt? none cs
  rw [Chain.text, htail, List.flatMap_nil, List.append_nil] at htext
  exact congrArg₂ Chain.mk htext htail

end TableRules.Expression
