/-
  DERIVED NAMES: what the name of an expression is made of, and that it stays the same.

  1. **Words** — a text is read from its end: a blank closes the word behind it, anything else
     goes in front of it (`wordsFrom_blank`, `wordsFrom_char`).  So the words hold what is not
     blank in the text, none of them is empty, and with one more character before each but the
     first they still fit into the text (`Worded`).

  2. **Joined words** — an underscore stands between every two, in the place of at least one blank.
     That is why a name is no longer than the characters that it is made from.

  3. **Names** — no name comes from blanks alone; any other name is one word of letters, numbers and
     underscores, and gives itself (`deriveName?_normal`).

  The crux is that a name must not be longer than thirty characters, or deriving a name from it
  would cut it.  Thirty are taken before the words are joined, and joining puts characters in; but
  it puts one for each gap between words, and a gap took one at least.  `Worded` carries this from
  the end of the text to its start: the words, with one place in front of each after the first,
  never take more room than the text that they are from.
-/
import TableRules.Expression.RuleName
import TableRules.Proofs.Texts

namespace TableRules.Text

/-! ## Words

  From the end of the text to its start, as the words are gathered. -/

/-- A blank closes the word behind it. -/
theorem wordsFrom_blank {c : Char} (h : isBlank c = true) (cs : List Char) :
    wordsFrom (c :: cs) = ([], words cs) := by
  rw [wordsFrom, words]
  simp only [h, if_true]

/-- Anything else goes in front of it. -/
theorem wordsFrom_char {c : Char} (h : isBlank c = false) (cs : List Char) :
    wordsFrom (c :: cs) = (c :: (wordsFrom cs).1, (wordsFrom cs).2) := by
  rw [wordsFrom]
  simp only [h, Bool.false_eq_true, if_false]

/-- The words of a text are what is gathered, and the one that it starts with, if any. -/
theorem words_eq (cs : List Char) :
    words cs = if (wordsFrom cs).1 = [] then (wordsFrom cs).2
      else (wordsFrom cs).1 :: (wordsFrom cs).2 := by
  rw [words]
  simp only [List.isEmpty_iff]

/-- How many characters words take up, with one in front of each. -/
def spaceOf : List (List Char) → Nat
  | [] => 0
  | word :: words => word.length + 1 + spaceOf words

/-- What the words of a text are like: the one that it starts with, and those after it. -/
structure Worded (cs word : List Char) (rest : List (List Char)) : Prop where
  /-- They hold nothing but what is not blank in the text. -/
  chars : ∀ w ∈ word :: rest, ∀ c ∈ w, c ∈ cs ∧ isBlank c = false
  /-- Only at the start there may be no word. -/
  nonempty : ∀ w ∈ rest, w ≠ []
  /-- In front of each but the first there is a blank. -/
  space : word.length + spaceOf rest ≤ cs.length
  /-- A text without words is blank. -/
  blank : word = [] → rest = [] → Blank cs

namespace Worded

variable {cs word : List Char} {rest : List (List Char)}

/-- After a blank the words start anew. -/
theorem close (h : Worded cs word rest) {b : Char} (hb : isBlank b = true) :
    Worded (b :: cs) [] (if word = [] then rest else word :: rest) := by
  have hmem : ∀ w ∈ (if word = [] then rest else word :: rest), w ∈ word :: rest := by
    intro w hw
    split at hw
    · exact List.mem_cons_of_mem _ hw
    · exact hw
  refine ⟨fun w hw c hc => ?_, fun w hw => ?_, ?_, fun _ hnil => ?_⟩
  · rcases List.mem_cons.mp hw with rfl | hw
    · cases hc
    · exact (h.chars w (hmem w hw) c hc).imp_left (List.mem_cons_of_mem b)
  · split at hw
    · exact h.nonempty w hw
    next hne =>
      rcases List.mem_cons.mp hw with rfl | hw
      · exact hne
      · exact h.nonempty w hw
  · -- the blank stands in front of the word that it closes
    have hspace := h.space
    split
    · simp only [List.length_nil, List.length_cons]
      omega
    · simp only [spaceOf, List.length_nil, List.length_cons]
      omega
  · split at hnil
    next hword =>
      intro c hc
      rcases List.mem_cons.mp hc with rfl | hc
      · exact hb
      · exact h.blank hword hnil c hc
    next => cases hnil

/-- A character makes the first word longer. -/
theorem extend (h : Worded cs word rest) {d : Char} (hd : isBlank d = false) :
    Worded (d :: cs) (d :: word) rest := by
  refine ⟨fun w hw c hc => ?_, h.nonempty, ?_, fun hnil => nomatch hnil⟩
  · have hlater : ∀ w ∈ word :: rest, c ∈ w → c ∈ d :: cs ∧ isBlank c = false :=
      fun w hw hc => (h.chars w hw c hc).imp_left (List.mem_cons_of_mem d)
    rcases List.mem_cons.mp hw with rfl | hw
    · rcases List.mem_cons.mp hc with rfl | hc
      · exact ⟨List.mem_cons_self .., hd⟩
      · exact hlater word (List.mem_cons_self ..) hc
    · exact hlater w (List.mem_cons_of_mem _ hw) hc
  · have hspace := h.space
    simp only [List.length_cons]
    omega

end Worded

/-- **The words of a text**, from its end to its start. -/
theorem worded_wordsFrom (cs : List Char) : Worded cs (wordsFrom cs).1 (wordsFrom cs).2 := by
  induction cs with
  | nil =>
    refine ⟨fun w hw c hc => ?_, nofun, Nat.le_refl 0, fun _ _ => blank_nil⟩
    rw [List.mem_singleton.mp hw] at hc
    cases hc
  | cons c cs ih =>
    cases hc : isBlank c with
    | true =>
      rw [wordsFrom_blank hc, words_eq]
      exact ih.close hc
    | false =>
      rw [wordsFrom_char hc]
      exact ih.extend hc

/-- No word is empty or holds a blank. -/
theorem of_mem_words {cs w : List Char} (h : w ∈ words cs) :
    w ≠ [] ∧ ∀ c ∈ w, c ∈ cs ∧ isBlank c = false := by
  have hworded := worded_wordsFrom cs
  rw [words_eq] at h
  split at h
  · exact ⟨hworded.nonempty w h, hworded.chars w (List.mem_cons_of_mem _ h)⟩
  next hne =>
    refine ⟨?_, hworded.chars w h⟩
    rcases List.mem_cons.mp h with rfl | h
    · exact hne
    · exact hworded.nonempty w h

/-- Only blanks are without words. -/
theorem words_eq_nil_iff {cs : List Char} : words cs = [] ↔ Blank cs := by
  constructor
  · intro h
    rw [words_eq] at h
    split at h
    next hword => exact (worded_wordsFrom cs).blank hword h
    next => cases h
  · intro h
    refine List.eq_nil_iff_forall_not_mem.mpr fun w hw => ?_
    obtain ⟨hne, hchars⟩ := of_mem_words hw
    obtain ⟨c, _, rfl⟩ := List.exists_cons_of_ne_nil hne
    obtain ⟨hc, hnot⟩ := hchars c (List.mem_cons_self ..)
    rw [h c hc] at hnot
    cases hnot

/-- A text without blanks is one word. -/
theorem words_of_no_blank {cs : List Char} (hne : cs ≠ []) (h : ∀ c ∈ cs, isBlank c = false) :
    words cs = [cs] := by
  have hfrom : wordsFrom cs = (cs, []) := by
    clear hne
    induction cs with
    | nil => rfl
    | cons c cs ih =>
      rw [wordsFrom_char (h c (List.mem_cons_self ..)),
        ih fun d hd => h d (List.mem_cons_of_mem _ hd)]
  rw [words_eq, hfrom, if_neg hne]

end TableRules.Text

namespace TableRules.Expression

open Text

/-! ## Joined words

  How long they are, and what they hold. -/

/-- Joined words are as long as the first, and each of the others with its underscore. -/
theorem length_joinWords_cons (word : List Char) (rest : List (List Char)) :
    (joinWords (word :: rest)).length = word.length + spaceOf rest := by
  induction rest generalizing word with
  | nil => rfl
  | cons next rest ih =>
    rw [joinWords, List.length_append, List.length_cons, ih]
    · rw [spaceOf]
      omega
    · exact List.cons_ne_nil next rest

/-- **Joined words fit into the text** that they come from. -/
theorem length_joinWords_words_le (cs : List Char) : (joinWords (words cs)).length ≤ cs.length := by
  have hspace := (worded_wordsFrom cs).space
  rw [words_eq]
  split
  · cases hrest : (wordsFrom cs).2 with
    | nil => exact Nat.zero_le _
    | cons word rest =>
      rw [hrest] at hspace
      rw [spaceOf] at hspace
      rw [length_joinWords_cons]
      omega
  · rw [length_joinWords_cons]
    exact hspace

/-- Joined words hold underscores and the characters of the words. -/
theorem mem_joinWords {c : Char} {words : List (List Char)} (h : c ∈ joinWords words) :
    c = '_' ∨ ∃ word ∈ words, c ∈ word := by
  fun_induction joinWords words with
  | case1 => cases h
  | case2 word => exact .inr ⟨word, List.mem_cons_self .., h⟩
  | case3 word words hne ih =>
    rcases List.mem_append.mp h with h | h
    · exact .inr ⟨word, List.mem_cons_self .., h⟩
    · rcases List.mem_cons.mp h with h | h
      · exact .inl h
      · refine (ih h).imp_right fun ⟨other, hother, hc⟩ => ?_
        exact ⟨other, List.mem_cons_of_mem _ hother, hc⟩

/-- Nothing comes of no words, and of nothing else. -/
theorem joinWords_words_eq_nil_iff {cs : List Char} : joinWords (words cs) = [] ↔ Blank cs := by
  rw [← words_eq_nil_iff]
  refine ⟨fun h => ?_, fun h => by rw [h]; rfl⟩
  cases hwords : words cs with
  | nil => rfl
  | cons word rest =>
    have hword : word ∈ words cs := by rw [hwords]; exact List.mem_cons_self ..
    have hlength := length_joinWords_cons word rest
    rw [← hwords, h, List.length_nil] at hlength
    have hpos := List.length_pos_iff.mpr (of_mem_words hword).1
    omega

/-! ## Names

  What is left of an expression has no characters but those of names and blanks, so its words are
  made of the former. -/

/-- The characters that a name is made from. -/
def nameSource (expression : List Char) : List Char :=
  (expression.filter isNameChar).take maxNameLength

/-- The name of an expression, by what it is made from. True by definition. -/
theorem deriveName?_eq (expression : List Char) :
    deriveName? expression = if joinWords (words (nameSource expression)) = [] then none
      else some (joinWords (words (nameSource expression))) := rfl

/-- A name is one word of letters, numbers and underscores that is not too long. -/
structure Derived (name : List Char) : Prop where
  /-- It has one character at least ... -/
  ne_nil : name ≠ []
  /-- ... and thirty at most. -/
  length_le : name.length ≤ maxNameLength
  chars : ∀ c ∈ name, isAlphanumeric c = true ∨ c = '_'
  no_blank : ∀ c ∈ name, isBlank c = false

/-- Whatever is derived from an expression is such a name. -/
theorem derived_of_deriveName? {expression name : List Char}
    (h : deriveName? expression = some name) : Derived name := by
  rw [deriveName?_eq] at h
  split at h
  next => cases h
  next hne =>
    obtain rfl := Option.some.inj h
    -- Joining adds underscores and nothing else; every other character is one of a word.
    have hmem : ∀ c ∈ joinWords (words (nameSource expression)),
        c = '_' ∨ c ∈ nameSource expression ∧ isBlank c = false := by
      intro c hc
      refine (mem_joinWords hc).imp_right fun ⟨word, hword, hcword⟩ => ?_
      exact (of_mem_words hword).2 c hcword
    refine ⟨hne, ?_, fun c hc => ?_, fun c hc => ?_⟩
    · exact Nat.le_trans (length_joinWords_words_le _) (List.length_take_le ..)
    · rcases hmem c hc with hc | ⟨hc, hblank⟩
      · exact .inr hc
      · have hname := (List.mem_filter.mp (List.mem_of_mem_take hc)).2
        rw [isNameChar, hblank, Bool.or_false, Bool.or_eq_true, beq_iff_eq] at hname
        exact hname
    · rcases hmem c hc with rfl | ⟨-, hblank⟩
      · decide
      · exact hblank

/-- **Such a name gives itself.** -/
theorem Derived.deriveName?_eq_some {name : List Char} (h : Derived name) :
    deriveName? name = some name := by
  have hall : ∀ c ∈ name, isNameChar c = true := by
    intro c hc
    rw [isNameChar, Bool.or_eq_true, Bool.or_eq_true, beq_iff_eq]
    exact (h.chars c hc).imp_left .inl
  have hsource : nameSource name = name := by
    rw [nameSource, List.filter_eq_self.mpr hall, List.take_of_length_le h.length_le]
  have hjoined : joinWords (words (nameSource name)) = name := by
    rw [hsource, words_of_no_blank h.ne_nil h.no_blank]
    rfl
  rw [deriveName?_eq, hjoined, if_neg h.ne_nil]

/-- **An expression gives no name** if and only if the first thirty letters, numbers, blanks and
    underscores of it are blanks.  Any other gives a name of one to thirty letters, numbers and
    underscores, from which the same name is derived again. -/
theorem deriveName?_normal (expression : List Char) :
    (deriveName? expression = none ↔
      ∀ c ∈ (expression.filter fun c => isAlphanumeric c || isBlank c || c == '_').take 30,
        isBlank c = true) ∧
    ∀ name, deriveName? expression = some name →
      1 ≤ name.length ∧ name.length ≤ 30 ∧
      (∀ c ∈ name, isAlphanumeric c = true ∨ c = '_') ∧ deriveName? name = some name := by
  constructor
  -- There is no name exactly when there is no word, that is when the source is blank.
  · have hblank : joinWords (words (nameSource expression)) = [] ↔ Blank (nameSource expression) :=
      joinWords_words_eq_nil_iff
    refine Iff.trans ?_ hblank
    rw [deriveName?_eq]
    split
    next hnil => exact iff_of_true rfl hnil
    next hne => exact iff_of_false (Option.some_ne_none _) hne
  · intro name hname
    have hderived := derived_of_deriveName? hname
    exact ⟨List.length_pos_iff.mpr hderived.ne_nil, hderived.length_le, hderived.chars,
      hderived.deriveName?_eq_some⟩

/-- The thirty characters end among the blanks behind the last word. -/
theorem deriveName?_normal_of_cut_in_blanks :
    let name := "Größe_des_linken_Behälters".toList
    deriveName? "Größe des_linken Behälters %   \u00a0 > 5".toList = some name ∧
      name.length ≤ 30 ∧ deriveName? name = some name := by
  intro name
  have hname : deriveName? "Größe des_linken Behälters %   \u00a0 > 5".toList = some name := by
    decide +kernel
  obtain ⟨-, hlength, -, hagain⟩ := (deriveName?_normal _).2 name hname
  exact ⟨hname, hlength, hagain⟩

end TableRules.Expression
