/-
  TEXTS: what trimming, folding and searching do to texts whose parts are known.

  1. **Characters** — `isPlain` are the letters, digits and the underscore of ASCII.  They belong
     to words, which a blank never does, and their lower case is that of ASCII.

  2. **Trimming** — blanks around a text are taken off.  A `Tight` text neither starts nor ends
     with a blank, and it is what is left.

  3. **Search** — `cutAt?` finds a text where there is one, at its first place.

  What is known of characters in general comes from tables with a row for each run of code points.
  None of these tables is ever unfolded in a proof.  What is asked of ASCII is decided for the 128
  code points there (`forall_of_ascii`), and what is asked of a table is decided run by run
  (`forall_of_inRanges`); the rest is about lists.
-/
import Mathlib.Data.List.Infix
import Mathlib.Data.List.TakeWhile
import TableRules.Text.Basic
import TableRules.Text.Case

namespace TableRules.Text

/-! ## Deciding

What is said of the members of a list is decided on the members, never on all characters. -/

section Deciding

variable {P : Char → Prop} [DecidablePred P]

instance (priority := high) decidableForallMem (cs : List Char) : Decidable (∀ c ∈ cs, P c) :=
  List.decidableBAll P cs

instance (priority := high) decidableExistsMem (cs : List Char) : Decidable (∃ c ∈ cs, P c) :=
  List.decidableBEx P cs

instance (priority := high) decidableForallMemOption (o : Option Char) :
    Decidable (∀ c ∈ o, P c) := Option.decidableForallMem o

instance (priority := high) decidableExistsMemOption (o : Option Char) :
    Decidable (∃ c ∈ o, P c) := Option.decidableExistsMem o

end Deciding

/-! ## Characters -/

/-- What holds of every code point of a table holds of every character that it has. The hypothesis
    goes run by run, so that `decide` can check it. -/
theorem forall_of_inRanges {ranges : List (Nat × Nat)} {P : Nat → Prop}
    (h : ∀ range ∈ ranges, ∀ k < range.2 + 1 - range.1, P (range.1 + k)) {n : Nat}
    (hn : inRanges ranges n = true) : P n := by
  induction ranges with
  | nil => cases hn
  | cons range ranges ih =>
    obtain ⟨first, last⟩ := range
    rw [inRanges] at hn
    split at hn
    · cases hn
    · rcases Bool.or_eq_true_iff.mp hn with hlast | hrest
      · have hle : n ≤ last := of_decide_eq_true hlast
        have hP := h (first, last) (List.mem_cons_self ..) (n - first) (by dsimp only; omega)
        rwa [show first + (n - first) = n by omega] at hP
      · exact ih (fun range hrange => h range (List.mem_cons_of_mem _ hrange)) hrest

/-- What holds of the first 128 code points holds of every ASCII character. -/
theorem forall_of_ascii {P : Char → Prop} (h : ∀ n < 128, P (Char.ofNat n)) {c : Char}
    (hc : c.toNat < 128) : P c := by
  rw [← Char.ofNat_toNat c]
  exact h _ hc

/-- A letter or a digit of ASCII, or an underscore. -/
def isPlain (c : Char) : Bool := c.isAlphanum || c == '_'

/-- Plain characters are in ASCII. -/
theorem lt_of_isPlain {c : Char} (h : isPlain c = true) : c.toNat < 128 := by
  -- each of the ranges ends below 128
  have hrange : ∀ {last : UInt32}, last.toNat < 128 → c.val ≤ last → c.toNat < 128 :=
    fun hlast hc => Nat.lt_of_le_of_lt (UInt32.le_iff_toNat_le.mp hc) hlast
  rcases Bool.or_eq_true_iff.mp h with halnum | hunderscore
  · rcases Bool.or_eq_true_iff.mp halnum with halpha | hdigit
    · rcases Bool.or_eq_true_iff.mp halpha with hupper | hlower
      · exact hrange (show 'Z'.val.toNat < 128 by decide) (of_decide_eq_true hupper).2
      · exact hrange (show 'z'.val.toNat < 128 by decide)
          (of_decide_eq_true (Bool.and_eq_true_iff.mp hlower).2)
    · exact hrange (show '9'.val.toNat < 128 by decide)
        (of_decide_eq_true (Bool.and_eq_true_iff.mp hdigit).2)
  · rw [beq_iff_eq.mp hunderscore]
    decide

theorem isPlain_of_isDigit {c : Char} (h : c.isDigit = true) : isPlain c = true := by
  rw [isPlain, Char.isAlphanum, h, Bool.or_true, Bool.true_or]

/-- A digit has no other case. -/
theorem toLower_of_isDigit {c : Char} (h : c.isDigit = true) : c.toLower = c :=
  forall_of_ascii (P := fun c => c.isDigit = true → c.toLower = c) (by decide)
    (lt_of_isPlain (isPlain_of_isDigit h)) h

/-- In ASCII the characters of words are the plain ones, ... -/
theorem isWordChar_of_ascii {c : Char} (hc : c.toNat < 128) : isWordChar c = isPlain c :=
  forall_of_ascii (P := fun c => isWordChar c = isPlain c) (by decide +kernel) hc

/-- ... so what is plain belongs to words. -/
theorem isWordChar_of_isPlain {c : Char} (h : isPlain c = true) : isWordChar c = true := by
  rw [isWordChar_of_ascii (lt_of_isPlain h), h]

/-- Only ASCII letters have another lower case. -/
theorem toNat_lt_of_toLower {c : Char} (h : c.toLower.toNat < 128) : c.toNat < 128 := by
  by_cases hupper : c.val ≥ 'A'.val ∧ c.val ≤ 'Z'.val
  · have hle : c.val.toNat ≤ 90 := UInt32.le_iff_toNat_le.mp hupper.2
    exact Nat.lt_of_le_of_lt hle (by decide)
  · rwa [show c.toLower = c from dif_neg hupper] at h

/-- A character is plain in lower case if and only if it is. One beyond ASCII never becomes
    plain. -/
theorem isPlain_toLower (c : Char) : isPlain c.toLower = isPlain c := by
  have hascii : c.toNat < 128 → isPlain c.toLower = isPlain c :=
    forall_of_ascii (P := fun c => isPlain c.toLower = isPlain c) (by decide)
  rw [Bool.eq_iff_iff]
  constructor
  · intro h
    rwa [← hascii (toNat_lt_of_toLower (lt_of_isPlain h))]
  · intro h
    rwa [hascii (lt_of_isPlain h)]

/-- A blank belongs to no word. -/
theorem isWordChar_of_isBlank {c : Char} (h : isBlank c = true) : isWordChar c = false := by
  have hn : isWordChar (Char.ofNat c.toNat) = false :=
    forall_of_inRanges (P := fun n => isWordChar (Char.ofNat n) = false) (by decide +kernel) h
  rwa [Char.ofNat_toNat] at hn

/-- Nor is a character of a word blank. -/
theorem isBlank_of_isWordChar {c : Char} (h : isWordChar c = true) : isBlank c = false := by
  rw [← Bool.not_eq_true]
  intro hblank
  rw [isWordChar_of_isBlank hblank] at h
  cases h

/-! ### Case -/

/-- In ASCII the lower case of a character is one character. -/
theorem lowerChar_of_ascii {c : Char} (hc : c.toNat < 128) : lowerChar c = [c.toLower] :=
  forall_of_ascii (P := fun c => lowerChar c = [c.toLower]) (by decide +kernel) hc

/-- The lower case of an ASCII text is that of ASCII. -/
theorem lower_of_ascii {cs : List Char} (h : ∀ c ∈ cs, c.toNat < 128) :
    lower cs = lowerAscii cs := by
  have hafter : ∀ before, lowerAfter before cs = lowerAscii cs := by
    induction cs with
    | nil => exact fun _ => rfl
    | cons c cs ih =>
      intro before
      have hc := h c (List.mem_cons_self ..)
      have hsigma : c ≠ 'Σ' := by
        rintro rfl
        exact absurd hc (by decide)
      rw [lowerAfter, if_neg hsigma, lowerChar_of_ascii hc,
        ih fun d hd => h d (List.mem_cons_of_mem _ hd)]
      rfl
  exact hafter []

/-! ## Trimming -/

/-- Nothing but blanks. -/
def Blank (cs : List Char) : Prop := ∀ c ∈ cs, isBlank c = true

instance (cs : List Char) : Decidable (Blank cs) :=
  inferInstanceAs (Decidable (∀ c ∈ cs, isBlank c = true))

/-- No word reaches into blanks. -/
theorem Blank.isWordChar {gap : List Char} (h : Blank gap) :
    ∀ c ∈ gap, isWordChar c = false := fun c hc => isWordChar_of_isBlank (h c hc)

/-- No blank at either end. -/
structure Tight (cs : List Char) : Prop where
  head : ∀ c ∈ cs.head?, isBlank c = false
  last : ∀ c ∈ cs.getLast?, isBlank c = false

/-- Blanks in front come off, up to what is none. -/
theorem dropWhile_isBlank {gap cs : List Char} (hgap : Blank gap)
    (hcs : ∀ c ∈ cs.head?, isBlank c = false) : (gap ++ cs).dropWhile isBlank = cs := by
  rw [List.dropWhile_append_of_pos hgap]
  cases cs with
  | nil => rfl
  | cons c cs => exact List.dropWhile_cons_of_neg (by simp [hcs c rfl])

/-- **Trimming** takes off what is blank, and leaves what is tight. It works on both ends in turn,
    the second one from behind. -/
theorem trim_append {gap cs gap' : List Char} (hgap : Blank gap) (hcs : Tight cs)
    (hgap' : Blank gap') : trim (gap ++ cs ++ gap') = cs := by
  have hstart : ∀ tail, trimStart (gap ++ cs ++ tail) = (cs ++ tail).dropWhile isBlank := by
    intro tail
    rw [trimStart, List.append_assoc, List.dropWhile_append_of_pos hgap]
  have hreverse : Blank gap'.reverse := fun c hc => hgap' c (List.mem_reverse.mp hc)
  rw [trim, hstart, trimEnd]
  -- If `cs` is empty both gaps are one gap; else its first and last characters stop the trimming.
  cases cs with
  | nil =>
    have hnone : gap'.dropWhile isBlank = [] := List.dropWhile_eq_nil_iff.mpr hgap'
    rw [List.nil_append, hnone]
    rfl
  | cons c rest =>
    have hc : ¬ isBlank c = true := by simp [hcs.head c rfl]
    rw [List.cons_append, List.dropWhile_cons_of_neg hc, ← List.cons_append, List.reverse_append,
      dropWhile_isBlank hreverse, List.reverse_reverse]
    intro d hd
    exact hcs.last d (by rwa [List.head?_reverse] at hd)

theorem blank_nil : Blank [] := fun _ h => nomatch h

/-- The same with blanks on the left only, ... -/
theorem trim_append_left {gap cs : List Char} (hgap : Blank gap) (hcs : Tight cs) :
    trim (gap ++ cs) = cs := by
  have htrim := trim_append hgap hcs blank_nil
  rwa [List.append_nil] at htrim

/-- ... on the right only ... -/
theorem trim_append_right {cs gap : List Char} (hcs : Tight cs) (hgap : Blank gap) :
    trim (cs ++ gap) = cs := trim_append blank_nil hcs hgap

/-- ... and on neither side. -/
theorem trim_of_tight {cs : List Char} (h : Tight cs) : trim cs = cs :=
  trim_append_left blank_nil h

/-- Behind the blanks at its start a text goes on with something else. -/
theorem head?_dropWhile_isBlank (cs : List Char) :
    ∀ c ∈ (cs.dropWhile isBlank).head?, isBlank c = false := by
  intro c hc
  have hhead := List.head?_dropWhile_not isBlank cs
  rw [Option.mem_def.mp hc] at hhead
  exact Bool.eq_false_iff.mpr (by simpa using hhead)

/-- What was trimmed at the end, put back. -/
theorem trim_append_blanks (cs : List Char) :
    trim cs ++ ((trimStart cs).reverse.takeWhile isBlank).reverse = trimStart cs := by
  rw [trim, trimEnd, ← List.reverse_append, List.takeWhile_append_dropWhile, List.reverse_reverse]

/-- What trimming leaves is tight. -/
theorem tight_trim (cs : List Char) : Tight (trim cs) where
  head c hc := by
    -- it starts as the text does without the blanks at its start
    have hhead : (trimStart cs).head? = some c := by
      rw [← trim_append_blanks, List.head?_append, Option.mem_def.mp hc]
      rfl
    exact head?_dropWhile_isBlank cs c hhead
  last c hc := by
    rw [trim, trimEnd, List.getLast?_reverse] at hc
    exact head?_dropWhile_isBlank _ c hc

/-- What it takes off are blanks. -/
theorem exists_eq_append_trim (cs : List Char) :
    ∃ gap gap', Blank gap ∧ Blank gap' ∧ cs = gap ++ trim cs ++ gap' := by
  refine ⟨cs.takeWhile isBlank, ((trimStart cs).reverse.takeWhile isBlank).reverse,
    fun c hc => List.mem_takeWhile_imp hc,
    fun c hc => List.mem_takeWhile_imp (List.mem_reverse.mp hc), ?_⟩
  rw [List.append_assoc, trim_append_blanks]
  exact List.takeWhile_append_dropWhile.symm

/-- **Nothing is left** of blanks alone. -/
theorem trim_eq_nil_iff {cs : List Char} : trim cs = [] ↔ Blank cs := by
  constructor
  · intro h
    obtain ⟨gap, gap', hgap, hgap', hcs⟩ := exists_eq_append_trim cs
    rw [h, List.append_nil] at hcs
    rw [hcs]
    exact fun c hc => (List.mem_append.mp hc).elim (hgap c) (hgap' c)
  · intro h
    have hnil : trim ([] ++ cs) = [] := trim_append_right ⟨nofun, nofun⟩ h
    exact hnil

/-- Trimming only takes away. -/
theorem trim_sublist (cs : List Char) : List.Sublist (trim cs) cs := by
  have hend : List.Sublist (trimEnd (trimStart cs)) (trimStart cs) := by
    have hreverse := (List.dropWhile_sublist (p := isBlank) (l := (trimStart cs).reverse)).reverse
    rwa [List.reverse_reverse] at hreverse
  exact hend.trans (List.dropWhile_sublist isBlank)

/-- A text that is not empty ends as its parts do. -/
theorem tight_append {front back : List Char} (hfront : front ≠ []) (hback : back ≠ [])
    (h : Tight front) (h' : Tight back) (middle : List Char) :
    Tight (front ++ (middle ++ back)) where
  head c hc := by
    obtain ⟨d, ds, rfl⟩ := List.exists_cons_of_ne_nil hfront
    exact h.head c hc
  last c hc := by
    rw [← List.append_assoc, List.getLast?_append_of_ne_nil _ hback] at hc
    exact h'.last c hc

/-- What holds no blank is tight. -/
theorem tight_of_no_blank {cs : List Char} (h : ∀ c ∈ cs, isBlank c = false) : Tight cs where
  head c hc := h c (List.mem_of_mem_head? hc)
  last c hc := h c (List.mem_of_mem_getLast? hc)

/-- What is made of word characters is tight. -/
theorem tight_of_isWordChar {cs : List Char} (h : ∀ c ∈ cs, isWordChar c = true) : Tight cs :=
  tight_of_no_blank fun c hc => isBlank_of_isWordChar (h c hc)

/-- What starts and ends with something that is not blank is tight. -/
theorem tight_of_ends {c d : Char} (hc : isBlank c = false) (hd : isBlank d = false)
    (cs : List Char) : Tight (c :: (cs ++ [d])) where
  head e he := Option.some.inj he ▸ hc
  last e he := by
    rw [← List.cons_append, List.getLast?_concat] at he
    exact Option.some.inj he ▸ hd

/-! ## Search -/

/-- What is found is where the text is cut: the parts before and behind, with the needle between
    them, are the text. -/
theorem cutAt?_eq_some {needle cs before after : List Char}
    (h : cutAt? needle cs = some (before, after)) : before ++ needle ++ after = cs := by
  induction cs generalizing before after with
  | nil =>
    rw [cutAt?] at h
    split at h
    next hempty =>
      obtain ⟨rfl, rfl⟩ := Prod.mk.inj (Option.some.inj h)
      rw [List.isEmpty_iff.mp hempty]
      rfl
    next => cases h
  | cons c cs ih =>
    rw [cutAt?] at h
    split at h
    -- found here, and else in the rest
    next hhere =>
      obtain ⟨rfl, rfl⟩ := Prod.mk.inj (Option.some.inj h)
      obtain ⟨after, hafter⟩ := List.isPrefixOf_iff_prefix.mp hhere
      rw [← hafter, List.drop_left, List.nil_append]
    next =>
      obtain ⟨⟨before', after'⟩, hrest, heq⟩ := Option.map_eq_some_iff.mp h
      obtain ⟨rfl, rfl⟩ := Prod.mk.inj heq
      rw [List.cons_append, List.cons_append, ih hrest]

/-- **Search** finds a text if and only if it is there. -/
theorem occursIn_iff {needle cs : List Char} : occursIn needle cs = true ↔ needle <:+: cs := by
  constructor
  · intro h
    obtain ⟨⟨before, after⟩, hcut⟩ := Option.isSome_iff_exists.mp h
    exact ⟨before, after, cutAt?_eq_some hcut⟩
  · intro h
    rw [occursIn]
    induction cs with
    | nil =>
      rw [List.infix_nil.mp h]
      rfl
    | cons c cs ih =>
      rw [cutAt?]
      split
      next => rfl
      next hhere =>
        -- It does not begin here, so it lies in what follows.
        rcases List.infix_cons_iff.mp h with hprefix | hrest
        · exact absurd (List.isPrefixOf_iff_prefix.mpr hprefix) hhere
        · rw [Option.isSome_map]
          exact ih hrest

/-- A text is found at its own start. -/
theorem cutAt?_self {needle : List Char} (hne : needle ≠ []) (rest : List Char) :
    cutAt? needle (needle ++ rest) = some ([], rest) := by
  obtain ⟨c, cs, rfl⟩ := List.exists_cons_of_ne_nil hne
  rw [List.cons_append, cutAt?, if_pos, ← List.cons_append, List.drop_left]
  exact List.isPrefixOf_iff_prefix.mpr (List.prefix_append ..)

/-- A text is not found among characters with which it does not start. -/
theorem cutAt?_append {needle front : List Char} (hne : needle ≠ [])
    (hfront : ∀ c ∈ front, needle.head? ≠ some c) (cs : List Char) :
    cutAt? needle (front ++ cs) =
      (cutAt? needle cs).map fun (before, after) => (front ++ before, after) := by
  induction front with
  | nil => simp
  | cons c front ih =>
    obtain ⟨d, ds, rfl⟩ := List.exists_cons_of_ne_nil hne
    have hd : d ≠ c := fun heq => hfront c (List.mem_cons_self ..) (heq ▸ rfl)
    have hhere : ¬ (d :: ds).isPrefixOf (c :: (front ++ cs)) = true := by
      simp [List.isPrefixOf_cons_cons, hd]
    rw [List.cons_append, cutAt?, if_neg hhere,
      ih fun e he => hfront e (List.mem_cons_of_mem _ he), Option.map_map]
    rfl

end TableRules.Text
