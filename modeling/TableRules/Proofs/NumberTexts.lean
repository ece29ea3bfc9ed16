/-
  NUMBER TEXTS: what reads as a double, and what every number reads back as.

  1. **Letter case** — the readers of numbers do not look at the case of a letter, so a text and its
     lower case read as the same double (`parse?_lowerAscii`).

  2. **Words** — infinity and what is no number have words of their own, without a digit in them.
     All other numbers are decimals.

  3. **Figures** — the digits, the signs, the point and the mark of an exponent.  A text with a digit
     in it that reads as a double is made of figures and nothing else, and a text without any is a
     number only if it is one of the words (`parse?_of_no_digit`).

  4. **Reading back** — a number as it is spelled reads as the double nearest to it
     (`parse?_lexeme`).  So an integer reads as the double nearest to it, and a finite double reads
     as itself.

  A text is read in three passes, the sign first, then the digits before and behind the point, then
  the exponent, and every fact is shown for each of the passes and put together after.  `spanPoint`
  is a name for the pass in the middle, which the reader has within it.  The crux of reading back
  is that a double is never compared with its text by value: the text is the lexeme of some
  `Spelt`, the lexeme falls into the parts that it was made of, and the rank of these parts is the
  rank of the double, for that is how the shortest decimal was chosen.  Zero needs care, as it has
  a sign in its text and none in its place.
-/
import TableRules.Cell
import TableRules.Proofs.StoredDoubles
import TableRules.Proofs.Texts

namespace TableRules

open Text

/-! ## Letter case

  Pass by pass: each takes the same digits or marks, and leaves a rest in lower case. -/

/-- What holds of a character and itself, and of the ASCII characters and their lower case, holds of
    every character and its lower case. -/
theorem forall_toLower {P : Char → Char → Prop} (hsame : ∀ c, P c c)
    (hascii : ∀ n < 128, P (Char.ofNat n) (Char.ofNat n).toLower) (c : Char) : P c c.toLower := by
  by_cases h : c.toNat < 128
  · exact forall_of_ascii (P := fun c => P c c.toLower) hascii h
  · have hupper : ¬ (c.val ≥ 'A'.val ∧ c.val ≤ 'Z'.val) := by
      rintro ⟨-, hZ⟩
      have hle : c.val.toNat ≤ 90 := UInt32.le_iff_toNat_le.mp hZ
      exact h (Nat.lt_of_le_of_lt hle (by decide))
    rw [show c.toLower = c from dif_neg hupper]
    exact hsame c

/-- A digit stays one in lower case, and nothing else becomes one. -/
theorem isDigit_toLower (c : Char) : c.toLower.isDigit = c.isDigit :=
  forall_toLower (P := fun c d => d.isDigit = c.isDigit) (fun _ => rfl) (by decide) c

/-- The marks in a number that are no letters. -/
theorem toLower_eq_mark_iff {mark : Char} (h : mark ∈ ['+', '-', '.']) (c : Char) :
    c.toLower = mark ↔ c = mark := by
  have hall : ∀ mark ∈ ['+', '-', '.'], ∀ n < 128,
      ((Char.ofNat n).toLower = mark ↔ Char.ofNat n = mark) := by decide
  exact forall_toLower (P := fun c d => d = mark ↔ c = mark) (fun _ => Iff.rfl) (hall mark h) c

/-- The mark of an exponent may be written in either case. -/
theorem toLower_exponent_iff (c : Char) :
    (c.toLower = 'e' ∨ c.toLower = 'E') ↔ (c = 'e' ∨ c = 'E') :=
  forall_toLower (P := fun c d => (d = 'e' ∨ d = 'E') ↔ (c = 'e' ∨ c = 'E'))
    (fun _ => Iff.rfl) (by decide) c

/-- Lower case is its own lower case. -/
theorem lowerAscii_lowerAscii (cs : List Char) : lowerAscii (lowerAscii cs) = lowerAscii cs := by
  have htwice : ∀ c : Char, c.toLower.toLower = c.toLower := fun c =>
    forall_toLower (P := fun c d => c.toLower = d → d.toLower = d) (fun _ h => h) (by decide) c rfl
  rw [lowerAscii, lowerAscii, List.map_map]
  exact List.map_congr_left fun c _ => htwice c

/-- Digits have no case. -/
theorem lowerAscii_of_isDigit {cs : List Char} (h : ∀ c ∈ cs, c.isDigit = true) :
    lowerAscii cs = cs := by
  rw [lowerAscii]
  conv_rhs => rw [← List.map_id cs]
  exact List.map_congr_left fun c hc => toLower_of_isDigit (h c hc)

namespace Decimal

/-- The digits in front are the same in lower case, and the rest is in lower case. -/
theorem spanDigits_lowerAscii (cs : List Char) :
    spanDigits (lowerAscii cs) = ((spanDigits cs).1, lowerAscii (spanDigits cs).2) := by
  have htest : Char.isDigit ∘ Char.toLower = Char.isDigit := funext isDigit_toLower
  have hdigits : lowerAscii (cs.takeWhile Char.isDigit) = cs.takeWhile Char.isDigit :=
    lowerAscii_of_isDigit fun c hc => List.mem_takeWhile_imp hc
  rw [spanDigits, lowerAscii, List.takeWhile_map, List.dropWhile_map, htest, ← lowerAscii, hdigits]
  rfl

/-- What starts with no sign is taken as it is. -/
theorem spanSign_of_ne {c : Char} (hminus : c ≠ '-') (hplus : c ≠ '+') (cs : List Char) :
    spanSign (c :: cs) = (false, c :: cs) := by
  rw [spanSign.eq_def]
  split
  next heq => exact absurd (List.cons.inj heq).1 hminus
  next heq => exact absurd (List.cons.inj heq).1 hplus
  next => rfl

/-- So is the sign in front: a sign has no case. -/
theorem spanSign_lowerAscii (cs : List Char) :
    spanSign (lowerAscii cs) = ((spanSign cs).1, lowerAscii (spanSign cs).2) := by
  cases cs with
  | nil => rfl
  | cons c cs =>
    by_cases hminus : c = '-'
    · rw [hminus]
      rfl
    · by_cases hplus : c = '+'
      · rw [hplus]
        rfl
      · have hminus' : c.toLower ≠ '-' := mt (toLower_eq_mark_iff (by decide) c).mp hminus
        have hplus' : c.toLower ≠ '+' := mt (toLower_eq_mark_iff (by decide) c).mp hplus
        rw [spanSign_of_ne hminus hplus]
        exact spanSign_of_ne hminus' hplus' (lowerAscii cs)

/-- A text is all digits in lower case if it is. -/
theorem all_isDigit_lowerAscii (cs : List Char) :
    (lowerAscii cs).all Char.isDigit = cs.all Char.isDigit := by
  rw [lowerAscii, List.all_map]
  exact congrArg cs.all (funext isDigit_toLower)

/-- An integer is read alike in lower case: it has a sign and digits only. -/
theorem parseInt?_lowerAscii (cs : List Char) : parseInt? (lowerAscii cs) = parseInt? cs := by
  rw [parseInt?, parseInt?, spanSign_lowerAscii]
  generalize spanSign cs = signed
  obtain ⟨negative, ds⟩ := signed
  dsimp only
  have hnil : lowerAscii ds ≠ [] ↔ ds ≠ [] := by simp [lowerAscii]
  rw [all_isDigit_lowerAscii]
  by_cases h : ds ≠ [] ∧ ds.all Char.isDigit = true
  · rw [if_pos h, if_pos ⟨hnil.mpr h.1, h.2⟩,
      lowerAscii_of_isDigit fun c hc => List.all_eq_true.mp h.2 c hc]
  · rw [if_neg h, if_neg (mt (And.imp_left hnil.mp) h)]

/-- An exponent is read alike, whichever case its mark is in. -/
theorem parseExponent?_lowerAscii (cs : List Char) :
    parseExponent? (lowerAscii cs) = parseExponent? cs := by
  cases cs with
  | nil => rfl
  | cons c cs =>
    show (if c.toLower = 'e' ∨ c.toLower = 'E' then parseInt? (lowerAscii cs) else none) = _
    rw [parseInt?_lowerAscii]
    exact if_congr (toLower_exponent_iff c) rfl rfl

/-- The digits behind a point, if there is one, and the rest. -/
def spanPoint (cs : List Char) : List Char × List Char :=
  match cs with
  | '.' :: rest => spanDigits rest
  | _ => ([], cs)

/-- What does not start with a point has no digits behind one. -/
theorem spanPoint_of_ne {c : Char} (h : c ≠ '.') (cs : List Char) :
    spanPoint (c :: cs) = ([], c :: cs) := by
  rw [spanPoint.eq_def]
  split
  next heq => exact absurd (List.cons.inj heq).1 h
  next => rfl

/-- The reader of decimals, with its pass over the fraction by name. True by definition; from here
    on the reader is not unfolded. -/
theorem parse?_eq (cs : List Char) : parse? cs =
    if (spanDigits cs).1 = [] ∧ (spanPoint (spanDigits cs).2).1 = [] then none
    else (parseExponent? (spanPoint (spanDigits cs).2).2).map fun e =>
      ⟨ofDigits ((spanDigits cs).1 ++ (spanPoint (spanDigits cs).2).1),
        e - (spanPoint (spanDigits cs).2).1.length⟩ := rfl

/-- The fraction in front is the same in lower case. -/
theorem spanPoint_lowerAscii (cs : List Char) :
    spanPoint (lowerAscii cs) = ((spanPoint cs).1, lowerAscii (spanPoint cs).2) := by
  cases cs with
  | nil => rfl
  | cons c cs =>
    by_cases hpoint : c = '.'
    · rw [hpoint]
      exact spanDigits_lowerAscii cs
    · have hpoint' : c.toLower ≠ '.' := mt (toLower_eq_mark_iff (by decide) c).mp hpoint
      rw [spanPoint_of_ne hpoint]
      exact spanPoint_of_ne hpoint' (lowerAscii cs)

/-- A decimal is read alike in lower case, pass by pass. -/
theorem parse?_lowerAscii (cs : List Char) : parse? (lowerAscii cs) = parse? cs := by
  rw [parse?_eq, parse?_eq, spanDigits_lowerAscii]
  dsimp only
  rw [spanPoint_lowerAscii]
  dsimp only
  rw [parseExponent?_lowerAscii]

end Decimal

namespace Double

/-- **The case of a letter** makes no difference to a number. -/
theorem parse?_lowerAscii (cs : List Char) : parse? (lowerAscii cs) = parse? cs := by
  rw [parse?, parse?, Decimal.spanSign_lowerAscii]
  dsimp only
  rw [lowerAscii_lowerAscii, Decimal.parse?_lowerAscii]

/-! ## Words

  What the reader looks for before it looks for a decimal. -/

/-- A word for infinity, in any letter case and with a sign or none. -/
def InfinityWord (cs : List Char) : Prop :=
  lowerAscii (Decimal.spanSign cs).2 = "inf".toList ∨
    lowerAscii (Decimal.spanSign cs).2 = "infinity".toList

/-- The word for what is no number, in any letter case and with a sign or none. -/
def NanWord (cs : List Char) : Prop := lowerAscii (Decimal.spanSign cs).2 = "nan".toList

instance (cs : List Char) : Decidable (InfinityWord cs) := inferInstanceAs (Decidable (_ ∨ _))

instance (cs : List Char) : Decidable (NanWord cs) := inferInstanceAs (Decidable (_ = _))

/-- The words differ, so no text is both. -/
theorem not_infinityWord_of_nanWord {cs : List Char} (h : NanWord cs) : ¬ InfinityWord cs := by
  rw [InfinityWord, h]
  decide

/-- A word for infinity reads as the infinity of its sign, ... -/
theorem parse?_of_infinityWord {cs : List Char} (h : InfinityWord cs) :
    parse? cs = some (.infinity (Decimal.spanSign cs).1) := if_pos h

/-- ... and the word for what is no number reads as that, whatever its sign. -/
theorem parse?_of_nanWord {cs : List Char} (h : NanWord cs) : parse? cs = some .nan :=
  (if_neg (not_infinityWord_of_nanWord h)).trans (if_pos h)

/-- All other numbers are decimals. -/
theorem parse?_of_no_word {cs : List Char} (hinfinity : ¬ InfinityWord cs) (hnan : ¬ NanWord cs) :
    parse? cs = (Decimal.parse? (Decimal.spanSign cs).2).map
      fun d => .ofRank (Decimal.spanSign cs).1 d.rank :=
  (if_neg hinfinity).trans (if_neg hnan)

end Double

namespace Decimal

/-- A sign takes at most one character. -/
theorem exists_sign_append (cs : List Char) :
    ∃ sign ∈ [[], ['+'], ['-']], cs = sign ++ (spanSign cs).2 := by
  rw [spanSign.eq_def]
  split
  · exact ⟨['-'], by decide, rfl⟩
  · exact ⟨['+'], by decide, rfl⟩
  · exact ⟨[], by decide, rfl⟩

end Decimal

namespace Double

/-- The words have no digit. -/
theorem not_word_of_digit {cs : List Char} (h : ∃ c ∈ cs, c.isDigit = true) :
    ¬ InfinityWord cs ∧ ¬ NanWord cs := by
  obtain ⟨c, hc, hdigit⟩ := h
  obtain ⟨sign, hsign, hcs⟩ := Decimal.exists_sign_append cs
  -- the digit is not the sign, so it is among the characters that the words are compared with
  have hmem : c.toLower ∈ lowerAscii (Decimal.spanSign cs).2 := by
    have hsigns : ∀ sign ∈ [[], ['+'], ['-']], ∀ c ∈ sign, c.isDigit = false := by decide
    rw [hcs] at hc
    rcases List.mem_append.mp hc with hc | hc
    · rw [hsigns sign hsign c hc] at hdigit
      cases hdigit
    · exact List.mem_map_of_mem hc
  have hnone : ∀ word ∈ ["inf".toList, "infinity".toList, "nan".toList],
      lowerAscii (Decimal.spanSign cs).2 ≠ word := by
    have hwords : ∀ word ∈ ["inf".toList, "infinity".toList, "nan".toList], ∀ c ∈ word,
        c.isDigit = false := by decide
    intro word hword heq
    rw [heq] at hmem
    have hfalse := hwords word hword _ hmem
    rw [isDigit_toLower, hdigit] at hfalse
    cases hfalse
  constructor
  · rintro (hinf | hinfinity)
    · exact hnone _ (by decide) hinf
    · exact hnone _ (by decide) hinfinity
  · exact hnone _ (by decide)

end Double

/-! ## Figures

  Pass by pass again, from the end of the text: what is left behind a pass is made of figures, and
  what the pass took is. -/

namespace Decimal

/-- A character that a number is written with. -/
def isFigure (c : Char) : Bool := c.isDigit || ['+', '-', '.', 'e', 'E'].contains c

/-- Digits are figures. -/
theorem isFigure_of_isDigit {c : Char} (h : c.isDigit = true) : isFigure c = true := by
  rw [isFigure, h]
  rfl

/-- Signs are figures. -/
theorem isFigure_of_mem_sign {sign : List Char} (h : sign ∈ [[], ['+'], ['-']]) :
    ∀ c ∈ sign, isFigure c = true := by
  have hall : ∀ sign ∈ [[], ['+'], ['-']], ∀ c ∈ sign, isFigure c = true := by decide
  exact hall sign h

/-- An integer is written with figures, ... -/
theorem isFigure_of_parseInt? {cs : List Char} {i : Int} (h : parseInt? cs = some i) :
    ∀ c ∈ cs, isFigure c = true := by
  obtain ⟨sign, hsign, hcs⟩ := exists_sign_append cs
  rw [parseInt?] at h
  generalize spanSign cs = signed at h hcs
  dsimp only at h
  split at h
  next hdigits =>
    intro c hc
    rw [hcs] at hc
    rcases List.mem_append.mp hc with hc | hc
    · exact isFigure_of_mem_sign hsign c hc
    · exact isFigure_of_isDigit (List.all_eq_true.mp hdigits.2 c hc)
  next => cases h

/-- ... an exponent too, ... -/
theorem isFigure_of_parseExponent? {cs : List Char} {e : Int} (h : parseExponent? cs = some e) :
    ∀ c ∈ cs, isFigure c = true := by
  cases cs with
  | nil => exact fun _ hc => nomatch hc
  | cons mark cs =>
    rw [parseExponent?] at h
    split at h
    next hmark =>
      intro c hc
      rcases List.mem_cons.mp hc with rfl | hc
      · rcases hmark with rfl | rfl <;> decide
      · exact isFigure_of_parseInt? h c hc
    next => cases h

/-- ... and what stands in front of figures is figures as well, be it digits ... -/
theorem isFigure_of_spanDigits {cs : List Char}
    (h : ∀ c ∈ (spanDigits cs).2, isFigure c = true) : ∀ c ∈ cs, isFigure c = true := by
  intro c hc
  rw [← List.takeWhile_append_dropWhile (p := Char.isDigit) (l := cs)] at hc
  rcases List.mem_append.mp hc with hc | hc
  · exact isFigure_of_isDigit (List.mem_takeWhile_imp hc)
  · exact h c hc

/-- ... or a fraction with its point. -/
theorem isFigure_of_spanPoint {cs : List Char}
    (h : ∀ c ∈ (spanPoint cs).2, isFigure c = true) : ∀ c ∈ cs, isFigure c = true := by
  rw [spanPoint.eq_def] at h
  split at h
  next rest =>
    intro c hc
    rcases List.mem_cons.mp hc with rfl | hc
    · decide
    · exact isFigure_of_spanDigits h c hc
  next => exact h

/-- A decimal is written with figures. -/
theorem isFigure_of_parse? {cs : List Char} {d : Decimal} (h : parse? cs = some d) :
    ∀ c ∈ cs, isFigure c = true := by
  rw [parse?_eq] at h
  split at h
  next => cases h
  next =>
    obtain ⟨e, hexponent, -⟩ := Option.map_eq_some_iff.mp h
    exact isFigure_of_spanDigits (isFigure_of_spanPoint (isFigure_of_parseExponent? hexponent))

/-- A row of digits is a decimal. -/
theorem parse?_of_digits {ds : List Char} (hne : ds ≠ []) (hds : ∀ c ∈ ds, c.isDigit = true) :
    parse? ds = some ⟨ofDigits ds, 0⟩ := by
  have hspan : spanDigits ds = (ds, []) := by
    have hend : ∀ c ∈ ([] : List Char).head?, c.isDigit = false := nofun
    have happend := Json.spanDigits_append hds hend
    rwa [List.append_nil] at happend
  rw [parse?_eq, hspan, if_neg fun h => hne h.1]
  simp [spanPoint, parseExponent?]

/-- Without a digit there is no decimal: both the whole part and the fraction are empty. -/
theorem parse?_of_no_digit {cs : List Char} (h : ∀ c ∈ cs, c.isDigit = false) :
    parse? cs = none := by
  have hspan : ∀ {ds : List Char}, (∀ c ∈ ds, c.isDigit = false) → (spanDigits ds).1 = [] := by
    intro ds hds
    cases ds with
    | nil => rfl
    | cons d ds => exact List.takeWhile_cons_of_neg (by simp [hds d (List.mem_cons_self ..)])
  have hrest : ∀ c ∈ (spanDigits cs).2, c.isDigit = false :=
    fun c hc => h c ((List.dropWhile_sublist _).subset hc)
  -- Behind a point there is no digit either, so neither the whole part nor the fraction has one.
  have hpoint : (spanPoint (spanDigits cs).2).1 = [] := by
    generalize (spanDigits cs).2 = rest at *
    rw [spanPoint.eq_def]
    split
    next => exact hspan fun c hc => hrest c (List.mem_cons_of_mem _ hc)
    next => rfl
  rw [parse?_eq, if_pos ⟨hspan h, hpoint⟩]

end Decimal

namespace Double

/-- **A number with a digit** is written with figures. -/
theorem isFigure_of_parse? {cs : List Char} (hdigit : ∃ c ∈ cs, c.isDigit = true) {v : Double}
    (h : parse? cs = some v) : ∀ c ∈ cs, Decimal.isFigure c = true := by
  obtain ⟨hinfinity, hnan⟩ := not_word_of_digit hdigit
  rw [parse?_of_no_word hinfinity hnan] at h
  obtain ⟨d, hd, -⟩ := Option.map_eq_some_iff.mp h
  obtain ⟨sign, hsign, hcs⟩ := Decimal.exists_sign_append cs
  intro c hc
  rw [hcs] at hc
  rcases List.mem_append.mp hc with hc | hc
  · exact Decimal.isFigure_of_mem_sign hsign c hc
  · exact Decimal.isFigure_of_parse? hd c hc

/-- **Without a digit** only the words are numbers. -/
theorem parse?_of_no_digit {cs : List Char} (h : ∀ c ∈ cs, c.isDigit = false)
    (hinfinity : ¬ InfinityWord cs) (hnan : ¬ NanWord cs) : parse? cs = none := by
  obtain ⟨sign, -, hcs⟩ := Decimal.exists_sign_append cs
  have hrest : ∀ c ∈ (Decimal.spanSign cs).2, c.isDigit = false := by
    intro c hc
    refine h c ?_
    rw [hcs]
    exact List.mem_append_right sign hc
  rw [parse?_of_no_word hinfinity hnan, Decimal.parse?_of_no_digit hrest]
  rfl

end Double

/-! ## Reading back

  A spelt number has all its parts in the order of the passes, so each pass takes just its part. -/

/-- **An integer of 64 bits** is read as any integer is: whatever is in range is kept, and what a
    text of 64 bits stands for is in range. -/
theorem parseInt64?_eq_some_iff {cs : List Char} {i : Int64} :
    parseInt64? cs = some i ↔ Decimal.parseInt? cs = some i.toInt := by
  rw [parseInt64?.eq_def]
  constructor
  · intro h
    split at h
    next j hj =>
      split at h
      next hrange =>
        obtain rfl := Option.some.inj h
        rw [hj, Int64.toInt_ofInt_of_le hrange.1 (Int.lt_of_le_of_lt hrange.2 (by decide))]
      next => cases h
    next => cases h
  · intro h
    -- every integer of 64 bits is within the range that is tested
    have hrange : Int64.minValue.toInt ≤ i.toInt ∧ i.toInt ≤ Int64.maxValue.toInt :=
      ⟨Int64.le_toInt i, Int64.toInt_le i⟩
    rw [h]
    dsimp only
    rw [if_pos hrange, Int64.ofInt_toInt]

namespace Json.Spelt

theorem ends_nil : Ends [] := fun _ h => nomatch h

section Lexeme

variable (n : Spelt)

/-- A number as it is spelled has a digit, so it is no word. -/
theorem exists_isDigit_lexeme : ∃ c ∈ n.lexeme, c.isDigit = true := by
  obtain ⟨d, ds, hwhole⟩ := List.exists_cons_of_ne_nil n.whole_ne_nil
  refine ⟨d, ?_, n.isDigit_of_head? (by rw [hwhole]; rfl)⟩
  rw [lexeme, hwhole]
  simp

/-- The parts of a number are found again, ... -/
theorem spanDigits_whole :
    Decimal.spanDigits (n.whole ++ (fractionText n.fraction ++ exponentText n.exponent)) =
      (n.whole, fractionText n.fraction ++ exponentText n.exponent) := by
  have hnext := n.head?_fraction ends_nil
  rw [List.append_nil] at hnext
  exact spanDigits_append n.whole_digits hnext

/-- ... the fraction too, if there is one. -/
theorem spanPoint_fraction :
    Decimal.spanPoint (fractionText n.fraction ++ exponentText n.exponent) =
      (n.fraction, exponentText n.exponent) := by
  have hnext := n.head?_exponent ends_nil
  rw [List.append_nil] at hnext
  by_cases hfraction : n.fraction = []
  · rw [hfraction, fractionText, if_pos rfl, List.nil_append]
    cases n.exponent with
    | none => rfl
    | some e => exact Decimal.spanPoint_of_ne (by decide) _
  · rw [fractionText, if_neg hfraction]
    exact spanDigits_append n.fraction_digits fun c hc => (hnext c hc).1

/-- **A number as it is spelled** reads as the double nearest to it. -/
theorem parse?_lexeme : Double.parse? n.lexeme = some (.ofRank n.negative n.decimal.rank) := by
  obtain ⟨hinfinity, hnan⟩ := Double.not_word_of_digit n.exists_isDigit_lexeme
  rw [Double.parse?_of_no_word hinfinity hnan, n.spanSign_lexeme]
  dsimp only
  rw [Decimal.parse?_eq, n.spanDigits_whole]
  dsimp only
  rw [n.spanPoint_fraction]
  dsimp only
  rw [if_neg fun h => n.whole_ne_nil h.1, n.parseExponent?_exponentText]
  rfl

end Lexeme

theorem isDigit_of_mem_nil : ∀ c ∈ ([] : List Char), c.isDigit = true := nofun

/-- An integer that is spelled with zeros at its end. -/
def integral (negative : Bool) (d : Decimal) (h : d.coefficient = 0 → d.exponent = 0) : Spelt :=
  { large negative d h with
    fraction := []
    fraction_digits := isDigit_of_mem_nil }

/-- It is spelled as the text of the decimal after the sign. -/
theorem lexeme_integral (negative : Bool) (d : Decimal) (h : d.coefficient = 0 → d.exponent = 0)
    (hexponent : 0 ≤ d.exponent) :
    (integral negative d h).lexeme = Double.signText negative ++ d.positional := by
  simp [lexeme, integral, large, Decimal.positional, fractionText, exponentText, if_pos hexponent]

/-- The zeros at the end are those of the exponent, so the number is the same. -/
theorem rank_integral (negative : Bool) (d : Decimal) (h : d.coefficient = 0 → d.exponent = 0)
    (hexponent : 0 ≤ d.exponent) : (integral negative d h).decimal.rank = d.rank := by
  have hvalue : Decimal.ofDigits (Decimal.digits d.coefficient ++
      List.replicate d.exponent.toNat '0') = d.coefficient * 10 ^ d.exponent.toNat := by
    rw [Decimal.ofDigits, Nat.ofDigitChars_append, Nat.ofDigitChars_replicate_zero,
      ← Decimal.ofDigits, ofDigits_digits, Nat.mul_comm]
  have hdecimal : (integral negative d h).decimal = ⟨d.coefficient * 10 ^ d.exponent.toNat, 0⟩ := by
    show Decimal.mk _ _ = Decimal.mk _ _
    rw [integral, List.append_nil, large, hvalue]
    rfl
  have hden : (-d.exponent).toNat = 0 := by omega
  rw [hdecimal, Decimal.rank_eq, Decimal.rank_eq, hden]
  simp

end Json.Spelt

open Json Json.Spelt

namespace Double

/-- A rank up to that of infinity is a rank of doubles. -/
theorem ofRank_of_le (negative : Bool) {rank : Nat} (h : rank ≤ infinityRank) :
    ofRank negative rank = .signed negative rank h := by
  have hmin : min rank infinityRank = rank := Nat.min_eq_left h
  simp only [ofRank, hmin]

/-- The rank of an integer is the one nearest to so many units. -/
theorem rank_integer (n : Nat) : Decimal.rank ⟨n, 0⟩ = nearestRank (n * unitsPerOne) 1 := by
  rw [Decimal.rank_eq]
  simp

/-- **An integer reads back** as the double nearest to it. -/
theorem parse?_intText (i : Int) : parse? (intText i) = some (ofInt i) := by
  have hdecimal : (Spelt.ofInt i).decimal = ⟨i.natAbs, 0⟩ := by
    show Decimal.mk _ _ = Decimal.mk _ _
    rw [Spelt.ofInt, List.append_nil, ofDigits_digits]
    rfl
  rw [← lexeme_ofInt, parse?_lexeme, hdecimal, rank_integer]
  rfl

/-- A sign before the digits of an integer puts it where it belongs.  Only zero may keep a minus,
    which does not show in its place. -/
theorem position?_ofRank_nearest (negative : Bool) (n : Nat) :
    (ofRank negative (nearestRank (n * unitsPerOne) 1)).position? =
      (ofInt (if negative then -(n : Int) else n)).position? := by
  rcases Nat.eq_zero_or_pos n with rfl | hpos
  · rw [Nat.zero_mul, nearestRank_zero Nat.one_pos]
    cases negative <;> decide +kernel
  · have hsign : decide ((if negative then -(n : Int) else n) < 0) = negative := by
      cases negative with
      | true => exact decide_eq_true (by rw [if_pos rfl]; omega)
      | false => exact decide_eq_false (by rw [if_neg Bool.false_ne_true]; omega)
    have habs : (if negative then -(n : Int) else n).natAbs = n := by
      cases negative <;> simp
    rw [ofInt, hsign, habs]

/-- A text that reads as an integer has a digit, and reads as a double in the same place: only the
    sign of zero may be lost. -/
theorem exists_parse?_of_parseInt? {cs : List Char} {i : Int} (h : Decimal.parseInt? cs = some i) :
    (∃ c ∈ cs, c.isDigit = true) ∧
      ∃ v, parse? cs = some v ∧ v.position? = (ofInt i).position? := by
  obtain ⟨sign, -, hcs⟩ := Decimal.exists_sign_append cs
  rw [Decimal.parseInt?] at h
  split at h
  next negative ds hspan =>
  split at h
  next hdigits =>
    obtain ⟨hne, hall⟩ := hdigits
    have hdigit : ∃ c ∈ cs, c.isDigit = true := by
      obtain ⟨d, rest, hds⟩ := List.exists_cons_of_ne_nil hne
      refine ⟨d, ?_, List.all_eq_true.mp hall d (hds ▸ List.mem_cons_self ..)⟩
      rw [hcs, hspan, hds]
      simp
    obtain ⟨hinfinity, hnan⟩ := not_word_of_digit hdigit
    -- both readers take the same sign and the same digits
    have hread : parse? cs = some (.ofRank negative
        (nearestRank (Decimal.ofDigits ds * unitsPerOne) 1)) := by
      rw [parse?_of_no_word hinfinity hnan, hspan]
      dsimp only
      rw [Decimal.parse?_of_digits hne (List.all_eq_true.mp hall), Option.map_some, rank_integer]
    refine ⟨hdigit, _, hread, ?_⟩
    rw [← Option.some.inj h]
    exact position?_ofRank_nearest negative (Decimal.ofDigits ds)
  next => cases h

/-- How the text of a finite double is spelled: with `.0` behind it if it is an integer, else with a
    point among the digits or zeros behind them.  The number that is spelled has the rank of the
    double each time. -/
theorem exists_lexeme_eq_text {negative : Bool} {rank : Nat} {hrank : rank ≤ infinityRank}
    (hfinite : rank < infinityRank) : ∃ n : Spelt,
      n.lexeme = text (.signed negative rank hrank) ∧ n.negative = negative ∧
        n.decimal.rank = rank := by
  rw [text.eq_def]
  dsimp only
  split
  next hwhole =>
    -- the magnitude is an integer, and that integer is written
    obtain ⟨-, hmod⟩ := Bool.and_eq_true_iff.mp hwhole
    generalize hm : unitsOfRank rank / unitsPerOne = m
    have hunits : m * unitsPerOne = unitsOfRank rank := by
      rw [← hm]
      exact Nat.div_mul_cancel (Nat.dvd_of_mod_eq_zero (beq_iff_eq.mp hmod))
    refine ⟨large negative ⟨m, 0⟩ fun _ => rfl, ?_, rfl, ?_⟩
    · rw [lexeme_large _ _ _ (Int.le_refl 0), List.append_assoc]
      simp [Decimal.positional]
    · rw [decimal_large, Decimal.rank_eq, ← nearestRank_unitsOfRank hrank, ← hunits]
      refine nearestRank_congr (Decimal.pow_ten_pos _) Nat.one_pos ?_
      show m * 10 * 1 * unitsPerOne * 1 = m * unitsPerOne * 10
      ring
  next =>
    rw [plain, if_neg (Nat.ne_of_lt hfinite)]
    have hread := Decimal.rank_shortest .up hrank
    rcases Int.lt_or_le (Decimal.shortest .up rank).exponent 0 with hneg | hnonneg
    · refine ⟨small negative _ exponent_shortest hneg, lexeme_small .., rfl, ?_⟩
      rw [decimal_small, hread]
    · refine ⟨integral negative _ exponent_shortest, lexeme_integral _ _ _ hnonneg, rfl, ?_⟩
      rw [rank_integral _ _ _ hnonneg, hread]

/-- **A finite double reads back** as itself. -/
theorem parse?_text {v : Double} (h : v.isFinite = true) : parse? v.text = some v := by
  cases v with
  | nan => cases h
  | signed negative rank hrank =>
    obtain ⟨n, hlexeme, hnegative, hvalue⟩ := exists_lexeme_eq_text (of_decide_eq_true h)
    rw [← hlexeme, parse?_lexeme, hnegative, hvalue, ofRank_of_le negative hrank]

end Double

end TableRules
