/-
  LEXEMES: a text between quotes, and a number, are read back as they are written.

  1. **Characters** — `Quoted.escapeChar` writes a character in one of three forms: as it is,
     as a backslash and a letter, or as `\u00` and two digits.  What reads a lexeme is followed
     through these three, and no further.

  2. **Texts** — a written lexeme ends at its quote (`spanString_escape`), and stands for the
     text that it was written from (`unescape?_escape`).

  3. **Numbers** — `Spelt` are the parts of a number as the writer spells it.  The lexeme is
     found again before anything that does not go on with the number (`spanNumber_lexeme`), and
     falls into the same parts (`read?_lexeme`).

  4. **Spellings** — an integer, and each way in which a double is written, is the lexeme of some
     `Spelt`: with an exponent, with zeros behind the digits, or with a point among them.

  The crux of the numbers is that `Spelt` is narrower than what a reader takes: a whole part of
  several digits never starts with a zero, and the parts that are missing leave no mark.  With
  that, what stands behind each part is known by its first character alone, a point, an `e` or
  whatever `Ends` the number, and each reader stops where the next one has to start.  The price
  is paid by the spellings: a decimal below one needs its zeros in front (`padded`), and a zero
  coefficient must come with the exponent zero, or its digits would start with a needless zero.
-/
import TableRules.Json.Document

namespace TableRules.Json

/-! ## Characters

  The three forms, and that each of them stays in its lexeme and stands for its character. Which
  form a character gets does not matter after that. -/

namespace Quoted

/-- A hexadecimal digit that is written is read as its value. -/
theorem hexDigit?_hexChar : ∀ {n : Nat}, n < 16 → Token.hexDigit? (hexChar n) = some n := by
  decide +kernel

/-- The three forms in which a character is written. -/
inductive Form (c : Char) : List Char → Prop
  /-- It stands for itself. -/
  | plain (hquote : c ≠ '"') (hslash : c ≠ '\\') (hvisible : ¬ c.toNat < 0x20) : Form c [c]
  /-- A letter denotes it. -/
  | letter {letter : Char} (hescapable : Token.escapable.contains letter = true)
      (hletter : letter ≠ 'u') (hdenotes : escapedLetters.lookup letter = some c) :
      Form c ['\\', letter]
  /-- Its number is written in full. -/
  | number {high low : Nat} (hhigh : high < 2) (hlow : low < 16) (hc : c.toNat = high * 16 + low) :
      Form c ['\\', 'u', '0', '0', hexChar high, hexChar low]

/-- Every character is written in one of the three forms: by its number if it is a control character
    without a letter of its own, which is below 32. -/
theorem form_escapeChar (c : Char) : Form c (escapeChar c) := by
  rw [escapeChar]
  iterate 7
    split
    next hc =>
      subst hc
      exact .letter (by decide) (by decide) (by decide)
  split
  next hcontrol => exact .number (by omega) (Nat.mod_lt _ (by decide)) (by omega)
  next hvisible => exact .plain ‹_› ‹_› hvisible

/-! ## Texts

  Both by induction on the text, character by character. -/

/-- The two digits of a control character are read as its number. -/
theorem unit?_hexChar {high low : Nat} (hhigh : high < 2) (hlow : low < 16) :
    unit? '0' '0' (hexChar high) (hexChar low) = some (high * 16 + low) := by
  have hzero : Token.hexDigit? '0' = some 0 := by decide
  simp [unit?, hzero, hexDigit?_hexChar (Nat.lt_trans hhigh (by decide)), hexDigit?_hexChar hlow]

/-- A written character stays in its lexeme: none of the three forms holds a quote that would end
    it. -/
theorem spanString_form {c : Char} {form : List Char} (h : Form c form) (rest : List Char) :
    Token.spanString (form ++ rest) =
      (Token.spanString rest).map fun (s, rest) => (form ++ s, rest) := by
  cases h with
  | plain hquote hslash hvisible =>
    rw [List.singleton_append, Token.spanString.eq_def]
    simp only [if_neg hquote, if_neg hvisible, if_pos hslash]
    rfl
  | letter hescapable hletter hdenotes =>
    show Token.spanString ('\\' :: _ :: rest) = _
    rw [Token.spanString.eq_def]
    simp only [if_pos hescapable]
    rfl
  | @number high low hhigh hlow hc =>
    -- A numbered form takes six characters, and its four digits are passed at once.
    show Token.spanString ('\\' :: 'u' :: '0' :: '0' :: hexChar high :: hexChar low :: rest) = _
    have hdigits : ['0', '0', hexChar high, hexChar low].all
        (fun x => (Token.hexDigit? x).isSome) = true := by
      simp [hexDigit?_hexChar (Nat.lt_trans hhigh (by decide : 2 < 16)), hexDigit?_hexChar hlow]
      decide
    rw [Token.spanString.eq_def]
    simp only [hdigits, and_self, if_true]
    rfl

/-- A written character stands for itself. A number below 32 is no half of a pair, so nothing is
    read on behind it. -/
theorem unescape?_form {c : Char} {form : List Char} (h : Form c form) (rest : List Char) :
    unescape? (form ++ rest) = (unescape? rest).map (c :: ·) := by
  cases h with
  | plain hquote hslash hvisible =>
    rw [List.singleton_append, unescape?.eq_def]
    simp only [if_pos hslash]
  | letter hescapable hletter hdenotes =>
    show unescape? ('\\' :: _ :: rest) = _
    rw [unescape?.eq_def]
    simp only [if_pos hletter, hdenotes]
    rfl
  | @number high low hhigh hlow hc =>
    show unescape? ('\\' :: 'u' :: '0' :: '0' :: hexChar high :: hexChar low :: rest) = _
    -- Numbered forms stand for control characters only, so neither half of a pair comes up.
    have hhalf : isLowHalf c.toNat = false ∧ isHighHalf c.toNat = false := by
      simp only [isLowHalf, isHighHalf, Bool.and_eq_false_imp, decide_eq_true_eq,
        decide_eq_false_iff_not]
      omega
    rw [unescape?.eq_def]
    simp [unit?_hexChar hhigh hlow, hhalf, ← hc]

/-- **A lexeme ends at its quote.** -/
theorem spanString_escape (cs rest : List Char) :
    Token.spanString (escape cs ++ '"' :: rest) = some (escape cs, rest) := by
  induction cs with
  | nil => exact Token.spanString.eq_def _
  | cons c cs ih =>
    rw [escape, List.flatMap_cons, List.append_assoc, spanString_form (form_escapeChar c), ← escape, ih]
    rfl

/-- **A lexeme stands for the text** that it was written from. -/
@[simp] theorem unescape?_escape (cs : List Char) : unescape? (escape cs) = some cs := by
  induction cs with
  | nil => simp [escape, unescape?]
  | cons c cs ih =>
    rw [escape, List.flatMap_cons, unescape?_form (form_escapeChar c), ← escape, ih]
    rfl

end Quoted

/-! ## Numbers

  The reader of tokens finds where a number ends, and the reader of values takes it apart. Both go
  over the same parts, so the same is shown of each part twice: where it ends, and what it stands
  for. -/

/-- The parts of a number as it is spelled: a sign or none, digits that do not start with a zero
    that is not alone, digits after a point or none, and an exponent with its sign or none. -/
structure Spelt where
  negative : Bool
  whole : List Char
  fraction : List Char
  exponent : Option Int
  whole_digits : ∀ c ∈ whole, c.isDigit = true
  whole_ne_nil : whole ≠ []
  whole_zero : whole.head? = some '0' → whole = ['0']
  fraction_digits : ∀ c ∈ fraction, c.isDigit = true

namespace Spelt

/-- A digit row after a point, if there is one. -/
def fractionText (ds : List Char) : List Char := if ds = [] then [] else '.' :: ds

/-- An exponent after its mark, with its sign, if there is one. -/
def exponentText : Option Int → List Char
  | none => []
  | some e => 'e' :: (if e < 0 then '-' else '+') :: Decimal.digits e.natAbs

/-- How the number is spelled. -/
def lexeme (n : Spelt) : List Char :=
  Double.signText n.negative ++ n.whole ++ fractionText n.fraction ++ exponentText n.exponent

end Spelt

/-- What does not go on with a number: nothing, or another character. -/
def Ends (rest : List Char) : Prop :=
  ∀ c ∈ rest.head?, c.isDigit = false ∧ c ≠ '.' ∧ c ≠ 'e' ∧ c ≠ 'E'

/-- A character that does not go on with a number ends it, whatever comes after. -/
theorem ends_cons {c : Char} {rest : List Char}
    (h : c.isDigit = false ∧ c ≠ '.' ∧ c ≠ 'e' ∧ c ≠ 'E') : Ends (c :: rest) := by
  intro d hd
  obtain rfl : c = d := Option.some.inj hd
  exact h

theorem digits_isDigit (n : Nat) : ∀ c ∈ Decimal.digits n, c.isDigit = true :=
  fun _ h => Nat.isDigit_of_mem_toDigits (by decide) (by decide) h

/-- Digits are taken up to what is none. By induction on the digits. -/
theorem spanDigits_append {ds rest : List Char} (hds : ∀ c ∈ ds, c.isDigit = true)
    (hrest : ∀ c ∈ rest.head?, c.isDigit = false) :
    Decimal.spanDigits (ds ++ rest) = (ds, rest) := by
  have hstop : rest.takeWhile Char.isDigit = [] ∧ rest.dropWhile Char.isDigit = rest := by
    cases rest with
    | nil => exact ⟨rfl, rfl⟩
    | cons c rest =>
      have hc := hrest c rfl
      exact ⟨List.takeWhile_cons_of_neg (by simp [hc]), List.dropWhile_cons_of_neg (by simp [hc])⟩
  rw [Decimal.spanDigits, List.takeWhile_append_of_pos hds, List.dropWhile_append_of_pos hds,
    hstop.1, hstop.2, List.append_nil]

namespace Spelt

variable (n : Spelt) {rest : List Char}

/-- What follows the whole part starts with no digit, ... -/
theorem head?_fraction (h : Ends rest) :
    ∀ c ∈ (fractionText n.fraction ++ (exponentText n.exponent ++ rest)).head?,
      c.isDigit = false := by
  intro c hc
  rw [fractionText] at hc
  -- Without a fraction the exponent comes next, and without that what follows the number.
  split at hc
  · cases hexponent : n.exponent with
    | none =>
      rw [hexponent] at hc
      exact (h c hc).1
    | some e =>
      rw [hexponent] at hc
      obtain rfl := Option.some.inj hc
      rfl
  · obtain rfl := Option.some.inj hc
    rfl

/-- ... and what follows the fraction with no point either. -/
theorem head?_exponent (h : Ends rest) :
    ∀ c ∈ (exponentText n.exponent ++ rest).head?, c.isDigit = false ∧ c ≠ '.' := by
  intro c hc
  cases hexponent : n.exponent with
  | none =>
    rw [hexponent] at hc
    exact ⟨(h c hc).1, (h c hc).2.1⟩
  | some e =>
    rw [hexponent] at hc
    obtain rfl := Option.some.inj hc
    decide

/-- The whole part starts with a digit, ... -/
theorem isDigit_of_head? {c : Char} (hc : n.whole.head? = some c) : c.isDigit = true :=
  n.whole_digits c (List.mem_of_mem_head? hc)

/-- ... and so does what it stands in front of. -/
theorem isDigit_of_append {c : Char} {cs : List Char} (h : n.whole ++ rest = c :: cs) :
    c.isDigit = true := by
  obtain ⟨d, ds, hwhole⟩ := List.exists_cons_of_ne_nil n.whole_ne_nil
  rw [hwhole, List.cons_append] at h
  exact n.isDigit_of_head? (by rw [hwhole, (List.cons.inj h).1]; rfl)

/-- The whole part is taken as it is: a zero alone, or digits up to what is none. -/
theorem spanWhole_append (h : ∀ c ∈ rest.head?, c.isDigit = false) :
    Token.spanWhole (n.whole ++ rest) = some (n.whole, rest) := by
  cases hwhole : n.whole with
  | nil => exact absurd hwhole n.whole_ne_nil
  | cons d ds =>
    have hd : d.isDigit = true := n.isDigit_of_head? (by rw [hwhole]; rfl)
    -- a zero stands alone, and anything else goes on as far as there are digits
    by_cases hzero : d = '0'
    · subst hzero
      have halone := n.whole_zero (by rw [hwhole]; rfl)
      rw [hwhole] at halone
      rw [halone]
      rfl
    · rw [List.cons_append, Token.spanWhole.eq_def]
      split
      next heq => cases heq
      next heq => exact absurd (List.cons.inj heq).1 hzero
      next heq =>
        obtain ⟨rfl, rfl⟩ := List.cons.inj heq
        rw [if_pos hd, ← List.cons_append, ← hwhole, spanDigits_append n.whole_digits h]

/-- The fraction is taken with its point, or nothing is taken where there is none. -/
theorem spanFraction_append (h : ∀ c ∈ rest.head?, c.isDigit = false ∧ c ≠ '.') :
    Token.spanFraction (fractionText n.fraction ++ rest) =
      some (fractionText n.fraction, rest) := by
  rw [fractionText]
  split
  next =>
    rw [List.nil_append, Token.spanFraction.eq_def]
    split
    next => exact absurd rfl (h '.' rfl).2
    next => rfl
  next hfraction =>
    have hspan := spanDigits_append n.fraction_digits fun c hc => (h c hc).1
    rw [List.cons_append, Token.spanFraction.eq_def]
    simp only [hspan]

/-- The exponent is taken with its mark and sign, or nothing is taken where there is none. Without
    one, what comes next must not be an `e`, and this is where the rest has to end the number. -/
theorem spanExponent_append (h : Ends rest) :
    Token.spanExponent (exponentText n.exponent ++ rest) =
      some (exponentText n.exponent, rest) := by
  cases hexponent : n.exponent with
  | none =>
    rw [exponentText, List.nil_append, Token.spanExponent.eq_def]
    cases rest with
    | nil => rfl
    | cons c rest =>
      obtain ⟨-, -, he, hE⟩ := h c rfl
      simp only [he, hE, or_self, if_false]
  | some e =>
    have hspan := spanDigits_append (digits_isDigit e.natAbs) fun c hc => (h c hc).1
    obtain ⟨d, ds, hds⟩ := List.exists_cons_of_ne_nil
      (show Decimal.digits e.natAbs ≠ [] from Nat.toDigits_ne_nil)
    rw [hds, List.cons_append] at hspan
    by_cases hsign : e < 0 <;> simp [exponentText, Token.spanExponent, hsign, hds, hspan]

/-- **A lexeme is found again** before what does not go on with it. -/
theorem spanNumber_lexeme (h : Ends rest) :
    Token.spanNumber (n.lexeme ++ rest) = some (n.lexeme, rest) := by
  have hwhole := n.spanWhole_append (n.head?_fraction h)
  have hfraction := n.spanFraction_append (n.head?_exponent h)
  have hexponent := n.spanExponent_append h
  rw [lexeme, List.append_assoc, List.append_assoc, List.append_assoc, Token.spanNumber.eq_def]
  cases n.negative with
  | true => simp [Double.signText, hwhole, hfraction, hexponent]
  | false =>
    -- a digit comes first, and no sign
    simp only [Double.signText, Bool.false_eq_true, if_false, List.nil_append]
    split
    next heq => exact absurd (n.isDigit_of_append heq) (by decide)
    next => simp [hwhole, hfraction, hexponent]

/-- A lexeme starts with a minus or a digit. -/
theorem exists_lexeme_eq_cons : ∃ c cs, n.lexeme = c :: cs ∧ (c = '-' ∨ c.isDigit = true) := by
  obtain ⟨d, ds, hwhole⟩ := List.exists_cons_of_ne_nil n.whole_ne_nil
  rw [lexeme, hwhole]
  cases n.negative with
  | true => exact ⟨'-', _, rfl, .inl rfl⟩
  | false => exact ⟨d, _, rfl, .inr (n.isDigit_of_head? (by rw [hwhole]; rfl))⟩

/-- A minus in front is the sign; without one the first character is a digit. -/
theorem spanSign_lexeme : Decimal.spanSign n.lexeme =
    (n.negative, n.whole ++ (fractionText n.fraction ++ exponentText n.exponent)) := by
  rw [lexeme, List.append_assoc, List.append_assoc]
  cases n.negative with
  | true => rfl
  | false =>
    simp only [Double.signText, Bool.false_eq_true, if_false, List.nil_append]
    rw [Decimal.spanSign.eq_def]
    split
    next heq => exact absurd (n.isDigit_of_append heq) (by decide)
    next heq => exact absurd (n.isDigit_of_append heq) (by decide)
    next => rfl

/-- An exponent is read as it was, and none as zero. -/
theorem parseExponent?_exponentText :
    Decimal.parseExponent? (exponentText n.exponent) = some (n.exponent.getD 0) := by
  cases hexponent : n.exponent with
  | none => rfl
  | some e =>
    have hdigits : Decimal.digits e.natAbs ≠ [] := Nat.toDigits_ne_nil
    have hall : (Decimal.digits e.natAbs).all Char.isDigit = true :=
      List.all_eq_true.mpr (digits_isDigit e.natAbs)
    have hvalue : Decimal.ofDigits (Decimal.digits e.natAbs) = e.natAbs :=
      Nat.ofDigitChars_toDigits (by decide) (by decide)
    -- the sign is always written, the plus too
    by_cases hsign : e < 0
    · rw [exponentText, if_pos hsign]
      show Decimal.parseInt? ('-' :: _) = some e
      simp only [Decimal.parseInt?, Decimal.spanSign, if_pos (And.intro hdigits hall), hvalue, if_true]
      rw [Option.some.injEq]
      omega
    · rw [exponentText, if_neg hsign]
      show Decimal.parseInt? ('+' :: _) = some e
      simp only [Decimal.parseInt?, Decimal.spanSign, if_pos (And.intro hdigits hall), hvalue,
        Bool.false_eq_true, if_false]
      rw [Option.some.injEq]
      omega

/-- **A number falls into its parts** again: an integer if it is only a whole part that fits, and
    else a double. -/
theorem read?_lexeme : Number.read? n.lexeme =
    ((if n.fraction = [] ∧ n.exponent = none then Number.integer? n.negative n.whole
      else none).map Number.integer).or
      ((Number.double? n.negative n.whole n.fraction (n.exponent.getD 0)).map .double) := by
  have hends : Ends [] := fun _ h => nomatch h
  have hwhole : Decimal.spanDigits
      (n.whole ++ (fractionText n.fraction ++ exponentText n.exponent)) =
        (n.whole, fractionText n.fraction ++ exponentText n.exponent) := by
    have hnext := n.head?_fraction hends
    rw [List.append_nil] at hnext
    exact spanDigits_append n.whole_digits hnext
  have hexponent := n.parseExponent?_exponentText
  have hnext := n.head?_exponent hends
  rw [List.append_nil] at hnext
  rw [Number.read?, n.spanSign_lexeme]
  simp only [hwhole]
  -- which parts there are: only the whole one, an exponent, or a fraction as well
  by_cases hfraction : n.fraction = []
  · cases hnone : n.exponent with
    | none =>
      simp only [fractionText, exponentText, hfraction, Decimal.parseExponent?, if_true,
        List.nil_append, and_self, Option.getD_none]
      cases Number.integer? n.negative n.whole <;> rfl
    | some e =>
      rw [hnone] at hexponent
      have hcut : exponentText (some e) = 'e' :: (exponentText (some e)).tail := rfl
      rw [hcut] at hexponent ⊢
      simp [fractionText, hfraction, hexponent]
  · have hspan := spanDigits_append n.fraction_digits fun c hc => (hnext c hc).1
    simp [fractionText, hfraction, hspan, hexponent]

end Spelt

/-! ## What is written

  The writers of numbers, one by one. Each writes the lexeme of some `Spelt`, whose fields carry the
  proof that it is well spelled. -/

theorem digits_zero : Decimal.digits 0 = ['0'] := by decide

theorem digits_ne_nil (n : Nat) : Decimal.digits n ≠ [] := Nat.toDigits_ne_nil

/-- What stands behind the digits does not change which is first. -/
theorem head?_digits_append (n : Nat) (rest : List Char) :
    (Decimal.digits n ++ rest).head? = (Decimal.digits n).head? := by
  obtain ⟨d, ds, hds⟩ := List.exists_cons_of_ne_nil (digits_ne_nil n)
  rw [hds]
  rfl

/-- Digits start with a zero for zero alone. -/
theorem eq_zero_of_head?_digits {n : Nat} (h : (Decimal.digits n).head? = some '0') : n = 0 := by
  induction n using Nat.strongRecOn with
  | _ n ih =>
    by_cases hn : n < 10
    · rw [Decimal.digits, Nat.toDigits_of_lt_base hn, List.head?_cons, Option.some.injEq,
        Nat.digitChar_eq_zero] at h
      exact h
    · rw [Decimal.digits, Nat.toDigits_of_base_le (by decide) (Nat.le_of_not_lt hn),
        ← Decimal.digits, head?_digits_append] at h
      have hrest := ih (n / 10) (by omega) h
      omega

namespace Spelt

/-- An integer is spelled as its digits, after a minus if it is negative. -/
def ofInt (i : Int) : Spelt where
  negative := i < 0
  whole := Decimal.digits i.natAbs
  fraction := []
  exponent := none
  whole_digits := digits_isDigit _
  whole_ne_nil := digits_ne_nil _
  whole_zero h := by rw [eq_zero_of_head?_digits h, digits_zero]
  fraction_digits := by simp

theorem lexeme_ofInt (i : Int) : (ofInt i).lexeme = intText i := by
  simp [lexeme, ofInt, intText, fractionText, exponentText, Double.signText]

/-- A decimal with one digit before the point and an exponent. -/
def scientific (negative : Bool) (d : Decimal) : Spelt where
  negative := negative
  whole := (Decimal.digits d.coefficient).take 1
  fraction := (Decimal.digits d.coefficient).drop 1
  exponent := some d.leadingExponent
  whole_digits c hc := digits_isDigit _ c (List.mem_of_mem_take hc)
  whole_ne_nil := by simp [digits_ne_nil]
  whole_zero h := by
    cases hds : Decimal.digits d.coefficient with
    | nil => exact absurd hds (digits_ne_nil _)
    | cons c cs =>
      rw [hds] at h
      obtain rfl := Option.some.inj h
      rfl
  fraction_digits c hc := digits_isDigit _ c (List.mem_of_mem_drop hc)

/-- The spelling with an exponent is what the writer writes after the sign. -/
theorem lexeme_scientific (negative : Bool) (d : Decimal) :
    (scientific negative d).lexeme = Double.signText negative ++ d.scientific := by
  have hlength : (Decimal.digits d.coefficient).drop 1 = [] ↔
      (Decimal.digits d.coefficient).length = 1 := by
    have hne := List.length_pos_iff.mpr (digits_ne_nil d.coefficient)
    rw [List.drop_eq_nil_iff]
    omega
  simp only [lexeme, scientific, Decimal.scientific, fractionText, exponentText, hlength,
    List.append_assoc]

/-- A decimal without digits behind the point, which are spelled as one zero. -/
def large (negative : Bool) (d : Decimal) (h : d.coefficient = 0 → d.exponent = 0) : Spelt where
  negative := negative
  whole := Decimal.digits d.coefficient ++ List.replicate d.exponent.toNat '0'
  fraction := ['0']
  exponent := none
  whole_digits c hc := by
    rcases List.mem_append.mp hc with hc | hc
    · exact digits_isDigit _ c hc
    · rw [List.eq_of_mem_replicate hc]
      rfl
  whole_ne_nil := by simp [digits_ne_nil]
  whole_zero hzero := by
    rw [head?_digits_append] at hzero
    have hcoefficient := eq_zero_of_head?_digits hzero
    rw [h hcoefficient, hcoefficient, digits_zero]
    rfl
  fraction_digits c hc := by
    rw [List.mem_singleton.mp hc]
    rfl

/-- The spelling with zeros behind the digits is the text of a decimal that is an integer. -/
theorem lexeme_large (negative : Bool) (d : Decimal) (h : d.coefficient = 0 → d.exponent = 0)
    (hexponent : 0 ≤ d.exponent) :
    (large negative d h).lexeme = Double.signText negative ++ (d.positional ++ ".0".toList) := by
  simp only [lexeme, large, Decimal.positional, fractionText, exponentText, if_pos hexponent]
  simp

/-- The digits of a decimal with zeros before them, so that one is left before the point. -/
def padded (d : Decimal) : List Char :=
  List.replicate ((-d.exponent).toNat + 1 - (Decimal.digits d.coefficient).length) '0'
    ++ Decimal.digits d.coefficient

/-- The padding is of digits too. -/
theorem padded_isDigit (d : Decimal) : ∀ c ∈ padded d, c.isDigit = true := by
  intro c hc
  rcases List.mem_append.mp hc with hc | hc
  · rw [List.eq_of_mem_replicate hc]
    rfl
  · exact digits_isDigit _ c hc

/-- At least one digit is left in front of the point. -/
theorem lt_length_padded (d : Decimal) : (-d.exponent).toNat < (padded d).length := by
  rw [padded, List.length_append, List.length_replicate]
  omega

/-- A decimal with digits behind the point, and at least one before it. -/
def small (negative : Bool) (d : Decimal) (h : d.coefficient = 0 → d.exponent = 0)
    (hexponent : d.exponent < 0) : Spelt where
  negative := negative
  whole := (padded d).take ((padded d).length - (-d.exponent).toNat)
  fraction := (padded d).drop ((padded d).length - (-d.exponent).toNat)
  exponent := none
  whole_digits c hc := padded_isDigit d c (List.mem_of_mem_take hc)
  whole_ne_nil := by
    have hlength := lt_length_padded d
    rw [ne_eq, ← List.length_eq_zero_iff, List.length_take]
    omega
  whole_zero hzero := by
    have hlength := lt_length_padded d
    rw [List.head?_take, if_neg (by omega)] at hzero
    rcases Nat.lt_or_ge (-d.exponent).toNat (Decimal.digits d.coefficient).length with hlong | hshort
    · -- nothing was put before the digits, and these do not start with a zero
      rw [padded, Nat.sub_eq_zero_of_le hlong, List.replicate_zero, List.nil_append] at hzero
      have := h (eq_zero_of_head?_digits hzero)
      omega
    · have hone : (padded d).length - (-d.exponent).toNat = 1 := by
        rw [padded, List.length_append, List.length_replicate]
        omega
      rw [hone]
      cases hpadded : padded d with
      | nil => rw [hpadded] at hzero; cases hzero
      | cons c cs =>
        rw [hpadded] at hzero
        obtain rfl := Option.some.inj hzero
        rfl
  fraction_digits c hc := padded_isDigit d c (List.mem_of_mem_drop hc)

/-- The spelling with a point among the digits is the text of a decimal with an exponent below zero:
    both put the point the same number of digits before the end. -/
theorem lexeme_small (negative : Bool) (d : Decimal) (h : d.coefficient = 0 → d.exponent = 0)
    (hexponent : d.exponent < 0) :
    (small negative d h hexponent).lexeme = Double.signText negative ++ d.positional := by
  have hfraction : (padded d).drop ((padded d).length - (-d.exponent).toNat) ≠ [] := by
    rw [ne_eq, List.drop_eq_nil_iff]
    have := lt_length_padded d
    omega
  have htext : fractionText (small negative d h hexponent).fraction = '.' :: _ := if_neg hfraction
  rw [lexeme, htext, Decimal.positional, if_neg (Int.not_le.mpr hexponent), List.append_assoc,
    List.append_assoc]
  show _ ++ (_ ++ (_ ++ [])) = _
  rw [List.append_nil]
  rfl

end Spelt

/-- A zero without further zeros has the exponent zero. -/
theorem exponent_normal {d : Decimal} (h : d.normal.coefficient = 0) : d.normal.exponent = 0 := by
  induction d using Decimal.normal.induct with
  | case1 d hzero => rw [Decimal.normal, if_pos hzero]
  | case2 d hzero hten ih =>
    rw [Decimal.normal, if_neg hzero, if_pos hten] at h ⊢
    exact ih h
  | case3 d hzero hten =>
    rw [Decimal.normal, if_neg hzero, if_neg hten] at h
    exact absurd h hzero

/-- The shortest decimal of a double is without further zeros, so this holds of it. -/
theorem exponent_shortest {tie : Tie} {rank : Nat}
    (h : (Decimal.shortest tie rank).coefficient = 0) : (Decimal.shortest tie rank).exponent = 0 :=
  exponent_normal h

/-- How a double is spelled in a stored text, if it is finite. -/
def Spelt.ofDouble? : Double → Option Spelt
  | .nan => none
  | .signed negative rank _ =>
    if rank = Double.infinityRank then none
    else
      let d := Decimal.shortest .even rank
      if d.leadingExponent < -5 ∨ 15 < d.leadingExponent then some (scientific negative d)
      else if h : 0 ≤ d.exponent then some (large negative d exponent_shortest)
      else some (small negative d exponent_shortest (Int.not_le.mp h))

/-- Every finite double is written as the lexeme of its spelling, and none else is written. -/
theorem Spelt.map_lexeme_ofDouble? (v : Double) : (ofDouble? v).map lexeme = v.json? := by
  cases v with
  | nan => rfl
  | signed negative rank rank_le =>
    rw [ofDouble?, Double.json?]
    split
    · rfl
    · dsimp only
      split
      · rw [Option.map_some, lexeme_scientific]
      · split
        next hexponent => rw [Option.map_some, lexeme_large _ _ _ hexponent]
        next hexponent => rw [Option.map_some, lexeme_small]

end TableRules.Json
