/-
  UPPER CASE: a number is told by the upper case of its text.

  1. **Tables** — what a table moves stands in one of its runs, and what it expands in one of its
     entries.

  2. **Figures** — only a figure, or a letter of ASCII, has a figure in its upper case.  So a text
     with the upper case of a number in figures is the same number, written with `e` for `E` or the
     other way round.

  The tables of upper case are long, and a character beyond ASCII may well have an ASCII letter in
  its upper case: `ſ` becomes `S`.  None becomes a digit, a sign, a point or an `E`, and that is all
  that is needed.  It is decided run by run, never for single characters.
-/
import TableRules.Proofs.NumberTexts

namespace TableRules.Text

open Decimal (isFigure)

/-! ## Tables -/

/-- A code point that a table moves stands in one of its runs. -/
theorem exists_run_of_runOffset {runs : List CaseRun} {n : Nat} {offset : Int}
    (h : runOffset runs n = some offset) :
    ∃ run ∈ runs, run.first ≤ n ∧ n ≤ run.last ∧ run.offset = offset := by
  induction runs with
  | nil => cases h
  | cons run runs ih =>
    rw [runOffset] at h
    split at h
    next => cases h
    next hfirst =>
      split at h
      next hrun =>
        -- The run that is stopped at holds `n`, as its test says.
        have hlast : n ≤ run.last := of_decide_eq_true (Bool.and_eq_true_iff.mp hrun).1
        exact ⟨run, List.mem_cons_self .., Nat.le_of_not_lt hfirst, hlast, Option.some.inj h⟩
      next =>
        obtain ⟨other, hother, hplace⟩ := ih h
        exact ⟨other, List.mem_cons_of_mem _ hother, hplace⟩

/-- What a table of expansions gives stands in it. -/
theorem mem_of_lookup {expansions : List (Nat × List Nat)} {n : Nat} {ns : List Nat}
    (h : expansions.lookup n = some ns) : (n, ns) ∈ expansions := by
  obtain ⟨front, back, rfl, -⟩ := List.lookup_eq_some_iff.mp h
  exact List.mem_append_right front (List.mem_cons_self ..)

/-! ## Figures -/

/-- In ASCII the upper case of a character is one character. -/
theorem upperChar_of_ascii {c : Char} (hc : c.toNat < 128) : upperChar c = [c.toUpper] :=
  forall_of_ascii (P := fun c => upperChar c = [c.toUpper]) (by decide +kernel) hc

/-- Figures are in ASCII, ... -/
theorem toNat_lt_of_isFigure {c : Char} (h : isFigure c = true) : c.toNat < 128 := by
  rcases Bool.or_eq_true_iff.mp h with hdigit | hmark
  · exact lt_of_isPlain (isPlain_of_isDigit hdigit)
  · have hall : ∀ c ∈ ['+', '-', '.', 'e', 'E'], c.toNat < 128 := by decide
    exact hall c (List.contains_iff_mem.mp hmark)

/-- ... and stay figures in upper case. -/
theorem isFigure_toUpper {c : Char} (h : isFigure c = true) : isFigure c.toUpper = true :=
  forall_of_ascii (P := fun c => isFigure c = true → isFigure c.toUpper = true) (by decide)
    (toNat_lt_of_isFigure h) h

/-- Every character has an upper case. -/
theorem upperChar_ne_nil (c : Char) : upperChar c ≠ [] := by
  have hexpansions : ∀ entry ∈ upperExpansions, entry.2 ≠ [] := by decide +kernel
  rw [upperChar, mapCase]
  split
  next ns hlookup => exact mt List.map_eq_nil_iff.mp (hexpansions _ (mem_of_lookup hlookup))
  next => split <;> exact List.cons_ne_nil _ _

/-- Beyond ASCII there are no figures. -/
theorem isFigure_ofNat {n : Nat} (h : 128 ≤ n) : isFigure (Char.ofNat n) = false := by
  rw [← Bool.not_eq_true]
  intro hfigure
  by_cases hvalid : n.isValidChar
  · rw [Char.ofNat, dif_pos hvalid] at hfigure
    have hlt : n < 128 := toNat_lt_of_isFigure hfigure
    omega
  · rw [Char.ofNat, dif_neg hvalid] at hfigure
    exact absurd hfigure (by decide)

/-- A figure is in the upper case of an ASCII character only. -/
theorem toNat_lt_of_mem_upperChar {c d : Char} (hd : d ∈ upperChar c) (hfigure : isFigure d = true) :
    c.toNat < 128 := by
  have hexpansions : ∀ entry ∈ upperExpansions, ∀ n ∈ entry.2, isFigure (Char.ofNat n) = false := by
    decide +kernel
  -- what lies beyond ASCII stays there, apart from single characters that become other letters
  have hruns : ∀ run ∈ upperRuns, run.last < 128 ∨ 128 ≤ run.first + run.offset ∨
      run.first = run.last ∧ isFigure (Char.ofNat ((run.first : Int) + run.offset).toNat) = false := by
    decide +kernel
  rw [upperChar, mapCase] at hd
  split at hd
  next ns hlookup =>
    obtain ⟨n, hn, rfl⟩ := List.mem_map.mp hd
    rw [hexpansions _ (mem_of_lookup hlookup) n hn] at hfigure
    cases hfigure
  next =>
    split at hd
    next offset hoffset =>
      obtain ⟨run, hrun, hfirst, hlast, rfl⟩ := exists_run_of_runOffset hoffset
      rw [List.mem_singleton.mp hd] at hfigure
      rcases hruns run hrun with hascii | hbeyond | ⟨hsingle, hnone⟩
      · omega
      · rw [isFigure_ofNat (by omega)] at hfigure
        cases hfigure
      · rw [show c.toNat = run.first by omega, hnone] at hfigure
        cases hfigure
    next =>
      rw [List.mem_singleton.mp hd] at hfigure
      exact toNat_lt_of_isFigure hfigure

/-- **A text with the upper case of figures** differs from them by the case of its letters alone. -/
theorem lowerAscii_eq_of_upper_eq {cs figures : List Char}
    (hfigures : ∀ c ∈ figures, isFigure c = true) (h : upper cs = upper figures) :
    lowerAscii cs = lowerAscii figures := by
  have hmap : ∀ {ds : List Char}, (∀ c ∈ ds, c.toNat < 128) → upper ds = ds.map Char.toUpper := by
    intro ds hds
    rw [upper, List.map_eq_flatMap]
    exact List.flatMap_congr fun c hc => upperChar_of_ascii (hds c hc)
  have hupper := hmap fun c hc => toNat_lt_of_isFigure (hfigures c hc)
  have hascii : ∀ c ∈ cs, c.toNat < 128 := by
    intro c hc
    -- the upper case of each character is a part of the upper case of the figures
    obtain ⟨d, ds, hd⟩ := List.exists_cons_of_ne_nil (upperChar_ne_nil c)
    have hmem : d ∈ upperChar c := hd ▸ List.mem_cons_self ..
    have hall : d ∈ upper cs := List.mem_flatMap.mpr ⟨c, hc, hmem⟩
    rw [h, hupper] at hall
    obtain ⟨e, he, rfl⟩ := List.mem_map.mp hall
    exact toNat_lt_of_mem_upperChar hmem (isFigure_toUpper (hfigures e he))
  have hlower : ∀ {ds : List Char}, (∀ c ∈ ds, c.toNat < 128) →
      lowerAscii (ds.map Char.toUpper) = lowerAscii ds := by
    intro ds hds
    rw [lowerAscii, List.map_map]
    refine List.map_congr_left fun c hc => ?_
    exact forall_of_ascii (P := fun c => c.toUpper.toLower = c.toLower) (by decide) (hds c hc)
  rw [← hlower hascii, ← hmap hascii, h, hupper,
    hlower fun c hc => toNat_lt_of_isFigure (hfigures c hc)]

/-- **The upper case of a number** is that of numbers only. -/
theorem isSome_parse?_of_upper_eq {cs number : List Char} (h : upper cs = upper number)
    (hdigit : ∃ c ∈ number, c.isDigit = true) (hnumber : (Double.parse? number).isSome = true) :
    (Double.parse? cs).isSome = true := by
  obtain ⟨v, hv⟩ := Option.isSome_iff_exists.mp hnumber
  have hlower := lowerAscii_eq_of_upper_eq (Double.isFigure_of_parse? hdigit hv) h
  rw [← Double.parse?_lowerAscii, hlower, Double.parse?_lowerAscii]
  exact hnumber

end TableRules.Text
