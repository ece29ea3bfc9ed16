/-
  TEXT SEARCHES: when a literal occurrence of a text is found.

  A search compares lower cases, and the lower case of a text is not put together from those of its
  parts: a capital sigma looks around.

  1. **Parts** — `lowerBetween` is the lower case of a part among its neighbours.  The lower case of
     a text is that of its parts, each among its neighbours (`lower_append`), and the neighbours make
     a difference to the capital sigmas alone (`lowerBetween_eq_iff`).

  2. **Neighbours** — all that counts on either side is whether the next letter is a cased one
     (`sigmaTurns_congr`), so one letter on either side shows all that neighbours can do.

  3. **Searches** — an occurrence is found unless one of its capital sigmas has another lower case,
     final or not, than in the text that is looked for.

  The crux is the converse for searches in the middle.  That an occurrence is missed is more than
  that its own place does not match: the needle may be found elsewhere by chance.  So for the
  neighbours that turn a sigma others are taken, of one letter at most on either side
  (`exists_neighbours`): the one before is not the first letter of what is looked for, and the one
  behind is not its last.  So a match cannot reach into them (`infix_of_infix_append`); it would
  have to be at the place of the needle itself, which has the same length, and there it is not.
-/
import TableRules.Proofs.BoundConditions

namespace TableRules

namespace Text

/-! ## Parts -/

/-- The lower case of a text between the text `before` it, nearest character first, and the text
    `after` it. -/
def lowerBetween : List Char → List Char → List Char → List Char
  | _, [], _ => []
  | before, c :: cs, after =>
    (if c = 'Σ' then [lowerSigma before (cs ++ after)] else lowerChar c) ++
      lowerBetween (c :: before) cs after

/-- The lower case that the model goes on with is that with nothing behind. -/
theorem lowerAfter_eq (before cs : List Char) : lowerAfter before cs = lowerBetween before cs [] := by
  induction cs generalizing before with
  | nil => rfl
  | cons c cs ih => rw [lowerAfter, lowerBetween, List.append_nil, ih]

/-- For the first part the second is behind, and for the second the first is before. -/
theorem lowerBetween_append (before cs ds after : List Char) :
    lowerBetween before (cs ++ ds) after =
      lowerBetween before cs (ds ++ after) ++ lowerBetween (cs.reverse ++ before) ds after := by
  induction cs generalizing before with
  | nil => rfl
  | cons c cs ih =>
    rw [List.cons_append, lowerBetween, lowerBetween, ih, List.append_assoc, List.append_assoc,
      List.reverse_cons, List.append_assoc]
    rfl

/-- **The lower case of a text** is made of the lower cases of its parts among their neighbours. -/
theorem lower_append (front back : List Char) :
    lower (front ++ back) = lowerBetween [] front back ++ lowerBetween front.reverse back [] := by
  rw [lower, lowerAfter_eq, lowerBetween_append, List.append_nil, List.append_nil]

/-- The same for a text in three parts. -/
theorem lower_append_append (front cs back : List Char) :
    lower (front ++ (cs ++ back)) = lowerBetween [] front (cs ++ back) ++
      (lowerBetween front.reverse cs back ++ lowerBetween (cs.reverse ++ front.reverse) back []) := by
  rw [lower_append, lowerBetween_append, List.append_nil]

/-- A character takes as much room among any neighbours. -/
theorem length_lowerBetween (before before' cs after after' : List Char) :
    (lowerBetween before cs after).length = (lowerBetween before' cs after').length := by
  induction cs generalizing before before' with
  | nil => rfl
  | cons c cs ih =>
    rw [lowerBetween, lowerBetween, List.length_append, List.length_append, ih _ (c :: before')]
    split <;> rfl

/-- **Neighbours** make a difference to the capital sigmas alone. By induction on the text: the
    first character is the same if it is no sigma or a sigma that has the same lower case, and it is
    a neighbour of the others. -/
theorem lowerBetween_eq_iff {before before' cs after after' : List Char} :
    lowerBetween before cs after = lowerBetween before' cs after' ↔
      ∀ front back, cs = front ++ 'Σ' :: back →
        lowerSigma (front.reverse ++ before) (back ++ after) =
          lowerSigma (front.reverse ++ before') (back ++ after') := by
  induction cs generalizing before before' with
  | nil => simp [lowerBetween]
  | cons c cs ih =>
    -- the sigmas behind the first character are those of the rest, with one more neighbour
    have hrest : (∀ front back, c :: cs = (c :: front) ++ 'Σ' :: back →
        lowerSigma ((c :: front).reverse ++ before) (back ++ after) =
          lowerSigma ((c :: front).reverse ++ before') (back ++ after')) ↔
        lowerBetween (c :: before) cs after = lowerBetween (c :: before') cs after' := by
      simp only [ih, List.cons_append, List.cons.injEq, true_and, List.reverse_cons,
        List.append_assoc, List.nil_append]
    rw [lowerBetween, lowerBetween]
    constructor
    · intro h front back hsplit
      obtain ⟨hhere, hthere⟩ := List.append_inj' h (length_lowerBetween ..)
      cases front with
      | nil =>
        obtain ⟨rfl, rfl⟩ := List.cons.inj hsplit
        rw [if_pos rfl, if_pos rfl] at hhere
        exact List.singleton_inj.mp hhere
      | cons d front =>
        obtain ⟨rfl, -⟩ := List.cons.inj hsplit
        exact hrest.mpr hthere front back hsplit
    · intro h
      rw [hrest.mp fun front back hsplit => h (c :: front) back hsplit]
      congr 1
      split
      next hsigma => exact congrArg ([·]) (h [] cs (congrArg (· :: cs) hsigma))
      next => rfl

/-- A capital sigma of the text has another lower case between the two texts than in it alone. -/
def SigmaTurns (before cs after : List Char) : Prop :=
  ∃ front back, cs = front ++ 'Σ' :: back ∧
    lowerSigma (front.reverse ++ before.reverse) (back ++ after) ≠ lowerSigma front.reverse back

/-- The lower case among neighbours is that of the text alone, unless one of its sigmas turns. -/
theorem lowerBetween_eq_lower_iff {before cs after : List Char} :
    lowerBetween before.reverse cs after = lower cs ↔ ¬ SigmaTurns before cs after := by
  rw [lower, lowerAfter_eq, lowerBetween_eq_iff, SigmaTurns]
  simp only [List.append_nil, not_exists, not_and, not_not]

/-! ## Neighbours -/

/-- Which letter counts next: a character that is ignored is passed over. -/
theorem cased?_cons (c : Char) (cs : List Char) : cased? (c :: cs) =
    if inRanges caseIgnorableRanges c.toNat then cased? cs else inRanges casedRanges c.toNat := by
  simp only [cased?, List.dropWhile_cons]
  split_ifs <;> rfl

/-- A text in front leaves alone what is alike behind it. -/
theorem cased?_append_congr {cs cs' : List Char} (h : cased? cs = cased? cs') (front : List Char) :
    cased? (front ++ cs) = cased? (front ++ cs') := by
  induction front with
  | nil => exact h
  | cons c front ih => rw [List.cons_append, List.cons_append, cased?_cons, cased?_cons, ih]

/-- **Of the neighbours** it counts only whether they go on with a cased letter. -/
theorem sigmaTurns_congr {before before' cs after after' : List Char}
    (hbefore : cased? before.reverse = cased? before'.reverse) (hafter : cased? after = cased? after')
    (h : SigmaTurns before cs after) : SigmaTurns before' cs after' := by
  obtain ⟨front, back, hsplit, hturns⟩ := h
  refine ⟨front, back, hsplit, ?_⟩
  rwa [lowerSigma, cased?_append_congr hbefore, cased?_append_congr hafter, ← lowerSigma] at hturns

/-- Two letters, each the lower case of itself. -/
def letters : List Char := ['a', 'b']

/-- There is a letter other than any one that is avoided. -/
theorem exists_letter (avoided : Option Char) : ∃ letter ∈ letters, avoided ≠ some letter := by
  by_cases h : avoided = some 'a'
  · exact ⟨'b', by decide, by rw [h]; decide⟩
  · exact ⟨'a', by decide, h⟩

/-- Neighbours of at most one letter, which is not the avoided one and stands for any others. -/
theorem exists_neighbours (cs : List Char) (avoided : Option Char) : ∃ short : List Char,
    short.reverse = short ∧ cased? short = cased? cs ∧
      (∀ before after, lowerBetween before short after = short) ∧ ∀ c ∈ short, avoided ≠ some c := by
  cases hcased : cased? cs with
  | false => exact ⟨[], rfl, rfl, fun _ _ => rfl, nofun⟩
  | true =>
    have hall : ∀ letter ∈ letters,
        cased? [letter] = true ∧ letter ≠ 'Σ' ∧ lowerChar letter = [letter] := by decide +kernel
    -- A single letter with a case, which is its own lower case and is not the one to avoid.
    obtain ⟨letter, hletter, hne⟩ := exists_letter avoided
    obtain ⟨hcased', hsigma, hlower⟩ := hall letter hletter
    refine ⟨[letter], rfl, hcased', ?_, ?_⟩
    · intro before after
      rw [lowerBetween, if_neg hsigma, hlower]
      rfl
    · intro c hc
      rwa [List.mem_singleton.mp hc]

/-! ## Searches -/

/-- What starts with none of the characters before a text does not reach into them. -/
theorem infix_of_infix_append_left {needle front cs : List Char} (hne : needle ≠ [])
    (hfront : ∀ c ∈ front, needle.head? ≠ some c) (h : needle <:+: front ++ cs) :
    needle <:+: cs := by
  induction front with
  | nil => exact h
  | cons c front ih =>
    refine ih (fun d hd => hfront d (List.mem_cons_of_mem _ hd)) ?_
    rcases List.infix_cons_iff.mp h with ⟨rest, hprefix⟩ | hrest
    · obtain ⟨d, ds, rfl⟩ := List.exists_cons_of_ne_nil hne
      exact absurd (congrArg some (List.cons.inj hprefix).1) (hfront c (List.mem_cons_self ..))
    · exact hrest

/-- Nor does what ends with none of those behind it. -/
theorem infix_of_infix_append {needle front cs back : List Char} (hne : needle ≠ [])
    (hfront : ∀ c ∈ front, needle.head? ≠ some c) (hback : ∀ c ∈ back, needle.getLast? ≠ some c)
    (h : needle <:+: front ++ (cs ++ back)) : needle <:+: cs := by
  -- the end of a text is the start of its reverse
  have hreverse : needle.reverse <:+: back.reverse ++ cs.reverse := by
    rw [← List.reverse_append, List.reverse_infix]
    exact infix_of_infix_append_left hne hfront h
  rw [← List.reverse_infix]
  refine infix_of_infix_append_left (mt List.reverse_eq_nil_iff.mp hne) ?_ hreverse
  intro c hc
  rw [List.head?_reverse]
  exact hback c (List.mem_reverse.mp hc)

section Occurrences

variable (cs : List Char)

/-- A text is as long in lower case among neighbours as alone. -/
theorem length_lower (before after : List Char) :
    (lowerBetween before cs after).length = (lower cs).length := by
  rw [lower, lowerAfter_eq]
  exact length_lowerBetween ..

/-- At the start of a text, ... -/
theorem lower_prefix_iff (after : List Char) :
    lower cs <+: lower (cs ++ after) ↔ ¬ SigmaTurns [] cs after := by
  rw [← lowerBetween_eq_lower_iff, List.prefix_iff_eq_take, lower_append,
    List.take_left' (length_lower ..), eq_comm]
  rfl

/-- ... at its end, ... -/
theorem lower_suffix_iff (before : List Char) :
    lower cs <:+ lower (before ++ cs) ↔ ¬ SigmaTurns before cs [] := by
  have hlength : (lower (before ++ cs)).length - (lower cs).length =
      (lowerBetween [] before cs).length := by
    rw [lower_append, List.length_append, length_lower cs before.reverse, Nat.add_sub_cancel]
  rw [← lowerBetween_eq_lower_iff, List.suffix_iff_eq_drop, hlength, lower_append, List.drop_left,
    eq_comm]

/-- ... and anywhere in it. -/
theorem occurs_of_not_sigmaTurns {before after : List Char} (h : ¬ SigmaTurns before cs after) :
    lower cs <:+: lower (before ++ (cs ++ after)) := by
  rw [lower_append_append, lowerBetween_eq_lower_iff.mpr h]
  exact ⟨_, _, List.append_assoc ..⟩

/-- **A text is found everywhere** if none of its capital sigmas ever turns, and only then. Where
    one turns, short neighbours show a place in which it is missed. -/
theorem forall_lower_infix_iff :
    (∀ before after, lower cs <:+: lower (before ++ (cs ++ after))) ↔
      ∀ before after, ¬ SigmaTurns before cs after := by
  constructor
  · intro h before after hturns
    -- one letter on either side does the same, and the text starts and ends with neither
    obtain ⟨front, hreverse, hfront, hkept, havoided⟩ :=
      exists_neighbours before.reverse (lower cs).head?
    obtain ⟨back, -, hback, hkept', havoided'⟩ := exists_neighbours after (lower cs).getLast?
    have hinfix := h front back
    rw [lower_append_append, hkept, hkept'] at hinfix
    have hne : lower cs ≠ [] := by
      obtain ⟨first, rest, rfl, -⟩ := hturns
      rw [lower_append]
      exact List.append_ne_nil_of_right_ne_nil _ (List.cons_ne_nil _ _)
    have heq : lower cs = lowerBetween front.reverse cs back :=
      (infix_of_infix_append hne havoided havoided' hinfix).eq_of_length (length_lower ..).symm
    refine lowerBetween_eq_lower_iff.mp heq.symm (sigmaTurns_congr ?_ hback.symm hturns)
    rw [hreverse, hfront]
  · intro h before after
    exact occurs_of_not_sigmaTurns cs (h before after)

end Occurrences

end Text

open Text

/-- A text starts with another if its lower case does, ... -/
theorem Comparison.startsWith_iff (text part : String) :
    startsWith.holds (.text text) (.text part) = true ↔ lower part.toList <+: lower text.toList :=
  List.isPrefixOf_iff_prefix

/-- ... ends with it if its lower case does, ... -/
theorem Comparison.endsWith_iff (text part : String) :
    endsWith.holds (.text text) (.text part) = true ↔ lower part.toList <:+ lower text.toList :=
  List.isSuffixOf_iff_suffix

/-- ... and contains it if its lower case does. -/
theorem Comparison.contains_iff (text part : String) :
    contains.holds (.text text) (.text part) = true ↔ lower part.toList <:+: lower text.toList :=
  occursIn_iff

/-- **A literal occurrence** of a text is found at the start of a cell, and at its end, if and only
    if no capital sigma of it turns there, and wherever none turns.  All its occurrences are found
    if its capital sigmas never turn, and only then. -/
theorem Condition.finds_occurrence (needle : String) :
    (∀ after column row, Row.get? row column = some (.text (needle ++ after)) →
      (Condition.holds ⟨column, .startsWith, .literal needle⟩ row = true ↔
        ¬ SigmaTurns [] needle.toList after.toList)) ∧
    (∀ before column row, Row.get? row column = some (.text (before ++ needle)) →
      (Condition.holds ⟨column, .endsWith, .literal needle⟩ row = true ↔
        ¬ SigmaTurns before.toList needle.toList [])) ∧
    (∀ before after column row, Row.get? row column = some (.text (before ++ (needle ++ after))) →
      ¬ SigmaTurns before.toList needle.toList after.toList →
        Condition.holds ⟨column, .contains, .literal needle⟩ row = true) ∧
    ((∀ before after column row, Row.get? row column = some (.text (before ++ (needle ++ after))) →
      Condition.holds ⟨column, .contains, .literal needle⟩ row = true) ↔
        ∀ before after : String, ¬ SigmaTurns before.toList needle.toList after.toList) := by
  -- a search of a literal in a text is a question about the two texts
  have hholds : ∀ {text column row}, Row.get? row column = some (.text text) → ∀ comparison,
      Condition.holds ⟨column, comparison, .literal needle⟩ row =
        comparison.holds (.text text) (.text needle) := fun {_ column _} hcell comparison =>
    Condition.holds_of_found (c := ⟨column, comparison, .literal needle⟩) hcell rfl comparison
  have hcontains : ∀ {before after column row},
      Row.get? row column = some (.text (before ++ (needle ++ after))) →
        (Condition.holds ⟨column, .contains, .literal needle⟩ row = true ↔
          lower needle.toList <:+: lower (before.toList ++ (needle.toList ++ after.toList))) := by
    intro before after column row hcell
    rw [hholds hcell, Comparison.contains_iff, String.toList_append, String.toList_append]
  refine ⟨?_, ?_, ?_, ?_⟩
  · intro after column row hcell
    rw [hholds hcell, Comparison.startsWith_iff, String.toList_append]
    exact lower_prefix_iff ..
  · intro before column row hcell
    rw [hholds hcell, Comparison.endsWith_iff, String.toList_append]
    exact lower_suffix_iff ..
  · intro before after column row hcell hnone
    exact (hcontains hcell).mpr (occurs_of_not_sigmaTurns _ hnone)
  · constructor
    · intro h before after
      refine (forall_lower_infix_iff needle.toList).mp ?_ before.toList after.toList
      intro before after
      have hinfix := (hcontains rfl).mp (h (String.ofList before) (String.ofList after) "A"
        ⟨[("A", .text (String.ofList before ++ (needle ++ String.ofList after)))]⟩ rfl)
      rwa [String.toList_ofList, String.toList_ofList] at hinfix
    · intro h before after column row hcell
      exact (hcontains hcell).mpr (occurs_of_not_sigmaTurns _ (h before after))

/-- A capital sigma after a letter turns: alone it is no final one. -/
theorem Condition.finds_occurrence_of_final_sigma :
    SigmaTurns "Α".toList "Σ".toList [] ∧
      Condition.holds ⟨"A", .endsWith, .literal "Σ"⟩ ⟨[("A", .text "ΑΣ")]⟩ = false := by
  have hturns : SigmaTurns "Α".toList "Σ".toList [] := ⟨[], [], rfl, by decide +kernel⟩
  refine ⟨hturns, Bool.eq_false_iff.mpr fun hholds => ?_⟩
  exact ((finds_occurrence "Σ").2.1 "Α" "A" ⟨[("A", .text "ΑΣ")]⟩ rfl).mp hholds hturns

end TableRules
