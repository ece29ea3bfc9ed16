/-
  PARENTHESES: which pair around a segment is dropped.

  1. **Matching** — a text is `Balanced` if its parentheses come in pairs, one inside the other or
     one after the other.  A parenthesis and a closing one behind it MATCH if what stands between
     them is balanced; `Encloses` says so of the parenthesis that a text starts with.

  2. **Depth** — balanced text leaves the depth as it was, so behind it the depth is that of the
     parenthesis in front (`closesEarly_balanced_append`).  The other way round, where the depth
     comes down to zero there is the match of the first parenthesis
     (`exists_encloses_of_closesEarly`).

  3. **Dropping** — a pair that wraps the segment is dropped, and nothing else but for one thing: a
     segment that ends in a closing parenthesis, while the one that it starts with has no match,
     loses both although they are no pair (`stripParens_unwraps`).  The depth is not looked at
     once more when the end is reached.
-/
import TableRules.Expression.Delimiter
import TableRules.Proofs.Texts

namespace TableRules.Expression

open Text

/-! ## Matching -/

/-- Every parenthesis of the text has its match in it. -/
inductive Balanced : List Char → Prop
  | nil : Balanced []
  /-- Other characters do not count. -/
  | char {c : Char} {cs : List Char} (hopen : c ≠ '(') (hclose : c ≠ ')') (hcs : Balanced cs) :
      Balanced (c :: cs)
  /-- A parenthesis, balanced text, its match, and balanced text behind it. -/
  | pair {inner rest : List Char} (hinner : Balanced inner) (hrest : Balanced rest) :
      Balanced ('(' :: (inner ++ ')' :: rest))

/-- The text starts with a parenthesis that is matched: `inner` stands between the two, and `rest`
    behind them. -/
structure Encloses (cs inner rest : List Char) : Prop where
  text : cs = '(' :: (inner ++ ')' :: rest)
  balanced : Balanced inner

/-- The text starts with a parenthesis that is not matched, and yet ends in a closing one. -/
structure Unclosed (cs : List Char) : Prop where
  first : cs.head? = some '('
  last : cs.getLast? = some ')'
  unmatched : ∀ inner rest, ¬ Encloses cs inner rest

/-- As many are closed as opened. -/
theorem Balanced.count_eq {cs : List Char} (h : Balanced cs) : cs.count '(' = cs.count ')' := by
  induction h with
  | nil => rfl
  | char hopen hclose _ ih => rwa [List.count_cons_of_ne hopen, List.count_cons_of_ne hclose]
  | pair _ _ ih ih' =>
    simp only [List.count_cons, List.count_append, ih, ih']
    simp only [beq_iff_eq, Char.reduceEq, if_true, if_false]
    omega

/-- A text without parentheses is balanced. -/
theorem balanced_of_no_parens {cs : List Char} (h : ∀ c ∈ cs, c ≠ '(' ∧ c ≠ ')') :
    Balanced cs := by
  induction cs with
  | nil => exact .nil
  | cons c cs ih =>
    obtain ⟨hopen, hclose⟩ := h c (List.mem_cons_self ..)
    exact .char hopen hclose (ih fun d hd => h d (List.mem_cons_of_mem _ hd))

/-- Balanced text ends at the first closing parenthesis that has no match in it. By induction on the
    one text and cases on the other: they start with the same character, which tells how both go
    on. -/
theorem Balanced.unique {cs cs' rest rest' : List Char} (h : Balanced cs) (h' : Balanced cs')
    (heq : cs ++ ')' :: rest = cs' ++ ')' :: rest') : cs = cs' ∧ rest = rest' := by
  induction h generalizing cs' rest rest' with
  | nil =>
    -- Whatever one text begins with, the other begins with, and the closing parenthesis ends both.
    cases h' with
    | nil => exact ⟨rfl, (List.cons.inj heq).2⟩
    | char _ hclose _ => exact absurd (List.cons.inj heq).1.symm hclose
    | pair _ _ => exact absurd (List.cons.inj heq).1 (by decide)
  | char hopen hclose _ ih =>
    cases h' with
    | nil => exact absurd (List.cons.inj heq).1 hclose
    | char _ _ hcs' =>
      obtain ⟨rfl, htail⟩ := List.cons.inj heq
      obtain ⟨rfl, hrest⟩ := ih hcs' htail
      exact ⟨rfl, hrest⟩
    | pair _ _ => exact absurd (List.cons.inj heq).1 hopen
  | pair _ _ ih ih' =>
    cases h' with
    | nil => exact absurd (List.cons.inj heq).1 (by decide)
    | char hopen _ _ => exact absurd (List.cons.inj heq).1.symm hopen
    | pair hinner hrest =>
      simp only [List.cons_append, List.append_assoc] at heq
      obtain ⟨rfl, hbehind⟩ := ih hinner (List.cons.inj heq).2
      obtain ⟨rfl, hback⟩ := ih' hrest hbehind
      exact ⟨rfl, hback⟩

/-- **A parenthesis has one match.** -/
theorem Encloses.unique {cs inner rest inner' rest' : List Char} (h : Encloses cs inner rest)
    (h' : Encloses cs inner' rest') : inner = inner' ∧ rest = rest' :=
  h.balanced.unique h'.balanced (List.cons.inj (h.text.symm.trans h'.text)).2

/-! ## Depth -/

/-- One step of the depth at an opening parenthesis, ... -/
theorem closesEarly_open (depth : Nat) (cs : List Char) :
    closesEarly depth ('(' :: cs) = closesEarly (depth + 1) cs := by
  rw [closesEarly, if_pos rfl]

/-- ... at a closing one, where it may come down to zero, ... -/
theorem closesEarly_close (depth : Nat) (cs : List Char) :
    closesEarly depth (')' :: cs) =
      ((depth - 1 == 0 && !cs.isEmpty) || closesEarly (depth - 1) cs) := by
  rw [closesEarly, if_neg (by decide), if_pos rfl]

/-- ... and at any other character. -/
theorem closesEarly_other {c : Char} (hopen : c ≠ '(') (hclose : c ≠ ')') (depth : Nat)
    (cs : List Char) : closesEarly depth (c :: cs) = closesEarly depth cs := by
  rw [closesEarly, if_neg hopen, if_neg hclose]

/-- **Balanced text** leaves the depth as it was, and does not come down to zero. -/
theorem closesEarly_balanced_append {cs : List Char} (h : Balanced cs) (depth : Nat)
    (rest : List Char) :
    closesEarly (depth + 1) (cs ++ rest) = closesEarly (depth + 1) rest := by
  induction h generalizing depth rest with
  | nil => rfl
  | char hopen hclose _ ih => rw [List.cons_append, closesEarly_other hopen hclose, ih]
  | pair _ _ ih ih' =>
    rw [List.cons_append, List.append_assoc, closesEarly_open, ih, List.cons_append,
      closesEarly_close, Nat.add_sub_cancel, ih']
    rfl

/-- Behind the match of the first parenthesis the depth is zero. -/
theorem Encloses.closesEarly_eq {cs inner rest : List Char} (h : Encloses cs inner rest) :
    closesEarly 0 cs = !rest.isEmpty := by
  rw [h.text, closesEarly_open, closesEarly_balanced_append h.balanced, closesEarly_close]
  cases rest with
  | nil => rfl
  | cons c rest => rfl

/-- Where the depth comes down, the text up to there is balanced. -/
theorem exists_balanced_of_closesEarly {cs : List Char} {depth : Nat}
    (h : closesEarly (depth + 1) cs = true) :
    ∃ inner rest, cs = inner ++ ')' :: rest ∧ Balanced inner := by
  induction hn : cs.length using Nat.strong_induction_on generalizing cs depth with
  | _ n ih =>
    subst hn
    cases cs with
    | nil => cases h
    | cons c cs =>
      by_cases hopen : c = '('
      · -- a parenthesis is passed with its match, and the search goes on behind that
        subst hopen
        rw [closesEarly_open] at h
        obtain ⟨inner, rest, rfl, hinner⟩ := ih _ (Nat.lt_succ_self _) h rfl
        rw [closesEarly_balanced_append hinner, closesEarly_close] at h
        have hlt : rest.length < ('(' :: (inner ++ ')' :: rest)).length := by
          simp only [List.length_cons, List.length_append]
          omega
        obtain ⟨inner', rest', rfl, hinner'⟩ := ih _ hlt (by simpa using h) rfl
        exact ⟨'(' :: (inner ++ ')' :: inner'), rest', by simp, .pair hinner hinner'⟩
      · by_cases hclose : c = ')'
        · exact ⟨[], cs, by rw [hclose]; rfl, .nil⟩
        · rw [closesEarly_other hopen hclose] at h
          obtain ⟨inner, rest, rfl, hinner⟩ := ih _ (Nat.lt_succ_self _) h rfl
          exact ⟨c :: inner, rest, rfl, .char hopen hclose hinner⟩

/-- **Where the depth comes down to zero** the first parenthesis has its match. -/
theorem exists_encloses_of_closesEarly {cs : List Char} (hfirst : cs.head? = some '(')
    (h : closesEarly 0 cs = true) : ∃ inner rest, Encloses cs inner rest := by
  obtain ⟨cs, rfl⟩ := List.head?_eq_some_iff.mp hfirst
  rw [closesEarly_open] at h
  obtain ⟨inner, rest, rfl, hinner⟩ := exists_balanced_of_closesEarly h
  exact ⟨inner, rest, rfl, hinner⟩

/-! ## Dropping -/

/-- What starts with a parenthesis and ends in a closing one holds text between them. -/
theorem exists_between {cs : List Char} (hfirst : cs.head? = some '(')
    (hlast : cs.getLast? = some ')') : ∃ inner, cs = '(' :: (inner ++ [')']) := by
  obtain ⟨cs, rfl⟩ := List.head?_eq_some_iff.mp hfirst
  cases cs with
  | nil => cases hlast
  | cons c cs =>
    rw [List.getLast?_cons_cons] at hlast
    obtain ⟨inner, heq⟩ := List.getLast?_eq_some_iff.mp hlast
    exact ⟨inner, by rw [heq]⟩

/-- The first and the last character go if the depth does not come down to zero before. -/
theorem stripParens_of_not_closesEarly {segment inner : List Char}
    (htext : trim segment = '(' :: (inner ++ [')'])) (h : closesEarly 0 (trim segment) = false) :
    stripParens segment = trim inner := by
  have hlength : 2 ≤ (trim segment).length := by
    rw [htext, List.length_cons, List.length_append]
    exact Nat.le_add_left 2 inner.length
  have hlast : (trim segment).getLast? = some ')' := by
    rw [htext, ← List.cons_append, List.getLast?_concat]
  rw [stripParens, if_pos ⟨hlength, by rw [htext]; rfl, hlast, h⟩, htext, List.tail_cons,
    List.dropLast_concat]

/-- **A pair that wraps the segment is dropped**, with the blanks inside it.  Otherwise the segment
    stays as it is, unless the parenthesis that it starts with has no match and it ends in a
    closing one: then these two are dropped. -/
theorem stripParens_unwraps (segment : List Char) :
    (∀ inner, Encloses (trim segment) inner [] → stripParens segment = trim inner) ∧
    ((∀ inner, ¬ Encloses (trim segment) inner []) →
      (stripParens segment = trim segment ↔ ¬ Unclosed (trim segment))) ∧
    (Unclosed (trim segment) →
      ∃ inner, trim segment = '(' :: (inner ++ [')']) ∧ stripParens segment = trim inner) := by
  have hunclosed : Unclosed (trim segment) →
      ∃ inner, trim segment = '(' :: (inner ++ [')']) ∧ stripParens segment = trim inner := by
    intro h
    obtain ⟨inner, htext⟩ := exists_between h.first h.last
    refine ⟨inner, htext, stripParens_of_not_closesEarly htext ?_⟩
    rw [← Bool.not_eq_true]
    intro hearly
    obtain ⟨inner', rest, hencloses⟩ := exists_encloses_of_closesEarly h.first hearly
    exact h.unmatched inner' rest hencloses
  refine ⟨fun inner h => ?_, fun hnone => ⟨fun heq h => ?_, fun h => ?_⟩, hunclosed⟩
  · exact stripParens_of_not_closesEarly h.text h.closesEarly_eq
  · -- what is left is shorter
    obtain ⟨inner, htext, hstrip⟩ := hunclosed h
    have hlength := (trim_sublist inner).length_le
    rw [← hstrip, heq, htext, List.length_cons, List.length_append] at hlength
    omega
  · refine if_neg fun ⟨_, hfirst, hlast, hearly⟩ => h ⟨hfirst, hlast, fun inner rest hmatch => ?_⟩
    -- a match before the end would have been seen
    have hend : rest = [] := by
      rw [hmatch.closesEarly_eq] at hearly
      simpa using hearly
    exact hnone inner (hend ▸ hmatch)

/-- A pair that wraps is dropped, two pairs side by side stay, and what is no pair goes. -/
theorem stripParens_unwraps_of_three :
    let wrapped := " ( A>B ) ".toList
    let beside := "(A)>(B)".toList
    let unclosed := "((A)".toList
    Encloses (trim wrapped) " A>B ".toList [] ∧ stripParens wrapped = "A>B".toList ∧
      (∀ inner, ¬ Encloses (trim beside) inner []) ∧ stripParens beside = beside ∧
      Unclosed (trim unclosed) ∧ stripParens unclosed = "(A".toList := by
  intro wrapped beside unclosed
  have hwrapped : Encloses (trim wrapped) " A>B ".toList [] :=
    ⟨by decide +kernel, balanced_of_no_parens (by decide)⟩
  have hbeside : Encloses (trim beside) "A".toList ">(B)".toList :=
    ⟨by decide +kernel, balanced_of_no_parens (by decide)⟩
  have hnone : ∀ inner, ¬ Encloses (trim beside) inner [] :=
    fun inner h => List.cons_ne_nil _ _ (hbeside.unique h).2
  have hinside : ∀ {inner}, trim unclosed = '(' :: (inner ++ [')']) → inner = "(A".toList := by
    intro inner heq
    rw [show trim unclosed = unclosed by decide +kernel] at heq
    exact List.append_cancel_right (List.cons.inj heq).2.symm
  have hunclosed : Unclosed (trim unclosed) := by
    refine ⟨by decide +kernel, by decide +kernel, fun inner rest h => ?_⟩
    have hrest : rest = [] := by
      have hearly : closesEarly 0 (trim unclosed) = false := by decide +kernel
      rw [h.closesEarly_eq] at hearly
      simpa using hearly
    have hinner : inner = "(A".toList := hinside (hrest ▸ h.text)
    exact absurd (hinner ▸ h.balanced.count_eq) (by decide)
  obtain ⟨inner, htext, hstrip⟩ := (stripParens_unwraps unclosed).2.2 hunclosed
  refine ⟨hwrapped, ?_, hnone, ?_, hunclosed, ?_⟩
  · rw [(stripParens_unwraps wrapped).1 _ hwrapped]
    decide +kernel
  · rw [((stripParens_unwraps beside).2.1 hnone).mpr fun h => h.unmatched _ _ hbeside]
    decide +kernel
  · rw [hstrip, hinside htext]
    decide +kernel

end TableRules.Expression
