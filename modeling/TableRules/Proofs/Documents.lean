/-
  DOCUMENTS: a value that is written, in whatever layout, is read back as it was.

  1. **Tokens** — `tokens` are the tokens that a value consists of, and `Spelled` the values whose
     texts and numbers are spelled as they are written.

  2. **Cutting** — `Token.Cuts` tells how a text falls into tokens, one character or one token
     after the other.  A written value falls into its tokens, whatever white space its layout
     puts between them, as long as what comes next does not go on with a number.

  3. **Building** — from its tokens a value is built again, in two steps for each at most.

  Both are shown for a value when they hold for its parts; `read?_writeAt` puts them together.

  The crux is what may stand behind a value.  A number has no end of its own, so `1` with `2`
  behind it is another number; `CutsAsWritten` therefore asks of the text behind a value that it
  `Ends` a number, and the induction has to give that back for every part.  It can, because a
  comma, a bracket, a brace and white space all end one, and nothing else is ever written behind
  a part.  How far building may go is counted in steps, two for each token: one for the list that
  a value stands in and one for the value.
-/
import TableRules.Proofs.Lexemes

namespace TableRules.Json

/-! ## Tokens

  What a value is made of when its layout is left out, and which values a writer makes. -/

mutual

/-- The tokens of a value. -/
def tokens : Json → List Token
  | .null => [.null]
  | .bool b => [.bool b]
  | .number s => [.number s]
  | .string s => [.string s]
  | .array [] => [.openBracket, .closeBracket]
  | .array (j :: js) => .openBracket :: (tokens j ++ (itemTokens js ++ [.closeBracket]))
  | .object [] => [.openBrace, .closeBrace]
  | .object ((name, j) :: ms) =>
    .openBrace :: .string name :: .colon :: (tokens j ++ (memberTokens ms ++ [.closeBrace]))

/-- The tokens of the items after the first. -/
def itemTokens : List Json → List Token
  | [] => []
  | j :: js => .comma :: (tokens j ++ itemTokens js)

/-- The tokens of the members after the first. -/
def memberTokens : List (List Char × Json) → List Token
  | [] => []
  | (name, j) :: ms => .comma :: .string name :: .colon :: (tokens j ++ memberTokens ms)

end

/-- The texts and the numbers of a value are spelled as they are written. -/
inductive Spelled : Json → Prop
  | null : Spelled .null
  | bool (b : Bool) : Spelled (.bool b)
  | number (n : Spelt) : Spelled (.number n.lexeme)
  | string (cs : List Char) : Spelled (.string (Quoted.escape cs))
  | array {items : List Json} (h : ∀ j ∈ items, Spelled j) : Spelled (.array items)
  | object {members : List (List Char × Json)} (hname : ∀ m ∈ members, ∃ cs, m.1 = Quoted.escape cs)
      (h : ∀ m ∈ members, Spelled m.2) : Spelled (.object members)

/-! ## Cutting

  `Cuts` is read from left to right, but shown from right to left: each lemma puts one more thing in
  front of a text whose tokens are known. -/

namespace Token

/-- A text falls into tokens. -/
inductive Cuts : List Char → List Token → Prop
  | nil : Cuts [] []
  | gap {c : Char} {cs : List Char} {ts : List Token} (hgap : isGap c = true) (h : Cuts cs ts) :
      Cuts (c :: cs) ts
  | token {c : Char} {cs rest : List Char} {t : Token} {ts : List Token}
      (hnext : next? (c :: cs) = some (t, rest)) (hgap : isGap c = false)
      (hlength : rest.length ≤ cs.length) (h : Cuts rest ts) : Cuts (c :: cs) (t :: ts)

/-- A text that falls into tokens has them within as many steps as it has characters. The induction
    is on the fall: a gap takes one step and one character, a token one step and at least one
    character, so the steps never run out first. -/
theorem Cuts.tokensWithin {cs : List Char} {ts : List Token} (h : Cuts cs ts) {steps : Nat}
    (hsteps : cs.length ≤ steps) : tokensWithin steps cs = some ts := by
  induction h generalizing steps with
  | nil => cases steps <;> rfl
  | gap hgap h ih =>
    obtain ⟨steps, rfl⟩ : ∃ n, steps = n + 1 := ⟨steps - 1, by simp at hsteps; omega⟩
    rw [Token.tokensWithin, if_pos hgap]
    exact ih (Nat.le_of_succ_le_succ hsteps)
  | token hnext hgap hlength h ih =>
    obtain ⟨steps, rfl⟩ : ∃ n, steps = n + 1 := ⟨steps - 1, by simp at hsteps; omega⟩
    rw [Token.tokensWithin, if_neg (by simp [hgap]), hnext]
    simp only [ih (Nat.le_trans hlength (Nat.le_of_succ_le_succ hsteps)), Option.map_some]

theorem Cuts.tokens? {cs : List Char} {ts : List Token} (h : Cuts cs ts) : tokens? cs = some ts :=
  h.tokensWithin (Nat.le_refl _)

/-- White space in front of a text changes nothing about its tokens. -/
theorem Cuts.gaps {gap rest : List Char} {ts : List Token} (hgap : ∀ c ∈ gap, isGap c = true)
    (h : Cuts rest ts) : Cuts (gap ++ rest) ts := by
  induction gap with
  | nil => exact h
  | cons c gap ih =>
    exact .gap (hgap c (List.mem_cons_self ..)) (ih fun d hd => hgap d (List.mem_cons_of_mem _ hd))

/-- A quoted text in front is one token, which carries the escapes as they are written. An escaped
    text holds no bare quote, so the first one found is the closing one. -/
theorem Cuts.string (cs : List Char) {rest : List Char} {ts : List Token} (h : Cuts rest ts) :
    Cuts ('"' :: (Quoted.escape cs ++ '"' :: rest)) (.string (Quoted.escape cs) :: ts) := by
  refine .token ?_ (by decide) ?_ h
  · show (spanString _).map _ = _
    rw [Quoted.spanString_escape]
    rfl
  · rw [List.length_append, List.length_cons]
    omega

/-- White space does not go on with a number. -/
theorem stops_of_isGap {c : Char} (h : isGap c = true) :
    c.isDigit = false ∧ c ≠ '.' ∧ c ≠ 'e' ∧ c ≠ 'E' := by
  simp only [isGap, Bool.or_eq_true, beq_iff_eq] at h
  obtain ((rfl | rfl) | rfl) | rfl := h <;> decide

/-- A sign or a digit starts a number, which goes on as far as `spanNumber` takes it. -/
theorem next?_of_number {c : Char} (hc : c = '-' ∨ c.isDigit = true) (cs : List Char) :
    next? (c :: cs) = (spanNumber (c :: cs)).map fun (s, rest) => (.number s, rest) := by
  rw [next?.eq_def]
  split
  case h_11 => rfl
  all_goals
    next heq =>
      obtain rfl := (List.cons.inj heq).1
      exact absurd hc (by decide)

/-- A spelt number in front is one token, if what stands behind it ends a number. -/
theorem Cuts.number (n : Spelt) {rest : List Char} {ts : List Token} (hends : Ends rest)
    (h : Cuts rest ts) : Cuts (n.lexeme ++ rest) (.number n.lexeme :: ts) := by
  obtain ⟨c, cs, hlexeme, hc⟩ := n.exists_lexeme_eq_cons
  have hspan := n.spanNumber_lexeme hends
  rw [hlexeme, List.cons_append] at hspan ⊢
  refine .token ?_ ?_ ?_ h
  · rw [next?_of_number hc, hspan]
    rfl
  -- a sign is no white space, and neither is a digit
  · obtain rfl | hc := hc
    · rfl
    · refine Bool.eq_false_iff.mpr fun hgap => ?_
      rw [(stops_of_isGap hgap).1] at hc
      cases hc
  · rw [List.length_append]
    omega

end Token

/-- A layout that puts nothing but white space around its tokens. -/
structure Layout.Loose (layout : Layout) : Prop where
  breakAt : ∀ depth, ∀ c ∈ layout.breakAt depth, Token.isGap c = true
  colon : ∃ gap, layout.colon = ':' :: gap ∧ ∀ c ∈ gap, Token.isGap c = true

/-- The pretty layout breaks lines and indents, and both are white space. -/
theorem loose_pretty : Layout.pretty.Loose where
  breakAt depth c hc := by
    rcases List.mem_cons.mp hc with rfl | hc
    · decide
    · rw [List.eq_of_mem_replicate hc]
      decide
  colon := ⟨[' '], rfl, fun c hc => by rw [List.mem_singleton.mp hc]; rfl⟩

/-- The compact layout puts nothing at all between its tokens. -/
theorem loose_compact : Layout.compact.Loose where
  breakAt _ _ hc := nomatch hc
  colon := ⟨[], rfl, fun _ hc => nomatch hc⟩

/-- What ends a number still ends it with white space in front. -/
theorem ends_gaps {gap rest : List Char} (hgap : ∀ c ∈ gap, Token.isGap c = true)
    (h : Ends rest) : Ends (gap ++ rest) := by
  cases gap with
  | nil => exact h
  | cons c gap => exact ends_cons (Token.stops_of_isGap (hgap c (List.mem_cons_self ..)))

open Token (Cuts)

/-- A written value falls into its tokens, wherever it stands. -/
def CutsAsWritten (layout : Layout) (j : Json) : Prop :=
  ∀ (depth : Nat) {rest : List Char} {ts : List Token}, Ends rest → Cuts rest ts →
    Cuts (writeAt layout depth j ++ rest) (tokens j ++ ts)

section Cutting

variable {layout : Layout} (hlayout : layout.Loose)
include hlayout

/-- The items after the first fall into their tokens, and their text ends a number: it starts with a
    comma, or else it is what stands behind. The item before them needs the second part, so both go
    through the induction together. -/
theorem cuts_items {items : List Json} (hitems : ∀ j ∈ items, CutsAsWritten layout j)
    (depth : Nat) {rest : List Char} {ts : List Token} (hends : Ends rest) (h : Cuts rest ts) :
    Ends (writeItems layout depth items ++ rest) ∧
      Cuts (writeItems layout depth items ++ rest) (itemTokens items ++ ts) := by
  induction items with
  | nil => exact ⟨hends, h⟩
  | cons j items ih =>
    obtain ⟨hends, h⟩ := ih fun j hj => hitems j (List.mem_cons_of_mem _ hj)
    have hcut := hitems j (List.mem_cons_self ..) depth hends h
    simp only [writeItems, itemTokens, List.cons_append, List.append_assoc]
    refine ⟨ends_cons (by decide), ?_⟩
    exact .token rfl rfl (Nat.le_refl _) (hcut.gaps (hlayout.breakAt depth))

/-- A member falls into its name, a colon and the tokens of its value. -/
theorem cuts_member (cs : List Char) {j : Json} (hj : CutsAsWritten layout j) (depth : Nat)
    {rest : List Char} {ts : List Token} (hends : Ends rest) (h : Cuts rest ts) :
    Cuts ('"' :: (Quoted.escape cs ++ '"' :: (layout.colon ++ (writeAt layout depth j ++ rest))))
      (.string (Quoted.escape cs) :: .colon :: (tokens j ++ ts)) := by
  obtain ⟨gap, hcolon, hgap⟩ := hlayout.colon
  rw [hcolon, List.cons_append]
  exact .string cs (.token rfl rfl (Nat.le_refl _) ((hj depth hends h).gaps hgap))

/-- The members after the first fall into their tokens, and their text ends a number, as with the
    items. -/
theorem cuts_members {members : List (List Char × Json)}
    (hname : ∀ m ∈ members, ∃ cs, m.1 = Quoted.escape cs)
    (hmembers : ∀ m ∈ members, CutsAsWritten layout m.2)
    (depth : Nat) {rest : List Char} {ts : List Token} (hends : Ends rest) (h : Cuts rest ts) :
    Ends (writeMembers layout depth members ++ rest) ∧
      Cuts (writeMembers layout depth members ++ rest) (memberTokens members ++ ts) := by
  induction members with
  | nil => exact ⟨hends, h⟩
  | cons m members ih =>
    obtain ⟨hends, h⟩ := ih (fun m hm => hname m (List.mem_cons_of_mem _ hm))
      fun m hm => hmembers m (List.mem_cons_of_mem _ hm)
    obtain ⟨name, j⟩ := m
    obtain ⟨cs, rfl⟩ := hname _ (List.mem_cons_self ..)
    -- One member in front of text that is already known to cut; then the line break in front of it.
    have hcut := cuts_member hlayout cs (hmembers _ (List.mem_cons_self ..)) depth hends h
    simp only [writeMembers, memberTokens, List.cons_append, List.append_assoc]
    refine ⟨ends_cons (by decide), ?_⟩
    exact .token rfl rfl (Nat.le_refl _) (hcut.gaps (hlayout.breakAt depth))

/-- **A written value falls into its tokens.** By induction on the value: an array is its first
    item, the further ones and a bracket, and each of these is cut with all the text behind it, so
    the proof goes from the bracket back to the first item. -/
theorem cuts_writeAt {j : Json} (hj : Spelled j) : CutsAsWritten layout j := by
  induction hj with
  | null =>
    intro depth rest ts hends h
    exact .token rfl rfl (by simp; omega) h
  | bool b =>
    intro depth rest ts hends h
    cases b <;> exact .token rfl rfl (by simp; omega) h
  | number n =>
    intro depth rest ts hends h
    exact .number n hends h
  | string cs =>
    intro depth rest ts hends h
    simp only [writeAt, tokens, List.cons_append, List.append_assoc, List.nil_append]
    exact .string cs h
  | @array items hitems ih =>
    intro depth rest ts hends h
    cases items with
    | nil => exact .token rfl rfl (by simp) (.token rfl rfl (Nat.le_refl _) h)
    | cons j items =>
      -- from behind: the bracket, then the further items, then the first one
      have hclose : Cuts (']' :: rest) (.closeBracket :: ts) := .token rfl rfl (Nat.le_refl _) h
      obtain ⟨hends, hrest⟩ := cuts_items hlayout (fun j hj => ih j (List.mem_cons_of_mem _ hj))
        (depth + 1) (ends_gaps (hlayout.breakAt depth) (ends_cons (by decide)))
        (hclose.gaps (hlayout.breakAt depth))
      have hfirst := ih j (List.mem_cons_self ..) (depth + 1) hends hrest
      simp only [writeAt, tokens, List.cons_append, List.append_assoc, List.nil_append]
      exact .token rfl rfl (Nat.le_refl _) (hfirst.gaps (hlayout.breakAt (depth + 1)))
  | @object members hname hmembers ih =>
    intro depth rest ts hends h
    cases members with
    | nil => exact .token rfl rfl (by simp) (.token rfl rfl (Nat.le_refl _) h)
    | cons m members =>
      -- the members in the same order, the name of the first in front of all
      have hclose : Cuts ('\x7d' :: rest) (.closeBrace :: ts) := .token rfl rfl (Nat.le_refl _) h
      obtain ⟨hends, hrest⟩ := cuts_members hlayout
        (fun m hm => hname m (List.mem_cons_of_mem _ hm))
        (fun m hm => ih m (List.mem_cons_of_mem _ hm)) (depth + 1)
        (ends_gaps (hlayout.breakAt depth) (ends_cons (by decide)))
        (hclose.gaps (hlayout.breakAt depth))
      obtain ⟨name, j⟩ := m
      obtain ⟨cs, rfl⟩ := hname _ (List.mem_cons_self ..)
      have hfirst := cuts_member hlayout cs (ih _ (List.mem_cons_self ..)) (depth + 1) hends hrest
      simp only [writeAt, tokens, List.cons_append, List.append_assoc, List.nil_append]
      exact .token rfl rfl (Nat.le_refl _) (hfirst.gaps (hlayout.breakAt (depth + 1)))

end Cutting

/-! ## Building

  The tokens of a value are built into it again with any tokens behind them left over. -/

/-- The tokens of a value build it, whatever comes after them. -/
def BuildsFromTokens (j : Json) : Prop :=
  ∀ {steps : Nat} (ts : List Token), 2 * (tokens j).length ≤ steps →
    ofTokens steps (tokens j ++ ts) = some (j, ts)

/-- A value does not start with a closing bracket. -/
theorem exists_tokens_eq_cons (j : Json) :
    ∃ t ts, tokens j = t :: ts ∧ t ≠ .closeBracket ∧ t ≠ .closeBrace := by
  rcases j with _ | b | s | s | (_ | ⟨j, js⟩) | (_ | ⟨⟨name, j⟩, ms⟩) <;>
    exact ⟨_, _, rfl, by simp, by simp⟩

/-- The items up to the closing bracket are built again, with two steps for each token and two more
    for the bracket. -/
theorem itemsOfTokens_append {j : Json} {items : List Json} (hj : BuildsFromTokens j)
    (hitems : ∀ j ∈ items, BuildsFromTokens j) (steps : Nat) (ts : List Token)
    (hsteps : 2 * (tokens j ++ itemTokens items).length + 2 ≤ steps) :
    itemsOfTokens steps (tokens j ++ (itemTokens items ++ (.closeBracket :: ts))) =
      some (j :: items, ts) := by
  induction items generalizing j steps with
  | nil =>
    obtain ⟨steps, rfl⟩ : ∃ n, steps = n + 1 := ⟨steps - 1, by omega⟩
    rw [itemsOfTokens, hj _ (by simp [itemTokens] at hsteps; omega)]
    rfl
  | cons next items ih =>
    obtain ⟨steps, rfl⟩ : ∃ n, steps = n + 1 := ⟨steps - 1, by omega⟩
    simp only [itemTokens, List.length_append, List.length_cons, List.cons_append,
      List.append_assoc] at hsteps ⊢
    rw [itemsOfTokens, hj _ (by omega)]
    have hrest := ih (hitems next (List.mem_cons_self ..))
      (fun j hj => hitems j (List.mem_cons_of_mem _ hj)) steps (by rw [List.length_append]; omega)
    simp only [hrest, Option.map_some]

/-- The members up to the closing brace are built again, in the same way. -/
theorem membersOfTokens_append (name : List Char) {j : Json} {members : List (List Char × Json)}
    (hj : BuildsFromTokens j) (hmembers : ∀ m ∈ members, BuildsFromTokens m.2) (steps : Nat)
    (ts : List Token) (hsteps : 2 * (tokens j ++ memberTokens members).length + 2 ≤ steps) :
    membersOfTokens steps
        (.string name :: .colon :: (tokens j ++ (memberTokens members ++ (.closeBrace :: ts)))) =
      some ((name, j) :: members, ts) := by
  induction members generalizing name j steps with
  | nil =>
    obtain ⟨steps, rfl⟩ : ∃ n, steps = n + 1 := ⟨steps - 1, by omega⟩
    rw [membersOfTokens, hj _ (by simp [memberTokens] at hsteps; omega)]
    rfl
  | cons next members ih =>
    -- A member and its comma cost at least two tokens, so the steps that are left are enough.
    obtain ⟨steps, rfl⟩ : ∃ n, steps = n + 1 := ⟨steps - 1, by omega⟩
    simp only [memberTokens, List.length_append, List.length_cons, List.cons_append,
      List.append_assoc] at hsteps ⊢
    rw [membersOfTokens, hj _ (by omega)]
    have hrest := ih next.1 (hmembers next (List.mem_cons_self ..))
      (fun m hm => hmembers m (List.mem_cons_of_mem _ hm)) steps (by rw [List.length_append]; omega)
    simp only [hrest, Option.map_some]

/-- No value is without tokens, so there is always a first step. -/
theorem length_tokens_pos (j : Json) : 0 < (tokens j).length := by
  obtain ⟨t, ts, htokens, -⟩ := exists_tokens_eq_cons j
  rw [htokens]
  exact Nat.succ_pos _

/-- **From its tokens a value is built again.** The first token tells the kind of value; only an
    array has to look further, as its second token may close it. -/
theorem ofTokens_tokens {j : Json} (hj : Spelled j) : BuildsFromTokens j := by
  induction hj with
  | null | bool b | number n | string cs =>
    intro steps ts hsteps
    obtain ⟨steps, rfl⟩ : ∃ n, steps = n + 1 := ⟨steps - 1, by simp [tokens] at hsteps; omega⟩
    rfl
  | @array items hitems ih =>
    intro steps ts hsteps
    have hpos := length_tokens_pos (.array items)
    obtain ⟨steps, rfl⟩ : ∃ n, steps = n + 1 := ⟨steps - 1, by omega⟩
    cases items with
    | nil => rfl
    | cons j items =>
      simp only [tokens, List.length_append, List.length_cons, List.cons_append,
        List.append_assoc, List.nil_append] at hsteps ⊢
      have hitems := itemsOfTokens_append (ih j (List.mem_cons_self ..))
        (fun j hj => ih j (List.mem_cons_of_mem _ hj)) steps ts
        (by simp only [List.length_append, List.length_nil] at *; omega)
      -- the first item does not start with the bracket that would close an empty array
      obtain ⟨t, rest, htokens, hne, -⟩ := exists_tokens_eq_cons j
      rw [htokens, List.cons_append] at hitems ⊢
      rw [ofTokens, hitems]
      · rfl
      · intro ts heq
        exact hne (List.cons.inj heq).1
  | @object members hname hmembers ih =>
    intro steps ts hsteps
    have hpos := length_tokens_pos (.object members)
    obtain ⟨steps, rfl⟩ : ∃ n, steps = n + 1 := ⟨steps - 1, by omega⟩
    cases members with
    | nil => rfl
    | cons m members =>
      simp only [tokens, List.length_append, List.length_cons, List.cons_append,
        List.append_assoc, List.nil_append] at hsteps ⊢
      have hmembers := membersOfTokens_append m.1 (ih m (List.mem_cons_self ..))
        (fun m hm => ih m (List.mem_cons_of_mem _ hm)) steps ts
        (by simp only [List.length_append, List.length_nil] at *; omega)
      rw [ofTokens, hmembers]
      · rfl
      · intro ts heq
        cases heq

/-- **A written value is read back**, in every layout that adds only white space. -/
theorem read?_writeAt {layout : Layout} (hlayout : layout.Loose) {j : Json} (hj : Spelled j) :
    read? (writeAt layout 0 j) = some j := by
  have hcuts : Cuts (writeAt layout 0 j ++ []) (tokens j ++ []) :=
    cuts_writeAt hlayout hj 0 (fun _ h => nomatch h) .nil
  have hbuilt : ofTokens (2 * (tokens j).length + 1) (tokens j ++ []) = some (j, []) :=
    ofTokens_tokens hj [] (Nat.le_succ _)
  rw [List.append_nil] at hbuilt
  rw [List.append_nil, List.append_nil] at hcuts
  simp [read?, hcuts.tokens?, hbuilt]

/-- The same, said of the text that a document is written to. -/
theorem read?_write {layout : Layout} (hlayout : layout.Loose) {j : Json} (hj : Spelled j) :
    read? (j.write layout).toList = some j := by
  rw [write, String.toList_ofList, read?_writeAt hlayout hj]

end TableRules.Json
