/-
  CHAINS: a text cut at its connectives.

  1. **The chain** — what stands before the first connective, and after each connective what
     stands up to the next.  A junction keeps its connective and its LEXEME, all the text that
     it takes away, so the chain still holds the whole text (`Chain.text`).

  2. **Two ways to find a connective** — `wordAt?` wants the keyword between word boundaries and
     takes just the keyword; `spacedAt?` wants blanks on both sides and takes those too, all
     of them.  A `Match` says where it ends, with the proof that it took something and what.

  3. **Cutting** — `Chain.cut` goes through the text from the left, takes every match that it
     meets, and goes on behind it.  Each step leaves a shorter text.

  Nothing here knows about quotes: a keyword inside quoted text is found like any other.
-/
import TableRules.Comparison
import TableRules.Expression.Keyword

namespace TableRules.Expression

/-! ## Finding a connective -/

/-- The keywords of the connectives. -/
def connectiveKeywords : List (List Char × Connective) :=
  [(['a', 'n', 'd'], .and), (['o', 'r'], .or)]

/-- A connective at the start of a text: what it takes, which is not empty, and what it
    leaves. -/
structure Match (cs : List Char) where
  connective : Connective
  lexeme : List Char
  rest : List Char
  nonempty : lexeme ≠ []
  splits : lexeme ++ rest = cs

/-- What a match leaves is shorter. -/
theorem Match.rest_lt {cs : List Char} (m : Match cs) : m.rest.length < cs.length := by
  have h := congrArg List.length m.splits
  have : 0 < m.lexeme.length := List.length_pos_iff.mpr m.nonempty
  simp only [List.length_append] at h
  omega

/-- A way to find a connective at the start of a text that follows a character. -/
abbrev Finder := Option Char → (cs : List Char) → Option (Match cs)

/-- The connective whose keyword starts the text, and the length of the keyword. -/
def keywordAt? (cs : List Char) : Option (Connective × Nat) :=
  (connectiveKeywords.find? fun (keyword, _) => spells keyword (cs.take keyword.length)).map
    fun (keyword, connective) => (connective, keyword.length)

/-- A connective between word boundaries. -/
def wordAt? : Finder := fun before cs =>
  match keywordAt? cs with
  | some (connective, n) =>
    if h : cs.take n ≠ [] then
      if isEdge before && isEdge (cs.drop n).head? then
        some ⟨connective, cs.take n, cs.drop n, h, List.take_append_drop n cs⟩
      else none
    else none
  | none => none

/-- A connective between blanks, with the blanks. -/
def spacedAt? : Finder := fun _ cs =>
  let gap := cs.takeWhile Text.isBlank
  let cs' := cs.dropWhile Text.isBlank
  match keywordAt? cs' with
  | some (connective, n) =>
    let gap' := (cs'.drop n).takeWhile Text.isBlank
    if h : gap ≠ [] ∧ gap' ≠ [] then
      some {
        connective
        lexeme := gap ++ (cs'.take n ++ gap')
        rest := (cs'.drop n).dropWhile Text.isBlank
        nonempty := by simp [h.1]
        splits := by
          rw [List.append_assoc, List.append_assoc, List.takeWhile_append_dropWhile,
            List.take_append_drop, List.takeWhile_append_dropWhile] }
    else none
  | none => none

/-! ## Chains -/

/-- A connective in a text, and the text that it takes. -/
structure Junction where
  connective : Connective
  lexeme : List Char
deriving DecidableEq

/-- A text cut at its connectives. -/
structure Chain where
  head : List Char
  tail : List (Junction × List Char)
deriving DecidableEq

namespace Chain

/-- The texts between the connectives: one more than there are connectives. -/
def segments (chain : Chain) : List (List Char) := chain.head :: chain.tail.map (·.2)

/-- The connectives in order. -/
def connectives (chain : Chain) : List Connective := chain.tail.map (·.1.connective)

/-- The whole text. -/
def text (chain : Chain) : List Char :=
  chain.head ++ chain.tail.flatMap fun (junction, segment) => junction.lexeme ++ segment

/-- The chain with one more character in front. -/
def push (c : Char) (chain : Chain) : Chain := ⟨c :: chain.head, chain.tail⟩

/-- The chain with an empty segment and a junction in front. -/
def join (junction : Junction) (chain : Chain) : Chain :=
  ⟨[], (junction, chain.head) :: chain.tail⟩

/-- Cuts the text that follows the character `before`. -/
def cutAfter (find? : Finder) (before : Option Char) (cs : List Char) : Chain :=
  match find? before cs with
  | some m =>
    (cutAfter find? m.lexeme.getLast? m.rest).join ⟨m.connective, m.lexeme⟩
  | none =>
    match cs with
    | [] => ⟨[], []⟩
    | c :: cs => (cutAfter find? (some c) cs).push c
termination_by cs.length
decreasing_by
  · exact m.rest_lt
  · simp

/-- Cuts a text. -/
def cut (find? : Finder) (cs : List Char) : Chain := cutAfter find? none cs

/-- Cutting loses nothing. -/
theorem text_cutAfter (find? : Finder) (before : Option Char) (cs : List Char) :
    (cutAfter find? before cs).text = cs := by
  fun_induction cutAfter find? before cs with
  | case1 before cs m _ ih =>
    have h := m.splits
    simp only [text, join, List.nil_append, List.flatMap_cons] at ih ⊢
    rw [List.append_assoc, ih, h]
  | case2 before _ => rfl
  | case3 before c cs _ ih =>
    simp only [text, push, List.cons_append] at ih ⊢
    rw [ih]

/-! ## Where the connectives stand -/

/-- A connective and the bytes that it takes, counted in UTF-8. -/
structure Span where
  connective : Connective
  start : Nat
  stop : Nat
deriving DecidableEq

/-- The span as it is shown. -/
def Span.display (span : Span) : String :=
  span.connective.symbol ++ "@" ++ toString span.start ++ ".." ++ toString span.stop

/-- The spans of junctions of which the first starts at a byte. -/
def spansFrom : Nat → List (Junction × List Char) → List Span
  | _, [] => []
  | start, (junction, segment) :: rest =>
    let stop := start + Text.byteLength junction.lexeme
    ⟨junction.connective, start, stop⟩ :: spansFrom (stop + Text.byteLength segment) rest

/-- The spans of the connectives. -/
def spans (chain : Chain) : List Span := spansFrom (Text.byteLength chain.head) chain.tail

end Chain

end TableRules.Expression
