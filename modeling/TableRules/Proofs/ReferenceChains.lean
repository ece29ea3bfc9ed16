/-
  REFERENCE CHAINS: references with connectives between them are read one by one.

  1. **Pieces** — a `Piece` is a connective between blanks and the segment behind it, so a text of
     many segments is the first of them and a list of pieces.  Blanks around a segment can always
     be counted to the connectives beside it (`exists_tight_pieces`).

  2. **Spaced connectives** — the start of a text is a spaced connective if and only if the text is
     that of a piece.  A segment that holds none is passed over, unless it ends in one to which
     only the blank is missing that stands behind the segment (`cutAfter_segment`).

  3. **Cutting** — a connective takes the blanks around it, so segments that are `Apart` come back
     as they were written (`Apart.cutAfter_eq`), and those among them that are references are read.

  4. **References** — a reference is apart from whatever follows, and two of them in front make a
     reference expression.

  5. **Joined items** — `Joined` says how items are written one after the other, with a connective
     between blanks between every two.  If the items are references, then the chain is known by its
     first two, and all of them are read (`Joined.parseReferences_eq`).

  The crux is a segment that ends in a connective, such as `Rule1 AND` in front of `OR Rule2`.  It
  holds no connective between blanks; but with the blank behind it, it does, and the scanner, which
  sees the whole text, cuts there.  So whether a segment is passed over depends on what stands
  behind it, and only on that: the one way in which a connective can start within a segment and
  not lie in it is that the blank is missing (`holdsSpaced_of_spacedAt?`).  `Apart` asks for no
  more than that none of the segments but the last is of this kind.
-/
import Mathlib.Data.List.Forall2
import TableRules.Proofs.ParsedRules

namespace TableRules.Expression

open Text

/-! ## Pieces

  A text can be taken for pieces in more than one way, as blanks may go to the segment or to the
  connective. In the tight way no segment has blanks at its ends. -/

/-- A connective as it is written, with what stands in front of it and behind it, and the segment
    that follows. -/
structure Piece where
  gap : List Char
  connective : Connective
  word : List Char
  gap' : List Char
  segment : List Char

/-- What a piece adds to a text. -/
def Piece.text (piece : Piece) : List Char :=
  piece.gap ++ (piece.word ++ (piece.gap' ++ piece.segment))

/-- What many pieces add. -/
def textOf (pieces : List Piece) : List Char := pieces.flatMap Piece.text

/-- The connective stands between blanks, in any letter case. -/
structure Piece.Spaced (piece : Piece) : Prop where
  gap : Blank piece.gap
  gap_ne_nil : piece.gap ≠ []
  word : lowerAscii piece.word = piece.connective.symbol.toList
  gap' : Blank piece.gap'
  gap'_ne_nil : piece.gap' ≠ []

instance (piece : Piece) : Decidable piece.Spaced :=
  decidable_of_iff (Blank piece.gap ∧ piece.gap ≠ [] ∧
      lowerAscii piece.word = piece.connective.symbol.toList ∧ Blank piece.gap' ∧ piece.gap' ≠ [])
    ⟨fun ⟨hgap, hne, hword, hgap', hne'⟩ => ⟨hgap, hne, hword, hgap', hne'⟩,
      fun h => ⟨h.gap, h.gap_ne_nil, h.word, h.gap', h.gap'_ne_nil⟩⟩

/-- The text of the first piece stands in front, taken apart, ... -/
theorem textOf_cons (piece : Piece) (pieces : List Piece) :
    textOf (piece :: pieces) =
      piece.gap ++ (piece.word ++ (piece.gap' ++ (piece.segment ++ textOf pieces))) := by
  rw [textOf, List.flatMap_cons, Piece.text]
  simp only [List.append_assoc]
  rfl

/-- ... and pieces one behind the other add their texts so. -/
theorem textOf_append (pieces pieces' : List Piece) :
    textOf (pieces ++ pieces') = textOf pieces ++ textOf pieces' := List.flatMap_append

/-- Pieces start with a blank. -/
theorem isBlank_head?_textOf {pieces : List Piece} (h : ∀ piece ∈ pieces, piece.Spaced) :
    ∀ c ∈ (textOf pieces).head?, isBlank c = true := by
  intro c hc
  cases pieces with
  | nil => cases hc
  | cons piece pieces =>
    have hpiece := h piece (List.mem_cons_self ..)
    rw [textOf_cons, List.head?_append_of_ne_nil _ hpiece.gap_ne_nil] at hc
    exact hpiece.gap c (List.mem_of_mem_head? hc)

namespace Piece.Spaced

variable {piece : Piece} (h : piece.Spaced)
include h

/-- The word of a piece spells its connective, ... -/
theorem spells : spells piece.connective.symbol.toList piece.word = true :=
  spells_of_lowerAscii
    (lettered_connectiveWords _ (symbol_mem_connectiveWords piece.connective)).plain h.word

/-- ... so it is made of characters of words ... -/
theorem isWordChar_word : ∀ c ∈ piece.word, isWordChar c = true :=
  isWordChar_of_spells h.spells
    (lettered_connectiveWords _ (symbol_mem_connectiveWords piece.connective)).plain

/-- ... and there is one. -/
theorem word_ne_nil : piece.word ≠ [] :=
  ne_nil_of_spells h.spells
    (lettered_connectiveWords _ (symbol_mem_connectiveWords piece.connective)).ne_nil

/-- It does not matter what stands behind the word, if that starts with a blank. -/
theorem behind {gap' : List Char} (hgap' : Blank gap') (hne : gap' ≠ []) (segment : List Char) :
    Piece.Spaced { piece with gap' := gap', segment := segment } :=
  ⟨h.gap, h.gap_ne_nil, h.word, hgap', hne⟩

end Piece.Spaced

/-- **Blanks around segments** are blanks around connectives, but for the last. By induction on the
    pieces: the blanks behind a segment go to the gap of the next piece, which is why the blanks in
    front are kept general. -/
theorem exists_tight_pieces {pieces : List Piece} (h : ∀ piece ∈ pieces, piece.Spaced)
    {gap : List Char} (hgap : Blank gap) :
    ∃ tight tail, gap ++ textOf pieces = textOf tight ++ tail ∧ Blank tail ∧
      (∀ piece ∈ tight, piece.Spaced) ∧
      tight.map Piece.segment = pieces.map (fun piece => trim piece.segment) ∧
      tight.map Piece.connective = pieces.map Piece.connective := by
  induction pieces generalizing gap with
  | nil => exact ⟨[], gap, List.append_nil gap, hgap, nofun, rfl, rfl⟩
  | cons piece pieces ih =>
    have hpiece := h piece (List.mem_cons_self ..)
    obtain ⟨front, back, hfront, hback, hsegment⟩ := exists_eq_append_trim piece.segment
    obtain ⟨tight, tail, htext, hend, htight, hsegments, hconnectives⟩ :=
      ih (fun other hother => h other (List.mem_cons_of_mem _ hother)) hback
    have happend : ∀ {gap gap' : List Char}, Blank gap → Blank gap' → Blank (gap ++ gap') :=
      fun hgap hgap' c hc => (List.mem_append.mp hc).elim (hgap c) (hgap' c)
    refine ⟨⟨gap ++ piece.gap, piece.connective, piece.word, piece.gap' ++ front,
      trim piece.segment⟩ :: tight, tail, ?_, hend, fun other hother => ?_, ?_, ?_⟩
    -- the blanks around the segment go to the two connectives beside it
    · have hsplit : piece.segment ++ textOf pieces =
          front ++ (trim piece.segment ++ (textOf tight ++ tail)) := by
        rw [← htext]
        conv_lhs => rw [hsegment]
        simp only [List.append_assoc]
      rw [textOf_cons, textOf_cons, hsplit]
      simp only [List.append_assoc]
    · rcases List.mem_cons.mp hother with rfl | hother
      · exact ⟨happend hgap hpiece.gap, List.append_ne_nil_of_right_ne_nil _ hpiece.gap_ne_nil,
          hpiece.word, happend hpiece.gap' hfront,
          List.append_ne_nil_of_left_ne_nil hpiece.gap'_ne_nil _⟩
      · exact htight other hother
    · rw [List.map_cons, List.map_cons, hsegments]
    · rw [List.map_cons, List.map_cons, hconnectives]

/-! ## Spaced connectives

  A finder that takes blanks on both sides can be led astray on both sides. On the left it cannot,
  because blanks in front of a connective are free; so all the work is on the right. -/

/-- Somewhere in the text a connective stands between blanks. -/
def HoldsSpaced (cs : List Char) : Prop :=
  ∃ front, ∃ piece : Piece, piece.Spaced ∧ cs = front ++ piece.text

/-- **A connective between blanks is found**, and takes all the blanks around it. -/
theorem spacedAt?_text (before : Option Char) {piece : Piece} (h : piece.Spaced) :
    ∃ m, spacedAt? before piece.text = some m ∧ m.connective = piece.connective ∧
      m.rest = piece.segment.dropWhile isBlank := by
  obtain ⟨gap, connective, word, gap', segment⟩ := piece
  have hhead : ∀ c ∈ (word ++ (gap' ++ segment)).head?, isBlank c = false := by
    intro c hc
    rw [List.head?_append_of_ne_nil _ h.word_ne_nil] at hc
    exact isBlank_of_isWordChar (h.isWordChar_word c (List.mem_of_mem_head? hc))
  have hkeyword : keywordAt? (word ++ (gap' ++ segment)) = some (connective, word.length) :=
    keywordAt?_of_spells h.spells _
  have htake : ∀ {gap : List Char} (rest), Blank gap → gap ≠ [] →
      (gap ++ rest).takeWhile isBlank ≠ [] := by
    intro gap rest hgap hne
    rw [List.takeWhile_append_of_pos hgap]
    exact List.append_ne_nil_of_left_ne_nil hne _
  rw [spacedAt?, Piece.text]
  simp only [dropWhile_isBlank h.gap hhead, hkeyword, List.drop_left]
  rw [dif_pos ⟨htake _ h.gap h.gap_ne_nil, htake _ h.gap' h.gap'_ne_nil⟩]
  exact ⟨_, rfl, rfl, List.dropWhile_append_of_pos h.gap'⟩

/-- What is found is the connective of a piece: its parts are the runs of blanks and the word
    between them. -/
theorem exists_piece_of_spacedAt? {before : Option Char} {cs : List Char} {m : Match cs}
    (h : spacedAt? before cs = some m) : ∃ piece : Piece, piece.Spaced ∧ cs = piece.text := by
  rw [spacedAt?] at h
  dsimp only at h
  split at h
  next connective n hkeyword =>
    split at h
    next hne =>
      have hspells := spells_of_keywordAt? hkeyword
      have hword : lowerAscii ((cs.dropWhile isBlank).take n) = connective.symbol.toList := by
        cases connective <;> exact lowerAscii_of_spells (by decide) (by decide) hspells
      -- The piece is read off the scan: the gap, the keyword, the second gap and what is left.
      refine ⟨⟨cs.takeWhile isBlank, connective, (cs.dropWhile isBlank).take n,
        ((cs.dropWhile isBlank).drop n).takeWhile isBlank,
        ((cs.dropWhile isBlank).drop n).dropWhile isBlank⟩, ?_, ?_⟩
      · exact ⟨fun c hc => List.mem_takeWhile_imp hc, hne.1, hword,
          fun c hc => List.mem_takeWhile_imp hc, hne.2⟩
      · rw [Piece.text, List.takeWhile_append_dropWhile, List.take_append_drop,
          List.takeWhile_append_dropWhile]
    next => cases h
  next => cases h

/-- A text holds a spaced connective if one is found somewhere in it. -/
theorem holdsSpaced_iff {cs : List Char} :
    HoldsSpaced cs ↔ ∃ tail ∈ cs.tails, (spacedAt? none tail).isSome = true := by
  constructor
  · rintro ⟨front, piece, hpiece, rfl⟩
    obtain ⟨m, hm, -, -⟩ := spacedAt?_text none hpiece
    refine ⟨piece.text, (List.mem_tails ..).mpr (List.suffix_append ..), ?_⟩
    rw [hm, Option.isSome_some]
  · rintro ⟨tail, hmem, hfound⟩
    obtain ⟨front, rfl⟩ := (List.mem_tails ..).mp hmem
    obtain ⟨m, hm⟩ := Option.isSome_iff_exists.mp hfound
    obtain ⟨piece, hpiece, rfl⟩ := exists_piece_of_spacedAt? hm
    exact ⟨front, piece, hpiece, rfl⟩

instance (cs : List Char) : Decidable (HoldsSpaced cs) := decidable_of_iff _ holdsSpaced_iff.symm

/-- A blank-free text in front of what is no word holds none. -/
theorem not_holdsSpaced_of_no_blank {cs : List Char} (h : ∀ c ∈ cs, isBlank c = false)
    (b : Char) : ¬ HoldsSpaced (cs ++ [b]) := by
  rintro ⟨front, piece, hpiece, hsplit⟩
  rw [Piece.text, ← List.append_assoc] at hsplit
  obtain ⟨c, gap, hgap⟩ := List.exists_cons_of_ne_nil hpiece.gap_ne_nil
  rcases List.append_eq_append_iff.mp hsplit with ⟨more, hmore, hrest⟩ | ⟨more, hmore, hrest⟩
  · -- the connective lies behind `cs`, and there is just one character
    have hlength := congrArg List.length hrest
    have hword := List.length_pos_iff.mpr hpiece.word_ne_nil
    have hgap' := List.length_pos_iff.mpr hpiece.gap'_ne_nil
    simp only [List.length_append, List.length_singleton] at hlength
    omega
  · -- the blank in front of it lies in `cs`
    have hc := h c (by rw [hmore, hgap]; simp)
    rw [hpiece.gap c (by rw [hgap]; exact List.mem_cons_self ..)] at hc
    cases hc

/-- So does a text around it. -/
theorem HoldsSpaced.around {cs : List Char} (h : HoldsSpaced cs) (before after : List Char) :
    HoldsSpaced (before ++ cs ++ after) := by
  obtain ⟨front, piece, hpiece, rfl⟩ := h
  refine ⟨before ++ front, _,
    hpiece.behind hpiece.gap' hpiece.gap'_ne_nil (piece.segment ++ after), ?_⟩
  simp only [Piece.text, List.append_assoc]

/-- A text that a piece starts with, before blanks, holds all of its connective. -/
theorem Piece.Spaced.exists_append_word {piece : Piece} (h : piece.Spaced) {cs rest : List Char}
    (hne : cs ≠ []) (hlast : ∀ c ∈ cs.getLast?, isBlank c = false)
    (hrest : ∀ c ∈ rest.head?, isBlank c = true) (htext : cs ++ rest = piece.text) :
    ∃ more, cs = piece.gap ++ piece.word ++ more ∧ piece.gap' ++ piece.segment = more ++ rest := by
  rw [Piece.text, ← List.append_assoc] at htext
  rcases List.append_eq_append_iff.mp htext with ⟨more, hmore, hbehind⟩ | hword
  · cases more with
    | nil =>
      rw [List.append_nil] at hmore
      exact ⟨[], by rw [hmore, List.append_nil], hbehind.symm⟩
    | cons d more =>
      -- then the text ends within the word, or within the blanks in front of it
      have hd := hrest d (by rw [hbehind]; rfl)
      rcases List.append_eq_append_iff.mp hmore with ⟨tail, -, hword⟩ | ⟨tail, hgap, -⟩
      · have hplain := h.isWordChar_word d (by rw [hword]; simp)
        rw [isWordChar_of_isBlank hd] at hplain
        cases hplain
      · have hblank := h.gap (cs.getLast hne)
          (by rw [hgap]; exact List.mem_append_left _ (List.getLast_mem hne))
        rw [hlast _ (List.getLast?_eq_some_getLast hne)] at hblank
        cases hblank
  · exact hword

/-- **What starts within a segment**, before blanks, lies in the segment, unless it is only
    completed by the blanks behind. -/
theorem holdsSpaced_of_spacedAt? {cs rest front back : List Char} {c : Char} (hcs : Tight cs)
    (hrest : ∀ b ∈ rest.head?, isBlank b = true) (hsplit : cs = front ++ c :: back)
    {before : Option Char} {m : Match (c :: (back ++ rest))}
    (h : spacedAt? before (c :: (back ++ rest)) = some m) :
    HoldsSpaced cs ∨ rest ≠ [] ∧ HoldsSpaced (cs ++ [' ']) := by
  obtain ⟨piece, hpiece, htext⟩ := exists_piece_of_spacedAt? h
  have hlast : ∀ d ∈ (c :: back).getLast?, isBlank d = false := by
    intro d hd
    refine hcs.last d ?_
    rwa [hsplit, List.getLast?_append_of_ne_nil _ (List.cons_ne_nil c back)]
  obtain ⟨more, hmore, hbehind⟩ :=
    hpiece.exists_append_word (List.cons_ne_nil c back) hlast hrest htext
  have hspaced : ∀ gap', Blank gap' → gap' ≠ [] → ∀ more,
      HoldsSpaced (front ++ (piece.gap ++ piece.word ++ (gap' ++ more))) := by
    intro gap' hgap' hne more
    refine ⟨front, _, hpiece.behind hgap' hne more, ?_⟩
    simp only [Piece.text, List.append_assoc]
  -- is there anything of the segment left behind the word?
  cases more with
  | nil =>
    have hheld := hspaced [' '] (by decide) (by decide) []
    rw [List.append_nil] at hmore hheld
    rw [← hmore, ← List.append_assoc, ← hsplit] at hheld
    refine .inr ⟨?_, hheld⟩
    rw [show rest = piece.gap' ++ piece.segment from hbehind.symm]
    exact List.append_ne_nil_of_left_ne_nil hpiece.gap'_ne_nil _
  -- then it starts with a blank of the piece, and the segment holds the connective
  | cons d more =>
    have hd : Blank [d] := by
      obtain ⟨e, gap', hgap'⟩ := List.exists_cons_of_ne_nil hpiece.gap'_ne_nil
      rw [hgap'] at hbehind
      intro b hb
      obtain rfl := List.mem_singleton.mp hb
      rw [← (List.cons.inj hbehind).1]
      exact hpiece.gap' e (by rw [hgap']; exact List.mem_cons_self ..)
    have hheld := hspaced [d] hd (List.cons_ne_nil d []) more
    rw [List.singleton_append, ← hmore, ← hsplit] at hheld
    exact .inl hheld

/-! ## Cutting

  Segments that are apart come back as they were written, each by itself. -/

/-- A segment that is written without blanks around it, and holds no spaced connective. -/
structure Segment (cs : List Char) : Prop where
  ne_nil : cs ≠ []
  tight : Tight cs
  unspaced : ¬ HoldsSpaced cs

/-- **A segment is passed over**, at the end, or if no blank behind it completes a connective. -/
theorem cutAfter_segment {cs rest : List Char} (h : Segment cs)
    (hrest : ∀ b ∈ rest.head?, isBlank b = true) (hopen : rest ≠ [] → ¬ HoldsSpaced (cs ++ [' ']))
    (before : Option Char) :
    Chain.cutAfter spacedAt? before (cs ++ rest) =
      (Chain.cutAfter spacedAt? (cs.getLast?.or before) rest).prepend cs := by
  refine cutAfter_append fun front c back hsplit => Option.eq_none_iff_forall_not_mem.mpr ?_
  intro m hm
  rcases holdsSpaced_of_spacedAt? h.tight hrest hsplit hm with hheld | ⟨hne, hheld⟩
  · exact h.unspaced hheld
  · exact hopen hne hheld

/-- The first connective of many pieces is found, and all behind it is left. -/
theorem spacedAt?_textOf (before : Option Char) {piece : Piece} (pieces : List Piece)
    (hpiece : piece.Spaced) (hsegment : Segment piece.segment) :
    ∃ m, spacedAt? before (textOf (piece :: pieces)) = some m ∧
      m.connective = piece.connective ∧ m.rest = piece.segment ++ textOf pieces := by
  have hhead : ∀ c ∈ (piece.segment ++ textOf pieces).head?, isBlank c = false := by
    intro c hc
    rw [List.head?_append_of_ne_nil _ hsegment.ne_nil] at hc
    exact hsegment.tight.head c hc
  have hstart := dropWhile_isBlank blank_nil hhead
  obtain ⟨m, hm, hconnective, hrest⟩ := spacedAt?_text before
    (hpiece.behind hpiece.gap' hpiece.gap'_ne_nil (piece.segment ++ textOf pieces))
  rw [textOf_cons]
  exact ⟨m, hm, hconnective, hrest.trans hstart⟩

/-- A first segment and pieces that can be told apart again: before a further piece a segment holds
    no connective to which just the blank is missing that stands there. -/
structure Apart (first : List Char) (pieces : List Piece) : Prop where
  /-- There are blanks around each connective. -/
  spaced : ∀ piece ∈ pieces, piece.Spaced
  /-- None of the segments holds a connective between blanks. -/
  segments : ∀ cs ∈ first :: pieces.map Piece.segment, Segment cs
  /-- None but the last would, with a blank behind it. -/
  closed : ∀ cs ∈ (first :: pieces.map Piece.segment).dropLast, ¬ HoldsSpaced (cs ++ [' '])

/-- Segments that are apart, seen from the first on: it is not open, and the others are apart as
    well. -/
theorem Apart.of_cons {first : List Char} {piece : Piece} {pieces : List Piece}
    (h : Apart first (piece :: pieces)) :
    ¬ HoldsSpaced (first ++ [' ']) ∧ piece.Spaced ∧ Apart piece.segment pieces := by
  obtain ⟨hspaced, hsegments, hclosed⟩ := h
  rw [List.map_cons, List.dropLast_cons_of_ne_nil (List.cons_ne_nil _ _)] at hclosed
  refine ⟨hclosed first (List.mem_cons_self ..), hspaced piece (List.mem_cons_self ..), ?_⟩
  exact ⟨(List.forall_mem_cons.mp hspaced).2, (List.forall_mem_cons.mp hsegments).2,
    (List.forall_mem_cons.mp hclosed).2⟩

section Cutting

variable {first : List Char} {pieces : List Piece} (h : Apart first pieces)
include h

theorem Apart.segment_first : Segment first := h.segments first (List.mem_cons_self ..)

/-- The whole text is not empty and has no blanks at its ends, which are those of segments. -/
theorem Apart.tight : first ++ textOf pieces ≠ [] ∧ Tight (first ++ textOf pieces) := by
  have hfirst := h.segment_first
  induction pieces generalizing first with
  | nil =>
    rw [show textOf [] = [] from rfl, List.append_nil]
    exact ⟨hfirst.ne_nil, hfirst.tight⟩
  | cons piece pieces ih =>
    obtain ⟨-, -, hmore⟩ := h.of_cons
    obtain ⟨hne, htight⟩ := ih hmore hmore.segment_first
    have htext := tight_append hfirst.ne_nil hne hfirst.tight htight
      (piece.gap ++ (piece.word ++ piece.gap'))
    simp only [List.append_assoc] at htext
    rw [textOf_cons]
    exact ⟨List.append_ne_nil_of_left_ne_nil hfirst.ne_nil _, htext⟩

/-- **Segments come back** as they were written, and so do the connectives. By induction on the
    pieces: the first segment is passed over, the first connective is found behind it, and the rest
    starts with the next segment. -/
theorem Apart.cutAfter_eq (before : Option Char) :
    (Chain.cutAfter spacedAt? before (first ++ textOf pieces)).segments =
        first :: pieces.map Piece.segment ∧
      (Chain.cutAfter spacedAt? before (first ++ textOf pieces)).connectives =
        pieces.map Piece.connective := by
  induction pieces generalizing first before with
  | nil =>
    have hend : ∀ before, Chain.cutAfter spacedAt? before (textOf []) = ⟨[], []⟩ := by
      intro before
      rw [Chain.cutAfter.eq_def]
      rfl
    rw [cutAfter_segment h.segment_first (isBlank_head?_textOf h.spaced)
      (fun hne => absurd rfl hne), hend]
    exact ⟨congrArg (· :: []) (List.append_nil first), rfl⟩
  | cons piece pieces ih =>
    obtain ⟨hclosed, hpiece, hmore⟩ := h.of_cons
    obtain ⟨m, hm, hconnective, hrest⟩ :=
      spacedAt?_textOf (first.getLast?.or before) pieces hpiece hmore.segment_first
    -- Behind the first segment a connective is cut, and the run goes on with the piece's own
    -- segment.
    have hjoin : Chain.cutAfter spacedAt? (first.getLast?.or before) (textOf (piece :: pieces)) =
        (Chain.cutAfter spacedAt? m.lexeme.getLast? (piece.segment ++ textOf pieces)).join
          ⟨piece.connective, m.lexeme⟩ := by
      rw [Chain.cutAfter.eq_def]
      simp only [hm, hconnective, hrest]
    obtain ⟨hsegments, hconnectives⟩ := ih hmore m.lexeme.getLast?
    rw [cutAfter_segment h.segment_first (isBlank_head?_textOf h.spaced) (fun _ => hclosed), hjoin]
    constructor
    · rw [List.map_cons, ← hsegments, Chain.prepend, Chain.join, List.append_nil]
      rfl
    · rw [List.map_cons, ← hconnectives]
      rfl

/-- **The references among the segments are read**, and all the connectives. -/
theorem Apart.parseReferences_eq :
    parseReferences (first ++ textOf pieces) =
      ((first :: pieces.map Piece.segment).filter isReference,
        pieces.map Piece.connective) := by
  obtain ⟨hsegments, hconnectives⟩ := h.cutAfter_eq none
  have htrim : (first :: pieces.map Piece.segment).map trim =
      first :: pieces.map Piece.segment := by
    conv_rhs => rw [← List.map_id (first :: pieces.map Piece.segment)]
    exact List.map_congr_left fun cs hcs => trim_of_tight (h.segments cs hcs).tight
  rw [parseReferences, trim_of_tight h.tight.2]
  simp only [Chain.cut, hsegments, hconnectives, htrim]

end Cutting

/-! ## References

  No reference has a blank in it, so references are apart from each other whatever stands between
  and behind. -/

instance (cs : List Char) : Decidable (IsReference cs) := decidable_of_iff _ isReference_iff

namespace IsReference

variable {cs : List Char} (h : IsReference cs)
include h

/-- A reference holds no blank, ... -/
theorem no_blank : ∀ c ∈ cs, isBlank c = false :=
  fun c hc => isBlank_of_isWordChar (h.wordChars c hc)

/-- ... so no connective between blanks, not even with a blank behind it, ... -/
theorem not_holdsSpaced : ¬ HoldsSpaced (cs ++ [' ']) :=
  not_holdsSpaced_of_no_blank h.no_blank ' '

/-- ... and it is a segment. -/
theorem segment : Segment cs := by
  refine ⟨?_, tight_of_no_blank h.no_blank, fun hheld => h.not_holdsSpaced (hheld.around [] [' '])⟩
  obtain ⟨word, digits, rfl, -, hne, -⟩ := h
  exact List.append_ne_nil_of_right_ne_nil _ hne

/-- A reference ends where blanks begin. -/
theorem afterReference?_blank {rest : List Char} (hrest : ∀ c ∈ rest.head?, isBlank c = true) :
    Expression.afterReference? (cs ++ rest) = some rest := by
  refine h.afterReference?_append fun c hc => ?_
  by_contra hdigit
  have hword := isWordChar_of_isReferenceDigit (Bool.not_eq_false _ ▸ hdigit)
  rw [isWordChar_of_isBlank (hrest c hc)] at hword
  cases hword

end IsReference

/-- What is not the last of two lists is in the first, or not the last of the second. -/
theorem mem_or_mem_dropLast {α : Type} {xs ys : List α} {x : α} (h : x ∈ (xs ++ ys).dropLast) :
    x ∈ xs ∨ x ∈ ys.dropLast := by
  cases ys with
  | nil => exact .inl (List.mem_of_mem_dropLast (by rwa [List.append_nil] at h))
  | cons y ys =>
    rw [List.dropLast_append_of_ne_nil (List.cons_ne_nil y ys)] at h
    exact List.mem_append.mp h

section Chain

variable {first : List Char} {named pieces : List Piece}
  (hreferences : ∀ cs ∈ first :: named.map Piece.segment, IsReference cs)
include hreferences

/-- References are told apart, and from what is behind them. -/
theorem apart_of_references (hspaced : ∀ piece ∈ named ++ pieces, piece.Spaced)
    (hsegments : ∀ cs ∈ pieces.map Piece.segment, Segment cs)
    (hclosed : ∀ cs ∈ (pieces.map Piece.segment).dropLast, ¬ HoldsSpaced (cs ++ [' '])) :
    Apart first (named ++ pieces) := by
  have hlist : first :: (named ++ pieces).map Piece.segment =
      (first :: named.map Piece.segment) ++ pieces.map Piece.segment := by
    rw [List.map_append, List.cons_append]
  constructor
  · exact hspaced
  · intro cs hcs
    rw [hlist] at hcs
    exact (List.mem_append.mp hcs).elim (fun h => (hreferences cs h).segment) (hsegments cs)
  · intro cs hcs
    rw [hlist] at hcs
    exact (mem_or_mem_dropLast hcs).elim (fun h => (hreferences cs h).not_holdsSpaced) (hclosed cs)

/-- **Two references in front** make a reference expression, whatever follows. -/
theorem isReferenceExpression_of_references (hnamed : named ≠ [])
    (h : Apart first (named ++ pieces)) :
    isReferenceExpression (first ++ textOf (named ++ pieces)) = true := by
  obtain ⟨piece, named, rfl⟩ := List.exists_cons_of_ne_nil hnamed
  have hfirst := hreferences first (List.mem_cons_self ..)
  have hsecond := hreferences piece.segment (List.mem_cons_of_mem _ (List.mem_cons_self ..))
  obtain ⟨-, hpiece, hmore⟩ := h.of_cons
  obtain ⟨m, hm, -, hrest⟩ := spacedAt?_textOf none (named ++ pieces) hpiece hsecond.segment
  have hread : afterReference? (piece.segment ++ textOf (named ++ pieces)) =
      some (textOf (named ++ pieces)) :=
    hsecond.afterReference?_blank (isBlank_head?_textOf hmore.spaced)
  rw [isReferenceExpression, trim_of_tight h.tight.2,
    hfirst.afterReference?_blank (isBlank_head?_textOf h.spaced), List.cons_append]
  simp only [hm, hrest, hread, Option.isSome_some]

end Chain

/-! ## Joined items

  The written form that a reader of these files will have in mind, and how it falls into pieces. -/

/-- Items joined by connectives, with blanks around each connective. -/
inductive Joined {α : Type} (Item : List Char → α → Prop) :
    List Char → α → List (Connective × α) → Prop where
  | single {text : List Char} {a : α} (h : Item text a) : Joined Item text a []
  | join {text gap word gap' more : List Char} {connective : Connective} {a b : α}
      {rest : List (Connective × α)} (h : Item text a) (hgap : Blank gap) (hne : gap ≠ [])
      (hword : lowerAscii word = connective.symbol.toList) (hgap' : Blank gap') (hne' : gap' ≠ [])
      (hmore : Joined Item more b rest) :
      Joined Item (text ++ (gap ++ (word ++ (gap' ++ more)))) a ((connective, b) :: rest)

variable {α : Type} {Item : List Char → α → Prop} {text : List Char} {first : α}
  {rest : List (Connective × α)}

/-- Joined items are the first of them and pieces. -/
theorem Joined.exists_pieces (h : Joined Item text first rest) :
    ∃ head pieces, text = head ++ textOf pieces ∧ (∀ piece ∈ pieces, piece.Spaced) ∧
      pieces.map Piece.connective = rest.map Prod.fst ∧
      List.Forall₂ Item (head :: pieces.map Piece.segment) (first :: rest.map Prod.snd) := by
  induction h with
  | @single text a h => exact ⟨text, [], (List.append_nil text).symm, nofun, rfl, .cons h .nil⟩
  | @join text gap word gap' more connective a b rest h hgap hne hword hgap' hne' hmore ih =>
    obtain ⟨head, pieces, rfl, hpieces, hconnectives, hitems⟩ := ih
    refine ⟨text, ⟨gap, connective, word, gap', head⟩ :: pieces, ?_, ?_, ?_, .cons h hitems⟩
    · rw [textOf_cons]
    · intro piece hpiece
      rcases List.mem_cons.mp hpiece with rfl | hpiece
      · exact ⟨hgap, hne, hword, hgap', hne'⟩
      · exact hpieces piece hpiece
    · rw [List.map_cons, hconnectives, List.map_cons]

/-- Texts of items that are references are references. -/
theorem isReference_of_forall₂ (hitem : ∀ text a, Item text a → IsReference text)
    {texts : List (List Char)} {items : List α} (h : List.Forall₂ Item texts items) :
    ∀ cs ∈ texts, IsReference cs := by
  induction h with
  | nil => nofun
  | cons hitem' _ ih => exact List.forall_mem_cons.mpr ⟨hitem _ _ hitem', ih⟩

section References

variable (hitem : ∀ text a, Item text a → IsReference text)
include hitem

/-- **Two or more references** are a reference expression. -/
theorem Joined.isReferenceExpression (h : Joined Item text first rest) (hrest : rest ≠ []) :
    isReferenceExpression text = true := by
  obtain ⟨head, pieces, rfl, hspaced, hconnectives, hitems⟩ := h.exists_pieces
  have hreferences := isReference_of_forall₂ hitem hitems
  have hapart : Apart head (pieces ++ []) :=
    apart_of_references hreferences (by rwa [List.append_nil]) nofun nofun
  have hne : pieces ≠ [] := by
    rintro rfl
    exact hrest (List.map_eq_nil_iff.mp hconnectives.symm)
  have hread := isReferenceExpression_of_references hreferences hne hapart
  rwa [List.append_nil] at hread

/-- **All of them are read**, as they are written, and so are the connectives. -/
theorem Joined.parseReferences_eq (h : Joined Item text first rest) :
    List.Forall₂ Item (parseReferences text).1 (first :: rest.map Prod.snd) ∧
      (parseReferences text).2 = rest.map Prod.fst := by
  obtain ⟨head, pieces, rfl, hspaced, hconnectives, hitems⟩ := h.exists_pieces
  have hreferences := isReference_of_forall₂ hitem hitems
  have hapart : Apart head (pieces ++ []) :=
    apart_of_references hreferences (by rwa [List.append_nil]) nofun nofun
  rw [List.append_nil] at hapart
  rw [hapart.parseReferences_eq,
    List.filter_eq_self.mpr fun cs hcs => isReference_iff.mpr (hreferences cs hcs)]
  exact ⟨hitems, hconnectives⟩

end References

end TableRules.Expression
