/-
  SPANS OF CONNECTIVES: where the connectives of a text are, and the segments between them.

  1. **Slices** — `slice?` is the text between two byte offsets.  There is none if one of them is
     beyond the end or within a character, or if they stand the wrong way round
     (`slice?_eq_some_iff`).

  2. **Spans** — each junction of a chain takes at least one byte, and the next one starts where the
     segment between them ends.  So the spans are in order and apart, the slices at them are the
     lexemes, and the slices between them (`slicesBetween?`) the segments.

  3. **Nothing is left** — whether a connective is found must not hang on what lies beyond a junction
     (`Finder.Steady`).  A word boundary stays one when the text is cut at a keyword, and blanks
     that were taken with one keyword are of no use to the next.  Then nothing can be found in a
     segment alone that was not found in the whole text.

  The crux is the third part.  What the two finders have in common is that each looks at the
  character in front and at what comes next, so a cut changes what they see on both sides of it,
  and a segment alone could seem to start or end with a connective.  `Finder.Steady` has a field for
  each side: `extend` puts back what was cut off behind, and `restart` takes away what was in
  front.  For words both hold because a cut is made at an edge and leaves one; for connectives
  between blanks because the blanks went with the connective, and the next has none to start with.
-/
import Mathlib.Data.String.Basic
import TableRules.Proofs.ReferenceChains
import TableRules.Proofs.Traversals

namespace TableRules.Text

/-! ## Slices

  Offsets are in bytes and texts in characters, so not every offset is one of a character. A slice
  says so by giving nothing. -/

/-- The text before a byte offset and the text behind it, if it is not within a character. -/
def cutAtByte? : Nat → List Char → Option (List Char × List Char)
  | 0, cs => some ([], cs)
  | _ + 1, [] => none
  | n + 1, c :: cs =>
    if c.utf8Size ≤ n + 1 then
      (cutAtByte? (n + 1 - c.utf8Size) cs).map fun (before, after) => (c :: before, after)
    else none

/-- The text between two byte offsets. -/
def slice? (cs : List Char) (start stop : Nat) : Option (List Char) :=
  (cutAtByte? stop cs).bind fun (front, _) => (cutAtByte? start front).map (·.2)

/-- A byte offset at which a character starts or the text ends. -/
def AtBoundary (cs : List Char) (offset : Nat) : Prop :=
  ∃ before after, cs = before ++ after ∧ byteLength before = offset

/-- Nothing takes no bytes, ... -/
theorem byteLength_nil : byteLength [] = 0 := rfl

/-- ... a character its own ... -/
theorem byteLength_cons (c : Char) (cs : List Char) :
    byteLength (c :: cs) = c.utf8Size + byteLength cs := by
  rw [byteLength, byteLength, String.utf8ByteSize_ofList, String.utf8ByteSize_ofList,
    String.utf8Len_cons, Nat.add_comm]

/-- ... and a text as many as its parts. -/
theorem byteLength_append (cs rest : List Char) :
    byteLength (cs ++ rest) = byteLength cs + byteLength rest := by
  simp only [byteLength, String.utf8ByteSize_ofList, String.utf8Len_append]

/-- Every character takes a byte at least. -/
theorem byteLength_pos {cs : List Char} (h : cs ≠ []) : 0 < byteLength cs := by
  obtain ⟨c, cs, rfl⟩ := List.exists_cons_of_ne_nil h
  rw [byteLength_cons]
  exact Nat.add_pos_left c.utf8Size_pos _

/-- **A cut at a byte** parts a text so that the first part takes so many bytes. By the recursion of
    the cut: an offset of zero, the end of the text, a character that still fits, and one that does
    not. -/
theorem cutAtByte?_eq_some_iff {n : Nat} {cs before after : List Char} :
    cutAtByte? n cs = some (before, after) ↔ cs = before ++ after ∧ byteLength before = n := by
  fun_induction cutAtByte? n cs generalizing before with
  | case1 cs =>
    constructor
    · intro h
      obtain ⟨rfl, rfl⟩ := Prod.mk.inj (Option.some.inj h)
      exact ⟨rfl, rfl⟩
    · rintro ⟨rfl, hzero⟩
      have hnil : before = [] := by_contra fun hne => Nat.ne_of_gt (byteLength_pos hne) hzero
      rw [hnil]
      rfl
  | case2 n =>
    refine iff_of_false (Option.some_ne_none _).symm fun ⟨hnil, hlength⟩ => ?_
    obtain ⟨rfl, -⟩ := List.append_eq_nil_iff.mp hnil.symm
    cases hlength
  | case3 n c cs hfits ih =>
    -- The first character fits: cut the rest after the bytes that remain.
    rw [Option.map_eq_some_iff]
    constructor
    · rintro ⟨⟨front, back⟩, hfront, heq⟩
      obtain ⟨rfl, rfl⟩ := Prod.mk.inj heq
      obtain ⟨rfl, hlength⟩ := ih.mp hfront
      exact ⟨rfl, by rw [byteLength_cons, hlength, Nat.add_sub_cancel' hfits]⟩
    · rintro ⟨heq, hlength⟩
      cases before with
      | nil => cases hlength
      | cons d before =>
        obtain ⟨rfl, rfl⟩ := List.cons.inj heq
        have hsum := (byteLength_cons c before).symm.trans hlength
        exact ⟨(before, after), ih.mpr ⟨rfl, by omega⟩, rfl⟩
  | case4 n c cs hbeyond =>
    -- The offset falls inside of the first character, where no front of the text ends.
    refine iff_of_false (Option.some_ne_none _).symm fun ⟨heq, hlength⟩ => ?_
    cases before with
    | nil => cases hlength
    | cons d before =>
      obtain ⟨rfl, -⟩ := List.cons.inj heq
      have hsum := (byteLength_cons c before).symm.trans hlength
      omega

/-- **A slice** is what stands between its offsets, and both are boundaries. -/
theorem slice?_eq_some_iff {cs part : List Char} {start stop : Nat} :
    slice? cs start stop = some part ↔ ∃ before after, cs = before ++ (part ++ after) ∧
      byteLength before = start ∧ byteLength before + byteLength part = stop := by
  rw [slice?, Option.bind_eq_some_iff]
  constructor
  -- Two cuts: the first at the end of the slice, the second at its start.
  · rintro ⟨⟨front, after⟩, hfront, hpart⟩
    obtain ⟨⟨before, _⟩, hbefore, rfl⟩ := Option.map_eq_some_iff.mp hpart
    obtain ⟨rfl, hstop⟩ := cutAtByte?_eq_some_iff.mp hfront
    obtain ⟨rfl, hstart⟩ := cutAtByte?_eq_some_iff.mp hbefore
    rw [byteLength_append] at hstop
    exact ⟨before, after, List.append_assoc .., hstart, hstop⟩
  · rintro ⟨before, after, rfl, rfl, rfl⟩
    refine ⟨(before ++ part, after), cutAtByte?_eq_some_iff.mpr ⟨?_, byteLength_append ..⟩, ?_⟩
    · rw [List.append_assoc]
    · exact Option.map_eq_some_iff.mpr
        ⟨(before, part), cutAtByte?_eq_some_iff.mpr ⟨rfl, rfl⟩, rfl⟩

/-- The part of a text in the middle is the slice there. -/
theorem slice?_append (before part after : List Char) :
    slice? (before ++ (part ++ after)) (byteLength before) (byteLength before + byteLength part) =
      some part :=
  slice?_eq_some_iff.mpr ⟨before, after, rfl, rfl, rfl⟩

/-- A slice starts and ends where characters do. -/
theorem atBoundary_of_slice? {cs part : List Char} {start stop : Nat}
    (h : slice? cs start stop = some part) : AtBoundary cs start ∧ AtBoundary cs stop := by
  obtain ⟨before, after, rfl, hstart, hstop⟩ := slice?_eq_some_iff.mp h
  refine ⟨⟨before, part ++ after, rfl, hstart⟩, ⟨before ++ part, after, ?_, ?_⟩⟩
  · rw [List.append_assoc]
  · rw [byteLength_append, hstop]

example : slice? "é or".toList 2 5 = some " or".toList := by decide
example : slice? "é or".toList 1 5 = none := by decide

end TableRules.Text

namespace TableRules.Expression

open Text

namespace Chain

/-! ## Spans

  The chain knows its segments and lexemes, and the spans are counted up from these. That a slice of
  the text at a span is the lexeme goes by induction on the chain, with all that stands before it
  kept general. -/

/-- The slices of a text between spans, of which the first starts at a byte. -/
def slicesBetween? (cs : List Char) : Nat → List Span → Option (List (List Char))
  | start, [] => (slice? cs start (byteLength cs)).map fun segment => [segment]
  | start, span :: spans =>
    (slice? cs start span.start).bind fun segment =>
      (slicesBetween? cs span.stop spans).map fun segments => segment :: segments

/-- Segments and what stands between them, one after the other. -/
def interleave : List (List Char) → List (List Char) → List Char
  | segment :: segments, lexeme :: lexemes => segment ++ (lexeme ++ interleave segments lexemes)
  | segments, _ => segments.flatten

/-- The segments of a chain, with its lexemes between them, are its text. -/
theorem interleave_segments (chain : Chain) :
    interleave chain.segments (chain.tail.map (·.1.lexeme)) = chain.text := by
  obtain ⟨head, tail⟩ := chain
  induction tail generalizing head with
  | nil => exact List.flatten_cons
  | cons entry tail ih =>
    obtain ⟨junction, segment⟩ := entry
    have hrest := ih segment
    simp only [segments, text, List.map_cons, List.flatMap_cons, interleave] at hrest ⊢
    rw [hrest, List.append_assoc]

/-- There is a span for each junction. -/
theorem length_spansFrom (start : Nat) (tail : List (Junction × List Char)) :
    (spansFrom start tail).length = tail.length := by
  induction tail generalizing start with
  | nil => rfl
  | cons entry tail ih => rw [spansFrom, List.length_cons, List.length_cons, ih]

/-- Each junction takes something. -/
def Solid (tail : List (Junction × List Char)) : Prop := ∀ entry ∈ tail, entry.1.lexeme ≠ []

/-- No span starts before the first may, and each takes a byte. -/
theorem le_of_mem_spansFrom {tail : List (Junction × List Char)} (h : Solid tail) {start : Nat}
    {span : Span} (hspan : span ∈ spansFrom start tail) :
    start ≤ span.start ∧ span.start < span.stop := by
  induction tail generalizing start with
  | nil => cases hspan
  | cons entry tail ih =>
    have hpos := byteLength_pos (h entry (List.mem_cons_self ..))
    rw [spansFrom] at hspan
    rcases List.mem_cons.mp hspan with rfl | hspan
    · exact ⟨Nat.le_refl _, Nat.lt_add_of_pos_right hpos⟩
    · obtain ⟨hle, hlt⟩ := ih (fun other hother => h other (List.mem_cons_of_mem _ hother)) hspan
      exact ⟨by omega, hlt⟩

/-- **Spans are in order and apart.** -/
theorem pairwise_spansFrom {tail : List (Junction × List Char)} (h : Solid tail) (start : Nat) :
    (spansFrom start tail).Pairwise fun span next => span.stop ≤ next.start := by
  induction tail generalizing start with
  | nil => exact .nil
  | cons entry tail ih =>
    have htail : Solid tail := fun other hother => h other (List.mem_cons_of_mem _ hother)
    rw [spansFrom]
    refine .cons (fun next hnext => ?_) (ih htail _)
    have hle := (le_of_mem_spansFrom htail hnext).1
    dsimp only
    omega

/-- The text of a chain, up to its first junction and behind it. -/
theorem text_cons (head : List Char) (junction : Junction) (segment : List Char)
    (tail : List (Junction × List Char)) :
    text ⟨head, (junction, segment) :: tail⟩ =
      head ++ (junction.lexeme ++ text ⟨segment, tail⟩) := by
  simp only [text, List.flatMap_cons, List.append_assoc]

/-- **Slices between spans are segments, and slices at spans are lexemes**, in any text that ends
    with that of the chain. -/
theorem slices_spansFrom (before : List Char) (chain : Chain) :
    let cs := before ++ chain.text
    let spans := spansFrom (byteLength before + byteLength chain.head) chain.tail
    slicesBetween? cs (byteLength before) spans = some chain.segments ∧
      spans.mapM (fun span => slice? cs span.start span.stop) =
        some (chain.tail.map (·.1.lexeme)) := by
  obtain ⟨head, tail⟩ := chain
  induction tail generalizing before head with
  | nil =>
    refine ⟨?_, rfl⟩
    have hslice := slice?_append before head []
    rw [List.append_nil] at hslice
    simp only [spansFrom, slicesBetween?, text, List.flatMap_nil, List.append_nil,
      byteLength_append, hslice]
    rfl
  | cons entry tail ih =>
    obtain ⟨junction, segment⟩ := entry
    -- the rest of the chain ends the same text, behind the first connective
    obtain ⟨hsegments, hlexemes⟩ := ih (before ++ (head ++ junction.lexeme)) segment
    have hfront := slice?_append before head (junction.lexeme ++ text ⟨segment, tail⟩)
    have hlexeme := slice?_append (before ++ head) junction.lexeme (text ⟨segment, tail⟩)
    simp only [byteLength_append, List.append_assoc, ← Nat.add_assoc] at hsegments hlexemes hlexeme
    simp only [text_cons, spansFrom, slicesBetween?, List.mapM_cons, hfront, hlexeme, hsegments,
      hlexemes]
    exact ⟨rfl, rfl⟩

end Chain

/-! ## Steady finders -/

/-- What a finder finds in a part of a text does not hang on what lies beyond the connectives beside
    that part. -/
structure Finder.Steady (find? : Finder) : Prop where
  /-- What is found in a part is found in the whole, if the part ends with the text or before
      another connective. -/
  extend : ∀ {before cs rest}, cs ≠ [] → (find? before cs).isSome = true →
    (rest = [] ∨ (find? (cs.getLast?.or before) rest).isSome = true) →
      (find? before (cs ++ rest)).isSome = true
  /-- Behind a connective it is as at the start. -/
  restart : ∀ {before cs} {m : Match cs} {front}, find? before cs = some m → front <+: m.rest →
    find? m.lexeme.getLast? front = find? none front

/-- Behind a connective that stands as a word there is a word boundary. -/
theorem isEdge_rest_of_wordAt? {before : Option Char} {cs : List Char} {m : Match cs}
    (h : wordAt? before cs = some m) : isEdge m.rest.head? = true := by
  rw [wordAt?] at h
  split at h
  next connective n hkeyword =>
    split at h
    next =>
      split at h
      next hedges =>
        obtain rfl := Option.some.inj h
        exact (Bool.and_eq_true_iff.mp hedges).2
      next => cases h
    next => cases h
  next => cases h

/-- A word boundary stays one when the text is cut at a keyword. -/
theorem steady_wordAt? : Finder.Steady wordAt? where
  extend := by
    intro before cs rest hne hfound hrest
    obtain ⟨hbefore, hstarts⟩ := isSome_wordAt?.mp hfound
    rcases hrest with rfl | hrest
    · rwa [List.append_nil]
    -- a connective starts behind the text, so the text ends at an edge
    · have hlast : isEdge cs.getLast? = true := by
        have hedge := (isSome_wordAt?.mp hrest).1
        rwa [List.getLast?_eq_some_getLast hne, Option.some_or,
          ← List.getLast?_eq_some_getLast hne] at hedge
      refine isSome_wordAt?.mpr ⟨hbefore, ?_⟩
      rwa [startsWithWord_append lettered_connectiveWords hne (.inl hlast)]
  restart := by
    intro before cs m front hm hfront
    have hedge : isEdge front.head? = true := by
      cases front with
      | nil => rfl
      | cons c front =>
        obtain ⟨back, hback⟩ := hfront
        have hrest := isEdge_rest_of_wordAt? hm
        rwa [← hback] at hrest
    have hstarts := startsWithWord_of_edge lettered_connectiveWords hedge
    rw [wordAt?_eq_none fun _ => hstarts, wordAt?_eq_none fun _ => hstarts]

/-- A spaced connective has all its blanks itself: behind one nothing is blank, so no other starts
    there. -/
theorem steady_spacedAt? : Finder.Steady spacedAt? where
  extend := by
    intro before cs rest _ hfound _
    obtain ⟨m, hm⟩ := Option.isSome_iff_exists.mp hfound
    obtain ⟨piece, hpiece, rfl⟩ := exists_piece_of_spacedAt? hm
    obtain ⟨m', hm', -, -⟩ := spacedAt?_text before
      (hpiece.behind hpiece.gap' hpiece.gap'_ne_nil (piece.segment ++ rest))
    have htext : piece.text ++ rest = Piece.text { piece with segment := piece.segment ++ rest } := by
      simp only [Piece.text, List.append_assoc]
    rw [htext]
    exact Option.isSome_of_eq_some hm'
  restart := fun _ _ => rfl

namespace Chain

/-! ## Nothing is left -/

variable {find? : Finder}

/-- In nothing there is nothing to find. -/
theorem find?_nil (before : Option Char) : find? before [] = none := by
  cases h : find? before [] with
  | none => rfl
  | some m => exact absurd (List.append_eq_nil_iff.mp m.splits).1 m.nonempty

/-- So there is nothing to cut either. -/
theorem cutAfter_nil (before : Option Char) : cutAfter find? before [] = ⟨[], []⟩ := by
  rw [cutAfter.eq_def]
  simp only [find?_nil]

/-- Cutting looks at what stands in front only where the text starts. -/
theorem cutAfter_congr {before before' : Option Char} {cs : List Char}
    (h : find? before cs = find? before' cs) :
    cutAfter find? before cs = cutAfter find? before' cs := by
  rw [cutAfter.eq_def, cutAfter.eq_def, h]

/-- Every connective takes something. -/
theorem solid_cutAfter (before : Option Char) (cs : List Char) :
    Solid (cutAfter find? before cs).tail := by
  fun_induction cutAfter find? before cs with
  | case1 before cs m _ ih =>
    intro entry hentry
    rcases List.mem_cons.mp hentry with rfl | hentry
    · exact m.nonempty
    · exact ih entry hentry
  | case2 before _ =>
    intro entry hentry
    cases hentry
  | case3 before c cs _ ih => exact ih

/-- The first segment goes on to the end or to a connective. -/
theorem exists_rest_cutAfter (find? : Finder) (before : Option Char) (cs : List Char) :
    ∃ rest, cs = (cutAfter find? before cs).head ++ rest ∧
      (rest = [] ∨
        (find? ((cutAfter find? before cs).head.getLast?.or before) rest).isSome = true) := by
  fun_induction cutAfter find? before cs with
  | case1 before cs m hm ih => exact ⟨cs, rfl, .inr (Option.isSome_of_eq_some hm)⟩
  | case2 before _ => exact ⟨[], rfl, .inl rfl⟩
  | case3 before c cs _ ih =>
    obtain ⟨rest, hcs, hrest⟩ := ih
    refine ⟨rest, congrArg (c :: ·) hcs, ?_⟩
    rwa [push, getLast?_cons_or]

/-- **Nothing is found in the first segment** alone. What is found there is found in the whole text
    as well, by `extend`, and the segment would have ended there. -/
theorem tail_cutAfter_head (h : find?.Steady) (before : Option Char) (cs : List Char) :
    (cutAfter find? before (cutAfter find? before cs).head).tail = [] := by
  fun_induction cutAfter find? before cs with
  | case1 before cs m hm ih =>
    show (cutAfter find? before []).tail = []
    rw [cutAfter_nil]
  | case2 before _ =>
    show (cutAfter find? before []).tail = []
    rw [cutAfter_nil]
  | case3 before c cs hnone ih =>
    obtain ⟨rest, hcs, hrest⟩ := exists_rest_cutAfter find? (some c) cs
    -- what is found at the start of the segment would have been found in the whole text
    have hnot : find? before (c :: (cutAfter find? (some c) cs).head) = none := by
      rw [← Option.isNone_iff_eq_none, ← Option.isSome_eq_false_iff, ← Bool.not_eq_true]
      intro hfound
      rw [← getLast?_cons_or c _ before] at hrest
      have hwhole := h.extend (List.cons_ne_nil _ _) hfound hrest
      rw [List.cons_append, ← hcs, hnone] at hwhole
      cases hwhole
    rw [push, cutAfter.eq_def]
    simp only [hnot]
    exact ih

/-- Nor in any that stands behind a connective. -/
theorem tail_cut_of_mem_tail (h : find?.Steady) (before : Option Char) (cs : List Char) :
    ∀ entry ∈ (cutAfter find? before cs).tail, (cut find? entry.2).tail = [] := by
  fun_induction cutAfter find? before cs with
  | case1 before cs m hm ih =>
    intro entry hentry
    rcases List.mem_cons.mp hentry with rfl | hentry
    · -- the segment behind a connective is looked through as at the start
      have hfront : (cutAfter find? m.lexeme.getLast? m.rest).head <+: m.rest := by
        obtain ⟨rest, hrest, -⟩ := exists_rest_cutAfter find? m.lexeme.getLast? m.rest
        exact ⟨rest, hrest.symm⟩
      have hhead := tail_cutAfter_head h m.lexeme.getLast? m.rest
      rwa [cutAfter_congr (h.restart hm hfront)] at hhead
    · exact ih entry hentry
  | case2 before _ =>
    intro entry hentry
    cases hentry
  | case3 before c cs _ ih => exact ih

/-- **Nothing is found in any segment** alone. -/
theorem tail_cut_of_mem_segments (h : find?.Steady) {cs segment : List Char}
    (hsegment : segment ∈ (cut find? cs).segments) : (cut find? segment).tail = [] := by
  rcases List.mem_cons.mp hsegment with rfl | hsegment
  · exact tail_cutAfter_head h none cs
  · obtain ⟨entry, hentry, rfl⟩ := List.mem_map.mp hsegment
    exact tail_cut_of_mem_tail h none cs entry hentry

/-- **Cutting loses nothing and leaves nothing.**  The spans of the connectives take at least a byte
    each, start and end at characters, and are in order and apart.  The slices between them are the
    segments, one more than there are spans, and with the slices at them they make up the text
    again.  No connective is found in a segment alone. -/
theorem cut_leaves_nothing {find? : Finder} (hfind : find? ∈ [wordAt?, spacedAt?])
    (cs : List Char) :
    let chain := cut find? cs
    (∀ span ∈ chain.spans,
      span.start < span.stop ∧ AtBoundary cs span.start ∧ AtBoundary cs span.stop) ∧
    (chain.spans.Pairwise fun span next => span.stop ≤ next.start) ∧
    slicesBetween? cs 0 chain.spans = some chain.segments ∧
    chain.segments.length = chain.spans.length + 1 ∧
    (∃ lexemes, chain.spans.mapM (fun span => slice? cs span.start span.stop) = some lexemes ∧
      interleave chain.segments lexemes = cs) ∧
    ∀ segment ∈ chain.segments, (cut find? segment).spans = [] := by
  intro chain
  -- both finders are steady, and nothing more is used of them
  have hsteady : find?.Steady := by
    rcases List.mem_pair.mp hfind with rfl | rfl
    · exact steady_wordAt?
    · exact steady_spacedAt?
  have hsolid : Solid chain.tail := solid_cutAfter none cs
  have htext : chain.text = cs := text_cutAfter find? none cs
  have hspans : chain.spans = spansFrom (byteLength [] + byteLength chain.head) chain.tail := by
    rw [byteLength_nil, Nat.zero_add]
    rfl
  obtain ⟨hsegments, hlexemes⟩ := slices_spansFrom [] chain
  rw [← hspans, List.nil_append, htext] at hsegments hlexemes
  refine ⟨fun span hspan => ?_, pairwise_spansFrom hsolid _, hsegments, ?_, ?_, ?_⟩
  · refine ⟨(le_of_mem_spansFrom hsolid hspan).2, ?_⟩
    cases hslice : slice? cs span.start span.stop with
    | none =>
      rw [mapM_eq_none_iff.mpr ⟨span, hspan, hslice⟩] at hlexemes
      cases hlexemes
    | some lexeme => exact atBoundary_of_slice? hslice
  · rw [segments, List.length_cons, List.length_map, spans, length_spansFrom]
  · exact ⟨_, hlexemes, (interleave_segments chain).trans htext⟩
  · intro segment hsegment
    rw [spans, tail_cut_of_mem_segments hsteady hsegment]
    rfl

/-- A keyword whose blanks were taken by another stays in its segment, where it is none either. -/
theorem cut_leaves_nothing_of_shared_blank :
    let cs := "é AND\u3000and or Rule2".toList
    let spans : List Span := [⟨.and, 2, 9⟩, ⟨.or, 12, 16⟩]
    spacedAt? ∈ [wordAt?, spacedAt?] ∧ (cut spacedAt? cs).spans = spans ∧
      slicesBetween? cs 0 spans = some ["é".toList, "and".toList, "Rule2".toList] ∧
      (cut spacedAt? "and".toList).spans = [] := by
  intro cs spans
  have hfind : spacedAt? ∈ [wordAt?, spacedAt?] := List.mem_cons_of_mem _ (List.mem_singleton_self _)
  have hspans : (cut spacedAt? cs).spans = spans := by decide +kernel
  have hsegments : (cut spacedAt? cs).segments = ["é".toList, "and".toList, "Rule2".toList] := by
    decide +kernel
  obtain ⟨-, -, hslices, -, -, hnothing⟩ := cut_leaves_nothing hfind cs
  rw [hspans, hsegments] at hslices
  exact ⟨hfind, hspans, hslices, hnothing _ (by rw [hsegments]; decide)⟩

end Chain

end TableRules.Expression
