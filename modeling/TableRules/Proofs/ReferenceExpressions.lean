/-
  REFERENCE EXPRESSIONS: what a chain of references is parsed as, with other segments behind it.

  1. **Chains** — two or more references with connectives between them, in any letter case and with
     any blanks around the connectives.

  2. **Appended pieces** — a segment that is no reference may follow, with its connective.  It must
     hold no spaced connective.  And if more pieces follow, it must not end in one that just
     lacks the blank behind it: the reader goes from the left, and takes the blanks of the next
     connective for that one (`parse_references_taken_blank`).

  3. **Reading and parsing** — the references of the chain are read, and all connectives
     (`ReferenceChain.parseReferences_eq`), and so they are those of the rule, whatever the
     columns, the registry and the name (`parse_references`).

  What is appended need not be written without blanks at its ends, while the lemmas on cutting ask
  for that; so the blanks around each segment are first counted to the connectives on either side.
  Those behind the last segment belong to no connective, and are trimmed with the expression.
-/
import TableRules.Proofs.ReferenceChains
import TableRules.Proofs.RuleNames

namespace TableRules

open Expression Text

namespace Expression

/-! ## Chains -/

/-- References joined by connectives, as they are spelled. -/
def ReferenceChain (text : List Char) (first : String) (rest : List (Connective × String)) : Prop :=
  Joined (fun text reference => IsReference text ∧ reference = String.ofList text) text first rest

/-- Two references are a chain. -/
theorem ReferenceChain.pair {text gap word gap' text' : List Char} {connective : Connective}
    (h : IsReference text) (hgap : Blank gap) (hne : gap ≠ [])
    (hword : lowerAscii word = connective.symbol.toList) (hgap' : Blank gap') (hne' : gap' ≠ [])
    (h' : IsReference text') :
    ReferenceChain (text ++ (gap ++ (word ++ (gap' ++ text')))) (String.ofList text)
      [(connective, String.ofList text')] :=
  .join ⟨h, rfl⟩ hgap hne hword hgap' hne' (.single ⟨h', rfl⟩)

/-- A chain is its first reference and pieces, each with a reference for its segment. -/
theorem ReferenceChain.exists_references {chain : List Char} {first : String}
    {rest : List (Connective × String)} (h : ReferenceChain chain first rest) :
    ∃ head named, chain = head ++ textOf named ∧ (∀ piece ∈ named, piece.Spaced) ∧
      (∀ cs ∈ head :: named.map Piece.segment, IsReference cs) ∧
      (head :: named.map Piece.segment).map String.ofList = first :: rest.map Prod.snd ∧
      named.map Piece.connective = rest.map Prod.fst := by
  obtain ⟨head, named, htext, hspaced, hconnectives, hitems⟩ := h.exists_pieces
  refine ⟨head, named, htext, hspaced, isReference_of_forall₂ (fun _ _ h => h.1) hitems, ?_,
    hconnectives⟩
  have hspelled := hitems.imp fun text name (h : IsReference text ∧ name = String.ofList text) =>
    h.2.symm
  exact List.forall₂_eq_eq_eq ▸ List.forall₂_map_left_iff.mpr hspelled

/-! ## Appended pieces -/

/-- A segment behind a connective that holds something, but no spaced connective, and is no
    reference. -/
structure Piece.Appends (piece : Piece) : Prop where
  spaced : piece.Spaced
  not_blank : ¬ Blank piece.segment
  unspaced : ¬ HoldsSpaced piece.segment
  not_reference : ¬ IsReference (trim piece.segment)

instance (piece : Piece) : Decidable piece.Appends :=
  decidable_of_iff (piece.Spaced ∧ ¬ Blank piece.segment ∧ ¬ HoldsSpaced piece.segment ∧
      ¬ IsReference (trim piece.segment))
    ⟨fun ⟨hspaced, hblank, hunspaced, hreference⟩ => ⟨hspaced, hblank, hunspaced, hreference⟩,
      fun h => ⟨h.spaced, h.not_blank, h.unspaced, h.not_reference⟩⟩

/-- Without the blanks around it, what is appended is a segment. -/
theorem Piece.Appends.segment {piece : Piece} (h : piece.Appends) :
    Segment (trim piece.segment) := by
  refine ⟨mt trim_eq_nil_iff.mp h.not_blank, tight_trim _, fun hheld => ?_⟩
  obtain ⟨gap, gap', -, -, hsplit⟩ := exists_eq_append_trim piece.segment
  have hmore := hheld.around gap gap'
  rw [← hsplit] at hmore
  exact h.unspaced hmore

/-- The blanks around such segments can be counted to the connectives. -/
theorem exists_tight_appends {pieces : List Piece} (h : ∀ piece ∈ pieces, piece.Appends)
    (hopen : ∀ piece ∈ pieces.dropLast, ¬ HoldsSpaced (trim piece.segment ++ [' '])) :
    ∃ tight tail, textOf pieces = textOf tight ++ tail ∧ Blank tail ∧
      (∀ piece ∈ tight, piece.Spaced) ∧
      (∀ cs ∈ tight.map Piece.segment, Segment cs ∧ ¬ IsReference cs) ∧
      (∀ cs ∈ (tight.map Piece.segment).dropLast, ¬ HoldsSpaced (cs ++ [' '])) ∧
      tight.map Piece.connective = pieces.map Piece.connective := by
  obtain ⟨tight, tail, htext, htail, hspaced, hsegments, hconnectives⟩ :=
    exists_tight_pieces (fun piece hpiece => (h piece hpiece).spaced) blank_nil
  refine ⟨tight, tail, htext, htail, hspaced, ?_, ?_, hconnectives⟩
  · intro cs hcs
    rw [hsegments] at hcs
    obtain ⟨piece, hpiece, rfl⟩ := List.mem_map.mp hcs
    exact ⟨(h piece hpiece).segment, (h piece hpiece).not_reference⟩
  · intro cs hcs
    rw [hsegments, ← List.map_dropLast] at hcs
    obtain ⟨piece, hpiece, rfl⟩ := List.mem_map.mp hcs
    exact hopen piece hpiece

/-! ## Reading -/

/-- **A chain is read**, whatever is appended to it: its references, and all connectives. -/
theorem ReferenceChain.parseReferences_eq {chain : List Char} {first : String}
    {rest : List (Connective × String)} (hchain : ReferenceChain chain first rest)
    (hrest : rest ≠ []) {pieces : List Piece} (hpieces : ∀ piece ∈ pieces, piece.Appends)
    (hopen : ∀ piece ∈ pieces.dropLast, ¬ HoldsSpaced (trim piece.segment ++ [' '])) :
    isReferenceExpression (trim (chain ++ textOf pieces)) = true ∧
      (parseReferences (trim (chain ++ textOf pieces))).1.map String.ofList =
        first :: rest.map Prod.snd ∧
      (parseReferences (trim (chain ++ textOf pieces))).2 =
        rest.map Prod.fst ++ pieces.map Piece.connective := by
  obtain ⟨head, named, rfl, hnamed, hreferences, hspelled, hconnectives⟩ :=
    hchain.exists_references
  obtain ⟨tight, tail, htext, htail, htight, hothers, hclosed, hconnectives'⟩ :=
    exists_tight_appends hpieces hopen
  have hne : named ≠ [] := by
    rintro rfl
    exact hrest (List.map_eq_nil_iff.mp hconnectives.symm)
  -- the references and what follows are apart, as one list of pieces
  have hapart : Apart head (named ++ tight) := by
    refine apart_of_references hreferences (fun piece hpiece => ?_)
      (fun cs hcs => (hothers cs hcs).1) hclosed
    exact (List.mem_append.mp hpiece).elim (hnamed piece) (htight piece)
  have htrim : trim (head ++ textOf named ++ textOf pieces) = head ++ textOf (named ++ tight) := by
    rw [htext, ← List.append_assoc, List.append_assoc head, ← textOf_append]
    exact trim_append_right hapart.tight.2 htail
  -- of all segments the references are kept, and they are those of the chain
  have hkept : (head :: (named ++ tight).map Piece.segment).filter isReference =
      head :: named.map Piece.segment := by
    rw [List.map_append, ← List.cons_append, List.filter_append,
      List.filter_eq_self.mpr fun cs hcs => isReference_iff.mpr (hreferences cs hcs),
      List.filter_eq_nil_iff.mpr fun cs hcs => mt isReference_iff.mp (hothers cs hcs).2,
      List.append_nil]
  rw [htrim, hapart.parseReferences_eq, hkept]
  refine ⟨isReferenceExpression_of_references hreferences hne hapart, hspelled, ?_⟩
  rw [List.map_append, hconnectives, hconnectives']

end Expression

namespace Parser

/-! ## Parsing -/

/-- **A chain of references is parsed exactly**, for any columns and registry and under any name:
    its references are those of the rule, as they are spelled and in order.  What is appended adds
    its connectives, and no reference. -/
theorem parse_references {chain : List Char} {first : String} {rest : List (Connective × String)}
    (hchain : ReferenceChain chain first rest) (hrest : rest ≠ []) {pieces : List Piece}
    (hpieces : ∀ piece ∈ pieces, piece.Appends)
    (hopen : ∀ piece ∈ pieces.dropLast, ¬ HoldsSpaced (trim piece.segment ++ [' ']))
    (parser : Parser) (registry : Registry) (columns : List String) (given : Option String) :
    ∃ rule, (parser.parse registry (String.ofList (chain ++ textOf pieces)) columns given).result =
        .ok rule ∧
      rule.isReference = true ∧ rule.conditions = [] ∧
      rule.references = first :: rest.map Prod.snd ∧
      rule.connectives = rest.map Prod.fst ++ pieces.map Piece.connective := by
  obtain ⟨hreference, hreferences, hconnectives⟩ :=
    hchain.parseReferences_eq hrest hpieces hopen
  have htext : (String.ofList (chain ++ textOf pieces)).toList = chain ++ textOf pieces :=
    String.toList_ofList
  have hne : trim (chain ++ textOf pieces) ≠ [] := by
    intro hnil
    rw [hnil] at hreference
    cases hreference
  have hparse := (parse_of_ne_nil parser registry columns given (htext ▸ hne)).1
  rw [htext, ruleOf, if_pos hreference, hreferences, hconnectives] at hparse
  exact ⟨_, hparse, rfl, rfl, rfl, rfl⟩

/-- What is appended may start with a connective, and the last segment may end in one. -/
theorem parse_references_with_conditions :
    let pieces : List Piece := [⟨" ".toList, .or, "OR".toList, " ".toList, "A > 5".toList⟩,
      ⟨" ".toList, .and, "AND".toList, " ".toList, "or x ".toList⟩,
      ⟨"\t".toList, .or, "oR".toList, " ".toList, "y or".toList⟩]
    ReferenceChain "Rule1  and rULE2".toList "Rule1" [(.and, "rULE2")] ∧
      (∀ piece ∈ pieces, piece.Appends) ∧
      (∀ piece ∈ pieces.dropLast, ¬ HoldsSpaced (trim piece.segment ++ [' '])) ∧
      ∃ rule, (fresh.parse .empty "Rule1  and rULE2 OR A > 5 AND or x \toR y or" ["A"]
          (some "main")).result = .ok rule ∧
        rule.isReference = true ∧ rule.conditions = [] ∧ rule.references = ["Rule1", "rULE2"] ∧
        rule.connectives = [.and, .or, .and, .or] := by
  intro pieces
  have hchain : ReferenceChain "Rule1  and rULE2".toList "Rule1" [(.and, "rULE2")] := by
    have hfirst : IsReference "Rule1".toList := by decide +kernel
    have hsecond : IsReference "rULE2".toList := by decide +kernel
    exact @ReferenceChain.pair _ "  ".toList "and".toList " ".toList _ .and hfirst (by decide)
      (by decide) (by decide) (by decide) (by decide) hsecond
  have hpieces : ∀ piece ∈ pieces, piece.Appends := by decide +kernel
  have hopen : ∀ piece ∈ pieces.dropLast, ¬ HoldsSpaced (trim piece.segment ++ [' ']) := by
    decide +kernel
  exact ⟨hchain, hpieces, hopen,
    parse_references hchain (by decide) hpieces hopen fresh .empty ["A"] (some "main")⟩

/-- A segment that ends in a connective takes the blank of the next one for its own, so that one is
    lost, and what was a part of the segment may be read as a reference. -/
theorem parse_references_taken_blank :
    let pieces : List Piece := [⟨" ".toList, .or, "OR".toList, " ".toList, "Rule3 OR".toList⟩,
      ⟨" ".toList, .and, "AND".toList, " ".toList, "y".toList⟩]
    ReferenceChain "Rule1 AND Rule2".toList "Rule1" [(.and, "Rule2")] ∧
      (∀ piece ∈ pieces, piece.Appends) ∧
      String.ofList ("Rule1 AND Rule2".toList ++ textOf pieces) =
        "Rule1 AND Rule2 OR Rule3 OR AND y" ∧
      ∃ rule, (fresh.parse .empty "Rule1 AND Rule2 OR Rule3 OR AND y" ["A"] (some "main")).result =
          .ok rule ∧
        rule.references = ["Rule1", "Rule2", "Rule3"] ∧ rule.connectives = [.and, .or, .or] ∧
        rule.references ≠ ["Rule1", "Rule2"] ∧
        rule.connectives ≠ [.and] ++ pieces.map Piece.connective := by
  intro pieces
  have hchain : ReferenceChain "Rule1 AND Rule2".toList "Rule1" [(.and, "Rule2")] := by
    have hfirst : IsReference "Rule1".toList := by decide +kernel
    have hsecond : IsReference "Rule2".toList := by decide +kernel
    exact @ReferenceChain.pair _ " ".toList "AND".toList " ".toList _ .and hfirst (by decide)
      (by decide) (by decide) (by decide) (by decide) hsecond
  have hparse : (fresh.parse .empty "Rule1 AND Rule2 OR Rule3 OR AND y" ["A"]
      (some "main")).result =
      .ok (.ofReferences "main" ["Rule1", "Rule2", "Rule3"] [.and, .or, .or]
        "Rule1 AND Rule2 OR Rule3 OR AND y") := by decide +kernel
  exact ⟨hchain, by decide +kernel, by decide +kernel, _, hparse, rfl, rfl, by decide, by decide⟩

end Parser

end TableRules
