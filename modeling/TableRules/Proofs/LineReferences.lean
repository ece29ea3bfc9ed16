/-
  LINE REFERENCES: the lines of a rule file may refer to earlier lines by number.

  1. **Numbers** — the rules of a file are named by their places among the accepted lines, whatever
     stands between these (`numbered_parseFrom`).

  2. **References** — the word `Rule` and the number of a place find the rule in that place
     (`get?_of_isReferenceTo`).  A chain of such words is read as one reference for each.

  3. **Order** — if each rule refers to earlier ones only, then all are grounded, by induction on
     their places.  So nothing is wrong with the references, and on a row a chain joins what was
     told of the rules that it names (`passes_of_joinsEarlier`).

  4. **Files** — the rules of a file are those of its accepted lines, all switched on, so it is
     enough that each of these lines states conditions or joins earlier ones
     (`validate_line_references`).

  The crux is that a reference is a text and a line is a place.  Between them stands the name: the
  rule in a place has the word `Rule` and the number of the place for its name, and the reference
  may be in any letter case, so it is found ignoring case and not always by its exact name.  No
  other rule can come first, since in lower case only the numbers tell such names apart
  (`like_iff`), and decimal digits tell numbers apart.  Once references are places, the rest is
  induction on places: a rule needs only rules before it, so nothing can go round in a circle.
-/
import TableRules.Proofs.Batches
import TableRules.Proofs.ReferenceChains
import TableRules.Proofs.Reliance

namespace TableRules

open Expression Text

namespace Parser

/-! ## Numbers

  The number in a name is one more than the size of the registry, which is the place of the rule. No
  number is skipped, as no other rule has a name of this kind. -/

/-- The rules are named by their places, from 1 on. -/
def Numbered (rules : List Rule) : Prop :=
  ∀ k rule, rules[k]? = some rule → rule.name = "Rule" ++ toString (k + 1)

/-- One more rule, with the next number for its name, keeps them numbered. -/
theorem Numbered.append {rules : List Rule} (h : Numbered rules) {rule : Rule}
    (hname : rule.name = "Rule" ++ toString (rules.length + 1)) : Numbered (rules ++ [rule]) := by
  intro k found hfound
  rcases Nat.lt_or_ge k rules.length with hlt | hge
  · rw [List.getElem?_append_left hlt] at hfound
    exact h k found hfound
  · rw [List.getElem?_append_right hge, List.getElem?_singleton] at hfound
    split at hfound
    next hk =>
      obtain rfl := Option.some.inj hfound
      rw [hname, show k = rules.length by omega]
    next => cases hfound

/-- The next line gets the next number. -/
theorem Numbered.nextLineName_eq {registry : Registry} (h : Numbered registry.rules)
    (hindexed : registry.Indexed) :
    nextLineName registry = "Rule" ++ toString (registry.size + 1) := by
  obtain ⟨n, hname, ⟨hlt, -⟩, hleast⟩ := isLeast_nextLineName hindexed
  have hfree : "Rule" ++ toString (registry.size + 1) ∉ registry.names := by
    intro hmem
    obtain ⟨rule, hrule, heq⟩ := List.mem_map.mp hmem
    obtain ⟨k, hk⟩ := List.getElem?_of_mem hrule
    have hnumber := numbered_injective "Rule" ((h k rule hk).symm.trans heq)
    have hlength := (List.getElem?_eq_some_iff.mp hk).1
    rw [Registry.size] at hnumber
    omega
  have hle := hleast ⟨Nat.lt_succ_self _, hfree⟩
  rw [hname, Nat.le_antisymm hle hlt]

/-- **Accepted lines are numbered in order**, behind rules that were. -/
theorem numbered_parseFrom (parser : Parser) (columns : List String) (number : Nat)
    (lines : List String) {registry : Registry} (hindexed : registry.Indexed)
    (h : Numbered registry.rules) :
    Numbered (parser.parseFrom registry columns number lines).registry.rules := by
  induction lines generalizing registry number with
  | nil => exact h
  | cons line lines ih =>
    obtain ⟨hindexed', hrules⟩ := rules_insertAll_lineOf hindexed columns number line
    rw [(parseFrom_cons ..).2]
    refine ih (number + 1) hindexed' ?_
    rw [hrules]
    rcases acceptedRules_lineOf registry columns number line with hnone | ⟨rule, hrule, hname⟩
    · rw [hnone, List.append_nil]
      exact h
    · rw [hrule]
      exact h.append (hname.trans (h.nextLineName_eq hindexed))

/-! ## Accepted lines

  What a line says and what rule came of it, side by side: the rule is what the line states, and its
  name is all that it has from the batch. -/

/-- What the accepted lines say, and their rules. -/
def Batch.accepted (batch : Batch) : List (String × Rule) :=
  batch.lines.filterMap fun told => told.result.toOption.map fun rule => (told.expression, rule)

/-- The rules among what is accepted are the accepted rules. -/
theorem map_snd_accepted (batch : Batch) :
    batch.accepted.map Prod.snd = acceptedRules batch.lines := by
  rw [Batch.accepted, List.map_filterMap, acceptedRules]
  refine List.filterMap_congr fun told _ => ?_
  cases told.result <;> rfl

/-- What is told of a line is what its expression states under some name. -/
theorem exists_ruleOf_of_mem_lines (parser : Parser) (registry : Registry) (columns : List String)
    (number : Nat) {lines : List String} {told : Line}
    (h : told ∈ (parser.parseFrom registry columns number lines).lines) :
    ∃ name, told.result = ruleOf name told.expression.toList columns := by
  induction lines generalizing registry number with
  | nil => cases h
  | cons line lines ih =>
    rw [(parseFrom_cons ..).1, List.mem_append, Option.mem_toList, lineOf] at h
    rcases h with h | h
    · split at h
      next =>
        obtain rfl := Option.some.inj h
        refine ⟨nextLineName registry, ?_⟩
        dsimp only
        rw [trimmed, String.toList_ofList]
      next => cases h
    · exact ih _ _ h

/-- The rule of an accepted line is what the line states under the name of the rule. -/
theorem ruleOf_of_mem_accepted {parser : Parser} {registry : Registry} {columns : List String}
    {lines : List String} {text : String} {rule : Rule}
    (h : (text, rule) ∈ (parser.parseLines registry columns lines).accepted) :
    ruleOf rule.name text.toList columns = .ok rule := by
  obtain ⟨told, htold, hpair⟩ := List.mem_filterMap.mp h
  obtain ⟨found, hfound, heq⟩ := Option.map_eq_some_iff.mp hpair
  obtain ⟨rfl, rfl⟩ := Prod.mk.inj heq
  obtain ⟨name, hname⟩ := exists_ruleOf_of_mem_lines parser registry columns 1 htold
  cases hresult : told.result with
  | error e =>
    rw [hresult] at hfound
    cases hfound
  | ok rule' =>
    rw [hresult] at hfound
    obtain rfl := Option.some.inj hfound
    have hrule := hname.symm.trans hresult
    rwa [name_of_ruleOf hrule]

/-! ## References

  From texts to numbers. All that is asked of a reference is the word in any letter case and the
  digits of the number. -/

/-- The word `Rule` in any letter case, and the number in plain digits. -/
def IsReferenceTo (text : List Char) (n : Nat) : Prop :=
  ∃ word, text = word ++ (toString n).toList ∧ lowerAscii word = ['r', 'u', 'l', 'e']

namespace IsReferenceTo

variable {text : List Char} {n : Nat} (h : IsReferenceTo text n)
include h

/-- A reference to a number is a reference. -/
theorem isReference : IsReference text := by
  obtain ⟨word, rfl, hword⟩ := h
  refine ⟨word, _, rfl, hword, ?_, fun d hd => ?_⟩
  · rw [toList_toString]
    exact Nat.toDigits_ne_nil
  · have hdigit := isDigit_of_mem_toString hd
    refine forall_of_ascii (P := fun c => c.isDigit = true → isReferenceDigit c = true)
      (by decide +kernel) (lt_of_isPlain (isPlain_of_isDigit hdigit)) hdigit

/-- In lower case nothing but the number tells references apart. -/
theorem lowerAscii_eq : lowerAscii text = ['r', 'u', 'l', 'e'] ++ Nat.toDigits 10 n := by
  obtain ⟨word, rfl, hword⟩ := h
  have hdigits : lowerAscii (toString n).toList = (toString n).toList := by
    have hsame : ∀ d ∈ (toString n).toList, d.toLower = d := fun d hd =>
      toLower_of_isDigit (isDigit_of_mem_toString hd)
    rw [lowerAscii, List.map_congr_left hsame, List.map_id']
  rw [lowerAscii, List.map_append, ← lowerAscii, ← lowerAscii, hword, hdigits, toList_toString]

end IsReferenceTo

/-- References are to the same number if they are the same up to ASCII case. -/
theorem like_iff {a b : String} {m n : Nat} (ha : IsReferenceTo a.toList m)
    (hb : IsReferenceTo b.toList n) : sameIgnoringCase a b = true ↔ m = n := by
  rw [sameIgnoringCase, beq_iff_eq, ha.lowerAscii_eq, hb.lowerAscii_eq, List.append_cancel_left_eq]
  exact toDigits_injective.eq_iff

/-- The name of a line is a reference to it. -/
theorem isReferenceTo_numbered (n : Nat) : IsReferenceTo ("Rule" ++ toString n).toList n :=
  ⟨"Rule".toList, String.toList_append, by decide⟩

/-- The rule in a place is named by a reference to it. -/
theorem Numbered.isReferenceTo {rules : List Rule} (h : Numbered rules) {k : Nat} {rule : Rule}
    (hrule : rules[k]? = some rule) : IsReferenceTo rule.name.toList (k + 1) := by
  rw [h k rule hrule]
  exact isReferenceTo_numbered (k + 1)

/-- **A reference to a number** finds the rule in that place. -/
theorem get?_of_isReferenceTo {registry : Registry} (hindexed : registry.Indexed)
    (hnumbered : Numbered registry.rules) {k : Nat} {rule : Rule}
    (hrule : registry.rules[k]? = some rule) {reference : String}
    (h : IsReferenceTo reference.toList (k + 1)) :
    Lookup.get? ⟨registry.rules, registry⟩ reference = some rule := by
  have hsome : (Lookup.get? ⟨registry.rules, registry⟩ reference).isSome = true :=
    Lookup.isSome_get?_of_like (List.mem_append_left _ (List.mem_of_getElem? hrule))
      ((like_iff (hnumbered.isReferenceTo hrule) h).mpr rfl)
  obtain ⟨found, hfound⟩ := Option.isSome_iff_exists.mp hsome
  have hmem : found ∈ registry.rules := by
    simpa only [Lookup.rules, List.mem_append, or_self] using Lookup.mem_of_get? hfound
  obtain ⟨j, hj⟩ := List.getElem?_of_mem hmem
  -- what is found has that number too, so it stands in that place
  have hsame := (like_iff (hnumbered.isReferenceTo hj) h).mp (Lookup.like_of_get? hindexed hfound)
  obtain rfl : j = k := Nat.succ.inj hsame
  rw [hfound, ← hj, hrule]

/-- A reference in the line of a number to an earlier line. -/
def RefersBefore (number : Nat) (text : List Char) (n : Nat) : Prop :=
  IsReferenceTo text n ∧ 1 ≤ n ∧ n < number

/-- The line of a number joins earlier lines, two at least. -/
def JoinsEarlier (number : Nat) (text : String) (first : Nat) (rest : List (Connective × Nat)) :
    Prop := Joined (RefersBefore number) text.toList first rest ∧ rest ≠ []

/-- What such a line states has one reference for each line that it names. -/
theorem JoinsEarlier.ruleOf_eq {number first : Nat} {text : String}
    {rest : List (Connective × Nat)} (h : JoinsEarlier number text first rest) {name : String}
    {columns : List String} {rule : Rule} (hrule : ruleOf name text.toList columns = .ok rule) :
    rule.isReference = true ∧ rule.connectives = rest.map Prod.fst ∧
      List.Forall₂ (fun reference => RefersBefore number reference.toList) rule.references
        (first :: rest.map Prod.snd) := by
  obtain ⟨hjoined, hne⟩ := h
  have hitem : ∀ text n, RefersBefore number text n → IsReference text :=
    fun _ _ href => href.1.isReference
  obtain ⟨hreferences, hconnectives⟩ := hjoined.parseReferences_eq hitem
  rw [ruleOf, if_pos (hjoined.isReferenceExpression hitem hne)] at hrule
  obtain rfl := Except.ok.inj hrule
  refine ⟨?_, hconnectives, ?_⟩
  · cases hreferences' : (parseReferences text.toList).1 with
    | nil =>
      rw [hreferences'] at hreferences
      cases hreferences
    | cons reference references => rfl
  -- The references are kept as they are written, letter case included.
  · refine List.forall₂_map_left_iff.mpr (hreferences.imp fun reference n href => ?_)
    rwa [String.toList_ofList]

/-! ## Order

  From numbers to places, and from there to grounded rules. -/

/-- Every rule refers to rules in earlier places only. -/
def RefersEarlier (rules : List Rule) : Prop :=
  ∀ k rule, rules[k]? = some rule → ∀ reference ∈ rule.references,
    ∃ n, RefersBefore (k + 1) reference.toList n

section Order

variable {registry : Registry} (hindexed : registry.Indexed) (hnumbered : Numbered registry.rules)
include hindexed hnumbered

/-- A reference in an accepted line to an earlier one finds that. -/
theorem exists_earlier {k n : Nat} {rule : Rule} (hrule : registry.rules[k]? = some rule)
    {reference : String} (h : RefersBefore (k + 1) reference.toList n) :
    ∃ j < k, n = j + 1 ∧ ∃ target, registry.rules[j]? = some target ∧
      Lookup.get? ⟨registry.rules, registry⟩ reference = some target := by
  obtain ⟨href, hpos, hlt⟩ := h
  obtain ⟨j, rfl⟩ := Nat.exists_eq_add_of_le' hpos
  have hlength := (List.getElem?_eq_some_iff.mp hrule).1
  have htarget := List.getElem?_eq_getElem (l := registry.rules) (i := j) (by omega)
  exact ⟨j, by omega, rfl, _, htarget, get?_of_isReferenceTo hindexed hnumbered htarget href⟩

variable (hearlier : RefersEarlier registry.rules)
include hearlier

/-- **Rules that refer to earlier ones only are grounded.** By strong induction on the place. -/
theorem grounded_of_refersEarlier {k : Nat} {rule : Rule}
    (hrule : registry.rules[k]? = some rule) :
    Lookup.Grounded ⟨registry.rules, registry⟩ rule := by
  induction k using Nat.strong_induction_on generalizing rule with
  | _ k ih =>
    -- Every reference leads to a smaller place, so the induction is on the place.
    have hfound : ∀ reference ∈ rule.references, ∃ j < k, ∃ target,
        registry.rules[j]? = some target ∧
          Lookup.get? ⟨registry.rules, registry⟩ reference = some target := by
      intro reference hmem
      obtain ⟨n, href⟩ := hearlier k rule hrule reference hmem
      obtain ⟨j, hlt, -, htarget⟩ := exists_earlier hindexed hnumbered hrule href
      exact ⟨j, hlt, htarget⟩
    refine .intro rule (fun reference hmem => ?_) fun next ⟨reference, hmem, hnext⟩ => ?_
    · obtain ⟨j, -, target, -, hget⟩ := hfound reference hmem
      exact ⟨target, hget⟩
    · obtain ⟨j, hlt, target, htarget, hget⟩ := hfound reference hmem
      obtain rfl := Option.some.inj (hget.symm.trans hnext)
      exact ih j hlt htarget

/-- So nothing is wrong with their references. -/
theorem check_of_refersEarlier {rule : Rule} (hmem : rule ∈ registry.rules) :
    Lookup.check ⟨registry.rules, registry⟩ rule = .ok () := by
  obtain ⟨k, hrule⟩ := List.getElem?_of_mem hmem
  have hname : Lookup.get? ⟨registry.rules, registry⟩ rule.name = some rule :=
    get?_of_isReferenceTo hindexed hnumbered hrule (hnumbered.isReferenceTo hrule)
  exact Lookup.check_of_grounded (Lookup.canonical_of_indexed hindexed) hname
    (grounded_of_refersEarlier hindexed hnumbered hearlier hrule)

end Order

/-! ## Verdicts

  What is told of a chain on a row, by what was told of the rules that it names. Nothing is
  evaluated here once more: every rule means what was told of it. -/

/-- Did a row pass the rule of that number? -/
def passes (registry : Registry) (numbered : Row × Nat) (n : Nat) : Bool :=
  (registry.rules[n - 1]?).any fun rule =>
    (Lookup.resultOf ⟨registry.rules, registry⟩ numbered rule).passed

/-- A row passes the rule of a number if the result on it passed. -/
theorem passes_eq {registry : Registry} {k : Nat} {rule : Rule}
    (hrule : registry.rules[k]? = some rule) (numbered : Row × Nat) :
    passes registry numbered (k + 1) =
      (Lookup.resultOf ⟨registry.rules, registry⟩ numbered rule).passed := by
  rw [passes, Nat.add_sub_cancel, hrule, Option.any_some]

/-- Outcomes that are joined by their connectives, one by one. -/
theorem combine_map {α : Type} (value : α → Bool) (first : α) (rest : List (Connective × α)) :
    combine ((first :: rest.map Prod.snd).map value) (rest.map Prod.fst) =
      rest.foldl (fun joined next => next.1.apply joined (value next.2)) (value first) := by
  rw [List.map_cons, combine, List.map_map, List.zip_map', List.foldl_map]
  rfl

/-- **A row passes a chain** as it passes the rules that are named, joined by the connectives. -/
theorem passes_of_joinsEarlier {registry : Registry} (hindexed : registry.Indexed)
    (hnumbered : Numbered registry.rules) (hearlier : RefersEarlier registry.rules)
    {k first : Nat} {rule : Rule} {rest : List (Connective × Nat)}
    (hrule : registry.rules[k]? = some rule) (hreference : rule.isReference = true)
    (hconnectives : rule.connectives = rest.map Prod.fst)
    (hreferences : List.Forall₂ (fun reference => RefersBefore (k + 1) reference.toList)
      rule.references (first :: rest.map Prod.snd)) (row : Row) (i : Nat) :
    passes registry (row, i) (k + 1) =
      rest.foldl (fun joined next => next.1.apply joined (passes registry (row, i) next.2))
        (passes registry (row, i) first) := by
  have hcanonical : Lookup.Canonical ⟨registry.rules, registry⟩ :=
    Lookup.canonical_of_indexed hindexed
  -- what was told of an earlier rule is what it means, as nothing is wrong with it
  have hmeans : ∀ {j : Nat} {target : Rule}, registry.rules[j]? = some target →
      Lookup.Means ⟨registry.rules, registry⟩ row target (passes registry (row, i) (j + 1)) := by
    intro j target htarget
    rw [passes_eq htarget]
    exact Lookup.means_resultOf hcanonical
      (check_of_refersEarlier hindexed hnumbered hearlier (List.mem_of_getElem? htarget))
  -- so the references give, one by one, what was told of the rules that they name
  have hgives : List.Forall₂ (Lookup.Gives ⟨registry.rules, registry⟩ row) rule.references
      ((first :: rest.map Prod.snd).map (passes registry (row, i))) := by
    refine List.forall₂_map_right_iff.mpr (hreferences.imp fun reference n href => ?_)
    obtain ⟨j, -, rfl, target, htarget, hget⟩ := exists_earlier hindexed hnumbered hrule href
    exact ⟨target, hget, hmeans htarget⟩
  have hjoined := Lookup.means_of_forall₂ hreference hgives
  rw [hconnectives, combine_map] at hjoined
  exact (hmeans hrule).unique hjoined

/-! ## Files

  A file is a batch that is read into an empty registry, so its rules are those of its accepted
  lines and no others. -/

section Files

variable {parser : Parser} {columns lines : List String} {k : Nat} {text : String} {rule : Rule}

/-- The rules of a file are those of its accepted lines, in their places. -/
theorem getElem?_file :
    (parser.parseLines .empty columns lines).registry.rules[k]? = some rule ↔
      ∃ text, (parser.parseLines .empty columns lines).accepted[k]? = some (text, rule) := by
  have hrules := (rules_parseFrom parser .empty columns 1 Registry.indexed_empty lines).2
  rw [parseLines, hrules, ← map_snd_accepted]
  show ((parser.parseFrom .empty columns 1 lines).accepted.map Prod.snd)[k]? = _ ↔ _
  rw [List.getElem?_map, Option.map_eq_some_iff]
  constructor
  · rintro ⟨⟨text, found⟩, hfound, rfl⟩
    exact ⟨text, hfound⟩
  · rintro ⟨text, hfound⟩
    exact ⟨_, hfound, rfl⟩

/-- There are as many accepted lines as rules. -/
theorem length_file : (parser.parseLines .empty columns lines).accepted.length =
    (parser.parseLines .empty columns lines).registry.rules.length := by
  have hrules := (rules_parseFrom parser .empty columns 1 Registry.indexed_empty lines).2
  rw [parseLines, hrules, ← map_snd_accepted]
  exact (List.length_map _).symm

/-- The rule of an accepted line is what the line states. -/
theorem ruleOf_file
    (h : (parser.parseLines .empty columns lines).accepted[k]? = some (text, rule)) :
    ruleOf rule.name text.toList columns = .ok rule :=
  ruleOf_of_mem_accepted (List.mem_of_getElem? h)

/-- All of them are switched on. -/
theorem enabledRules_file : (parser.parseLines .empty columns lines).registry.enabledRules =
    (parser.parseLines .empty columns lines).registry.rules := by
  refine List.filter_eq_self.mpr fun rule hrule => ?_
  obtain ⟨k, hk⟩ := List.getElem?_of_mem hrule
  obtain ⟨text, haccepted⟩ := getElem?_file.mp hk
  exact enabled_of_ruleOf (ruleOf_file haccepted)

/-- If each line states conditions or joins earlier ones, its rule refers to earlier ones only. -/
theorem refersEarlier_file
    (h : ∀ k text rule, (parser.parseLines .empty columns lines).accepted[k]? = some (text, rule) →
      rule.conditions ≠ [] ∨ ∃ first rest, JoinsEarlier (k + 1) text first rest) :
    RefersEarlier (parser.parseLines .empty columns lines).registry.rules := by
  intro k rule hrule reference hmem
  obtain ⟨text, haccepted⟩ := getElem?_file.mp hrule
  rcases h k text rule haccepted with hconditions | ⟨first, rest, hjoins⟩
  · rw [references_of_ruleOf (ruleOf_file haccepted) hconditions] at hmem
    cases hmem
  · obtain ⟨-, -, hreferences⟩ := hjoins.ruleOf_eq (ruleOf_file haccepted)
    obtain ⟨j, hj, rfl⟩ := List.getElem_of_mem hmem
    exact ⟨_, hreferences.get hj (hreferences.length_eq ▸ hj)⟩

end Files

end Parser

/-- **Lines may refer to earlier lines.**  In a file that is read into an empty registry the
    accepted lines are named by their numbers.  If each of them states conditions or joins two
    earlier ones or more, then nothing is wrong with the references, and on every row a line that
    joins others passes as these do, joined from left to right. -/
theorem Run.validate_line_references (run : Run) (table : Table) (parser : Parser)
    (columns lines : List String) :
    let batch := parser.parseLines .empty columns lines
    let told := run.validate table batch.registry.enabledRules batch.registry
    (∀ k text rule, batch.accepted[k]? = some (text, rule) →
      rule.name = "Rule" ++ toString (k + 1)) ∧
    ((∀ k text rule, batch.accepted[k]? = some (text, rule) →
        rule.conditions ≠ [] ∨ ∃ first rest, Parser.JoinsEarlier (k + 1) text first rest) →
      told.faults = [] ∧
      ∀ i row, table.rows[i]? = some row → ∃ passed : Nat → Bool,
        ∀ k text rule, batch.accepted[k]? = some (text, rule) →
          (∃ result, told.results[i * batch.accepted.length + k]? = some result ∧
            result.rowIndex = i ∧ result.ruleName = rule.name ∧
            result.passed = passed (k + 1)) ∧
          ∀ first rest, Parser.JoinsEarlier (k + 1) text first rest →
            passed (k + 1) =
              rest.foldl (fun joined next => next.1.apply joined (passed next.2))
                (passed first)) := by
  intro batch told
  have hregistry : batch.registry.Reachable := by
    rw [show batch.registry = _ from Parser.parseFrom_registry columns lines parser _ 1]
    exact Registry.Reachable.empty.insertAll _
  -- The `k`-th stored rule is named after the place `k + 1`, and what it refers to comes earlier.
  have hnumbered : Parser.Numbered batch.registry.rules :=
    parser.numbered_parseFrom columns 1 lines Registry.indexed_empty fun k rule h => nomatch h
  refine ⟨fun k text rule h => hnumbered k rule (Parser.getElem?_file.mpr ⟨text, h⟩),
    fun hlines => ?_⟩
  have hearlier := Parser.refersEarlier_file hlines
  have htold : told = run.validate table batch.registry.rules batch.registry :=
    congrArg (run.validate table · batch.registry) Parser.enabledRules_file
  rw [htold]
  refine ⟨?_, fun i row hrow => ⟨Parser.passes batch.registry (row, i), fun k text rule h => ?_⟩⟩
  · rw [Run.validate_eq]
    refine List.filterMap_eq_nil_iff.mpr fun rule hrule => ?_
    rw [Validation.faultOf?,
      Parser.check_of_refersEarlier hregistry.indexed hnumbered hearlier hrule]
  · have hrule : batch.registry.rules[k]? = some rule := Parser.getElem?_file.mpr ⟨text, h⟩
    have hcanonical : Lookup.Canonical ⟨batch.registry.rules, batch.registry⟩ :=
      Lookup.canonical_of_indexed hregistry.indexed
    -- Each rule's value is what its result reports; a joining rule's value is the fold of the
    -- values it names.
    have hjudged := Lookup.judged_resultOf hcanonical (row, i) rule
    refine ⟨⟨_, ?_, hjudged.rowIndex, hjudged.ruleName, (Parser.passes_eq hrule (row, i)).symm⟩,
      fun first rest hjoins => ?_⟩
    · rw [show batch.accepted.length = _ from Parser.length_file]
      exact Run.getElem?_results_validate hregistry run hrow hrule
    · obtain ⟨hreference, hconnectives, hreferences⟩ :=
        hjoins.ruleOf_eq (Parser.ruleOf_file h)
      exact Parser.passes_of_joinsEarlier hregistry.indexed hnumbered hearlier hrule hreference
        hconnectives hreferences row i

/-- A chain of two, in different letter cases. -/
theorem Parser.joinsEarlier_of_two : JoinsEarlier 3 "RULE1 or rule2" 1 [(.or, 2)] := by
  have space : Blank [' '] := by decide
  have first : RefersBefore 3 "RULE1".toList 1 :=
    ⟨⟨"RULE".toList, by decide, by decide⟩, by decide, by decide⟩
  have second : RefersBefore 3 "rule2".toList 2 :=
    ⟨⟨"rule".toList, by decide, by decide⟩, by decide, by decide⟩
  exact ⟨.join first space (by decide) (show lowerAscii "or".toList = _ by decide) space
    (by decide) (.single second), by decide⟩

/-- A chain of three, of which the first is a chain itself. -/
theorem Parser.joinsEarlier_of_three :
    JoinsEarlier 4 "Rule3 AND Rule1 OR Rule2" 3 [(.and, 1), (.or, 2)] := by
  have space : Blank [' '] := by decide
  have named : ∀ n, 1 ≤ n → n < 4 → RefersBefore 4 ("Rule" ++ toString n).toList n :=
    fun n hpos hlt => ⟨isReferenceTo_numbered n, hpos, hlt⟩
  exact ⟨.join (named 3 (by decide) (by decide)) space (by decide)
    (show lowerAscii "AND".toList = _ by decide) space (by decide) <|
    .join (named 1 (by decide) (by decide)) space (by decide)
      (show lowerAscii "OR".toList = _ by decide) space (by decide) <|
    .single (named 2 (by decide) (by decide)), by decide⟩

/-- Two lines of conditions and two chains, with a comment and a rejected line between them. -/
theorem Run.validate_line_references_of_four_rules :
    let lines := ["A > 1", "# both", "B > 1", "A B", "RULE1 or rule2", "Rule3 AND Rule1 OR Rule2"]
    let batch := Parser.fresh.parseLines .empty ["A", "B"] lines
    let row : Row := ⟨[("A", .int 2), ("B", .int 0)]⟩
    let told := Run.none.validate ⟨["A", "B"], [row]⟩ batch.registry.enabledRules batch.registry
    (∀ k text rule, batch.accepted[k]? = some (text, rule) →
      rule.conditions ≠ [] ∨ ∃ first rest, Parser.JoinsEarlier (k + 1) text first rest) ∧
    batch.registry.names = ["Rule1", "Rule2", "Rule3", "Rule4"] ∧ told.faults = [] ∧
    ∃ passed : Nat → Bool,
      (∀ k < 4, told.results[k]?.map (·.passed) = some (passed (k + 1))) ∧
      passed 3 = (passed 1 || passed 2) ∧ passed 4 = (passed 3 && passed 1 || passed 2) := by
  intro lines batch row told
  have haccepted : batch.accepted = [
      ("A > 1", .ofConditions "Rule1" [⟨"A", .greaterThan, .int 1⟩] [] "A > 1"),
      ("B > 1", .ofConditions "Rule2" [⟨"B", .greaterThan, .int 1⟩] [] "B > 1"),
      ("RULE1 or rule2",
        .ofReferences "Rule3" ["RULE1", "rule2"] [.or] "RULE1 or rule2"),
      ("Rule3 AND Rule1 OR Rule2",
        .ofReferences "Rule4" ["Rule3", "Rule1", "Rule2"] [.and, .or]
          "Rule3 AND Rule1 OR Rule2")] := by
    decide +kernel
  have hlines : ∀ k text rule, batch.accepted[k]? = some (text, rule) →
      rule.conditions ≠ [] ∨ ∃ first rest, Parser.JoinsEarlier (k + 1) text first rest := by
    intro k text rule h
    rw [haccepted] at h
    match k, h with
    | 0, h =>
      obtain ⟨rfl, rfl⟩ := Prod.mk.inj (Option.some.inj h)
      exact .inl (List.cons_ne_nil _ _)
    | 1, h =>
      obtain ⟨rfl, rfl⟩ := Prod.mk.inj (Option.some.inj h)
      exact .inl (List.cons_ne_nil _ _)
    | 2, h =>
      obtain ⟨rfl, rfl⟩ := Prod.mk.inj (Option.some.inj h)
      exact .inr ⟨_, _, Parser.joinsEarlier_of_two⟩
    | 3, h =>
      obtain ⟨rfl, rfl⟩ := Prod.mk.inj (Option.some.inj h)
      exact .inr ⟨_, _, Parser.joinsEarlier_of_three⟩
    | _ + 4, h => cases h
  obtain ⟨-, hjoined⟩ :=
    Run.none.validate_line_references ⟨["A", "B"], [row]⟩ Parser.fresh ["A", "B"] lines
  obtain ⟨hfaults, hrows⟩ := hjoined hlines
  obtain ⟨passed, hpassed⟩ := hrows 0 row rfl
  refine ⟨hlines, by decide +kernel, hfaults, passed, fun k hk => ?_, ?_, ?_⟩
  · have hplace : k < batch.accepted.length := by
      rw [haccepted]
      exact hk
    obtain ⟨⟨result, hresult, -, -, heq⟩, -⟩ :=
      hpassed k _ _ (List.getElem?_eq_getElem hplace)
    rw [Nat.zero_mul, Nat.zero_add] at hresult
    rw [hresult, Option.map_some, heq]
  · exact (hpassed 2 _ _ (by rw [haccepted]; rfl)).2 _ _ Parser.joinsEarlier_of_two
  · exact (hpassed 3 _ _ (by rw [haccepted]; rfl)).2 _ _ Parser.joinsEarlier_of_three

end TableRules
