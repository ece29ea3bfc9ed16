/-
  WHAT A VERDICT RELIES ON: the rules that a rule reaches, and nothing else.

  1. **Each rule by itself** — what is told of a rule on a row leaves no choice, so a run is made
     of the results that each rule has in a context of its own (`resultOf`), rows first.

  2. **Agreement** — two lookups agree from a rule on (`AgreesFrom`) if every reference held by a
     rule that it reaches finds the same in both.  Then its check ends alike, what it means in the
     one it means in the other, and so it has the same results.

  Whatever compares two runs has to show agreement and nothing more.
-/
import TableRules.Proofs.Verdicts

namespace TableRules

open Relation

namespace Lookup

variable {lookup other : Lookup} {row : Row} {index : Nat} {rule target : Rule}

/-! ## Each rule by itself

  A result in a context that knows nothing yet, and what it is for the simplest rules. -/

/-- The result of a rule on a row, in a context that knows nothing yet. -/
def resultOf (lookup : Lookup) (numbered : Row × Nat) (rule : Rule) : Result :=
  let outcome := match Validation.faultOf? lookup rule with
    | some e => .error e
    | none => ((Context.fresh lookup numbered.1).evaluate rule).1
  .ofOutcome numbered.2 rule numbered.1 outcome

/-- This result is what a validation has to tell of the rule. -/
theorem judged_resultOf (hcanonical : lookup.Canonical) (numbered : Row × Nat) (rule : Rule) :
    lookup.Judged numbered.1 numbered.2 rule (lookup.resultOf numbered rule) := by
  rw [resultOf, Validation.faultOf?]
  cases hcheck : lookup.check rule with
  | error e => exact judged_of_check_error hcheck
  | ok _ =>
    obtain ⟨outcome, hmeans, hok⟩ := evaluate_of_check hcanonical hcheck Context.Valid.fresh rfl
    show lookup.Judged numbered.1 numbered.2 rule
      (.ofOutcome numbered.2 rule numbered.1 ((Context.fresh lookup numbered.1).evaluate rule).1)
    rw [hok]
    exact judged_of_means hcheck hmeans

/-- A rule that passed its check means what is told of it. -/
theorem means_resultOf (hcanonical : lookup.Canonical) (hcheck : lookup.check rule = .ok ()) :
    lookup.Means row rule (lookup.resultOf (row, index) rule).passed := by
  obtain ⟨outcome, hmeans, hpassed, -⟩ :=
    (judged_resultOf hcanonical (row, index) rule).outcome hcheck
  exact (hmeans _).mpr hpassed

/-- It is about the rule, whatever the lookup. -/
theorem ruleName_resultOf (numbered : Row × Nat) (rule : Rule) :
    (lookup.resultOf numbered rule).ruleName = rule.name :=
  Result.ruleName_ofOutcome ..

/-- The result of a rule that passed its check tells what it means. -/
theorem resultOf_of_means {outcome : Bool} (hcanonical : lookup.Canonical)
    (hcheck : lookup.check rule = .ok ()) (hmeans : lookup.Means row rule outcome) :
    lookup.resultOf (row, index) rule = .ofOutcome index rule row (.ok outcome) :=
  (judged_resultOf hcanonical (row, index) rule).unique (judged_of_means hcheck hmeans)

/-- The result of a rule that did not pass tells the fault. -/
theorem resultOf_of_check_error {e : ReferenceError} (hcheck : lookup.check rule = .error e) :
    lookup.resultOf (row, index) rule = .ofOutcome index rule row (.error e) := by
  rw [resultOf, Validation.faultOf?, hcheck]

/-- The result of a rule without references: it joins what its conditions give. -/
theorem resultOf_of_conditions (hcanonical : lookup.Canonical) (hnone : rule.references = []) :
    lookup.resultOf (row, index) rule = .ofOutcome index rule row
      (.ok (combine (rule.conditions.map (·.holds row)) rule.connectives)) := by
  have hwalk : lookup.Follows 0 rule.name rule.references [rule.name] [] (.ok []) := by
    rw [hnone]
    exact .nil
  refine resultOf_of_means hcanonical hwalk.check_eq (.conditions rule ?_)
  rw [Rule.isReference, hnone]
  exact Bool.and_false _

/-- The result of a reference rule whose references find rules that hold none: it joins what the
    conditions of these give. -/
theorem resultOf_of_leaves (hcanonical : lookup.Canonical) {value : String → Bool}
    (hname : lookup.get? rule.name = some rule) (hrule : rule.isReference = true)
    (hleaves : ∀ reference ∈ rule.references, ∃ leaf, lookup.get? reference = some leaf ∧
      leaf.references = [] ∧
      combine (leaf.conditions.map (·.holds row)) leaf.connectives = value reference) :
    lookup.resultOf (row, index) rule = .ofOutcome index rule row
      (.ok (combine (rule.references.map value) rule.connectives)) := by
  have hleaf : ∀ leaf : Rule, leaf.references = [] → lookup.Grounded leaf := by
    intro leaf hnone
    refine .intro leaf (fun reference hmem => ?_) fun next ⟨reference, hmem, _⟩ => ?_
    · exact absurd (hnone ▸ hmem) List.not_mem_nil
    · exact absurd (hnone ▸ hmem) List.not_mem_nil
  -- One step down there are only leaves, which refer to nothing, so the rule is grounded.
  have hgrounded : lookup.Grounded rule := by
    refine .intro rule (fun reference hmem => ?_) fun next ⟨reference, hmem, hfound⟩ => ?_
    · obtain ⟨leaf, hfound, -⟩ := hleaves reference hmem
      exact ⟨leaf, hfound⟩
    · obtain ⟨leaf, hfound', hnone, -⟩ := hleaves reference hmem
      obtain rfl := Option.some.inj (hfound'.symm.trans hfound)
      exact hleaf leaf hnone
  have hcheck := check_of_grounded hcanonical hname hgrounded
  have hmeans : lookup.Means row rule (combine (rule.references.map value) rule.connectives) := by
    refine means_of_gives hrule fun reference hmem => ?_
    obtain ⟨leaf, hfound, hnone, hvalue⟩ := hleaves reference hmem
    refine ⟨leaf, hfound, hvalue ▸ .conditions leaf ?_⟩
    rw [Rule.isReference, hnone]
    exact Bool.and_false _
  exact resultOf_of_means hcanonical hcheck hmeans

/-- **The results on a row are those of each rule by itself.** -/
theorem blockOf_eq (hcanonical : lookup.Canonical) (rules : List Rule) (numbered : Row × Nat) :
    Validation.blockOf lookup rules numbered = rules.map (lookup.resultOf numbered) := by
  have hblock : List.Forall₂ (lookup.Judged numbered.1 numbered.2) rules
      (Validation.blockOf lookup rules numbered) :=
    judged_rowResults hcanonical rules Context.Valid.fresh rfl
  have hmap : List.Forall₂ (lookup.Judged numbered.1 numbered.2) rules
      (rules.map (lookup.resultOf numbered)) := by
    rw [List.forall₂_map_right_iff, List.forall₂_same]
    exact fun rule _ => judged_resultOf hcanonical numbered rule
  exact Relator.RightUnique.forall₂ (fun _ _ _ h h' => h.unique h') hblock hmap

/-! ## Agreement

  What two lookups have to have in common for one rule. Nothing is asked of rules that it does not
  reach. -/

/-- What the references find that the rule leads to is the same in the other lookup. -/
def AgreesFrom (lookup other : Lookup) (rule : Rule) : Prop :=
  ∀ target, lookup.Reaches rule target → ∀ reference ∈ target.references,
    other.get? reference = lookup.get? reference

namespace AgreesFrom

/-- What the rule itself refers to is the same in both, ... -/
theorem get?_eq (h : lookup.AgreesFrom other rule) {reference : String}
    (hmem : reference ∈ rule.references) : other.get? reference = lookup.get? reference :=
  h rule .refl reference hmem

/-- ... and so it is from each of the rules on that these are. -/
theorem of_refers (h : lookup.AgreesFrom other rule) (hstep : lookup.Refers rule target) :
    lookup.AgreesFrom other target :=
  fun next hreach => h next (ReflTransGen.head hstep hreach)

end AgreesFrom

/-- **A walk goes the same way** in a lookup that agrees from the rule on whose references it
    follows. By induction on the walk: when it goes into a rule, the lookups agree from there on as
    well. -/
theorem Follows.of_agreesFrom {depth : Nat} {owner : String} {references path done : List String}
    {result : Except ReferenceError (List String)}
    (h : Follows lookup depth owner references path done result) :
    ∀ {rule : Rule}, (∀ reference ∈ references, reference ∈ rule.references) →
      lookup.AgreesFrom other rule → Follows other depth owner references path done result := by
  induction h with
  | nil => exact fun _ _ => .nil
  | undefined hfound =>
    intro rule hsub hagree
    exact .undefined ((hagree.get?_eq (hsub _ (List.mem_cons_self ..))).trans hfound)
  | skip hfound hdone _ ih =>
    intro rule hsub hagree
    obtain ⟨hfirst, hsub⟩ := List.forall_mem_cons.mp hsub
    exact .skip ((hagree.get?_eq hfirst).trans hfound) hdone (ih hsub hagree)
  | circular hfound hdone hpath =>
    intro rule hsub hagree
    exact .circular ((hagree.get?_eq (hsub _ (List.mem_cons_self ..))).trans hfound) hdone hpath
  | fault hfound hdone hpath _ ih =>
    intro rule hsub hagree
    have hfirst := hsub _ (List.mem_cons_self ..)
    -- Below a target the lookups agree from there on, since the target is referred to.
    exact .fault ((hagree.get?_eq hfirst).trans hfound) hdone hpath
      (ih (fun _ hmem => hmem) (hagree.of_refers ⟨_, hfirst, hfound⟩))
  | next hfound hdone hpath _ _ ihinner ihrest =>
    intro rule hsub hagree
    obtain ⟨hfirst, hsub⟩ := List.forall_mem_cons.mp hsub
    exact .next ((hagree.get?_eq hfirst).trans hfound) hdone hpath
      (ihinner (fun _ hmem => hmem) (hagree.of_refers ⟨_, hfirst, hfound⟩)) (ihrest hsub hagree)

/-- **A rule means the same** in a lookup that agrees from it on. -/
theorem Means.of_agreesFrom {outcome : Bool} (h : lookup.Means row rule outcome) :
    lookup.AgreesFrom other rule → other.Means row rule outcome := by
  induction h with
  | conditions rule hrule => exact fun _ => .conditions rule hrule
  | references rule value hrule hfound _ ih =>
    intro hagree
    refine .references rule value hrule (fun reference hmem => ?_) fun reference hmem target hget => ?_
    · rw [hagree.get?_eq hmem]
      exact hfound reference hmem
    · rw [hagree.get?_eq hmem] at hget
      exact ih reference hmem target hget (hagree.of_refers ⟨reference, hmem, hget⟩)

namespace AgreesFrom

/-- The check of the rule ends alike. -/
theorem check_eq (h : lookup.AgreesFrom other rule) : other.check rule = lookup.check rule := by
  have hfollows := follows_visitAll lookup _ rule.name rule.references [rule.name] [] (Nat.le_refl _)
  rw [Lookup.check_eq, Lookup.check_eq, (hfollows.of_agreesFrom (fun _ hmem => hmem) h).eq]

/-- So is the fault that a run tells of it. -/
theorem faultOf?_eq (h : lookup.AgreesFrom other rule) :
    Validation.faultOf? other rule = Validation.faultOf? lookup rule := by
  rw [Validation.faultOf?, Validation.faultOf?, h.check_eq]

/-- **So the rule has the same results**, where names stand for rules in both lookups. -/
theorem resultOf_eq (h : lookup.AgreesFrom other rule) (hcanonical : lookup.Canonical)
    (hcanonical' : other.Canonical) (numbered : Row × Nat) :
    other.resultOf numbered rule = lookup.resultOf numbered rule := by
  refine (judged_resultOf hcanonical' numbered rule).unique ?_
  have hjudged := judged_resultOf hcanonical numbered rule
  refine ⟨hjudged.rowIndex, hjudged.ruleName, fun e hcheck => ?_, fun hcheck => ?_, hjudged.row⟩
  · exact hjudged.fault e (h.check_eq.symm.trans hcheck)
  · obtain ⟨outcome, hmeans, hrest⟩ := hjudged.outcome (h.check_eq.symm.trans hcheck)
    -- it means the same in the other lookup, and nothing else
    have hother := ((hmeans outcome).mpr rfl).of_agreesFrom h
    refine ⟨outcome, fun given => ⟨fun hgiven => hgiven.unique hother, ?_⟩, hrest⟩
    rintro rfl
    exact hother

end AgreesFrom

end Lookup

/-! ## Runs

  Runs are compared by the places of a rule in either list. -/

namespace Run

variable {table : Table} {rules : List Rule} {registry : Registry}

/-- **A run is made of the results of each rule by itself**, rows first. -/
theorem results_validate (hregistry : registry.Reachable) (run : Run) (table : Table)
    (rules : List Rule) : (run.validate table rules registry).results =
      table.rows.zipIdx.flatMap fun numbered =>
        rules.map (Lookup.resultOf ⟨rules, registry⟩ numbered) := by
  rw [validate_eq]
  refine List.flatMap_congr fun numbered _ => ?_
  exact Lookup.blockOf_eq (Lookup.canonical_of_indexed hregistry.indexed) rules numbered

/-- On every row one run tells of the rule in place `j` of its rules what another run tells of the
    rule in place `k` of its own. -/
def TellsAlike (table : Table) (told : Run) (rules : List Rule) (j : Nat) (told' : Run)
    (rules' : List Rule) (k : Nat) : Prop :=
  ∀ i < table.rows.length, ∃ result, told.results[i * rules.length + j]? = some result ∧
    told'.results[i * rules'.length + k]? = some result

/-- The result on row `i` of rule `j` stands in its place. -/
theorem getElem?_results_validate (hregistry : registry.Reachable) (run : Run) {i j : Nat}
    {row : Row} {rule : Rule} (hrow : table.rows[i]? = some row) (hrule : rules[j]? = some rule) :
    (run.validate table rules registry).results[i * rules.length + j]? =
      some (Lookup.resultOf ⟨rules, registry⟩ (row, i) rule) := by
  have hnumbered : table.rows.zipIdx[i]? = some (row, i) := by
    rw [List.getElem?_zipIdx, hrow]
    simp
  have hj := (List.getElem?_eq_some_iff.mp hrule).1
  rw [results_validate hregistry,
    getElem?_flatMap_of_length (fun _ _ => List.length_map _) hnumbered hj, List.getElem?_map, hrule]
  rfl

/-- **Two runs tell alike of a rule** if the second lookup agrees with the first from it on. -/
theorem tellsAlike_of_agreesFrom {registry' : Registry} (hregistry : registry.Reachable)
    (hregistry' : registry'.Reachable) (run run' : Run) {rules' : List Rule} {j k : Nat}
    {rule : Rule} (hj : rules[j]? = some rule) (hk : rules'[k]? = some rule)
    (hagree : Lookup.AgreesFrom ⟨rules, registry⟩ ⟨rules', registry'⟩ rule) :
    TellsAlike table (run.validate table rules registry) rules j
      (run'.validate table rules' registry') rules' k := by
  intro i hi
  have hrow := List.getElem?_eq_getElem hi
  refine ⟨_, getElem?_results_validate hregistry run hrow hj, ?_⟩
  rw [getElem?_results_validate hregistry' run' hrow hk, hagree.resultOf_eq
    (Lookup.canonical_of_indexed hregistry.indexed) (Lookup.canonical_of_indexed hregistry'.indexed)]

end Run

end TableRules
