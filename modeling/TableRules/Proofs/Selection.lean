/-
  SELECTED RULES: what a run tells when only some rules of the registry are validated.

  Rules that are left out are still found, in the registry.  But a name that no rule has exactly
  is sought, without regard to case, among the selected rules first.  So a selection KEEPS a name
  if it does not put another rule in the place of the first that is like it:

  * `get?_eq_iff_keeps` — that is when the name finds what it finds with all rules;
  * then a rule all of whose references, and those of the rules that it reaches, are kept has the
    same results as in a run of all rules (`validate_selected`);
  * and where no two names differ only in case, every selection keeps every name.

  Two names that do are enough for a selection to change a verdict (`validate_enabled_differs`).
-/
import TableRules.Proofs.Isolation

namespace TableRules

/-! ## Kept names

  All about a single name. A name that a rule has exactly is found in the registry whatever is
  selected; what can go wrong is a name that none has, since the selected rules are then searched
  before the registry. -/

/-- If no rule has exactly that name and a selected one is like it, then the first one of the
    registry that is like it is selected. -/
def Registry.Keeps (registry : Registry) (selected : List Rule) (name : String) : Prop :=
  registry.get? name = none → ∀ rule ∈ selected, Text.sameIgnoringCase rule.name name = true →
    ∃ first ∈ selected, registry.getIgnoringCase? name = some first

/-- The selection keeps the references of all rules that the rule reaches. -/
def Registry.KeepsFrom (registry : Registry) (selected : List Rule) (rule : Rule) : Prop :=
  ∀ target, Lookup.Reaches ⟨registry.rules, registry⟩ rule target →
    ∀ reference ∈ target.references, registry.Keeps selected reference

/-- The first of a class is the first of it in a part of the list that holds it, if all differ. -/
theorem find?_eq_some_of_sublist {selected rules : List Rule} (hsub : selected.Sublist rules)
    (hnodup : rules.Nodup) {p : Rule → Bool} {first : Rule} (hfirst : rules.find? p = some first)
    (hmem : first ∈ selected) : selected.find? p = some first := by
  induction hsub with
  | slnil => cases hmem
  | cons rule hsub ih =>
    obtain ⟨hnot, hnodup⟩ := List.nodup_cons.mp hnodup
    rw [List.find?_cons_of_neg] at hfirst
    · exact ih hnodup hfirst hmem
    · -- it would be the first itself, and that is further on
      intro hp
      rw [List.find?_cons_of_pos hp] at hfirst
      obtain rfl := Option.some.inj hfirst
      exact hnot (hsub.mem hmem)
  | cons_cons rule hsub ih =>
    by_cases hp : p rule = true
    · rw [List.find?_cons_of_pos hp] at hfirst ⊢
      exact hfirst
    · rw [List.find?_cons_of_neg hp] at hfirst ⊢
      obtain rfl | hmem := List.mem_cons.mp hmem
      · exact absurd (List.find?_some hfirst) hp
      · exact ih (List.nodup_cons.mp hnodup).2 hfirst hmem

namespace Registry.Indexed

variable {registry : Registry} {selected : List Rule} {name : String}

/-- A name that a rule of the registry has exactly finds it, whatever is selected. -/
theorem lookup_get?_of_get? (h : registry.Indexed) (hsub : selected.Sublist registry.rules)
    {rule : Rule} (hrule : registry.get? name = some rule) :
    Lookup.get? ⟨selected, registry⟩ name = some rule := by
  obtain ⟨hmem, rfl⟩ := h.get?_eq_some_iff.mp hrule
  rw [Lookup.get?]
  cases hfound : selected.find? fun other => other.name == rule.name with
  | none =>
    rw [Option.none_or, hrule]
    rfl
  | some other =>
    have hname := List.find?_some hfound
    rw [h.eq_of_name_eq (hsub.mem (List.mem_of_find?_eq_some hfound)) hmem (beq_iff_eq.mp hname)]
    rfl

/-- A name that none has exactly finds a rule without regard to case. -/
theorem lookup_get?_of_none (h : registry.Indexed) (hsub : selected.Sublist registry.rules)
    (hnone : registry.get? name = none) :
    Lookup.get? ⟨selected, registry⟩ name =
      (selected.find? fun rule => Text.sameIgnoringCase rule.name name).or
        (registry.getIgnoringCase? name) := by
  have hexact : (selected.find? fun rule => rule.name == name) = none := by
    refine List.find?_eq_none.mpr fun rule hmem heq => ?_
    have hrule := h.get?_eq_some_iff.mpr ⟨hsub.mem hmem, beq_iff_eq.mp heq⟩
    exact absurd (hnone.symm.trans hrule) (by simp)
  simp only [Lookup.get?]
  rw [hexact, hnone, Option.none_or, Option.none_or]

/-- With all rules that is the first of the registry. -/
theorem lookup_get?_of_rules (h : registry.Indexed) (hnone : registry.get? name = none) :
    Lookup.get? ⟨registry.rules, registry⟩ name = registry.getIgnoringCase? name := by
  rw [h.lookup_get?_of_none (List.Sublist.refl _) hnone, getIgnoringCase?, hnone, Option.none_or,
    Option.or_self]

/-- **A name finds the same** among selected rules if and only if the selection keeps it. -/
theorem get?_eq_iff_keeps (h : registry.Indexed) (hsub : selected.Sublist registry.rules) :
    Lookup.get? ⟨selected, registry⟩ name = Lookup.get? ⟨registry.rules, registry⟩ name ↔
      registry.Keeps selected name := by
  cases hget : registry.get? name with
  | some rule =>
    rw [h.lookup_get?_of_get? hsub hget, h.lookup_get?_of_get? (List.Sublist.refl _) hget]
    exact ⟨fun _ hnone => absurd (hget.symm.trans hnone) (by simp), fun _ => rfl⟩
  | none =>
    rw [h.lookup_get?_of_none hsub hget, h.lookup_get?_of_rules hget]
    cases hfound : selected.find? fun rule => Text.sameIgnoringCase rule.name name with
    | none =>
      -- nothing that is selected is like it
      refine ⟨fun _ _ rule hmem hlike => ?_, fun _ => Option.none_or⟩
      exact absurd hlike (List.find?_eq_none.mp hfound rule hmem)
    | some found =>
      have hmem := List.mem_of_find?_eq_some hfound
      have hlike := List.find?_some hfound
      rw [Option.some_or]
      constructor
      · exact fun hsame _ _ _ _ => ⟨found, hmem, hsame.symm⟩
      · intro hkeeps
        obtain ⟨first, hselected, hfirst⟩ := hkeeps hget found hmem hlike
        have hall := hfirst
        rw [getIgnoringCase?, hget, Option.none_or] at hall
        have hagain := find?_eq_some_of_sublist hsub h.names.of_map hall hselected
        rw [hfirst, ← hagain, hfound]

end Registry.Indexed

/-- Where names differ by more than case, every name is kept. -/
theorem Rule.Distinct.keeps {registry : Registry} {selected : List Rule} {name : String}
    (h : Rule.Distinct registry.rules) (hsub : selected.Sublist registry.rules) :
    registry.Keeps selected name := by
  intro hnone rule hmem hlike
  refine ⟨rule, hmem, ?_⟩
  rw [Registry.getIgnoringCase?, hnone, Option.none_or]
  cases hfound : registry.rules.find? fun rule => Text.sameIgnoringCase rule.name name with
  | none => exact absurd hlike (List.find?_eq_none.mp hfound rule (hsub.mem hmem))
  | some first =>
    have hfirst := List.find?_some hfound
    rw [h.eq_of_like (List.mem_of_find?_eq_some hfound) (hsub.mem hmem) hfirst hlike]

/-! ## Runs

  From names to verdicts: what is kept from a rule on is agreement of the two lookups, and that is
  all a verdict relies on. -/

/-- The rules of a part of a list are those whose names occur in it, if all names differ. -/
theorem filter_name_eq_of_sublist {selected rules : List Rule} (hsub : selected.Sublist rules)
    (hnodup : (rules.map (·.name)).Nodup) :
    (rules.filter fun rule => selected.any (·.name == rule.name)) = selected := by
  induction hsub with
  | slnil => rfl
  | @cons selected rules rule hsub ih =>
    rw [List.map_cons, List.nodup_cons] at hnodup
    rw [List.filter_cons_of_neg, ih hnodup.2]
    rw [List.any_eq_true]
    rintro ⟨other, hmem, heq⟩
    exact hnodup.1 (List.mem_map.mpr ⟨other, hsub.mem hmem, beq_iff_eq.mp heq⟩)
  | @cons_cons selected rules rule hsub ih =>
    rw [List.map_cons, List.nodup_cons] at hnodup
    rw [List.filter_cons_of_pos (by simp)]
    -- no other rule has the name of the first
    have hrest : ∀ other ∈ rules, (rule :: selected).any (·.name == other.name) =
        selected.any (·.name == other.name) := by
      intro other hmem
      have hne : rule.name ≠ other.name := fun heq =>
        hnodup.1 (List.mem_map.mpr ⟨other, hmem, heq.symm⟩)
      rw [List.any_cons, beq_eq_false_iff_ne.mpr hne, Bool.false_or]
    rw [List.filter_congr hrest, ih hnodup.2]

/-- What a selection keeps from a rule on, the lookups agree on. -/
theorem Registry.KeepsFrom.agreesFrom {registry : Registry} (hindexed : registry.Indexed)
    {selected : List Rule} (hsub : selected.Sublist registry.rules) {rule : Rule}
    (h : registry.KeepsFrom selected rule) :
    Lookup.AgreesFrom ⟨registry.rules, registry⟩ ⟨selected, registry⟩ rule :=
  fun target hreach reference hmem =>
    (hindexed.get?_eq_iff_keeps hsub).mpr (h target hreach reference hmem)

/-- The results on a row that belong to selected rules are those of these rules. -/
theorem Lookup.filter_results (lookup : Lookup) (numbered : Row × Nat) (rules selected : List Rule) :
    (rules.map (lookup.resultOf numbered)).filter
        (fun result => selected.any (·.name == result.ruleName)) =
      (rules.filter fun rule => selected.any (·.name == rule.name)).map
        (lookup.resultOf numbered) := by
  rw [List.filter_map]
  simp only [Function.comp_def, ruleName_resultOf]

/-- **What a run of selected rules tells.**  A rule from which on the selection keeps all
    references has on every row the result that it has in a run of all rules of the registry.
    If the selection keeps them from each of its rules on, its results are those of the run of
    all rules that belong to its rules; and so they are whenever no two names of the registry
    differ only in case. -/
theorem Run.validate_selected (run run' : Run) (table : Table) {registry : Registry}
    (hregistry : registry.Reachable) {selected : List Rule}
    (hsub : selected.Sublist registry.rules) :
    let told := run.validate table selected registry
    let all := run'.validate table registry.rules registry
    (∀ j k rule, selected[j]? = some rule → registry.rules[k]? = some rule →
      registry.KeepsFrom selected rule →
        TellsAlike table told selected j all registry.rules k) ∧
    ((∀ rule ∈ selected, registry.KeepsFrom selected rule) →
      told.results = all.results.filter fun result => selected.any (·.name == result.ruleName)) ∧
    (Rule.Distinct registry.rules →
      told.results =
        all.results.filter fun result => selected.any (·.name == result.ruleName)) := by
  intro told all
  have hindexed := hregistry.indexed
  have hwhole : (∀ rule ∈ selected, registry.KeepsFrom selected rule) →
      told.results =
        all.results.filter fun result => selected.any (·.name == result.ruleName) := by
    intro hkeeps
    show (run.validate table selected registry).results =
      (run'.validate table registry.rules registry).results.filter _
    rw [results_validate hregistry, results_validate hregistry, List.filter_flatMap]
    -- Row by row: leaving rules out of the list leaves out their results and changes no other.
    refine List.flatMap_congr fun numbered _ => ?_
    rw [Lookup.filter_results, filter_name_eq_of_sublist hsub hindexed.names]
    refine List.map_congr_left fun rule hmem => ?_
    exact ((hkeeps rule hmem).agreesFrom hindexed hsub).resultOf_eq
      (Lookup.canonical_of_indexed hindexed) (Lookup.canonical_of_indexed hindexed) numbered
  refine ⟨fun j k rule hj hk hkeeps i hi => ?_, hwhole, fun hdistinct => hwhole ?_⟩
  · have halike : TellsAlike table all registry.rules k told selected j :=
      tellsAlike_of_agreesFrom hregistry hregistry run' run hk hj (hkeeps.agreesFrom hindexed hsub)
    obtain ⟨result, hall, htold⟩ := halike i hi
    exact ⟨result, htold, hall⟩
  · exact fun rule _ target _ reference _ => hdistinct.keeps hsub

/-- Of two rules whose names differ only in case the second is left out: that keeps the name
    that a third one refers to, and its verdict. -/
theorem Run.validate_selected_of_first :
    let upper := Rule.ofConditions "RULE1" [⟨"A", .greaterThan, .int 10⟩] [] "A > 10"
    let lower := Rule.ofConditions "rule1" [⟨"A", .greaterThan, .int 1⟩] [] "A > 1"
    let main := Rule.ofReferences "main" ["Rule1", "Rule1"] [.and] "Rule1 AND Rule1"
    let registry := (((Registry.empty.insert upper).1.insert lower).1.insert main).1
    let table : Table := ⟨["A"], [⟨[("A", .int 5)]⟩]⟩
    registry.Reachable ∧ [upper, main].Sublist registry.rules ∧
    (∀ rule ∈ [upper, main], registry.KeepsFrom [upper, main] rule) ∧
    (Run.none.validate table [upper, main] registry).results =
      (Run.none.validate table registry.rules registry).results.filter fun result =>
        [upper, main].any (·.name == result.ruleName) := by
  intro upper lower main registry table
  have hregistry : registry.Reachable := ((Registry.Reachable.empty.insert _).insert _).insert _
  have hsub : [upper, main].Sublist registry.rules := by decide
  have hkeeps : ∀ rule ∈ registry.rules, ∀ reference ∈ rule.references,
      registry.Keeps [upper, main] reference := by
    simp only [Registry.Keeps]
    decide
  have hfrom : ∀ rule ∈ [upper, main], registry.KeepsFrom [upper, main] rule := by
    intro rule hrule target hreach
    have hmem : rule ∈ Lookup.rules ⟨registry.rules, registry⟩ :=
      List.mem_append_left _ (hsub.mem hrule)
    rcases List.mem_append.mp (Lookup.mem_rules_of_reaches hmem hreach) with htarget | htarget
    · exact hkeeps target htarget
    · exact hkeeps target htarget
  exact ⟨hregistry, hsub, hfrom,
    (Run.none.validate_selected Run.none table hregistry hsub).2.1 hfrom⟩

/-- **Switching a rule off can change what is told of another.**  `main` refers to `Rule1`, which
    finds `RULE1` when all rules are validated, and `rule1` when `RULE1` is switched off. -/
theorem Run.validate_enabled_differs :
    let upper := Rule.ofConditions "RULE1" [⟨"A", .greaterThan, .int 10⟩] [] "A > 10"
    let lower := Rule.ofConditions "rule1" [⟨"A", .greaterThan, .int 1⟩] [] "A > 1"
    let main := Rule.ofReferences "main" ["Rule1", "Rule1"] [.and] "Rule1 AND Rule1"
    let registry := ((((Registry.empty.insert upper).1.insert lower).1.insert main).1.setEnabled
      "RULE1" false).1
    let table : Table := ⟨["A"], [⟨[("A", .int 5)]⟩]⟩
    registry.Reachable ∧ registry.enabledRules.Sublist registry.rules ∧
    (Run.none.validate table registry.enabledRules registry).results ≠
      (Run.none.validate table registry.rules registry).results.filter fun result =>
        registry.enabledRules.any (·.name == result.ruleName) := by
  intro upper lower main registry table
  have hregistry : registry.Reachable :=
    (((Registry.Reachable.empty.insert _).insert _).insert _).setEnabled _ _
  let row : Row := ⟨[("A", .int 5)]⟩
  let all : Lookup := ⟨registry.rules, registry⟩
  let selected : Lookup := ⟨registry.enabledRules, registry⟩
  let off : Rule := { upper with enabled := false }
  have hreferences : ∀ reference ∈ main.references, reference = "Rule1" := by decide
  have hfound : all.get? "Rule1" = some off := by decide
  have hfound' : selected.get? "Rule1" = some lower := by decide
  have hoff : combine (off.conditions.map (·.holds row)) off.connectives = false := by
    decide +kernel
  have hlower : combine (lower.conditions.map (·.holds row)) lower.connectives = true := by
    decide +kernel
  have hall := @Lookup.resultOf_of_leaves all row 0 main
    (Lookup.canonical_of_indexed hregistry.indexed) (fun _ => false) (by decide) rfl
    fun reference hmem => ⟨off, hreferences reference hmem ▸ hfound, rfl, hoff⟩
  have hselected := @Lookup.resultOf_of_leaves selected row 0 main
    (Lookup.canonical_of_indexed hregistry.indexed) (fun _ => true) (by decide) rfl
    fun reference hmem => ⟨lower, hreferences reference hmem ▸ hfound', rfl, hlower⟩
  refine ⟨hregistry, List.filter_sublist, fun hsame => ?_⟩
  rw [results_validate hregistry, results_validate hregistry, List.filter_flatMap] at hsame
  -- there is one row, and two results on it, of `rule1` and of `main`
  simp only [Lookup.filter_results] at hsame
  have hpair : [selected.resultOf (row, 0) lower, selected.resultOf (row, 0) main] =
      [all.resultOf (row, 0) lower, all.resultOf (row, 0) main] := hsame
  rw [hall, hselected] at hpair
  exact absurd (List.cons.inj (List.cons.inj hpair).2).1 (by decide)

end TableRules
