/-
  RULES ARE ISOLATED: what is told of a rule does not hang on the others.

  1. **One more rule** — a rule whose name no reference is like, up to ASCII case, is found by
     none of them.  So it may stand anywhere among the rules, be it broken or not: from every
     other rule on the lookups agree.

  2. **Another order** — where the names of the rules differ by more than case, every reference
     has at most one rule that it may find, and in any order it finds that.

  In both the work is to show that lookups agree; that agreement is enough, whatever the memo and
  the other rules on the row, is known of verdicts already.
-/
import Mathlib.Data.List.Find
import TableRules.Proofs.Reliance

namespace TableRules

/-! ## One more rule

  A rule that no reference is like is found by none of the four ways of a lookup. -/

namespace Lookup

variable {before after : List Rule} {x : Rule} {registry : Registry} {name : String}

/-- A rule that a test does not pass is not found by it. -/
theorem find?_append_cons {p : Rule → Bool} (hx : p x = false) :
    (before ++ x :: after).find? p = (before ++ after).find? p := by
  rw [List.find?_append, List.find?_append, List.find?_cons_of_neg (by rw [hx]; decide)]

/-- A name that a rule is not like finds the same without it. -/
theorem get?_append_cons (hx : Text.sameIgnoringCase x.name name = false) :
    Lookup.get? ⟨before ++ x :: after, registry⟩ name =
      Lookup.get? ⟨before ++ after, registry⟩ name := by
  have hne : (x.name == name) = false := by
    rw [beq_eq_false_iff_ne]
    rintro rfl
    rw [Text.sameIgnoringCase, beq_self_eq_true] at hx
    cases hx
  simp only [get?]
  rw [find?_append_cons hne, find?_append_cons hx]

/-- No rule reaches one that no reference is like. -/
theorem agreesFrom_append_cons
    (hx : ∀ rule ∈ before ++ after ++ registry.rules, ∀ reference ∈ rule.references,
      Text.sameIgnoringCase x.name reference = false)
    {rule : Rule} (hrule : rule ∈ before ++ after) :
    AgreesFrom ⟨before ++ after, registry⟩ ⟨before ++ x :: after, registry⟩ rule := by
  intro target hreach reference hmem
  refine get?_append_cons (hx target ?_ reference hmem)
  exact mem_rules_of_reaches (List.mem_append_left _ hrule) hreach

end Lookup

/-! ## Another order

  Which rule comes first matters only where more than one could be found. -/

/-- The names of rules differ by more than ASCII case. -/
def Rule.Distinct (rules : List Rule) : Prop :=
  rules.Pairwise fun rule other => Text.sameIgnoringCase rule.name other.name = false

namespace Rule.Distinct

variable {rules : List Rule}

/-- So no two of them are like the same name. -/
theorem eq_of_like (h : Distinct rules) {rule other : Rule} (hrule : rule ∈ rules)
    (hother : other ∈ rules) {name : String} (hlike : Text.sameIgnoringCase rule.name name = true)
    (hlike' : Text.sameIgnoringCase other.name name = true) : rule = other := by
  by_contra hne
  have : Std.Symm fun rule other : Rule => Text.sameIgnoringCase rule.name other.name = false :=
    ⟨fun a b hab => by rwa [Text.sameIgnoringCase, BEq.comm] at hab⟩
  have hdiffer := h.forall hrule hother hne
  rw [Text.sameIgnoringCase, beq_iff_eq] at hlike hlike'
  rw [Text.sameIgnoringCase, beq_eq_false_iff_ne, hlike, hlike'] at hdiffer
  exact hdiffer rfl

/-- A test that only rules pass whose names are like one finds the same in any order. -/
theorem find?_eq_of_perm (h : Distinct rules) {rules' : List Rule} (hperm : rules.Perm rules')
    {p : Rule → Bool} {name : String}
    (hp : ∀ rule, p rule = true → Text.sameIgnoringCase rule.name name = true) :
    rules'.find? p = rules.find? p := by
  refine (List.find?_eq_find?_of_perm hperm ?_).symm
  rintro rule ⟨hrule, hpass⟩ other ⟨hother, hpass'⟩
  exact h.eq_of_like hrule hother (hp rule hpass) (hp other hpass')

/-- So does every name. -/
theorem get?_eq_of_perm (h : Distinct rules) {rules' : List Rule} (hperm : rules.Perm rules')
    (registry : Registry) (name : String) :
    Lookup.get? ⟨rules', registry⟩ name = Lookup.get? ⟨rules, registry⟩ name := by
  have hexact : ∀ rule : Rule, (rule.name == name) = true →
      Text.sameIgnoringCase rule.name name = true := by
    intro rule heq
    rw [beq_iff_eq.mp heq, Text.sameIgnoringCase]
    exact beq_self_eq_true _
  simp only [Lookup.get?]
  rw [h.find?_eq_of_perm hperm hexact, h.find?_eq_of_perm hperm fun _ hlike => hlike]

end Rule.Distinct

/-! ## Runs

  The place of a rule among the others changes when one more is put in, so results are compared by
  the places that a rule has in either list. -/

/-- Where a rule stands after another one was put among the rules. -/
theorem getElem?_append_cons (before after : List Rule) (x : Rule) (j : Nat) :
    (before ++ x :: after)[if j < before.length then j else j + 1]? = (before ++ after)[j]? := by
  split
  next hlt => rw [List.getElem?_append_left hlt, List.getElem?_append_left hlt]
  next hge =>
    have hplace : j + 1 - before.length = j - before.length + 1 := by omega
    rw [List.getElem?_append_right (by omega), List.getElem?_append_right (by omega), hplace,
      List.getElem?_cons_succ]

/-- **Rules are isolated from each other.**  A rule whose name is like none that the other rules
    or those of the registry refer to may be put anywhere among the rules: on every row, the
    others have the results that they had, and the faults that they had.  And if the names of the
    rules differ by more than case, then in any other order each of them has the same results. -/
theorem Run.validate_isolates (run run' : Run) (table : Table) {registry : Registry}
    (hregistry : registry.Reachable) :
    (∀ before after x,
      (∀ rule ∈ before ++ after ++ registry.rules, ∀ reference ∈ rule.references,
        Text.sameIgnoringCase x.name reference = false) →
      let told := run.validate table (before ++ after) registry
      let told' := run'.validate table (before ++ x :: after) registry
      let faultOf? := Validation.faultOf? ⟨before ++ after, registry⟩
      let faultOf?' := Validation.faultOf? ⟨before ++ x :: after, registry⟩
      (∀ j < (before ++ after).length, TellsAlike table told (before ++ after) j told'
        (before ++ x :: after) (if j < before.length then j else j + 1)) ∧
      (∀ rule ∈ before ++ after, faultOf?' rule = faultOf? rule) ∧
      told.faults = before.filterMap faultOf? ++ after.filterMap faultOf? ∧
      told'.faults =
        before.filterMap faultOf? ++ (faultOf?' x).toList ++ after.filterMap faultOf?) ∧
    ∀ rules rules', Rule.Distinct rules → rules.Perm rules' →
      ∀ j k rule, rules[j]? = some rule → rules'[k]? = some rule →
        TellsAlike table (run.validate table rules registry) rules j
          (run'.validate table rules' registry) rules' k := by
  refine ⟨fun before after x hx => ?_, fun rules rules' hdistinct hperm j k rule hj hk => ?_⟩
  · have hagree := fun rule => @Lookup.agreesFrom_append_cons before after x registry hx rule
    have hfault := fun rule hrule => (hagree rule hrule).faultOf?_eq
    -- the results of the others, their faults, and where the fault of the new rule is told
    refine ⟨fun j hj => ?_, hfault, ?_, ?_⟩
    · obtain ⟨rule, hrule⟩ : ∃ rule, (before ++ after)[j]? = some rule :=
        ⟨_, List.getElem?_eq_getElem hj⟩
      refine tellsAlike_of_agreesFrom hregistry hregistry run run' hrule ?_
        (hagree rule (List.mem_of_getElem? hrule))
      rw [getElem?_append_cons]
      exact hrule
    · rw [validate_eq, List.filterMap_append]
    · rw [validate_eq, List.filterMap_append, List.filterMap_cons,
        List.filterMap_congr fun rule hrule => hfault rule (List.mem_append_left _ hrule),
        List.filterMap_congr fun rule hrule => hfault rule (List.mem_append_right _ hrule),
        List.append_assoc]
      cases Validation.faultOf? ⟨before ++ x :: after, registry⟩ x with
      | none => rfl
      | some fault => rfl
  · exact tellsAlike_of_agreesFrom hregistry hregistry run run' hj hk fun _ _ reference _ =>
      hdistinct.get?_eq_of_perm hperm registry reference

/-- A rule that refers to itself, put between a rule and one that refers to that and to a rule of the
    registry: the last of them passes on the first row and fails on the second as it did, and so it
    does if the two change places. -/
theorem Run.validate_isolates_of_cyclic_rule :
    let first := Rule.ofConditions "c" [⟨"A", .greaterThan, .int 10⟩] [] "A > 10"
    let second := Rule.ofReferences "d" ["C", "limit"] [.and] "C AND limit"
    let cyclic := Rule.ofReferences "x" ["x"] [] "x"
    let limit := Rule.ofConditions "limit" [⟨"A", .lessThan, .int 99⟩] [] "A < 99"
    let registry := (Registry.empty.insert limit).1
    let table : Table := ⟨["A"], [⟨[("A", .int 15)]⟩, ⟨[("A", .int 5)]⟩]⟩
    let told := Run.none.validate table [first, second] registry
    registry.Reachable ∧
    (∀ rule ∈ [first] ++ [second] ++ registry.rules, ∀ reference ∈ rule.references,
      Text.sameIgnoringCase cyclic.name reference = false) ∧
    told.results.map (·.passed) = [true, true, false, false] ∧
    TellsAlike table told [first, second] 1
      (Run.none.validate table [first, cyclic, second] registry) [first, cyclic, second] 2 ∧
    Rule.Distinct [first, second] ∧
    TellsAlike table told [first, second] 1
      (Run.none.validate table [second, first] registry) [second, first] 0 := by
  intro first second cyclic limit registry table told
  have hregistry : registry.Reachable := Registry.Reachable.empty.insert limit
  have hcanonical : Lookup.Canonical ⟨[first, second], registry⟩ :=
    Lookup.canonical_of_indexed hregistry.indexed
  have hnew : ∀ rule ∈ [first] ++ [second] ++ registry.rules,
      ∀ reference ∈ rule.references, Text.sameIgnoringCase cyclic.name reference = false := by
    decide
  have hdistinct : Rule.Distinct [first, second] := by
    rw [Rule.Distinct, List.pairwise_pair]
    decide
  have hfirst : ∀ row i, Lookup.resultOf ⟨[first, second], registry⟩ (row, i) first =
      .ofOutcome i first row (.ok (Condition.holds ⟨"A", .greaterThan, .int 10⟩ row)) :=
    fun _ _ => Lookup.resultOf_of_conditions hcanonical rfl
  -- the second rule is true where the first one and the rule of the registry are
  have hsecond : ∀ row i, Lookup.resultOf ⟨[first, second], registry⟩ (row, i) second =
      .ofOutcome i second row (.ok (combine [Condition.holds ⟨"A", .greaterThan, .int 10⟩ row,
        Condition.holds ⟨"A", .lessThan, .int 99⟩ row] [.and])) := by
    intro row i
    have hleaves := @Lookup.resultOf_of_leaves ⟨[first, second], registry⟩ row i second hcanonical
      (fun reference => if reference = "C" then Condition.holds ⟨"A", .greaterThan, .int 10⟩ row
        else Condition.holds ⟨"A", .lessThan, .int 99⟩ row) (by decide) rfl
    refine hleaves fun reference hmem => ?_
    rcases List.mem_pair.mp hmem with rfl | rfl
    · exact ⟨first, by decide, rfl, rfl⟩
    · exact ⟨limit, by decide, rfl, rfl⟩
  have htold : told.results.map (·.passed) = [true, true, false, false] := by
    show (Run.none.validate table [first, second] registry).results.map _ = _
    rw [results_validate hregistry]
    show ([Lookup.resultOf _ (⟨[("A", .int 15)]⟩, 0) first, Lookup.resultOf _ (_, 0) second] ++
      ([Lookup.resultOf _ (⟨[("A", .int 5)]⟩, 1) first, Lookup.resultOf _ (_, 1) second] ++ [])).map
        _ = _
    rw [hfirst, hfirst, hsecond, hsecond]
    decide +kernel
  obtain ⟨hinsert, hperm⟩ := Run.none.validate_isolates Run.none table hregistry
  exact ⟨hregistry, hnew, htold, (hinsert [first] [second] cyclic hnew).1 1 (by decide), hdistinct,
    hperm _ _ hdistinct (List.Perm.swap second first []) 1 0 second rfl rfl⟩

end TableRules
