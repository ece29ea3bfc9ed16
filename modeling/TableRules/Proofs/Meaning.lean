/-
  WHAT A RULE MEANS ON A ROW: without a memo, a stack, or an order of evaluation.

  `Means` says it by recursion along references: a rule joins the outcomes of its conditions; a
  reference rule joins what the rules mean that its references find.  The references of a rule
  with conditions of its own do not count (`Needs`).

  * `Means.unique`     — a rule means one thing at most;
  * `Means.not_cyclic` — a rule that means something does not need itself;
  * `exists_means`     — a grounded rule means something.

  The meaning is a relation and not a function, for a rule that leads to itself has none.
-/
import TableRules.Evaluation.Condition
import TableRules.Proofs.References

namespace TableRules.Lookup

open Relation

/-- What the rules mean that references find is given by name. -/
inductive Means (lookup : Lookup) (row : Row) : Rule → Bool → Prop
  /-- A rule of conditions joins what these say of the row. -/
  | conditions (rule : Rule) (hrule : rule.isReference = false) :
      Means lookup row rule (combine (rule.conditions.map (·.holds row)) rule.connectives)
  /-- A rule of references joins what the rules mean that they find. -/
  | references (rule : Rule) (value : String → Bool) (hrule : rule.isReference = true)
      (hfound : ∀ reference ∈ rule.references, ∃ target, lookup.get? reference = some target)
      (hvalue : ∀ reference ∈ rule.references, ∀ target, lookup.get? reference = some target →
        Means lookup row target (value reference)) :
      Means lookup row rule (combine (rule.references.map value) rule.connectives)

/-- A reference finds a rule that means this. -/
def Gives (lookup : Lookup) (row : Row) (reference : String) (outcome : Bool) : Prop :=
  ∃ target, lookup.get? reference = some target ∧ lookup.Means row target outcome

/-- What a rule means depends on the other. -/
def Needs (lookup : Lookup) (rule target : Rule) : Prop :=
  rule.isReference = true ∧ lookup.Refers rule target

variable {lookup : Lookup} {row : Row} {rule target : Rule} {outcome other : Bool}

/-- What a rule needs it refers to, in any number of steps. -/
theorem transGen_refers_of_needs (h : TransGen lookup.Needs rule target) :
    TransGen lookup.Refers rule target :=
  TransGen.mono (fun _ _ hstep => hstep.2) _ _ h

/-- What is needed by a rule that its own name finds is found by its own name. -/
theorem get?_name_of_needs (hcanonical : lookup.Canonical)
    (hrule : lookup.get? rule.name = some rule) (h : ReflTransGen lookup.Needs rule target) :
    lookup.get? target.name = some target := by
  rcases reflTransGen_iff_eq_or_transGen.mp h with rfl | h
  · exact hrule
  · exact get?_name_of_transGen hcanonical (transGen_refers_of_needs h)

namespace Means

/-- **A rule means one thing at most.** -/
theorem unique (h : lookup.Means row rule outcome) (h' : lookup.Means row rule other) :
    outcome = other := by
  induction h generalizing other with
  | conditions rule hrule =>
    cases h' with
    | conditions _ _ => rfl
    | references _ _ hrule' _ _ => exact absurd (hrule.symm.trans hrule') (by decide)
  | references rule value hrule hfound _ ih =>
    cases h' with
    | conditions _ hrule' => exact absurd (hrule'.symm.trans hrule) (by decide)
    | references _ value' _ _ hvalue' =>
      -- the values by name may differ, but not on the references of the rule
      have hsame : rule.references.map value = rule.references.map value' := by
        refine List.map_congr_left fun reference hmem => ?_
        obtain ⟨target, hget⟩ := hfound reference hmem
        exact ih reference hmem target hget (hvalue' reference hmem target hget)
      rw [hsame]

/-- **A rule that means something does not need itself.** -/
theorem not_cyclic (h : lookup.Means row rule outcome) : ¬TransGen lookup.Needs rule rule := by
  -- a meaning is a finite tree, and every chain of needs runs down in it
  refine not_transGen_self_of_acc ?_
  induction h with
  | conditions rule hrule =>
    refine .intro rule fun target hneeds => ?_
    exact absurd (hrule.symm.trans hneeds.1) (by decide)
  | references rule value _ _ _ ih =>
    refine .intro rule fun target hneeds => ?_
    obtain ⟨_, reference, hmem, hget⟩ := hneeds
    exact ih reference hmem target hget

/-- Each reference of a reference rule that means something gives something. -/
theorem gives (h : lookup.Means row rule outcome) (hrule : rule.isReference = true)
    {reference : String} (hmem : reference ∈ rule.references) :
    ∃ given, lookup.Gives row reference given := by
  cases h with
  | conditions _ hrule' => exact absurd (hrule'.symm.trans hrule) (by decide)
  | references _ value _ hfound hvalue =>
    obtain ⟨target, hget⟩ := hfound reference hmem
    exact ⟨value reference, target, hget, hvalue reference hmem target hget⟩

end Means

/-- A reference gives one thing at most. -/
theorem Gives.unique {reference : String} (h : lookup.Gives row reference outcome)
    (h' : lookup.Gives row reference other) : outcome = other := by
  obtain ⟨target, hfound, hmeans⟩ := h
  obtain ⟨target', hfound', hmeans'⟩ := h'
  obtain rfl := Option.some.inj (hfound.symm.trans hfound')
  exact hmeans.unique hmeans'

/-- A reference rule means what joins the things that its references give, by name. -/
theorem means_of_gives {value : String → Bool} (hrule : rule.isReference = true)
    (h : ∀ reference ∈ rule.references, lookup.Gives row reference (value reference)) :
    lookup.Means row rule (combine (rule.references.map value) rule.connectives) := by
  refine .references rule value hrule (fun reference hmem => ?_) fun reference hmem target hget => ?_
  · obtain ⟨target, hget, -⟩ := h reference hmem
    exact ⟨target, hget⟩
  · obtain ⟨target', hget', hmeans⟩ := h reference hmem
    obtain rfl := Option.some.inj (hget'.symm.trans hget)
    exact hmeans

/-- What references give one by one is given by name, for one that is held more than once gives
    the same each time. -/
theorem exists_value_of_forall₂ {references : List String} {outcomes : List Bool}
    (h : List.Forall₂ (lookup.Gives row) references outcomes) :
    ∃ value : String → Bool, outcomes = references.map value ∧
      ∀ reference ∈ references, lookup.Gives row reference (value reference) := by
  induction h with
  | nil => exact ⟨fun _ => false, rfl, fun reference hmem => absurd hmem List.not_mem_nil⟩
  | @cons first given references outcomes hgives _ ih =>
    obtain ⟨value, rfl, hvalue⟩ := ih
    -- what the first gives may be added to what is given by name: it is there already, if ever
    have hsame : ∀ reference ∈ references,
        value reference = if reference = first then given else value reference := by
      intro reference hmem
      by_cases heq : reference = first
      · rw [if_pos heq]
        exact (hvalue reference hmem).unique (heq ▸ hgives)
      · rw [if_neg heq]
    refine ⟨fun reference => if reference = first then given else value reference, ?_, ?_⟩
    · rw [List.map_cons, if_pos rfl, List.map_congr_left hsame]
    · intro reference hmem
      show lookup.Gives row reference (if reference = first then given else value reference)
      rcases List.mem_cons.mp hmem with rfl | hmem
      · rw [if_pos rfl]
        exact hgives
      · rw [← hsame reference hmem]
        exact hvalue reference hmem

/-- A reference rule means what joins the things that its references give, one by one. -/
theorem means_of_forall₂ {outcomes : List Bool} (hrule : rule.isReference = true)
    (h : List.Forall₂ (lookup.Gives row) rule.references outcomes) :
    lookup.Means row rule (combine outcomes rule.connectives) := by
  obtain ⟨value, rfl, hvalue⟩ := exists_value_of_forall₂ h
  exact means_of_gives hrule hvalue

/-- **A grounded rule means something**, on any row. -/
theorem exists_means (row : Row) (h : lookup.Grounded rule) :
    ∃ outcome, lookup.Means row rule outcome := by
  induction h with
  | intro rule hfound _ ih =>
    cases hrule : rule.isReference with
    | false => exact ⟨_, .conditions rule hrule⟩
    | true =>
      -- Values are chosen for all texts at once, so those that are not referred to get any value.
      have hgives : ∀ reference, ∃ value, reference ∈ rule.references →
          lookup.Gives row reference value := by
        intro reference
        by_cases hmem : reference ∈ rule.references
        · obtain ⟨target, hget⟩ := hfound reference hmem
          obtain ⟨value, hmeans⟩ := ih target ⟨reference, hmem, hget⟩
          exact ⟨value, fun _ => ⟨target, hget, hmeans⟩⟩
        · exact ⟨false, fun h => absurd h hmem⟩
      choose value hvalue using hgives
      exact ⟨_, means_of_gives hrule hvalue⟩

end TableRules.Lookup
