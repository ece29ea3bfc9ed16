/-
  REFERENCES AS A GRAPH: which rules lead to which.

  * `Refers`   — a rule holds a reference that finds another rule;
  * `Reaches`  — one rule leads to another by any number of such steps;
  * `Grounded` — all references of a rule find rules, and these are grounded.

  `Grounded` is inductive: it says that every chain of references that begins at the rule comes
  to an end, and so no rule of them leads back to itself.
-/
import Mathlib.Logic.Relation
import TableRules.Proofs.Canonical

namespace TableRules.Lookup

open Relation

/-! ## Steps along references -/

/-- A rule holds a reference that finds the other. -/
def Refers (lookup : Lookup) (rule target : Rule) : Prop :=
  ∃ reference ∈ rule.references, lookup.get? reference = some target

/-- A rule leads to another by references, or is it. -/
def Reaches (lookup : Lookup) : Rule → Rule → Prop := ReflTransGen lookup.Refers

/-- Where all chains of steps end, none comes back. -/
theorem not_transGen_self_of_acc {step : Rule → Rule → Prop} {rule : Rule}
    (h : Acc (fun next rule => step rule next) rule) : ¬TransGen step rule rule := by
  induction h with
  | intro rule _ ih =>
    intro hcycle
    obtain ⟨next, hstep, hback⟩ := TransGen.head'_iff.mp hcycle
    exact ih next hstep (TransGen.tail' hback hstep)

variable {lookup : Lookup} {rule target : Rule}

/-- The end of a chain of steps is found by its own name, if it has a step. -/
theorem get?_name_of_transGen (hcanonical : lookup.Canonical)
    (h : TransGen lookup.Refers rule target) : lookup.get? target.name = some target := by
  obtain ⟨_, -, reference, -, hfound⟩ := TransGen.tail'_iff.mp h
  exact hcanonical reference target hfound

/-- What is reached from a rule that its own name finds is found by its own name. -/
theorem get?_name_of_reaches (hcanonical : lookup.Canonical)
    (hrule : lookup.get? rule.name = some rule) (h : lookup.Reaches rule target) :
    lookup.get? target.name = some target := by
  rcases reflTransGen_iff_eq_or_transGen.mp h with rfl | h
  · exact hrule
  · exact get?_name_of_transGen hcanonical h

/-- What is reached from one of the rules is one of them. -/
theorem mem_rules_of_reaches (hrule : rule ∈ lookup.rules) (h : lookup.Reaches rule target) :
    target ∈ lookup.rules := by
  cases h with
  | refl => exact hrule
  | tail _ hstep =>
    obtain ⟨reference, -, hfound⟩ := hstep
    exact mem_of_get? hfound

/-! ## Grounded rules -/

/-- All references of the rule find rules, and these are grounded. -/
inductive Grounded (lookup : Lookup) : Rule → Prop
  | intro (rule : Rule)
      (hfound : ∀ reference ∈ rule.references, ∃ target, lookup.get? reference = some target)
      (hrest : ∀ target, lookup.Refers rule target → Grounded lookup target) :
      Grounded lookup rule

namespace Grounded

/-- The references of a grounded rule find rules, ... -/
theorem found (h : lookup.Grounded rule) :
    ∀ reference ∈ rule.references, ∃ target, lookup.get? reference = some target := by
  cases h with
  | intro _ hfound _ => exact hfound

/-- ... which are grounded, ... -/
theorem of_refers (h : lookup.Grounded rule) (hstep : lookup.Refers rule target) :
    lookup.Grounded target := by
  cases h with
  | intro _ _ hrest => exact hrest target hstep

/-- ... and so is all that it reaches. -/
theorem of_reaches (h : lookup.Grounded rule) (hreach : lookup.Reaches rule target) :
    lookup.Grounded target := by
  induction hreach with
  | refl => exact h
  | tail _ hstep ih => exact ih.of_refers hstep

/-- **A grounded rule does not lead back to itself.** -/
theorem not_cyclic (h : lookup.Grounded rule) : ¬TransGen lookup.Refers rule rule := by
  refine not_transGen_self_of_acc ?_
  induction h with
  | intro rule _ _ ih => exact Acc.intro rule ih

end Grounded

end TableRules.Lookup
