/-
  LOOKING UP REFERENCES: which rule a name refers to.

  The rules of a validation come before those of the registry, and exact names before names
  that differ in ASCII case.  The second order is the stronger: an exact name in the registry
  wins over an inexact one among the rules of the validation.

  Whatever is found is one of `Lookup.rules`, so a walk along references stays within that
  finite list.  `Lookup.unseen` counts the rules of it whose names are not on the path of a
  walk; a step to a name that is not on the path lowers the count (`unseen_append_lt`), and
  that is why walks end.
-/
import TableRules.Registry

namespace TableRules

/-- Where references are looked up: the rules of a validation, and the registry. -/
structure Lookup where
  supplied : List Rule
  registry : Registry

namespace Lookup

/-- All the rules that a reference can lead to. -/
def rules (lookup : Lookup) : List Rule := lookup.supplied ++ lookup.registry.rules

/-- The rule that a name refers to. -/
def get? (lookup : Lookup) (name : String) : Option Rule :=
  (lookup.supplied.find? fun rule => rule.name == name).or <|
  (lookup.registry.get? name).or <|
  (lookup.supplied.find? fun rule => Text.sameIgnoringCase rule.name name).or <|
  lookup.registry.getIgnoringCase? name

/-- A rule that is found is one of the rules. -/
theorem mem_of_get? {lookup : Lookup} {name : String} {rule : Rule}
    (h : lookup.get? name = some rule) : rule ∈ lookup.rules := by
  simp only [get?, Option.or_eq_some_iff] at h
  simp only [rules, List.mem_append]
  rcases h with h | ⟨_, h | ⟨_, h | ⟨_, h⟩⟩⟩
  · exact .inl (List.mem_of_find?_eq_some h)
  · exact .inr (Registry.mem_of_get? h)
  · exact .inl (List.mem_of_find?_eq_some h)
  · exact .inr (Registry.mem_of_getIgnoringCase? h)

/-! ## Paths -/

/-- How many rules have a name that is not on the path. -/
def unseen (lookup : Lookup) (path : List String) : Nat :=
  lookup.rules.countP fun rule => !path.contains rule.name

/-- A list has fewer members of a class than of a wider class that one member is in alone. -/
theorem countP_lt_countP {α : Type} {p q : α → Bool} (hpq : ∀ x, p x = true → q x = true) {a : α}
    (hp : p a = false) (hq : q a = true) : ∀ {l : List α}, a ∈ l → l.countP p < l.countP q
  | b :: l, h => by
    have hle : l.countP p ≤ l.countP q := List.countP_mono_left fun x _ => hpq x
    rcases List.mem_cons.mp h with rfl | h
    · rw [List.countP_cons_of_neg (by simp [hp]), List.countP_cons_of_pos hq]
      omega
    · have ih := countP_lt_countP hpq hp hq h
      rw [List.countP_cons, List.countP_cons]
      have : (if p b = true then 1 else 0) ≤ (if q b = true then 1 else 0 : Nat) := by
        by_cases hb : p b = true
        · simp [hb, hpq b hb]
        · simp [hb]
      omega

/-- A new name on the path leaves fewer rules unseen. -/
theorem unseen_append_lt {lookup : Lookup} {rule : Rule} {path : List String}
    (hmem : rule ∈ lookup.rules) (hnew : rule.name ∉ path) :
    lookup.unseen (path ++ [rule.name]) < lookup.unseen path := by
  refine countP_lt_countP (fun other h => ?_) ?_ ?_ hmem
  · simp only [List.contains_append, Bool.not_or, Bool.and_eq_true] at h
    exact h.1
  · simp
  · simpa using hnew

end Lookup

end TableRules
