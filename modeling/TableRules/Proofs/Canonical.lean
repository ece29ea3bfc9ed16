/-
  WHAT A NAME FINDS: a rule that is found is what its own name finds.

  A name leads to a rule in one of four ways, and a rule that was found in the last two has
  another name than the one that was asked for.  Asking for its own name finds it at once:

  * among the supplied rules, the first that has exactly its name also has a name like the one
    that was asked for, so it is the first of these;
  * in the registry, a supplied rule of its name would have been found before it, and the names
    of an indexed registry differ.

  So names stand for the rules that are found, and a walk may remember rules by their names.
-/
import TableRules.Evaluation.Lookup
import TableRules.Proofs.RegistryIndex

namespace TableRules.Lookup

/-- Each rule that is found is what its own name finds. -/
def Canonical (lookup : Lookup) : Prop :=
  ∀ name rule, lookup.get? name = some rule → lookup.get? rule.name = some rule

/-- The first of a class is the first of a narrower class that it is in. -/
theorem find?_eq_some_of_imp {p q : Rule → Bool} (himp : ∀ rule, q rule = true → p rule = true)
    {rules : List Rule} {rule : Rule} (hp : rules.find? p = some rule) (hq : q rule = true) :
    rules.find? q = some rule := by
  obtain ⟨-, before, after, rfl, hbefore⟩ := List.find?_eq_some_iff_append.mp hp
  refine List.find?_eq_some_iff_append.mpr ⟨hq, before, after, rfl, fun other hother => ?_⟩
  -- one that comes before it in the narrower class would come before it in the wider one
  have hnot := hbefore other hother
  by_contra hq'
  rw [Bool.not_eq_true', Bool.not_eq_false] at hq'
  rw [himp other hq'] at hnot
  exact absurd hnot (by decide)

variable {lookup : Lookup}

/-- A supplied rule that is found without regard to case is found by its own name. -/
theorem get?_name_of_supplied {name : String} {rule : Rule}
    (h : (lookup.supplied.find? fun other => Text.sameIgnoringCase other.name name) = some rule) :
    lookup.get? rule.name = some rule := by
  have hlike := List.find?_some h
  have hfirst : (lookup.supplied.find? fun other => other.name == rule.name) = some rule := by
    refine find?_eq_some_of_imp (fun other hother => ?_) h (beq_self_eq_true _)
    rw [beq_iff_eq.mp hother]
    exact hlike
  rw [get?, hfirst]
  rfl

/-- A rule of an indexed registry is found by its name, if no supplied rule has that name. -/
theorem get?_name_of_registry (hindexed : lookup.registry.Indexed) {rule : Rule}
    (hsupplied : ∀ other ∈ lookup.supplied, other.name ≠ rule.name)
    (hmem : rule ∈ lookup.registry.rules) : lookup.get? rule.name = some rule := by
  have hnone : (lookup.supplied.find? fun other => other.name == rule.name) = none := by
    refine List.find?_eq_none.mpr fun other hother => ?_
    rw [beq_iff_eq]
    exact hsupplied other hother
  rw [get?, hnone, Option.none_or, hindexed.get?_eq_some_iff.mpr ⟨hmem, rfl⟩]
  rfl

/-- **Names stand for rules**, if the registry is indexed. -/
theorem canonical_of_indexed (hindexed : lookup.registry.Indexed) : lookup.Canonical := by
  intro name rule h
  rw [get?, Option.or_eq_some_iff, Option.or_eq_some_iff, Option.or_eq_some_iff] at h
  rcases h with h | ⟨hsupplied, h | ⟨hregistry, h | ⟨hlike, h⟩⟩⟩
  · -- a supplied rule of exactly that name
    have hexact := List.find?_some h
    have hname : rule.name = name := beq_iff_eq.mp hexact
    rw [get?, hname, h]
    rfl
  · -- a rule of the registry of exactly that name
    obtain ⟨hmem, rfl⟩ := hindexed.get?_eq_some_iff.mp h
    refine get?_name_of_registry hindexed (fun other hother => ?_) hmem
    exact fun heq => List.find?_eq_none.mp hsupplied other hother (beq_iff_eq.mpr heq)
  · exact get?_name_of_supplied h
  · -- a rule of the registry of a name like that one: a supplied rule that has its name would be
    -- like that one too, and would have been found before
    rw [Registry.getIgnoringCase?, hregistry, Option.none_or] at h
    have hrule := List.find?_some h
    refine get?_name_of_registry hindexed (fun other hother heq => ?_)
      (List.mem_of_find?_eq_some h)
    exact List.find?_eq_none.mp hlike other hother (heq ▸ hrule)

/-- A rule that is found has the name that was asked for, up to ASCII case. -/
theorem like_of_get? (hindexed : lookup.registry.Indexed) {name : String} {rule : Rule}
    (h : lookup.get? name = some rule) : Text.sameIgnoringCase rule.name name = true := by
  have hsame : Text.sameIgnoringCase name name = true := beq_self_eq_true _
  have hexact : lookup.registry.get? name = some rule →
      Text.sameIgnoringCase rule.name name = true := by
    intro hget
    rw [(hindexed.get?_eq_some_iff.mp hget).2]
    exact hsame
  have hlike : ∀ {rules : List Rule},
      (rules.find? fun other => Text.sameIgnoringCase other.name name) = some rule →
        Text.sameIgnoringCase rule.name name = true := fun hfind => by
    have hpass := List.find?_some hfind
    exact hpass
  rw [get?, Option.or_eq_some_iff, Option.or_eq_some_iff, Option.or_eq_some_iff,
    Registry.getIgnoringCase?, Option.or_eq_some_iff] at h
  -- The five searches in their order: the exact name in the list and in the registry, then the name
  -- ignoring case in the list and in the registry, where the exact name is tried once more.
  rcases h with h | ⟨-, h | ⟨-, h | ⟨-, h | ⟨-, h⟩⟩⟩⟩
  · have hname := List.find?_some h
    rw [beq_iff_eq.mp hname]
    exact hsame
  · exact hexact h
  · exact hlike h
  · exact hexact h
  · exact hlike h

/-- A rule is found if there is one of that name, up to ASCII case. -/
theorem isSome_get?_of_like {name : String} {rule : Rule} (hmem : rule ∈ lookup.rules)
    (hlike : Text.sameIgnoringCase rule.name name = true) : (lookup.get? name).isSome = true := by
  have hfind : ∀ rules : List Rule, rule ∈ rules →
      (rules.find? fun other => Text.sameIgnoringCase other.name name).isSome = true :=
    fun rules h => List.find?_isSome.mpr ⟨rule, h, hlike⟩
  rw [get?, Registry.getIgnoringCase?, Option.isSome_or, Option.isSome_or, Option.isSome_or,
    Option.isSome_or]
  rcases List.mem_append.mp hmem with h | h
  · rw [hfind _ h, Bool.true_or, Bool.or_true, Bool.or_true]
  · rw [hfind _ h, Bool.or_true, Bool.or_true, Bool.or_true, Bool.or_true]

namespace Canonical

variable {name other : String} {rule target : Rule}

/-- Rules that are found and have the same name are one. -/
theorem eq_of_name_eq (hcanonical : lookup.Canonical) (h : lookup.get? name = some rule)
    (h' : lookup.get? other = some target) (hname : rule.name = target.name) : rule = target := by
  have hrule := hcanonical name rule h
  rw [hname, hcanonical other target h'] at hrule
  exact (Option.some.inj hrule).symm

end Canonical

end TableRules.Lookup
