/-
  THE INDEX OF A REGISTRY: whatever is done to a registry, its index tells where each rule is.

  1. **The invariant** — `Indexed`: the names differ, and the index holds exactly one entry for
     each rule, its name with its position.  The entries may stand in any order.

  2. **Looking up** — in an indexed registry `get?` finds the rule of that name, and only that.

  3. **Operations** — each keeps the invariant.  `insert` and `setEnabled` touch the index
     little or not at all, so the names decide; the others make it anew.

  4. **Reach** — `Reachable` are the registries that operations make; all of them are indexed.

  The entries are compared up to their order, because the operations do not agree on one: a new
  rule puts its entry in front, while an index that is made anew has the order of the rules.  No
  question that is asked of an index can tell the difference, as long as no key stands twice.
-/
import Mathlib.Data.List.Nodup
import Mathlib.Data.List.Perm.Basic
import TableRules.Registry

namespace TableRules.Registry

/-! ## The invariant -/

/-- The index of a registry is right. -/
structure Indexed (registry : Registry) : Prop where
  /-- No two rules have the same name. -/
  names : registry.names.Nodup
  /-- One entry for each rule: its name and its position. -/
  positions : registry.positions.Perm (indexOf registry.rules)

/-- The index is made of the names alone. -/
theorem indexOf_eq (rules : List Rule) : indexOf rules = (rules.map (·.name)).zipIdx := by
  rw [indexOf, List.zipIdx_map]
  rfl

/-- One more rule at the end is one more entry. -/
theorem indexOf_append_singleton (rules : List Rule) (rule : Rule) :
    indexOf (rules ++ [rule]) = indexOf rules ++ [(rule.name, rules.length)] := by
  rw [indexOf, indexOf, List.zipIdx_append, List.map_append]
  simp

/-- The entries tell of each rule its name and its place. -/
theorem mem_indexOf {rules : List Rule} {name : String} {i : Nat} :
    (name, i) ∈ indexOf rules ↔ ∃ rule, rules[i]? = some rule ∧ rule.name = name := by
  rw [indexOf_eq, List.mk_mem_zipIdx_iff_getElem?, List.getElem?_map, Option.map_eq_some_iff]

/-- Their keys are the names. -/
theorem map_fst_indexOf (rules : List Rule) : (indexOf rules).map Prod.fst = rules.map (·.name) := by
  rw [indexOf_eq]
  exact List.zipIdx_map_fst 0 _

/-! ## Looking up -/

/-- Where keys differ, the entry of a key is the one that is found. -/
theorem lookup_eq_some_iff_mem {entries : List (String × Nat)} {key : String} {value : Nat}
    (h : (entries.map Prod.fst).Nodup) : entries.lookup key = some value ↔ (key, value) ∈ entries := by
  rw [List.lookup_eq_some_iff]
  constructor
  · rintro ⟨before, after, rfl, -⟩
    exact List.mem_append_right _ (List.mem_cons_self ..)
  · intro hmem
    obtain ⟨before, after, rfl⟩ := List.append_of_mem hmem
    refine ⟨before, after, rfl, fun entry hentry => ?_⟩
    rw [List.map_append, List.map_cons] at h
    have hne := (List.nodup_append.mp h).2.2 entry.1 (List.mem_map_of_mem hentry) key
      (List.mem_cons_self ..)
    exact bne_iff_ne.mpr hne.symm

namespace Indexed

variable {registry : Registry} {name : String} {rule : Rule}

/-- So no key stands twice in a right index. -/
theorem nodup_keys (h : registry.Indexed) : (registry.positions.map Prod.fst).Nodup := by
  rw [(h.positions.map Prod.fst).nodup_iff, map_fst_indexOf]
  exact h.names

/-- The position of a name is where the rule of that name stands. -/
theorem position?_eq_some_iff (h : registry.Indexed) {i : Nat} :
    registry.position? name = some i ↔ ∃ rule, registry.rules[i]? = some rule ∧ rule.name = name := by
  rw [position?, lookup_eq_some_iff_mem h.nodup_keys, h.positions.mem_iff, mem_indexOf]

/-- Only a name that no rule has is without a position. -/
theorem position?_eq_none_iff (h : registry.Indexed) :
    registry.position? name = none ↔ name ∉ registry.names := by
  rw [Option.eq_none_iff_forall_ne_some]
  constructor
  · intro hnone hmem
    obtain ⟨rule, hrule, hname⟩ := List.mem_map.mp hmem
    obtain ⟨i, hi⟩ := List.getElem?_of_mem hrule
    exact hnone i (h.position?_eq_some_iff.mpr ⟨rule, hi, hname⟩)
  · intro hmem i hi
    obtain ⟨rule, hrule, hname⟩ := h.position?_eq_some_iff.mp hi
    exact hmem (List.mem_map.mpr ⟨rule, List.mem_of_getElem? hrule, hname⟩)

/-- Two rules of the same name are one. -/
theorem eq_of_name_eq (h : registry.Indexed) {other : Rule} (hrule : rule ∈ registry.rules)
    (hother : other ∈ registry.rules) (hname : rule.name = other.name) : rule = other :=
  List.inj_on_of_nodup_map h.names hrule hother hname

/-- **Looking up** finds the rule of that name. -/
theorem get?_eq_some_iff (h : registry.Indexed) :
    registry.get? name = some rule ↔ rule ∈ registry.rules ∧ rule.name = name := by
  rw [Registry.get?, Option.bind_eq_some_iff]
  constructor
  · rintro ⟨i, hi, hrule⟩
    obtain ⟨found, hfound, hname⟩ := h.position?_eq_some_iff.mp hi
    obtain rfl : found = rule := Option.some.inj (hfound.symm.trans hrule)
    exact ⟨List.mem_of_getElem? hrule, hname⟩
  · rintro ⟨hmem, hname⟩
    obtain ⟨i, hi⟩ := List.getElem?_of_mem hmem
    exact ⟨i, h.position?_eq_some_iff.mpr ⟨rule, hi, hname⟩, hi⟩

end Indexed

/-! ## Operations -/

theorem indexed_empty : empty.Indexed := ⟨List.nodup_nil, .refl _⟩

/-- A registry whose index was made anew needs only names that differ. -/
theorem indexed_reindexed {rules : List Rule} (h : (rules.map (·.name)).Nodup) :
    (reindexed rules).Indexed := ⟨h, .refl _⟩

/-- With a rule put in one place, its name and the others' are the names. -/
theorem map_name_set_perm {rules : List Rule} {i : Nat} (hi : i < rules.length) (rule : Rule) :
    ((rules.set i rule).map (·.name)).Perm (rule.name :: (rules.eraseIdx i).map (·.name)) :=
  (List.set_perm_cons_eraseIdx hi rule).map _

namespace Indexed

variable {registry : Registry} (h : registry.Indexed)
include h

/-- The same names in the same places keep the index right. -/
theorem of_names_eq {rules : List Rule} (hnames : rules.map (·.name) = registry.names) :
    Indexed ⟨rules, registry.positions⟩ := by
  refine ⟨?_, ?_⟩
  · show (rules.map (·.name)).Nodup
    rw [hnames]
    exact h.names
  · show registry.positions.Perm (indexOf rules)
    rw [indexOf_eq, hnames, Registry.names, ← indexOf_eq]
    exact h.positions

/-- Without the rule in one place, the names still differ. -/
theorem nodup_eraseIdx (i : Nat) : ((registry.rules.eraseIdx i).map (·.name)).Nodup :=
  h.names.sublist ((List.eraseIdx_sublist _ i).map _)

/-- A rule keeps the index right: a new one gets an entry, and in the place of its namesake the
    names are the same. -/
theorem insert (rule : Rule) : (registry.insert rule).1.Indexed := by
  rw [Registry.insert]
  cases hposition : registry.position? rule.name with
  | some i =>
    -- A rule of that name is replaced at its place, so the names and the index stay.
    obtain ⟨old, hold, hname⟩ := h.position?_eq_some_iff.mp hposition
    refine h.of_names_eq (List.ext_getElem? fun j => ?_)
    rw [Registry.names, List.getElem?_map, List.getElem?_map, List.getElem?_set]
    split
    next hij =>
      subst hij
      rw [if_pos (List.getElem?_eq_some_iff.mp hold).1, hold, Option.map_some, Option.map_some, hname]
    next => rfl
  | none =>
    -- A new name goes to the end of the rules and to the front of the index.
    have hnew := h.position?_eq_none_iff.mp hposition
    refine ⟨?_, ?_⟩
    · show ((registry.rules ++ [rule]).map (·.name)).Nodup
      rw [((List.perm_append_singleton rule registry.rules).map _).nodup_iff]
      exact List.nodup_cons.mpr ⟨hnew, h.names⟩
    · show ((rule.name, registry.rules.length) :: registry.positions).Perm
        (indexOf (registry.rules ++ [rule]))
      rw [indexOf_append_singleton]
      exact (h.positions.cons _).trans (List.perm_append_singleton ..).symm

/-- Without a rule the index is made anew, and the other names still differ. -/
theorem remove (name : String) : (registry.remove name).1.Indexed := by
  rw [Registry.remove]
  cases registry.position? name with
  | some i => exact indexed_reindexed (h.nodup_eraseIdx i)
  | none => exact h

/-- A switch changes no name. -/
theorem setEnabled (name : String) (enabled : Bool) :
    (registry.setEnabled name enabled).1.Indexed := by
  rw [Registry.setEnabled]
  cases registry.position? name with
  | some i =>
    refine h.of_names_eq (List.ext_getElem? fun j => ?_)
    rw [Registry.names, List.getElem?_map, List.getElem?_map, List.getElem?_modify]
    cases registry.rules[j]? with
    | none => rfl
    | some rule =>
      show Option.map _ (some _) = _
      split <;> rfl
  | none => exact h

/-- A name that no rule has can be given to the rule in any place. -/
theorem nodup_set {i : Nat} {rule : Rule} (hi : i < registry.rules.length)
    (hnew : rule.name ∉ registry.names) :
    ((registry.rules.set i rule).map (·.name)).Nodup := by
  rw [(map_name_set_perm hi rule).nodup_iff, List.nodup_cons]
  refine ⟨fun hmem => hnew ?_, h.nodup_eraseIdx i⟩
  exact ((List.eraseIdx_sublist _ i).map _).mem hmem

/-- So can the name of another rule, when that is taken out. -/
theorem nodup_set_eraseIdx {i j : Nat} {rule other : Rule} (hi : i < registry.rules.length)
    (hj : registry.rules[j]? = some other) (hname : other.name = rule.name) (hij : i ≠ j) :
    (((registry.rules.set i rule).eraseIdx j).map (·.name)).Nodup := by
  have hset : (registry.rules.set i rule)[j]? = some other := by
    rw [List.getElem?_set_ne hij]
    exact hj
  obtain ⟨hlt, hget⟩ := List.getElem?_eq_some_iff.mp hset
  have hout := (List.getElem_cons_eraseIdx_perm hlt).map (·.name)
  rw [hget, List.map_cons, hname] at hout
  have hperm := (hout.trans (map_name_set_perm hi rule)).cons_inv
  exact hperm.nodup_iff.mpr (h.nodup_eraseIdx i)

/-- A rule in the place of another keeps the names different, as whoever has the new name gives
    way. -/
theorem replace (name : String) (rule : Rule) : (registry.replace name rule).1.Indexed := by
  rw [Registry.replace]
  cases hposition : registry.position? name with
  | none => exact h
  | some i =>
    obtain ⟨old, hold, hname⟩ := h.position?_eq_some_iff.mp hposition
    have hi := (List.getElem?_eq_some_iff.mp hold).1
    by_cases hsame : rule.name = name
    · simp only [if_pos hsame]
      refine indexed_reindexed ?_
      -- the name comes back to where it was: as if the rule were inserted
      have hinsert := (h.insert rule).names
      rw [Registry.insert, hsame, hposition] at hinsert
      exact hinsert
    · simp only [if_neg hsame]
      cases hclash : registry.position? rule.name with
      | none => exact indexed_reindexed (h.nodup_set hi (h.position?_eq_none_iff.mp hclash))
      | some j =>
        obtain ⟨other, hother, hothername⟩ := h.position?_eq_some_iff.mp hclash
        refine indexed_reindexed (h.nodup_set_eraseIdx hi hother hothername ?_)
        rintro rfl
        obtain rfl : old = other := Option.some.inj (hold.symm.trans hother)
        exact hsame (hothername.symm.trans hname)

end Indexed

/-! ## Reach -/

/-- The registries that the operations make. -/
inductive Reachable : Registry → Prop
  | empty : Reachable empty
  | insert {registry : Registry} (h : Reachable registry) (rule : Rule) :
      Reachable (registry.insert rule).1
  | remove {registry : Registry} (h : Reachable registry) (name : String) :
      Reachable (registry.remove name).1
  | replace {registry : Registry} (h : Reachable registry) (name : String) (rule : Rule) :
      Reachable (registry.replace name rule).1
  | setEnabled {registry : Registry} (h : Reachable registry) (name : String) (enabled : Bool) :
      Reachable (registry.setEnabled name enabled).1

/-- **Every registry that operations make is indexed.** -/
theorem Reachable.indexed {registry : Registry} (h : registry.Reachable) : registry.Indexed := by
  induction h with
  | empty => exact indexed_empty
  | insert _ rule ih => exact ih.insert rule
  | remove _ name ih => exact ih.remove name
  | replace _ name rule ih => exact ih.replace name rule
  | setEnabled _ name enabled ih => exact ih.setEnabled name enabled

/-- So are those that are made of stored rules. -/
theorem reachable_ofRuleSet (set : RuleSet) : (ofRuleSet set).Reachable := by
  have hinserted : ∀ (rules : List Rule) {registry : Registry}, registry.Reachable →
      (rules.foldl (fun registry rule => (registry.insert rule).1) registry).Reachable := by
    intro rules
    induction rules with
    | nil => exact fun h => h
    | cons rule rules ih => exact fun h => ih (h.insert rule)
  exact hinserted set.rules .empty

end TableRules.Registry
