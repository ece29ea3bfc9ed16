/-
  THE REGISTRY: every rule that was defined, in order, each name once.

  1. **Two structures** — the list of rules, and an index from each name to the position of its
     rule.  Operations that shift positions rebuild the index.

  2. **Names** — `get?` takes a name exactly; `getIgnoringCase?` falls back on the first rule
     whose name is the same up to ASCII case.

  3. **Operations** — `insert` puts a rule in the place of its namesake or at the end;
     `remove` takes a rule out; `replace` puts a rule in the place of a named one and drops any
     other rule that already had the new name; `setEnabled` switches a rule on or off.  What
     they displace, or whether there was such a rule, comes with the new registry.
-/
import TableRules.Rule

namespace TableRules

/-- The rules that were defined, with an index of their names. -/
structure Registry where
  rules : List Rule
  positions : List (String × Nat)
deriving DecidableEq

namespace Registry

/-- The registry without rules. -/
def empty : Registry := ⟨[], []⟩

/-- The index of a list of rules. -/
def indexOf (rules : List Rule) : List (String × Nat) :=
  rules.zipIdx.map fun (rule, i) => (rule.name, i)

/-- The registry of a list of rules whose names differ. -/
def reindexed (rules : List Rule) : Registry := ⟨rules, indexOf rules⟩

/-! ## Looking up -/

/-- The position of the rule of that name. -/
def position? (registry : Registry) (name : String) : Option Nat := registry.positions.lookup name

/-- The rule of exactly that name. -/
def get? (registry : Registry) (name : String) : Option Rule :=
  (registry.position? name).bind (registry.rules[·]?)

/-- The rule of that name, or the first whose name differs only in ASCII case. -/
def getIgnoringCase? (registry : Registry) (name : String) : Option Rule :=
  (registry.get? name).or (registry.rules.find? fun rule => Text.sameIgnoringCase rule.name name)

/-- A rule that is found is one of the registry. -/
theorem mem_of_get? {registry : Registry} {name : String} {rule : Rule}
    (h : registry.get? name = some rule) : rule ∈ registry.rules := by
  obtain ⟨i, _, hi⟩ := Option.bind_eq_some_iff.mp h
  exact List.mem_of_getElem? hi

/-- The same without regard to case. -/
theorem mem_of_getIgnoringCase? {registry : Registry} {name : String} {rule : Rule}
    (h : registry.getIgnoringCase? name = some rule) : rule ∈ registry.rules := by
  rcases Option.or_eq_some_iff.mp h with h | ⟨_, h⟩
  · exact mem_of_get? h
  · exact List.mem_of_find?_eq_some h

/-- Is there a rule of exactly that name? -/
def contains (registry : Registry) (name : String) : Bool := (registry.position? name).isSome

/-- The names in order. -/
def names (registry : Registry) : List String := registry.rules.map (·.name)

/-- The rules that are switched on. -/
def enabledRules (registry : Registry) : List Rule := registry.rules.filter (·.enabled)

/-- The number of rules. -/
def size (registry : Registry) : Nat := registry.rules.length

/-- Are there no rules? -/
def isEmpty (registry : Registry) : Bool := registry.rules.isEmpty

/-! ## Changing -/

/-- Puts a rule in the place of its namesake, which comes back, or at the end. -/
def insert (registry : Registry) (rule : Rule) : Registry × Option Rule :=
  match registry.position? rule.name with
  | some i => (⟨registry.rules.set i rule, registry.positions⟩, registry.rules[i]?)
  | none =>
    (⟨registry.rules ++ [rule], (rule.name, registry.rules.length) :: registry.positions⟩, none)

/-- Takes out the rule of that name. -/
def remove (registry : Registry) (name : String) : Registry × Option Rule :=
  match registry.position? name with
  | some i => (reindexed (registry.rules.eraseIdx i), registry.rules[i]?)
  | none => (registry, none)

/-- Puts a rule, which may have another name, in the place of the one of that name, and drops
    any other rule that already has the new name. -/
def replace (registry : Registry) (name : String) (rule : Rule) : Registry × Option Rule :=
  match registry.position? name with
  | none => (registry, none)
  | some i =>
    let rules := registry.rules.set i rule
    let clash := if rule.name = name then none else registry.position? rule.name
    match clash with
    | some j => (reindexed (rules.eraseIdx j), registry.rules[i]?)
    | none => (reindexed rules, registry.rules[i]?)

/-- Switches the rule of that name on or off, if there is one. -/
def setEnabled (registry : Registry) (name : String) (enabled : Bool) : Registry × Bool :=
  match registry.position? name with
  | some i =>
    (⟨registry.rules.modify i fun rule => { rule with enabled }, registry.positions⟩, true)
  | none => (registry, false)

/-! ## Storing -/

/-- The rules as a rule set. -/
def toRuleSet (registry : Registry) : RuleSet := .ofRules registry.rules

/-- The registry of a rule set: its rules inserted in order, so that of two namesakes the
    second stands in the place of the first. -/
def ofRuleSet (set : RuleSet) : Registry :=
  set.rules.foldl (fun registry rule => (registry.insert rule).1) empty

end Registry

end TableRules
