/-
  PLACES: where the rule stands that a name finds.

  Two rules may be equal and yet stand in different places, so what a name finds is a place.

  1. **Places** — `place?` goes through the four ways of a lookup and gives the place, where `get?`
     gives the rule that stands there (`get?_eq_bind_place?`).

  2. **Preference** — of all places whose rule has a name like the one that is asked for, that is
     CHOSEN whose rule has exactly this name; of these, or if there is none, the first, supplied
     rules before those of the registry.  So much is true of at most one place
     (`Chosen.unique`), and of the one that is found (`chosen_of_place?`).

  3. **Names stand for places** — the places that have a name like the rule's own are the same, so
     what is chosen for a name is chosen for the name of its rule (`Chosen.own_name`).

  The crux is `chosen_of_place?`: four searches one after the other, each with a meaning of its own
  and each tried only where those before it failed, come to one preference that does not speak of
  searches.  After that the four are never looked at again.  A rule that was found by a name that it
  has only up to case is chosen for its own name too, because no other rule has that name exactly
  and comes before it: it would be like the first name as well, and would have been chosen there.
-/
import TableRules.Proofs.Canonical

namespace TableRules

/-! ## Places

  The same four searches as in a lookup, for positions in place of rules. -/

/-- Where a rule stands: among the rules of a validation, or in the registry. -/
inductive Place
  | supplied (i : Nat)
  | registered (i : Nat)
deriving DecidableEq

namespace Place

/-- The supplied rules come first. -/
def Precedes : Place → Place → Prop
  | supplied i, supplied j => i ≤ j
  | supplied _, registered _ => True
  | registered _, supplied _ => False
  | registered i, registered j => i ≤ j

/-- Of two places that come before each other there is only one. -/
theorem Precedes.antisymm {place other : Place} (h : place.Precedes other)
    (h' : other.Precedes place) : place = other := by
  cases place with
  | supplied i =>
    cases other with
    | supplied j => exact congrArg supplied (Nat.le_antisymm h h')
    | registered j => exact h'.elim
  | registered i =>
    cases other with
    | supplied j => exact h.elim
    | registered j => exact congrArg registered (Nat.le_antisymm h h')

end Place

namespace Lookup

/-- The rule in a place. -/
def ruleAt? (lookup : Lookup) : Place → Option Rule
  | .supplied i => lookup.supplied[i]?
  | .registered i => lookup.registry.rules[i]?

/-- The place of the rule that a name refers to. -/
def place? (lookup : Lookup) (name : String) : Option Place :=
  ((lookup.supplied.findIdx? fun rule => rule.name == name).map .supplied).or <|
  ((lookup.registry.position? name).map .registered).or <|
  ((lookup.supplied.findIdx? fun rule => Text.sameIgnoringCase rule.name name).map .supplied).or <|
  ((lookup.registry.position? name).or
    (lookup.registry.rules.findIdx? fun rule => Text.sameIgnoringCase rule.name name)).map
      .registered

variable {lookup : Lookup} {name : String} {place : Place} {rule : Rule}

/-- The rules of a lookup are those that stand in some place. -/
theorem mem_rules_iff : rule ∈ lookup.rules ↔ ∃ place, lookup.ruleAt? place = some rule := by
  rw [rules, List.mem_append, List.mem_iff_getElem?, List.mem_iff_getElem?]
  constructor
  · rintro (⟨i, hi⟩ | ⟨i, hi⟩)
    · exact ⟨.supplied i, hi⟩
    · exact ⟨.registered i, hi⟩
  · rintro ⟨i | i, hi⟩
    · exact .inl ⟨i, hi⟩
    · exact .inr ⟨i, hi⟩

/-- The first of a class in a list. -/
theorem findIdx?_least {p : Rule → Bool} {rules : List Rule} {i : Nat}
    (h : rules.findIdx? p = some i) : ∃ rule, rules[i]? = some rule ∧ p rule = true ∧
      ∀ j target, rules[j]? = some target → p target = true → i ≤ j := by
  obtain ⟨hlt, hp, hbefore⟩ := List.findIdx?_eq_some_iff_getElem.mp h
  refine ⟨rules[i], List.getElem?_eq_getElem hlt, hp, fun j target hj hp' => ?_⟩
  refine Nat.le_of_not_lt fun hji => hbefore j hji ?_
  obtain ⟨_, rfl⟩ := List.getElem?_eq_some_iff.mp hj
  exact hp'

/-- A class that no rule is in. -/
theorem findIdx?_none {p : Rule → Bool} {rules : List Rule} (h : rules.findIdx? p = none) {j : Nat}
    {target : Rule} (hj : rules[j]? = some target) : p target = false :=
  List.findIdx?_eq_none_iff.mp h target (List.mem_of_getElem? hj)

/-- A name that no supplied rule has. -/
theorem supplied_name_ne (h : lookup.supplied.findIdx? (fun rule => rule.name == name) = none)
    {j : Nat} {target : Rule} (hj : lookup.ruleAt? (.supplied j) = some target) :
    target.name ≠ name :=
  beq_eq_false_iff_ne.mp (findIdx?_none h hj)

/-- Where the first of two gives nothing, the second is asked. -/
theorem or_bind {α β : Type} {a b : Option α} {f : α → Option β}
    (h : ∀ x ∈ a, (f x).isSome = true) : (a.or b).bind f = (a.bind f).or (b.bind f) := by
  cases a with
  | none => rfl
  | some x =>
    obtain ⟨y, hy⟩ := Option.isSome_iff_exists.mp (h x rfl)
    rw [Option.some_or, Option.bind_some, hy, Option.some_or]

/-- **The rule that is found** stands in the place that is found. -/
theorem get?_eq_bind_place? (hindexed : lookup.registry.Indexed) (name : String) :
    lookup.get? name = (lookup.place? name).bind lookup.ruleAt? := by
  -- the first and the third way, by any test; then the second and the fourth, in the registry
  have hsupplied : ∀ p : Rule → Bool,
      (∀ place ∈ (lookup.supplied.findIdx? p).map .supplied,
        (lookup.ruleAt? place).isSome = true) ∧
      ((lookup.supplied.findIdx? p).map .supplied).bind lookup.ruleAt? = lookup.supplied.find? p := by
    intro p
    refine ⟨fun place hplace => ?_, ?_⟩
    · obtain ⟨i, hi, rfl⟩ := Option.map_eq_some_iff.mp hplace
      obtain ⟨rule, hrule, -, -⟩ := findIdx?_least hi
      exact Option.isSome_of_eq_some hrule
    · rw [List.find?_eq_bind_findIdx?_getElem?, Option.bind_map]
      rfl
  have hposition : ∀ i ∈ lookup.registry.position? name,
      (lookup.registry.rules[i]?).isSome = true := by
    intro i hi
    obtain ⟨rule, hrule, -⟩ := hindexed.position?_eq_some_iff.mp hi
    exact Option.isSome_of_eq_some hrule
  have hregistered : ∀ place ∈ (lookup.registry.position? name).map Place.registered,
      (lookup.ruleAt? place).isSome = true := by
    intro place hplace
    obtain ⟨i, hi, rfl⟩ := Option.map_eq_some_iff.mp hplace
    exact hposition i hi
  rw [place?, or_bind (hsupplied _).1, or_bind hregistered, or_bind (hsupplied _).1, (hsupplied _).2,
    (hsupplied _).2, Option.bind_map, Option.bind_map]
  rw [show lookup.ruleAt? ∘ Place.registered = (lookup.registry.rules[·]?) from rfl,
    or_bind hposition, ← List.find?_eq_bind_findIdx?_getElem?]
  rfl

/-! ## Preference

  The four searches in one line: whoever is found is the first of the best. -/

/-- The place is the best one for the name: its rule has that name, up to ASCII case, no other has
    it exactly unless this one does, and of those that are as good it comes first. -/
structure Chosen (lookup : Lookup) (name : String) (place : Place) (rule : Rule) : Prop where
  /-- The rule stands there. -/
  ruleAt : lookup.ruleAt? place = some rule
  /-- Its name is like the one that is asked for. -/
  like : Text.sameIgnoringCase rule.name name = true
  /-- If a rule has exactly this name, then it does. -/
  exactly : ∀ other target, lookup.ruleAt? other = some target → target.name = name →
    rule.name = name
  /-- Of those that are as good it comes first. -/
  first : ∀ other target, lookup.ruleAt? other = some target →
    Text.sameIgnoringCase target.name name = true → (target.name = name ↔ rule.name = name) →
      place.Precedes other

namespace Chosen

/-- **At most one place is chosen.** -/
theorem unique {other : Place} {target : Rule} (h : lookup.Chosen name place rule)
    (h' : lookup.Chosen name other target) : place = other := by
  have hexact : target.name = name ↔ rule.name = name :=
    ⟨h.exactly other target h'.ruleAt, h'.exactly place rule h.ruleAt⟩
  exact (h.first other target h'.ruleAt h'.like hexact).antisymm
    (h'.first place rule h.ruleAt h.like hexact.symm)

/-- **What is chosen for a name is chosen for the name of its rule.** -/
theorem own_name (h : lookup.Chosen name place rule) : lookup.Chosen rule.name place rule := by
  refine ⟨h.ruleAt, beq_self_eq_true _, fun _ _ _ _ => rfl, fun other target hother _ hsame => ?_⟩
  -- rules of the same name are as good for any name
  have hname : target.name = rule.name := hsame.mpr rfl
  refine h.first other target hother ?_ ?_
  · rw [hname]
    exact h.like
  · rw [hname]

end Chosen

/-- Of the rules of exactly that name the first is chosen. -/
theorem Chosen.of_exact (hrule : lookup.ruleAt? place = some rule) (hname : rule.name = name)
    (hfirst : ∀ other target, lookup.ruleAt? other = some target → target.name = name →
      place.Precedes other) : lookup.Chosen name place rule where
  ruleAt := hrule
  like := by rw [hname]; exact beq_self_eq_true _
  exactly := fun _ _ _ _ => hname
  first := fun other target hother _ hsame => hfirst other target hother (hsame.mpr hname)

/-- If there is none, the first of those whose names are like that one. -/
theorem Chosen.of_like
    (hnone : ∀ other target, lookup.ruleAt? other = some target → target.name ≠ name)
    (hrule : lookup.ruleAt? place = some rule)
    (hlike : Text.sameIgnoringCase rule.name name = true)
    (hfirst : ∀ other target, lookup.ruleAt? other = some target →
      Text.sameIgnoringCase target.name name = true → place.Precedes other) :
    lookup.Chosen name place rule where
  ruleAt := hrule
  like := hlike
  exactly := fun other target hother hname => absurd hname (hnone other target hother)
  first := fun other target hother htarget _ => hfirst other target hother htarget

/-- **The place that is found is chosen**, in an indexed registry. -/
theorem chosen_of_place? (hindexed : lookup.registry.Indexed) (h : lookup.place? name = some place) :
    ∃ rule, lookup.Chosen name place rule := by
  rw [place?, Option.or_eq_some_iff, Option.or_eq_some_iff, Option.or_eq_some_iff] at h
  rcases h with h | ⟨hsupplied, h | ⟨hregistry, h⟩⟩
  · -- a supplied rule of exactly that name
    obtain ⟨i, hi, rfl⟩ := Option.map_eq_some_iff.mp h
    obtain ⟨rule, hrule, hname, hleast⟩ := findIdx?_least hi
    refine ⟨rule, .of_exact hrule (beq_iff_eq.mp hname) fun other target hother htarget => ?_⟩
    cases other with
    | supplied j => exact hleast j target hother (beq_iff_eq.mpr htarget)
    | registered j => trivial
  · -- a rule of the registry of exactly that name, which no supplied one has
    obtain ⟨i, hi, rfl⟩ := Option.map_eq_some_iff.mp h
    obtain ⟨rule, hrule, hname⟩ := hindexed.position?_eq_some_iff.mp hi
    refine ⟨rule, .of_exact hrule hname fun other target hother htarget => ?_⟩
    cases other with
    | supplied j =>
      exact absurd htarget (supplied_name_ne (Option.map_eq_none_iff.mp hsupplied) hother)
    | registered j =>
      have hj := hindexed.position?_eq_some_iff.mpr ⟨target, hother, htarget⟩
      exact Nat.le_of_eq (Option.some.inj (hi.symm.trans hj))
  · have hposition := Option.map_eq_none_iff.mp hregistry
    have hnone : ∀ other target, lookup.ruleAt? other = some target → target.name ≠ name := by
      intro other target hother htarget
      cases other with
      | supplied j =>
        exact supplied_name_ne (Option.map_eq_none_iff.mp hsupplied) hother htarget
      | registered j =>
        have hj := hindexed.position?_eq_some_iff.mpr ⟨target, hother, htarget⟩
        exact nomatch hposition.symm.trans hj
    rcases h with h | ⟨hlikes, h⟩
    · -- a supplied rule of a name like that one
      obtain ⟨i, hi, rfl⟩ := Option.map_eq_some_iff.mp h
      obtain ⟨rule, hrule, hlike, hleast⟩ := findIdx?_least hi
      refine ⟨rule, .of_like hnone hrule hlike fun other target hother htarget => ?_⟩
      cases other with
      | supplied j => exact hleast j target hother htarget
      | registered j => trivial
    · -- a rule of the registry of a name like that one, which no supplied one has
      rw [hposition, Option.none_or] at h
      obtain ⟨i, hi, rfl⟩ := Option.map_eq_some_iff.mp h
      obtain ⟨rule, hrule, hlike, hleast⟩ := findIdx?_least hi
      refine ⟨rule, .of_like hnone hrule hlike fun other target hother htarget => ?_⟩
      cases other with
      | supplied j =>
        have hnot := findIdx?_none (Option.map_eq_none_iff.mp hlikes) hother
        exact absurd htarget (Bool.eq_false_iff.mp hnot)
      | registered j => exact hleast j target hother htarget

/-! ## Names stand for places -/

/-- **What is found is what is chosen**: the place and the rule. -/
theorem chosen_iff (hindexed : lookup.registry.Indexed) :
    lookup.Chosen name place rule ↔
      lookup.place? name = some place ∧ lookup.get? name = some rule := by
  constructor
  · intro h
    -- there is such a rule, so one is found, and that is chosen too
    have hsome := isSome_get?_of_like (mem_rules_iff.mpr ⟨place, h.ruleAt⟩) h.like
    obtain ⟨found, hfound⟩ := Option.isSome_iff_exists.mp hsome
    have hget := get?_eq_bind_place? hindexed name
    rw [hfound, eq_comm, Option.bind_eq_some_iff] at hget
    obtain ⟨other, hother, hat⟩ := hget
    obtain ⟨target, hchosen⟩ := chosen_of_place? hindexed hother
    obtain rfl := h.unique hchosen
    rw [h.ruleAt] at hat
    exact ⟨hother, hfound.trans hat.symm⟩
  · rintro ⟨hplace, hget⟩
    obtain ⟨target, hchosen⟩ := chosen_of_place? hindexed hplace
    rw [get?_eq_bind_place? hindexed, hplace, Option.bind_some, hchosen.ruleAt] at hget
    rwa [Option.some.inj hget] at hchosen

/-- **Names stand for places.**  The rule that is found is found by its own name, in the same place,
    and whatever name finds a rule of this name finds it there.  A rule is found whenever there is
    one of a name like that: one of exactly that name if there is any, and of these, or else of all,
    the first, supplied rules before those of the registry. -/
theorem names_stand_for_places {registry : Registry} (hregistry : registry.Reachable)
    (supplied : List Rule) (name : String) :
    let lookup : Lookup := ⟨supplied, registry⟩
    (∀ rule, lookup.get? name = some rule → ∃ place,
      lookup.place? name = some place ∧ lookup.ruleAt? place = some rule ∧
      lookup.place? rule.name = some place ∧ lookup.get? rule.name = some rule ∧
      ∀ other target, lookup.get? other = some target → target.name = rule.name →
        lookup.place? other = some place) ∧
    ((∃ rule ∈ supplied ++ registry.rules, Text.sameIgnoringCase rule.name name = true) →
      ∃ place rule, lookup.place? name = some place ∧ lookup.get? name = some rule ∧
        lookup.Chosen name place rule) := by
  intro lookup
  have hindexed : lookup.registry.Indexed := hregistry.indexed
  have hchosen : ∀ {name rule}, lookup.get? name = some rule →
      ∃ place, lookup.Chosen name place rule := by
    intro name rule hget
    have hbind := get?_eq_bind_place? hindexed name
    rw [hget, eq_comm, Option.bind_eq_some_iff] at hbind
    obtain ⟨place, hplace, -⟩ := hbind
    exact ⟨place, (chosen_iff hindexed).mpr ⟨hplace, hget⟩⟩
  constructor
  · intro rule hget
    obtain ⟨place, h⟩ := hchosen hget
    obtain ⟨hplace, hrule⟩ := (chosen_iff hindexed).mp h.own_name
    refine ⟨place, ((chosen_iff hindexed).mp h).1, h.ruleAt, hplace, hrule, ?_⟩
    intro other target hother hname
    obtain ⟨place', h'⟩ := hchosen hother
    -- both places are chosen for the one name, so they are the same
    have hown := h'.own_name
    rw [hname] at hown
    rw [hown.unique h.own_name] at h'
    exact ((chosen_iff hindexed).mp h').1
  · rintro ⟨rule, hmem, hlike⟩
    have hsome : (lookup.get? name).isSome = true := isSome_get?_of_like hmem hlike
    obtain ⟨found, hfound⟩ := Option.isSome_iff_exists.mp hsome
    obtain ⟨place, h⟩ := hchosen hfound
    exact ⟨place, found, ((chosen_iff hindexed).mp h).1, hfound, h⟩

/-- A name in other letters, next to a rule that is supplied twice. -/
theorem names_stand_for_places_of_twins :
    let twin := Rule.ofConditions "r1" [] [] "A > 1"
    let registered := Rule.ofConditions "R1" [] [] "A > 2"
    let main := Rule.ofConditions "main" [] [] "A > 3"
    let registry := ((Registry.empty.insert registered).1.insert main).1
    let lookup : Lookup := ⟨[twin, twin], registry⟩
    registry.Reachable ∧ lookup.get? "MAIN" = some main ∧
      lookup.place? "main" = some (.registered 1) ∧ lookup.get? "main" = some main ∧
      lookup.Chosen "R1" (.registered 0) registered := by
  intro twin registered main registry lookup
  have hregistry : registry.Reachable := (Registry.Reachable.empty.insert _).insert _
  have hget : lookup.get? "MAIN" = some main := by decide +kernel
  have hplaces : lookup.place? "MAIN" = some (.registered 1) ∧
      lookup.place? "R1" = some (.registered 0) ∧ lookup.get? "R1" = some registered := by
    decide +kernel
  obtain ⟨hmain, hplace, hrule⟩ := hplaces
  obtain ⟨place, hfound, -, hown, hagain, -⟩ :=
    (names_stand_for_places hregistry [twin, twin] "MAIN").1 main hget
  obtain ⟨place', rule, hfound', hrule', hchosen⟩ :=
    (names_stand_for_places hregistry [twin, twin] "R1").2 ⟨twin, by decide +kernel⟩
  obtain rfl := Option.some.inj (hmain.symm.trans hfound)
  obtain rfl := Option.some.inj (hplace.symm.trans hfound')
  obtain rfl := Option.some.inj (hrule.symm.trans hrule')
  exact ⟨hregistry, hget, hown, hagain, hchosen⟩

end Lookup

end TableRules
