/-
  ORDERED RULES: what the operations of a registry do, told without its index.

  1. **The list** — a registry stands for a list of rules of different names.  On that list an
     operation is one line: `put` a rule in the place of its namesake or at the end, go on
     `without` one, `exchange` one for another, `switch` one on or off; and `latest`, which keeps
     of each name the first place and the last content.

  2. **Operations** — each does to the rules of an indexed registry what its line says, and
     answers with the rule that the name had.

  3. **The parser** — all it does to a registry is to put the rules that it accepts, and which
     these are depends on the rules there, not on the order of the index.

  4. **Runs** — every operation takes a registry that stands for a list to one that stands for
     the list that its line makes; so does every sequence of them (`stands_after`).

  The crux is `replace`, when another rule has the new name already.  The registry sets the rule
  in place first and erases the other one after, at a position that it looked up before; the line
  of `exchange` filters first and changes after.  They agree because setting a rule moves no
  other (`eraseIdx_change`), and because the rule that is replaced is kept by the filter: its own
  name is not the new one.  The second difficulty is that parsing takes a whole registry, index
  and all, while its line has only the rules.  `Alike` bridges the two: what has the same rules
  and gives the same positions is not told apart by the parser, so the line may parse with an
  index made afresh.
-/
import Mathlib.Data.List.Induction
import TableRules.Parser
import TableRules.Proofs.FirstAppearances
import TableRules.Proofs.RegistryIndex

namespace TableRules

/-! ## The list -/

namespace OrderedRules

/-- The rule of that name. -/
def named? (rules : List Rule) (name : String) : Option Rule := rules.find? (·.name == name)

/-- The rule of that name made another, in its place. -/
def change (rules : List Rule) (name : String) (f : Rule → Rule) : List Rule :=
  rules.map fun rule => if rule.name = name then f rule else rule

/-- A rule in the place of its namesake, or at the end. -/
def put (rules : List Rule) (rule : Rule) : List Rule :=
  if (named? rules rule.name).isSome then change rules rule.name fun _ => rule else rules ++ [rule]

/-- All but the rule of that name. -/
def without (rules : List Rule) (name : String) : List Rule := rules.filter (·.name != name)

/-- A rule in the place of the one of that name, and no other rule of its own name. -/
def exchange (rules : List Rule) (name : String) (rule : Rule) : List Rule :=
  if (named? rules name).isSome then
    change (rules.filter fun old => old.name == name || old.name != rule.name) name fun _ => rule
  else rules

/-- The rule of that name on or off. -/
def switch (rules : List Rule) (name : String) (enabled : Bool) : List Rule :=
  change rules name fun rule => { rule with enabled }

/-- Rules put one after the other. -/
def putAll (rules : List Rule) (more : List Rule) : List Rule := more.foldl put rules

/-- Of each name, in the order of their first rules, the last rule. -/
def latest (rules : List Rule) : List Rule :=
  (rules.map (·.name)).eraseDups.filterMap (named? rules.reverse)

/-- What is found under a name has that name. -/
theorem name_of_named? {rules : List Rule} {name : String} {rule : Rule}
    (h : named? rules name = some rule) : rule.name = name :=
  beq_iff_eq.mp (List.find?_eq_some_iff_append.mp h).1

/-- There is a rule of a name where the name is one of the rules'. -/
theorem isSome_named? {rules : List Rule} {name : String} :
    (named? rules name).isSome = true ↔ name ∈ rules.map (·.name) := by
  rw [named?, List.find?_isSome, List.mem_map]
  simp only [beq_iff_eq]

/-- There is no rule of a name that none of the rules has. -/
theorem named?_eq_none {rules : List Rule} {name : String} :
    named? rules name = none ↔ name ∉ rules.map (·.name) := by
  rw [← isSome_named?, Bool.not_eq_true, Option.isSome_eq_false_iff, Option.isNone_iff_eq_none]

/-- Where names differ, a rule is the one of its name. -/
theorem named?_eq_some {rules : List Rule} (h : (rules.map (·.name)).Nodup) {name : String}
    {rule : Rule} : named? rules name = some rule ↔ rule ∈ rules ∧ rule.name = name := by
  constructor
  · exact fun hfound => ⟨List.mem_of_find?_eq_some hfound, name_of_named? hfound⟩
  · rintro ⟨hmem, rfl⟩
    obtain ⟨other, hother⟩ := Option.isSome_iff_exists.mp
      (isSome_named?.mpr (List.mem_map_of_mem hmem))
    rw [hother, List.inj_on_of_nodup_map h (List.mem_of_find?_eq_some hother) hmem
      (name_of_named? hother)]

/-! ### Places

  In a list of different names, a place is a name. -/

/-- The names of a list that differ, taken apart: the others are not named as the first, and differ
    among themselves. -/
theorem nodup_names_cons {first : Rule} {rules : List Rule}
    (h : ((first :: rules).map (·.name)).Nodup) :
    (∀ rule ∈ rules, rule.name ≠ first.name) ∧ (rules.map (·.name)).Nodup := by
  obtain ⟨hfirst, hrest⟩ := List.nodup_cons.mp h
  exact ⟨fun rule hmem hname => hfirst (List.mem_map.mpr ⟨rule, hmem, hname⟩), hrest⟩

section Places

variable {rules : List Rule} (h : (rules.map (·.name)).Nodup)
include h

/-- A change at a position is a change of the rule that is there: the index says where, the line
    says who. Here and below, names that differ make the two the same. -/
theorem modify_eq_change {i : Nat} {old : Rule} (hold : rules[i]? = some old) (f : Rule → Rule) :
    rules.modify i f = change rules old.name f := by
  induction rules generalizing i with
  | nil => cases hold
  | cons first rules ih =>
    obtain ⟨hfirst, hrest⟩ := nodup_names_cons h
    cases i with
    | zero =>
      obtain rfl := Option.some.inj hold
      rw [List.modify_zero_cons, change, List.map_cons, if_pos rfl, List.cons.injEq]
      -- The first rule has the name, so by `h` none behind it does and the rest stays.
      refine ⟨rfl, (List.map_id' rules).symm.trans (List.map_congr_left fun rule hmem => ?_)⟩
      rw [if_neg (hfirst rule hmem)]
    | succ i =>
      rw [List.getElem?_cons_succ] at hold
      have hne : first.name ≠ old.name := (hfirst old (List.mem_of_getElem? hold)).symm
      rw [List.modify_succ_cons, ih hrest hold, change, change, List.map_cons, if_neg hne]

/-- A rule set at a position takes the place of the one that is there. -/
theorem set_eq_change {i : Nat} {old : Rule} (hold : rules[i]? = some old) (rule : Rule) :
    rules.set i rule = change rules old.name fun _ => rule := by
  rw [List.set_eq_modify, modify_eq_change h hold]

/-- To erase at a position is to go on without the rule that is there. -/
theorem eraseIdx_eq_without {i : Nat} {old : Rule} (hold : rules[i]? = some old) :
    rules.eraseIdx i = without rules old.name := by
  induction rules generalizing i with
  | nil => cases hold
  | cons first rules ih =>
    obtain ⟨hfirst, hrest⟩ := nodup_names_cons h
    cases i with
    | zero =>
      obtain rfl := Option.some.inj hold
      rw [List.eraseIdx_zero, List.tail_cons, without, List.filter_cons_of_neg (by simp)]
      exact (List.filter_eq_self.mpr fun rule hmem => bne_iff_ne.mpr (hfirst rule hmem)).symm
    | succ i =>
      rw [List.getElem?_cons_succ] at hold
      have hne : first.name ≠ old.name := (hfirst old (List.mem_of_getElem? hold)).symm
      rw [List.eraseIdx_cons_succ, ih hrest hold, without, without, List.filter_cons,
        if_pos (bne_iff_ne.mpr hne)]

end Places

/-- A change moves no rule, so it does not matter which of the two is made first. -/
theorem eraseIdx_change (rules : List Rule) (name : String) (f : Rule → Rule) (i : Nat) :
    (change rules name f).eraseIdx i = change (rules.eraseIdx i) name f := by
  simp only [change, List.eraseIdx_eq_take_drop_succ, List.map_append, List.map_take, List.map_drop]

/-! ### The latest rules -/

/-- A rule is among the latest if it is the last one of its name. -/
theorem mem_latest {rules : List Rule} {rule : Rule} :
    rule ∈ latest rules ↔ named? rules.reverse rule.name = some rule := by
  rw [latest, List.mem_filterMap]
  constructor
  · rintro ⟨name, -, hfound⟩
    rwa [name_of_named? hfound]
  · intro hfound
    refine ⟨rule.name, List.mem_eraseDups.mpr (List.mem_map_of_mem ?_), hfound⟩
    exact List.mem_reverse.mp (List.mem_of_find?_eq_some hfound)

/-- The latest rules have the names of all the rules. -/
theorem isSome_named?_latest {rules : List Rule} {name : String} :
    (named? (latest rules) name).isSome = true ↔ name ∈ rules.map (·.name) := by
  rw [isSome_named?, List.mem_map]
  constructor
  · rintro ⟨rule, hrule, rfl⟩
    exact List.mem_map_of_mem (List.mem_reverse.mp (List.mem_of_find?_eq_some (mem_latest.mp hrule)))
  · intro hmem
    rw [← List.mem_reverse, ← List.map_reverse] at hmem
    obtain ⟨rule, hrule⟩ := Option.isSome_iff_exists.mp (isSome_named?.mpr hmem)
    obtain rfl := name_of_named? hrule
    exact ⟨rule, mem_latest.mpr hrule, rfl⟩

/-- One more rule is put among the latest. Its name is known, and then the rule of this name becomes
    the new one where it stands, or else it is new, and then the rule comes last. -/
theorem latest_append_singleton (rules : List Rule) (rule : Rule) :
    latest (rules ++ [rule]) = put (latest rules) rule := by
  have hlast : ∀ name, named? (rules ++ [rule]).reverse name =
      if rule.name = name then some rule else named? rules.reverse name := by
    intro name
    rw [List.reverse_append, List.reverse_singleton, List.singleton_append, named?, List.find?_cons]
    by_cases hname : rule.name = name
    · rw [if_pos hname, beq_iff_eq.mpr hname]
    · rw [if_neg hname, beq_eq_false_iff_ne.mpr hname]
      rfl
  by_cases hknown : rule.name ∈ rules.map (·.name)
  · -- the names stay, and the rule of this name is another
    rw [put, if_pos (isSome_named?_latest.mpr hknown), latest, List.map_append, List.map_singleton,
      eraseDups_append_singleton, if_pos hknown, change, latest, List.map_filterMap]
    refine List.filterMap_congr fun name hname => ?_
    rw [hlast]
    obtain ⟨old, hold⟩ := Option.isSome_iff_exists.mp (isSome_named?.mpr
      (List.map_reverse ▸ List.mem_reverse.mpr (List.mem_eraseDups.mp hname)))
    rw [hold, Option.map_some, name_of_named? hold]
    by_cases heq : rule.name = name
    · rw [if_pos heq, if_pos heq.symm]
    · rw [if_neg heq, if_neg (Ne.symm heq)]
  · -- the name is new, and comes last
    rw [put, if_neg (mt isSome_named?_latest.mp hknown), latest, List.map_append,
      List.map_singleton, eraseDups_append_singleton, if_neg hknown, List.filterMap_append, latest]
    congr 1
    · refine List.filterMap_congr fun name hname => ?_
      rw [hlast, if_neg]
      rintro rfl
      exact hknown (List.mem_eraseDups.mp hname)
    · rw [List.filterMap_cons, hlast, if_pos rfl]
      rfl

/-- **Rules put one after the other are the latest.** -/
theorem putAll_nil (rules : List Rule) : putAll [] rules = latest rules := by
  induction rules using List.reverseRecOn with
  | nil => rfl
  | append_singleton rules rule ih =>
    rw [latest_append_singleton, ← ih, putAll, putAll, List.foldl_append]
    rfl

/-- Rules of different names are the latest themselves. -/
theorem latest_eq_self {rules : List Rule} (h : (rules.map (·.name)).Nodup) :
    latest rules = rules := by
  induction rules using List.reverseRecOn with
  | nil => rfl
  | append_singleton rules rule ih =>
    rw [List.map_append, List.nodup_append] at h
    obtain ⟨hrules, -, hnew⟩ := h
    rw [latest_append_singleton, ih hrules, put, if_neg]
    intro hknown
    exact hnew _ (isSome_named?.mp hknown) _ (List.mem_singleton_self _) rfl

end OrderedRules

open OrderedRules

/-! ## Operations

  Each operation in two cases, whether the name has a place or not. -/

namespace Registry

/-- Rules inserted one after the other. -/
def insertAll (registry : Registry) (rules : List Rule) : Registry :=
  rules.foldl (fun registry rule => (registry.insert rule).1) registry

/-- A registry that can be reached is left reachable by any number of rules. -/
theorem Reachable.insertAll {registry : Registry} (h : registry.Reachable) (rules : List Rule) :
    (registry.insertAll rules).Reachable := by
  induction rules generalizing registry with
  | nil => exact h
  | cons rule rules ih => exact ih (h.insert rule)

namespace Indexed

variable {registry : Registry} (h : registry.Indexed)
include h

/-- A name has no place and no rule, or the place where its rule stands. -/
theorem place (name : String) :
    (registry.position? name = none ∧ name ∉ registry.names) ∨
      ∃ i old, registry.position? name = some i ∧ registry.rules[i]? = some old ∧ old.name = name := by
  cases hposition : registry.position? name with
  | none => exact .inl ⟨rfl, h.position?_eq_none_iff.mp hposition⟩
  | some i =>
    obtain ⟨old, hold, hname⟩ := h.position?_eq_some_iff.mp hposition
    exact .inr ⟨i, old, rfl, hold, hname⟩

/-- A rule of the registry is the one of its name. -/
theorem named?_of_getElem? {i : Nat} {old : Rule} (hold : registry.rules[i]? = some old) :
    named? registry.rules old.name = some old :=
  (named?_eq_some h.names).mpr ⟨List.mem_of_getElem? hold, rfl⟩

/-- Looking up is looking for the name in the list. -/
theorem get?_eq_named? (name : String) : registry.get? name = named? registry.rules name := by
  refine Option.ext fun rule => ?_
  rw [h.get?_eq_some_iff, named?_eq_some h.names]

/-- The rule that an operation displaces, where there is one. -/
theorem insert_rules (rule : Rule) : (registry.insert rule).1.rules = put registry.rules rule ∧
    (registry.insert rule).2 = named? registry.rules rule.name := by
  rw [Registry.insert, put]
  rcases h.place rule.name with ⟨hposition, hnew⟩ | ⟨i, old, hposition, hold, hname⟩
  · rw [named?_eq_none.mpr hnew, hposition]
    exact ⟨rfl, rfl⟩
  · rw [← hname, h.named?_of_getElem? hold, hname, hposition]
    refine ⟨?_, hold⟩
    show registry.rules.set i rule = _
    rw [set_eq_change h.names hold, hname]
    rfl

/-- A rule is taken out by its position, which is the same as going on without its name. -/
theorem remove_rules (name : String) :
    (registry.remove name).1.rules = without registry.rules name ∧
      (registry.remove name).2 = named? registry.rules name := by
  rw [Registry.remove]
  rcases h.place name with ⟨hposition, hnew⟩ | ⟨i, old, hposition, hold, rfl⟩
  · rw [named?_eq_none.mpr hnew, hposition]
    refine ⟨(List.filter_eq_self.mpr fun rule hmem => bne_iff_ne.mpr ?_).symm, rfl⟩
    rintro rfl
    exact hnew (List.mem_map_of_mem hmem)
  · rw [h.named?_of_getElem? hold, hposition]
    exact ⟨eraseIdx_eq_without h.names hold, hold⟩

/-- A rule is switched where it stands, and the answer tells whether there is one. -/
theorem setEnabled_rules (name : String) (enabled : Bool) :
    (registry.setEnabled name enabled).1.rules = switch registry.rules name enabled ∧
      (registry.setEnabled name enabled).2 = (named? registry.rules name).isSome := by
  rw [Registry.setEnabled]
  rcases h.place name with ⟨hposition, hnew⟩ | ⟨i, old, hposition, hold, rfl⟩
  · rw [named?_eq_none.mpr hnew, hposition]
    refine ⟨(List.map_id' _).symm.trans (List.map_congr_left fun rule hmem => ?_), rfl⟩
    rw [if_neg]
    rintro rfl
    exact hnew (List.mem_map_of_mem hmem)
  · rw [h.named?_of_getElem? hold, hposition]
    exact ⟨modify_eq_change h.names hold _, rfl⟩

/-- A rule is put in the place of another, whatever its own name. Three cases: no other rule has the
    new name, or the rule keeps its name, or a third rule gives way. -/
theorem replace_rules (name : String) (rule : Rule) :
    (registry.replace name rule).1.rules = exchange registry.rules name rule ∧
      (registry.replace name rule).2 = named? registry.rules name := by
  rw [Registry.replace, exchange]
  rcases h.place name with ⟨hposition, hnew⟩ | ⟨i, old, hposition, hold, rfl⟩
  · rw [named?_eq_none.mpr hnew, hposition]
    exact ⟨rfl, rfl⟩
  · rw [h.named?_of_getElem? hold, hposition]
    -- without another rule of the new name, nothing is dropped
    have hkept (hall : ∀ other ∈ registry.rules, other.name = old.name ∨ other.name ≠ rule.name) :
        registry.rules.set i rule = change (registry.rules.filter fun other =>
          other.name == old.name || other.name != rule.name) old.name fun _ => rule := by
      rw [set_eq_change h.names hold, List.filter_eq_self.mpr]
      intro other hother
      simpa using hall other hother
    by_cases hsame : rule.name = old.name
    · simp only [if_pos hsame]
      refine ⟨hkept fun other _ => ?_, hold⟩
      rw [hsame]
      exact em _
    · simp only [if_neg hsame]
      rcases h.place rule.name with ⟨hclash, hnew⟩ | ⟨j, other, hclash, hother, hname⟩
      · rw [hclash]
        refine ⟨hkept fun other hmem => .inr fun hname => ?_, hold⟩
        exact hnew (hname ▸ List.mem_map_of_mem hmem)
      · rw [hclash]
        refine ⟨?_, hold⟩
        show (registry.rules.set i rule).eraseIdx j = _
        rw [set_eq_change h.names hold, eraseIdx_change, eraseIdx_eq_without h.names hother, hname,
          without]
        refine congrArg (change · old.name fun _ => rule) (List.filter_congr fun other _ => ?_)
        -- the rule that is replaced has not the new name
        by_cases hother : other.name = old.name
        · simp [hother, Ne.symm hsame]
        · simp [hother]

/-- Rules inserted one after the other keep the index right and are put among the rules. -/
theorem insertAll (rules : List Rule) : (registry.insertAll rules).Indexed ∧
    (registry.insertAll rules).rules = putAll registry.rules rules := by
  induction rules generalizing registry with
  | nil => exact ⟨h, rfl⟩
  | cons rule rules ih =>
    obtain ⟨hindexed, hrules⟩ := ih (h.insert rule)
    refine ⟨hindexed, hrules.trans ?_⟩
    rw [(h.insert_rules rule).1]
    rfl

end Indexed

/-- An operation on a name that no rule has changes nothing. -/
theorem Indexed.unknown {registry : Registry} (h : registry.Indexed) {name : String}
    (hunknown : name ∉ registry.names) :
    registry.remove name = (registry, none) ∧
      (∀ rule, registry.replace name rule = (registry, none)) ∧
      ∀ enabled, registry.setEnabled name enabled = (registry, false) := by
  have hposition := h.position?_eq_none_iff.mpr hunknown
  refine ⟨?_, fun rule => ?_, fun enabled => ?_⟩
  · rw [Registry.remove, hposition]
  · rw [Registry.replace, hposition]
  · rw [Registry.setEnabled, hposition]

/-- **Stored rules** come back with the first place and the last content of each name. -/
theorem ofRuleSet_rules (set : RuleSet) : (ofRuleSet set).rules = latest set.rules :=
  (indexed_empty.insertAll set.rules).2.trans (putAll_nil set.rules)

/-! ## Registries that look alike -/

/-- The same rules, and the same place for each name. -/
structure Alike (registry other : Registry) : Prop where
  /-- The rules are the same, in order, ... -/
  rules : registry.rules = other.rules
  /-- ... and each name has the same place, whatever order the index is in. -/
  position? : registry.position? = other.position?

/-- Two indexed registries of the same rules look alike. -/
theorem Indexed.alike {registry other : Registry} (h : registry.Indexed) (h' : other.Indexed)
    (hrules : registry.rules = other.rules) : registry.Alike other := by
  refine ⟨hrules, funext fun name => Option.ext fun i => ?_⟩
  rw [h.position?_eq_some_iff, h'.position?_eq_some_iff, hrules]

namespace Alike

variable {registry other : Registry} (h : registry.Alike other)
include h

/-- What looks alike contains the same names, ... -/
theorem contains : registry.contains = other.contains := by
  funext name
  rw [Registry.contains, Registry.contains, h.position?]

/-- ... is of the same size, ... -/
theorem size : registry.size = other.size := by rw [Registry.size, Registry.size, h.rules]

/-- ... finds the same rules by name ... -/
theorem get? : registry.get? = other.get? := by
  funext name
  rw [Registry.get?, Registry.get?, h.position?, h.rules]

/-- ... and in any letter case, ... -/
theorem getIgnoringCase? : registry.getIgnoringCase? = other.getIgnoringCase? := by
  funext name
  rw [Registry.getIgnoringCase?, Registry.getIgnoringCase?, h.get?, h.rules]

/-- ... and still looks alike after the same rule, whose new place is the length of the same
    list. -/
theorem insert (rule : Rule) : (registry.insert rule).1.Alike (other.insert rule).1 := by
  rw [Registry.insert, Registry.insert, h.position?]
  cases other.position? rule.name with
  | some i => exact ⟨congrArg (·.set i rule) h.rules, h.position?⟩
  | none =>
    -- the new entry stands first in both indexes, with the same position
    refine ⟨congrArg (· ++ [rule]) h.rules, funext fun name => ?_⟩
    show List.lookup name (_ :: registry.positions) = List.lookup name (_ :: other.positions)
    rw [List.lookup_cons, List.lookup_cons, h.rules]
    split
    · rfl
    · exact congrFun h.position? name

end Alike

end Registry

/-! ## The parser

  It asks a registry for names, and for the rules that an expression refers to. -/

namespace Parser

open Registry

variable {registry other : Registry}

/-- The name of a rule depends on a registry only through which names are free. -/
theorem chooseName_of_alike (h : registry.Alike other) (parser : Parser) (expression : List Char)
    (given : Option String) :
    parser.chooseName registry expression given = parser.chooseName other expression given := by
  simp only [chooseName, inventName, freeNumber, h.contains, h.size]

/-- A rule of references depends on a registry only through the rules that it refers to. -/
theorem referenceRule_of_alike (h : registry.Alike other) (name : String)
    (expression : List Char) :
    referenceRule registry name expression = referenceRule other name expression := by
  simp only [referenceRule, h.getIgnoringCase?]

/-- **Parsing puts the accepted rule**, and nothing else. -/
theorem parse_registry (parser : Parser) (registry : Registry) (expression : String)
    (columns : List String) (given : Option String) :
    (parser.parse registry expression columns given).registry =
      registry.insertAll
        (parser.parse registry expression columns given).result.toOption.toList := by
  simp only [parse]
  split
  · rfl
  · split <;> rfl

/-- Registries that look alike parse alike, into rules that look alike again. -/
theorem parse_of_alike (h : registry.Alike other) (parser : Parser) (expression : String)
    (columns : List String) (given : Option String) :
    (parser.parse registry expression columns given).result =
        (parser.parse other expression columns given).result ∧
      (parser.parse registry expression columns given).parser =
        (parser.parse other expression columns given).parser ∧
      (parser.parse registry expression columns given).registry.Alike
        (parser.parse other expression columns given).registry := by
  simp only [parse, chooseName_of_alike h, referenceRule_of_alike h]
  split
  · exact ⟨rfl, rfl, h⟩
  · split
    next rule _ => exact ⟨rfl, rfl, h.insert rule⟩
    next => exact ⟨rfl, rfl, h⟩

/-- A batch puts the rules of its accepted lines, in their order. -/
theorem parseFrom_registry (columns : List String) (lines : List String) (parser : Parser)
    (registry : Registry) (number : Nat) :
    (parser.parseFrom registry columns number lines).registry =
      registry.insertAll ((parser.parseFrom registry columns number lines).lines.filterMap
        (·.result.toOption)) := by
  induction lines generalizing parser registry number with
  | nil => rfl
  | cons line lines ih =>
    simp only [parseFrom]
    split
    · exact ih ..
    · -- what the first line puts, and then what the others put
      rw [ih, parse_registry, List.filterMap_cons]
      split
      next hnone => rw [hnone]; rfl
      next rule hrule => rw [hrule]; rfl

/-- Registries that look alike answer a batch alike, line by line. -/
theorem parseFrom_of_alike (columns : List String) (lines : List String) (parser : Parser)
    {registry other : Registry} (h : registry.Alike other) (number : Nat) :
    (parser.parseFrom registry columns number lines).lines =
      (parser.parseFrom other columns number lines).lines := by
  induction lines generalizing parser registry other number with
  | nil => rfl
  | cons line lines ih =>
    have hname : nextLineName registry = nextLineName other := by
      simp only [nextLineName, freeNumber, h.contains, h.size]
    simp only [parseFrom]
    split
    · exact ih parser h (number + 1)
    -- One line: the same result, the same parser, and registries that are alike again.
    · obtain ⟨hresult, hparser, halike⟩ := parse_of_alike h parser
        (String.ofList (Text.trim line.toList)) columns (some (nextLineName other))
      rw [hname]
      simp only [hresult, hparser, ih _ halike]

end Parser

/-! ## Runs

  From one operation to any number of them. -/

namespace Registry

/-- What can be done to a registry. -/
inductive Operation where
  | insert (rule : Rule)
  | remove (name : String)
  | replace (name : String) (rule : Rule)
  | setEnabled (name : String) (enabled : Bool)
  | clear
  /-- The registry of a stored rule set takes its place. -/
  | restore (set : RuleSet)
  /-- A parser, whatever it counted before, parses an expression. -/
  | parse (parser : Parser) (expression : String) (columns : List String) (given : Option String)
  | parseLines (parser : Parser) (columns lines : List String)

/-- The registry after an operation. -/
def Operation.apply (registry : Registry) : Operation → Registry
  | insert rule => (registry.insert rule).1
  | remove name => (registry.remove name).1
  | replace name rule => (registry.replace name rule).1
  | setEnabled name enabled => (registry.setEnabled name enabled).1
  | clear => empty
  | restore set => ofRuleSet set
  | parse parser expression columns given =>
    (parser.parse registry expression columns given).registry
  | parseLines parser columns lines => (parser.parseLines registry columns lines).registry

/-- The rules after an operation. -/
def Operation.on (rules : List Rule) : Operation → List Rule
  | insert rule => put rules rule
  | remove name => without rules name
  | replace name rule => exchange rules name rule
  | setEnabled name enabled => switch rules name enabled
  | clear => []
  | restore set => latest set.rules
  | parse parser expression columns given =>
    putAll rules (parser.parse (reindexed rules) expression columns given).result.toOption.toList
  | parseLines parser columns lines =>
    putAll rules ((parser.parseLines (reindexed rules) columns lines).lines.filterMap
      (·.result.toOption))

/-- The registry after operations in order, of which the first finds no rules. -/
def after (operations : List Operation) : Registry :=
  operations.foldl Operation.apply empty

/-- The rules after operations in order. -/
def rulesAfter (operations : List Operation) : List Rule := operations.foldl Operation.on []

/-- **One operation** does to the rules what its line says, and keeps the index right. For the
    parser the line has the rules with an index made afresh, which looks alike. -/
theorem Indexed.apply {registry : Registry} (h : registry.Indexed) (operation : Operation) :
    (operation.apply registry).Indexed ∧
      (operation.apply registry).rules = operation.on registry.rules := by
  -- A parser sees the registry by its names and rules alone, so it may as well see one with a fresh
  -- index.
  have halike := h.alike (indexed_reindexed h.names) rfl
  cases operation with
  | insert rule => exact ⟨h.insert rule, (h.insert_rules rule).1⟩
  | remove name => exact ⟨h.remove name, (h.remove_rules name).1⟩
  | replace name rule => exact ⟨h.replace name rule, (h.replace_rules name rule).1⟩
  | setEnabled name enabled =>
    exact ⟨h.setEnabled name enabled, (h.setEnabled_rules name enabled).1⟩
  | clear => exact ⟨indexed_empty, rfl⟩
  | restore set => exact ⟨(reachable_ofRuleSet set).indexed, ofRuleSet_rules set⟩
  | parse parser expression columns given =>
    rw [Operation.apply, Operation.on, Parser.parse_registry,
      (Parser.parse_of_alike halike parser expression columns given).1]
    exact h.insertAll _
  | parseLines parser columns lines =>
    rw [Operation.apply, Operation.on, Parser.parseLines, Parser.parseFrom_registry,
      Parser.parseFrom_of_alike columns lines parser halike]
    exact h.insertAll _

/-- A registry stands for a list of rules: all that can be asked of it, or done to it, is told
    by the list. -/
structure Stands (registry : Registry) (list : List Rule) : Prop where
  rules : registry.rules = list
  /-- No two rules have the same name. -/
  names : registry.names.Nodup
  /-- The index has one entry for each rule, its name with its position, and no other. -/
  entries : registry.positions.Perm registry.names.zipIdx
  /-- No entry leads out of the list. -/
  inRange : ∀ entry ∈ registry.positions, entry.2 < registry.rules.length
  /-- The position of a name is the place of the rule of that name. -/
  position? : ∀ name i,
    registry.position? name = some i ↔ ∃ rule, list[i]? = some rule ∧ rule.name = name
  /-- Looking up finds the rule of that name. -/
  get? : ∀ name, registry.get? name = named? list name
  /-- An operation answers with the rule that it displaces, or whether there was one. -/
  insert : ∀ rule, (registry.insert rule).2 = named? list rule.name
  remove : ∀ name, (registry.remove name).2 = named? list name
  replace : ∀ name rule, (registry.replace name rule).2 = named? list name
  setEnabled : ∀ name enabled,
    (registry.setEnabled name enabled).2 = (named? list name).isSome
  /-- On a name that no rule has it changes nothing, neither the rules nor the index. -/
  unknown : ∀ name, named? list name = none → registry.remove name = (registry, none) ∧
    (∀ rule, registry.replace name rule = (registry, none)) ∧
    ∀ enabled, registry.setEnabled name enabled = (registry, false)

/-- An indexed registry stands for its rules. -/
theorem Indexed.stands {registry : Registry} (h : registry.Indexed) :
    registry.Stands registry.rules where
  rules := rfl
  names := h.names
  entries := indexOf_eq registry.rules ▸ h.positions
  inRange := by
    rintro ⟨name, i⟩ hentry
    obtain ⟨rule, hrule, -⟩ := mem_indexOf.mp (h.positions.mem_iff.mp hentry)
    exact (List.getElem?_eq_some_iff.mp hrule).1
  position? _ _ := h.position?_eq_some_iff
  get? := h.get?_eq_named?
  insert rule := (h.insert_rules rule).2
  remove name := (h.remove_rules name).2
  replace name rule := (h.replace_rules name rule).2
  setEnabled name enabled := (h.setEnabled_rules name enabled).2
  unknown _ hnone := h.unknown (named?_eq_none.mp hnone)

/-- **After any operations** a registry stands for the rules that their lines make. -/
theorem stands_after (operations : List Operation) :
    (after operations).Stands (rulesAfter operations) := by
  -- the run keeps the index right and does what the lines say, whatever it starts from
  have hrun : ∀ {registry : Registry}, registry.Indexed →
      (operations.foldl Operation.apply registry).Indexed ∧
        (operations.foldl Operation.apply registry).rules =
          operations.foldl Operation.on registry.rules := by
    -- by induction on the operations, from every registry with a right index
    induction operations with
    | nil => exact fun h => ⟨h, rfl⟩
    | cons operation operations ih =>
      intro registry h
      obtain ⟨hindexed, hrules⟩ := h.apply operation
      rw [List.foldl_cons, List.foldl_cons, ← hrules]
      exact ih hindexed
  obtain ⟨hindexed, hrules⟩ := hrun indexed_empty
  exact (show _ = rulesAfter operations from hrules) ▸ hindexed.stands

end Registry

end TableRules
