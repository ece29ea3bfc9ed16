/-
  NAMES OF PARSED RULES: what a parser calls a rule, and what parsing does to a registry.

  1. **What an expression states** — `ruleOf` is the rule of an expression under a name.  Neither
     the parser nor the registry has a say in it, and whether there is a rule does not depend on
     the name (`ruleOf_cases`).  What it is made of are references or conditions
     (`ruleOf_eq_ok`).

  2. **Invented names** — `Invents` says what an expression is called that came without a name.
     Its numbers are least free ones, so the search for them ends, and the name is new.

  3. **Parsing** — with an error the registry is as it was; otherwise the rule is inserted, and is
     found under its name.  Under an invented name it comes behind all others (`parse_atomic`).
-/
import TableRules.Proofs.FreshNumbers
import TableRules.Proofs.OrderedRules
import TableRules.Proofs.Texts

namespace TableRules

open Expression Text

/-! ## Free names -/

namespace Registry.Indexed

variable {registry : Registry} (h : registry.Indexed)
include h

/-- A registry has a name if one of its rules does. -/
theorem contains_iff {name : String} : registry.contains name = true ↔ name ∈ registry.names := by
  rw [Registry.contains, Option.isSome_iff_ne_none, Ne, h.position?_eq_none_iff, not_not]

/-- **The search for a number ends**, with the least one whose name no rule has. -/
theorem isLeast_freeNumber (stem : String) (start : Nat) :
    IsLeast {n | start ≤ n ∧ stem ++ toString n ∉ registry.names}
      (Parser.freeNumber registry stem start) := by
  have hsize : registry.size = registry.names.length := (List.length_map _).symm
  rw [Parser.freeNumber, hsize]
  exact isLeast_freshNumber (fun name => h.contains_iff) (numbered_injective stem) start

/-- A rule with a new name comes behind all others. -/
theorem rules_insert_of_not_mem {rule : Rule} (hnew : rule.name ∉ registry.names) :
    (registry.insert rule).1.rules = registry.rules ++ [rule] := by
  rw [(h.insert_rules rule).1, OrderedRules.put, if_neg (mt OrderedRules.isSome_named?.mp hnew)]

/-- A rule that was inserted is found under its name. -/
theorem get?_insert (rule : Rule) :
    (registry.insert rule).1.get? rule.name = some rule := by
  refine (h.insert rule).get?_eq_some_iff.mpr ⟨?_, rfl⟩
  rw [(h.insert_rules rule).1, OrderedRules.put]
  split
  next hknown =>
    -- its namesake was made it
    obtain ⟨old, hold⟩ := Option.isSome_iff_exists.mp hknown
    refine List.mem_map.mpr ⟨old, List.mem_of_find?_eq_some hold, ?_⟩
    rw [if_pos (OrderedRules.name_of_named? hold)]
  next => exact List.mem_append_right _ (List.mem_singleton_self _)

end Registry.Indexed

namespace Parser

/-! ## What an expression states

  Apart from names, parsing is a function of the text and the columns. -/

/-- The rule of an expression without blanks around it, under a name. -/
def ruleOf (name : String) (cs : List Char) (columns : List String) : Except ParseError Rule :=
  if isReferenceExpression cs then
    .ok (.ofReferences name ((parseReferences cs).1.map String.ofList) (parseReferences cs).2
      (String.ofList cs))
  else (conditionRule name cs columns).1

/-- **Whether an expression states a rule does not depend on the name.** -/
theorem ruleOf_cases (cs : List Char) (columns : List String) :
    (∃ e, ∀ name, ruleOf name cs columns = .error e) ∨
      ∀ name, ∃ rule, ruleOf name cs columns = .ok rule := by
  by_cases hreference : isReferenceExpression cs = true
  · exact .inr fun name => ⟨_, if_pos hreference⟩
  · simp only [ruleOf, if_neg hreference, conditionRule]
    split
    next => exact .inl ⟨_, fun _ => rfl⟩
    next => exact .inr fun name => ⟨_, rfl⟩

/-- **What an expression states** are references, if it starts like them, or else conditions that
    were read from segments. -/
theorem ruleOf_eq_ok {name : String} {cs : List Char} {columns : List String} {rule : Rule}
    (h : ruleOf name cs columns = .ok rule) :
    rule = .ofReferences name ((parseReferences cs).1.map String.ofList) (parseReferences cs).2
        (String.ofList cs) ∨
      ∃ conditions connectives, conditions ≠ [] ∧
        rule = .ofConditions name conditions connectives (String.ofList cs) ∧
        ∀ c ∈ conditions, ∃ segment, parseCondition? segment columns = some c := by
  rw [ruleOf] at h
  split at h
  next => exact .inl (Except.ok.inj h).symm
  next =>
    simp only [conditionRule] at h
    split at h
    next => cases h
    next hne =>
      refine .inr ⟨_, _, hne, (Except.ok.inj h).symm, fun c hc => ?_⟩
      -- Segments that do not read are dropped, so every condition comes from one that does.
      obtain ⟨segment, -, hread⟩ := List.mem_filterMap.mp hc
      exact ⟨segment, hread⟩

section Stated

variable {name : String} {cs : List Char} {columns : List String} {rule : Rule}
  (h : ruleOf name cs columns = .ok rule)
include h

/-- The rule has the name that it was given, ... -/
theorem name_of_ruleOf : rule.name = name := by
  rcases ruleOf_eq_ok h with rfl | ⟨_, _, -, rfl, -⟩
  · rfl
  · rfl

/-- ... and is switched on. -/
theorem enabled_of_ruleOf : rule.enabled = true := by
  rcases ruleOf_eq_ok h with rfl | ⟨_, _, -, rfl, -⟩
  · rfl
  · rfl

/-- A rule of conditions refers to no rule. -/
theorem references_of_ruleOf (hne : rule.conditions ≠ []) : rule.references = [] := by
  rcases ruleOf_eq_ok h with rfl | ⟨_, _, -, rfl, -⟩
  · exact absurd rfl hne
  · rfl

/-- Each condition is what a segment states. -/
theorem exists_segment_of_ruleOf {c : Condition} (hc : c ∈ rule.conditions) :
    ∃ segment, parseCondition? segment columns = some c := by
  rcases ruleOf_eq_ok h with rfl | ⟨_, _, -, rfl, hread⟩
  · cases hc
  · exact hread c hc

end Stated

section Parse

variable (parser : Parser) (registry : Registry) {expression : String} (columns : List String)
  (given : Option String)

/-- Of blanks alone nothing comes. -/
theorem parse_of_blank (h : trim expression.toList = []) :
    parser.parse registry expression columns given =
      ⟨.error .emptyExpression, parser, registry, []⟩ := if_pos h

/-- Of anything else comes what it states, under the name that is chosen for it. -/
theorem parse_of_ne_nil (h : trim expression.toList ≠ []) :
    let chosen := parser.chooseName registry (trim expression.toList) given
    (parser.parse registry expression columns given).result =
        ruleOf chosen.1 (trim expression.toList) columns ∧
      (parser.parse registry expression columns given).parser = chosen.2 := by
  intro chosen
  rw [parse, ruleOf]
  by_cases hreference : isReferenceExpression (trim expression.toList) = true
  · simp only [if_neg h, hreference, if_true, referenceRule]
    exact ⟨rfl, rfl⟩
  · simp only [if_neg h, hreference, Bool.false_eq_true, if_false]
    split
    next rule hrule => exact ⟨hrule.symm, rfl⟩
    next e herror => exact ⟨herror.symm, rfl⟩

/-- Whatever comes of an expression is what it states under some name. -/
theorem exists_ruleOf_of_parse {rule : Rule}
    (h : (parser.parse registry expression columns given).result = .ok rule) :
    ∃ name, ruleOf name (trim expression.toList) columns = .ok rule := by
  by_cases hblank : trim expression.toList = []
  · rw [parse_of_blank parser registry columns given hblank] at h
    cases h
  · exact ⟨_, (parse_of_ne_nil parser registry columns given hblank).1.symm.trans h⟩

end Parse

/-! ## Invented names

  Each of the searches is bounded by the number of rules, and that is enough. -/

/-- What an expression is called that came without a name, and what the parser has counted then:
    the name that is derived from it, if no rule has that; else this with the least number from 2
    on that makes it new; and where none can be derived, the least number that the parser has not
    counted and that makes a new name. -/
inductive Invents (parser : Parser) (registry : Registry) (cs : List Char) :
    String → Parser → Prop where
  /-- The derived name is free. -/
  | derived {base : List Char} (hbase : deriveName? cs = some base)
      (hfree : String.ofList base ∉ registry.names) :
      Invents parser registry cs (String.ofList base) parser
  /-- It is taken, and gets a number. -/
  | numbered {base : List Char} {n : Nat} (hbase : deriveName? cs = some base)
      (htaken : String.ofList base ∈ registry.names)
      (hleast : IsLeast
        {n | 2 ≤ n ∧ String.ofList base ++ "_" ++ toString n ∉ registry.names} n) :
      Invents parser registry cs (String.ofList base ++ "_" ++ toString n) parser
  /-- There is none, and the parser counts on. -/
  | counted {k : Nat} (hnone : deriveName? cs = none)
      (hleast : IsLeast {k | parser.counted < k ∧ "rule_" ++ toString k ∉ registry.names} k) :
      Invents parser registry cs ("rule_" ++ toString k) ⟨k⟩

/-- An invented name is new. -/
theorem Invents.not_mem {parser next : Parser} {registry : Registry} {cs : List Char}
    {name : String} (h : Invents parser registry cs name next) : name ∉ registry.names := by
  cases h with
  | derived _ hfree => exact hfree
  | numbered _ _ hleast => exact hleast.1.2
  | counted _ hleast => exact hleast.1.2

/-- **A name is invented** for every expression. -/
theorem invents_inventName {registry : Registry} (h : registry.Indexed) (parser : Parser)
    (cs : List Char) :
    Invents parser registry cs (parser.inventName registry cs).1
      (parser.inventName registry cs).2 := by
  rw [inventName]
  split
  next base hbase =>
    dsimp only
    split
    next htaken =>
      exact .numbered hbase (h.contains_iff.mp htaken) (h.isLeast_freeNumber _ 2)
    next hfree => exact .derived hbase (mt h.contains_iff.mpr hfree)
  next hnone => exact .counted hnone (h.isLeast_freeNumber "rule_" (parser.counted + 1))

/-- Blanks are no name. -/
theorem chooseName_of_blank {given : Option String} (h : ∀ name ∈ given, Blank name.toList)
    (parser : Parser) (registry : Registry) (cs : List Char) :
    parser.chooseName registry cs given = parser.inventName registry cs := by
  have hnone : (given.map trimmed).filter (· ≠ "") = none := by
    cases given with
    | none => rfl
    | some name =>
      have hblank : trimmed name = "" := congrArg String.ofList (trim_eq_nil_iff.mpr (h name rfl))
      rw [Option.map_some, hblank]
      rfl
  rw [chooseName, hnone]

/-- A given name without blanks around it is taken as it is. -/
theorem chooseName_of_tight {name : String} (hne : name.toList ≠ []) (htight : Tight name.toList)
    (parser : Parser) (registry : Registry) (cs : List Char) :
    parser.chooseName registry cs (some name) = (name, parser) := by
  have htrim : trimmed name = name := by
    rw [trimmed, trim_of_tight htight, String.ofList_toList]
  have hname : name ≠ "" := by
    rintro rfl
    exact hne rfl
  rw [chooseName, Option.map_some, htrim, Option.filter_some, if_pos (decide_eq_true hname)]

/-! ## Parsing -/

/-- **Parsing is all or nothing.**  With an error the registry is as it was.  With a rule, that was
    inserted, and its name finds it.  If no name was given but blanks, the search for one ends, and
    the name is new: the rule comes behind all others, which stay as they were. -/
theorem parse_atomic (parser : Parser) {registry : Registry} (hregistry : registry.Reachable)
    (expression : String) (columns : List String) (given : Option String) :
    let out := parser.parse registry expression columns given
    (∀ e, out.result = .error e → out.registry = registry) ∧
    (∀ rule, out.result = .ok rule →
      out.registry = (registry.insert rule).1 ∧ out.registry.get? rule.name = some rule) ∧
    ((∀ name ∈ given, Blank name.toList) → ∃ name next,
      Invents parser registry (trim expression.toList) name next ∧ name ∉ registry.names ∧
      ∀ rule, out.result = .ok rule → rule.name = name ∧ out.parser = next ∧
        out.registry.rules = registry.rules ++ [rule]) := by
  intro out
  have hindexed := hregistry.indexed
  have hregistry' : out.registry = registry.insertAll out.result.toOption.toList :=
    parse_registry ..
  have hinsert : ∀ rule, out.result = .ok rule → out.registry = (registry.insert rule).1 := by
    intro rule hrule
    rw [hregistry', hrule]
    rfl
  refine ⟨fun e he => ?_, fun rule hrule => ?_, fun hblank => ?_⟩
  · rw [hregistry', he]
    rfl
  · rw [hinsert rule hrule]
    exact ⟨rfl, hindexed.get?_insert rule⟩
  · have hinvents := invents_inventName hindexed parser (trim expression.toList)
    refine ⟨_, _, hinvents, hinvents.not_mem, fun rule hrule => ?_⟩
    -- blanks alone give an error and no rule
    have hne : trim expression.toList ≠ [] := by
      intro hnil
      have hnone : out.result = .error .emptyExpression := by
        rw [show out = _ from parse_of_blank parser registry columns given hnil]
      exact absurd (hrule.symm.trans hnone) (by simp)
    obtain ⟨hresult, hparser⟩ := parse_of_ne_nil parser registry columns given hne
    rw [chooseName_of_blank hblank] at hresult hparser
    have hname := name_of_ruleOf (hresult.symm.trans hrule)
    refine ⟨hname, hparser, ?_⟩
    rw [hinsert rule hrule]
    exact hindexed.rules_insert_of_not_mem (hname ▸ hinvents.not_mem)

/-- The rules of two expressions that give the same name, and the name that comes after it. -/
def takenNames : Registry :=
  ((Registry.empty.insert (.ofConditions "AB" [] [] "A>B")).1.insert
    (.ofConditions "AB_2" [] [] "A=B")).1

/-- A third one gets the next number, and comes behind them. -/
theorem parse_atomic_of_taken_names :
    let third := Rule.ofConditions "AB_3" [⟨"A", .lessThan, .column "B"⟩] [] "A<B"
    let out := fresh.parse takenNames " A<B" ["A", "B"] (some " ")
    takenNames.Reachable ∧ (∀ name ∈ some " ", Blank name.toList) ∧ out.result = .ok third ∧
      out.registry.get? "AB_3" = some third ∧
      out.registry.rules = takenNames.rules ++ [third] := by
  intro third out
  have hregistry : takenNames.Reachable := (Registry.Reachable.empty.insert _).insert _
  have hblank : ∀ name ∈ some " ", Blank name.toList := by decide
  have hresult : out.result = .ok third := by decide +kernel
  obtain ⟨-, hinserted, hinvented⟩ :=
    parse_atomic fresh hregistry " A<B" ["A", "B"] (some " ")
  obtain ⟨_, _, -, -, happended⟩ := hinvented hblank
  exact ⟨hregistry, hblank, hresult, (hinserted third hresult).2, (happended third hresult).2.2⟩

end Parser

end TableRules
