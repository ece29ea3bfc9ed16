/-
  RESTORING: what comes back of the rules that were parsed, stored and read again.

  1. **Parsed registries** — what parsing, and switching rules on and off, make of an empty one.

  2. **The registry comes back** if its doubles do.  It need not be the same registry: its index
     may stand in another order.  But it looks alike, and so every run tells the same.

  3. **Without doubles** nothing is in question: whatever the texts and the integers are, every
     rule set comes back as it was, and every registry with the same rules and the same index.
-/
import TableRules.Proofs.OrderedRules
import TableRules.Proofs.Reliance
import TableRules.Proofs.StoredDoubles
import TableRules.Session

namespace TableRules

namespace Registry

/-! ## Parsed registries -/

/-- The registries that parsing and switching rules on and off make. -/
inductive Parsed : Registry → Prop
  | empty : Parsed empty
  /-- An expression is parsed, accepted or not. -/
  | parse {registry : Registry} (h : Parsed registry) (parser : Parser) (expression : String)
      (columns : List String) (given : Option String) :
      Parsed (parser.parse registry expression columns given).registry
  /-- So are many lines. -/
  | parseLines {registry : Registry} (h : Parsed registry) (parser : Parser)
      (columns lines : List String) : Parsed (parser.parseLines registry columns lines).registry
  /-- A rule is switched on or off. -/
  | setEnabled {registry : Registry} (h : Parsed registry) (name : String) (enabled : Bool) :
      Parsed (registry.setEnabled name enabled).1

/-- Parsing and switching are operations. -/
theorem Parsed.reachable {registry : Registry} (h : registry.Parsed) : registry.Reachable := by
  induction h with
  | empty => exact .empty
  | parse _ parser expression columns given ih =>
    rw [Parser.parse_registry]
    exact ih.insertAll _
  | parseLines _ parser columns lines ih =>
    rw [Parser.parseLines, Parser.parseFrom_registry]
    exact ih.insertAll _
  | setEnabled _ name enabled ih => exact ih.setEnabled name enabled

/-! ## The registry comes back

  Which doubles come back is known; what is left is that a registry has no more to it than its rules
  and their places. -/

/-- A lookup takes no more from a registry than what registries that look alike have in common. -/
theorem Alike.lookup_get? {registry other : Registry} (h : registry.Alike other)
    (rules : List Rule) :
    Lookup.get? ⟨rules, registry⟩ = Lookup.get? ⟨rules, other⟩ := by
  funext name
  simp only [Lookup.get?, h.get?, h.getIgnoringCase?]

/-- **Registries that look alike are validated alike.** -/
theorem Alike.validate_eq {registry other : Registry} (h : registry.Alike other)
    (hregistry : registry.Reachable) (hother : other.Reachable) (run : Run) (table : Table)
    (rules : List Rule) :
    run.validate table rules registry = run.validate table rules other := by
  have hagree : ∀ rule, Lookup.AgreesFrom ⟨rules, other⟩ ⟨rules, registry⟩ rule :=
    fun _ _ _ reference _ => congrFun (h.lookup_get? rules) reference
  have hresults : (run.validate table rules registry).results =
      (run.validate table rules other).results := by
    rw [Run.results_validate hregistry, Run.results_validate hother]
    refine List.flatMap_congr fun numbered _ => List.map_congr_left fun rule _ => ?_
    exact (hagree rule).resultOf_eq (Lookup.canonical_of_indexed hother.indexed)
      (Lookup.canonical_of_indexed hregistry.indexed) numbered
  have hfaults : (run.validate table rules registry).faults =
      (run.validate table rules other).faults := by
    rw [Run.validate_eq, Run.validate_eq]
    exact List.filterMap_congr fun rule _ => (hagree rule).faultOf?_eq
  exact congrArg₂ Run.mk hresults hfaults

/-- What is read of a stored registry: its rules as they come back, put in order. -/
theorem decode?_encode (registry : Registry) : decode? registry.encode =
    (registry.rules.mapM Rule.restored?).map fun rules => ofRuleSet (.ofRules rules) := by
  rw [decode?, encode, RuleSet.decode?_encode, Option.map_map]
  rfl

/-- Rules of different names are restored as they are. -/
theorem Indexed.rules_ofRuleSet {registry : Registry} (h : registry.Indexed) :
    (ofRuleSet (.ofRules registry.rules)).rules = registry.rules := by
  rw [ofRuleSet_rules]
  exact OrderedRules.latest_eq_self h.names

/-- The rules of an accepted text are the stored ones, as they come back one by one. -/
theorem Indexed.mapM_restored? {registry restored : Registry} (h : registry.Indexed)
    (hrestored : decode? registry.encode = some restored) :
    registry.rules.mapM Rule.restored? = some restored.rules := by
  rw [decode?_encode] at hrestored
  obtain ⟨rules, hmap, rfl⟩ := Option.map_eq_some_iff.mp hrestored
  -- the names are as they were, so none of the rules takes the place of another
  have hnames := map_eq_of_mapM_eq_some (fun _ _ => Rule.name_of_restored?) hmap
  rw [hmap, ofRuleSet_rules]
  exact congrArg some (OrderedRules.latest_eq_self (hnames ▸ h.names)).symm

/-- **A parsed registry that is stored and restored.**  It is rejected if and only if some double
    in it is not finite.  Otherwise its rules come back one by one in their order, with nothing
    but their doubles to be changed; and they are the same if and only if every double is.  Then
    every run tells the same of every table. -/
theorem Parsed.survives_storing {registry : Registry} (h : registry.Parsed) :
    (decode? registry.encode = none ↔
      ∃ rule ∈ registry.rules, ∃ v ∈ rule.doubles, v.isFinite = false) ∧
    (∀ restored, decode? registry.encode = some restored →
      registry.rules.mapM Rule.restored? = some restored.rules) ∧
    ((∃ restored, decode? registry.encode = some restored ∧ restored.rules = registry.rules) ↔
      ∀ rule ∈ registry.rules, ∀ v ∈ rule.doubles, v.restored? = some v) ∧
    ∀ restored, decode? registry.encode = some restored → restored.rules = registry.rules →
      ∀ run table, Run.validate run table restored.rules restored =
        Run.validate run table registry.rules registry := by
  have hreachable := h.reachable
  have hindexed := hreachable.indexed
  have hsame : (∃ restored, decode? registry.encode = some restored ∧
      restored.rules = registry.rules) ↔
        registry.rules.mapM Rule.restored? = some registry.rules := by
    constructor
    · rintro ⟨restored, hrestored, hrules⟩
      rw [hindexed.mapM_restored? hrestored, hrules]
    · intro hmap
      exact ⟨_, by rw [decode?_encode, hmap]; rfl, hindexed.rules_ofRuleSet⟩
  -- rejected, taken rule by rule, the same, and then of no consequence to any run
  refine ⟨?_, fun _ => hindexed.mapM_restored?, ?_, fun restored hrestored hrules run table => ?_⟩
  · rw [decode?_encode, Option.map_eq_none_iff, mapM_eq_none_iff]
    simp only [Rule.restored?_eq_none_iff, Double.restored?_eq_none_iff]
  · rw [hsame, mapM_eq_some_self_iff]
    simp only [Rule.restored?_eq_some_self_iff]
  · obtain ⟨set, -, rfl⟩ := Option.map_eq_some_iff.mp hrestored
    have hother := reachable_ofRuleSet set
    have halike := hother.indexed.alike hindexed hrules
    rw [hrules]
    exact halike.validate_eq hother hreachable run table registry.rules

/-- The registry of one expression on a column `A`. -/
def ofExpression (expression : String) : Registry :=
  (Parser.fresh.parse empty expression ["A"] none).registry

theorem parsed_ofExpression (expression : String) : (ofExpression expression).Parsed :=
  Parsed.empty.parse ..

/-- One half comes back as it is, `1e-30` does not, and beyond all doubles nothing does. -/
theorem Parsed.survives_storing_of_expressions :
    (∃ restored, decode? (ofExpression "A < 0.5").encode = some restored ∧
      restored.rules = (ofExpression "A < 0.5").rules ∧
      ∀ run table, Run.validate run table restored.rules restored =
        Run.validate run table (ofExpression "A < 0.5").rules (ofExpression "A < 0.5")) ∧
    (¬ ∃ restored, decode? (ofExpression "A < 1e-30").encode = some restored ∧
      restored.rules = (ofExpression "A < 1e-30").rules) ∧
    decode? (ofExpression "A < 1e999").encode = none := by
  refine ⟨?_, ?_, ?_⟩
  · obtain ⟨-, -, hsame, hruns⟩ := Parsed.survives_storing (parsed_ofExpression "A < 0.5")
    obtain ⟨restored, hrestored, hrules⟩ := hsame.mpr (by decide +kernel)
    exact ⟨restored, hrestored, hrules, hruns restored hrestored hrules⟩
  · exact mt (Parsed.survives_storing (parsed_ofExpression "A < 1e-30")).2.2.1.mp (by decide +kernel)
  · exact (Parsed.survives_storing (parsed_ofExpression "A < 1e999")).1.mpr (by decide +kernel)

end Registry

/-! ## Without doubles -/

/-- A rule without doubles comes back as it was. -/
theorem Rule.restored?_of_doubles {rule : Rule} (h : rule.doubles = []) :
    rule.restored? = some rule := by
  rw [restored?_eq_some_self_iff, h]
  exact fun _ hmem => nomatch hmem

/-- And so do any number of them. -/
theorem mapM_restored?_of_doubles {rules : List Rule} (h : ∀ rule ∈ rules, rule.doubles = []) :
    rules.mapM Rule.restored? = some rules :=
  mapM_eq_some_self_iff.mpr fun rule hmem => Rule.restored?_of_doubles (h rule hmem)

/-- **What holds no double comes back.**  Every rule set does, as it was; and every registry that
    operations make, with the same rules in the same order, the same entries in its index, and so
    the same position for each name. -/
theorem comes_back_without_doubles :
    (∀ set : RuleSet, (∀ rule ∈ set.rules, rule.doubles = []) →
      RuleSet.decode? set.encode = some set) ∧
    ∀ registry : Registry, registry.Reachable → (∀ rule ∈ registry.rules, rule.doubles = []) →
      ∃ set, RuleSet.decode? registry.toRuleSet.encode = some set ∧
        (Registry.ofRuleSet set).rules = registry.rules ∧
        (Registry.ofRuleSet set).positions.Perm registry.positions ∧
        ∀ name, (Registry.ofRuleSet set).position? name = registry.position? name := by
  have hset : ∀ set : RuleSet, (∀ rule ∈ set.rules, rule.doubles = []) →
      RuleSet.decode? set.encode = some set := by
    intro set h
    rw [RuleSet.decode?_encode, mapM_restored?_of_doubles h, Option.map_some]
  refine ⟨hset, fun registry hreachable h => ?_⟩
  have hindexed := hreachable.indexed
  have hrestored := (Registry.reachable_ofRuleSet registry.toRuleSet).indexed
  have hrules : (Registry.ofRuleSet registry.toRuleSet).rules = registry.rules :=
    hindexed.rules_ofRuleSet
  refine ⟨registry.toRuleSet, hset _ h, hrules, ?_, fun name => ?_⟩
  · -- both indexes hold an entry for each rule, its name with its position
    exact hrestored.positions.trans (hrules ▸ hindexed.positions.symm)
  · exact congrFun (hrestored.alike hindexed hrules).position? name

/-- A rule whose texts hold quotes, backslashes and control characters, whose integers are the
    least and the greatest, and which has both conditions and references. -/
def awkwardRule : Rule :=
  ⟨"say \"\\\"", [⟨"\u0000\t", .lessEqual, .int Int64.minValue⟩,
    ⟨"É🎉", .endsWith, .literal "\u001f\"'"⟩, ⟨"", .equal, .int Int64.maxValue⟩], [.or], "\n\r", "",
    ["Rule1", "Rule1"], false⟩

/-- Twice in a set with another version, and once in a registry. -/
theorem comes_back_without_doubles_of_awkward_texts :
    RuleSet.decode? (RuleSet.encode ⟨7, [awkwardRule, awkwardRule]⟩) =
      some ⟨7, [awkwardRule, awkwardRule]⟩ ∧
    ∃ set, RuleSet.decode? (Registry.empty.insert awkwardRule).1.toRuleSet.encode = some set ∧
      (Registry.ofRuleSet set).rules = [awkwardRule] ∧
      (Registry.ofRuleSet set).positions.Perm [(awkwardRule.name, 0)] ∧
      ∀ name, (Registry.ofRuleSet set).position? name =
        List.lookup name [(awkwardRule.name, 0)] :=
  ⟨comes_back_without_doubles.1 ⟨7, [awkwardRule, awkwardRule]⟩ (by decide),
    comes_back_without_doubles.2 (Registry.empty.insert awkwardRule).1
      (.insert .empty awkwardRule) (by decide)⟩

end TableRules
