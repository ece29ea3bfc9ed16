/-
  STORED RULES: what comes back of a rule set that is written and read.

  1. **Doubles** — `Double.restored?` is what a double comes back as.  It is the one value for
     which that is a question: a double that is not finite is written as `null`, which is no
     number, and one of many digits may come back as a neighbour.

  2. **Everything else comes back** — an operand comes back as its value does, and a condition, a
     rule and a rule set as their operands do (`RuleSet.decode?_encode`).  So a set comes back as
     it was if and only if every double in it does, and not at all if and only if some double
     does not.

  Each level is written as a record, and comes back in two steps: its fields are found, and each
  field comes back by the lemma of its own level.  `restored?` is the same function told without
  the text in between.  It goes down the same levels and changes nothing but doubles, so that
  what is left of storing is a question about `Double.restored?` alone.
-/
import TableRules.Proofs.Records
import TableRules.Stored.Rules

namespace TableRules

/-! ## Doubles -/

/-- What a double comes back as, when it is stored. -/
def Double.restored? (v : Double) : Option Double := (Json.ofDouble v).double?

/-- A double that is not finite is written as `null`. -/
theorem Json.ofDouble_of_not_isFinite {v : Double} (h : v.isFinite = false) :
    ofDouble v = .null := by
  cases v with
  | nan => rfl
  | signed negative rank rank_le =>
    have hrank : rank = Double.infinityRank := by
      have hge : ¬ rank < Double.infinityRank := of_decide_eq_false h
      omega
    rw [ofDouble, Double.json?, if_pos hrank]

/-- It does not come back. -/
theorem Double.restored?_of_not_isFinite {v : Double} (h : v.isFinite = false) :
    v.restored? = none := by
  rw [restored?, Json.ofDouble_of_not_isFinite h]
  rfl

/-! ## What comes back -/

/-- What an operand comes back as. -/
def Operand.restored? : Operand → Option Operand
  | .float v => v.restored?.map .float
  | operand => some operand

/-- What a condition comes back as. -/
def Condition.restored? (c : Condition) : Option Condition :=
  c.operand.restored?.map fun operand => { c with operand }

/-- What a rule comes back as. -/
def Rule.restored? (rule : Rule) : Option Rule :=
  (rule.conditions.mapM Condition.restored?).map fun conditions => { rule with conditions }

/-- The symbols of the comparisons differ, so each is read as its own. -/
theorem Comparison.ofSymbol?_symbol (c : Comparison) : ofSymbol? c.symbol = some c := by
  cases c <;> decide

/-- And so do those of the connectives. -/
theorem Connective.ofSymbol?_symbol (c : Connective) : ofSymbol? c.symbol = some c := by
  cases c <;> decide

/-- An operand comes back as its value does: its tag tells the kind, and only a double may
    differ. -/
theorem Operand.ofJson?_toJson (operand : Operand) : ofJson? operand.toJson = operand.restored? := by
  have hfields : operand.toJson.fields? ["kind", "value"] =
      some [some (.ofString operand.kind), some operand.content] :=
    Json.fields?_ofFields (show ["kind", "value"].Nodup by decide)
  have hobject : ofJson? operand.toJson = ofKind? operand.kind operand.content := by
    rw [ofJson?, hfields]
    simp [toJson, Json.ofFields]
  rw [hobject]
  cases operand with
  | float v => rfl
  | int i => exact congrArg (Option.map int) (Json.int64?_ofInt i)
  | literal s => exact congrArg (Option.map literal) (Json.text?_ofString s)
  | column s => exact congrArg (Option.map column) (Json.text?_ofString s)
  | word s => exact congrArg (Option.map word) (Json.text?_ofString s)

/-- A condition comes back as its operand does. -/
theorem Condition.ofJson?_toJson (c : Condition) : ofJson? c.toJson = c.restored? := by
  have hfields : c.toJson.fields? ["column", "operator", "value"] =
      some [some (.ofString c.column), some (.ofString c.comparison.symbol), some c.operand.toJson] :=
    Json.fields?_ofFields (show ["column", "operator", "value"].Nodup by decide)
  rw [ofJson?, hfields]
  simp only [Option.bind_eq_bind, Option.bind_some, Json.text?_ofString, Json.choice?_ofString,
    Comparison.ofSymbol?_symbol, Operand.ofJson?_toJson, restored?]
  cases c.operand.restored? <;> rfl

/-- A reference is stored as a record of one field, and comes back. -/
theorem Rule.referenceOfJson?_ofString (name : String) :
    referenceOfJson? (.ofFields [("rule_name", .ofString name)]) = some name := by
  have hfields : (Json.ofFields [("rule_name", .ofString name)]).fields? ["rule_name"] =
      some [some (.ofString name)] :=
    Json.fields?_ofFields (show ["rule_name"].Nodup by decide)
  rw [referenceOfJson?, hfields]
  exact Json.text?_ofString name

/-- **A rule comes back** as its conditions do. Of its seven fields these are the only ones that may
    not come back, so they alone decide. -/
theorem Rule.ofJson?_toJson (rule : Rule) : ofJson? rule.toJson = rule.restored? := by
  -- the fields are found in the order in which they are asked for
  have hfields : rule.toJson.fields? ["name", "conditions", "logical_ops", "action",
      "description", "rule_references", "enabled"] = some [
        some (.ofString rule.name),
        some (.array (rule.conditions.map Condition.toJson)),
        some (.array (rule.connectives.map fun c => .ofString c.symbol)),
        some (.ofString rule.action),
        some (.ofString rule.description),
        some (.array (rule.references.map fun name => .ofFields [("rule_name", .ofString name)])),
        some (.bool rule.enabled)] :=
    Json.fields?_ofFields (show ["name", "conditions", "logical_ops", "action", "description",
      "rule_references", "enabled"].Nodup by decide)
  -- then the lists, item by item; the texts and the truth value come back by `simp`
  have hconditions : (Json.array (rule.conditions.map Condition.toJson)).list? Condition.ofJson? =
      rule.conditions.mapM Condition.restored? := by
    rw [Json.list?_array_map]
    simp only [Condition.ofJson?_toJson]
  have hconnectives := Json.list?_array_map_of_some (fun c : Connective => Json.ofString c.symbol)
    (fun j => j.choice?.bind Connective.ofSymbol?) (fun c => by simp [Connective.ofSymbol?_symbol])
    rule.connectives
  have hreferences := Json.list?_array_map_of_some
    (fun name => Json.ofFields [("rule_name", .ofString name)]) Rule.referenceOfJson?
    Rule.referenceOfJson?_ofString rule.references
  rw [ofJson?, hfields]
  simp only [Option.bind_eq_bind, Option.bind_some, Json.orDefault, Json.text?_ofString,
    Json.bool?_bool, hconditions, hconnectives, hreferences, restored?]
  cases rule.conditions.mapM Condition.restored? <;> rfl

/-- **A set comes back** as its rules do. -/
theorem RuleSet.ofJson?_toJson (set : RuleSet) : ofJson? set.toJson =
    (set.rules.mapM Rule.restored?).map fun rules => { set with rules } := by
  have hfields : set.toJson.fields? ["version", "rules"] =
      some [some (.ofNat set.version.toNat), some (.array (set.rules.map Rule.toJson))] :=
    Json.fields?_ofFields (show ["version", "rules"].Nodup by decide)
  rw [ofJson?, hfields]
  simp only [Option.bind_eq_bind, Option.bind_some, Json.orDefault, Json.uint32?_ofNat,
    Json.list?_array_map, Rule.ofJson?_toJson]
  cases set.rules.mapM Rule.restored? <;> rfl

/-! ## Spelling -/

/-- What is written of an operand is spelled, ... -/
theorem Operand.spelled_toJson (operand : Operand) : operand.toJson.Spelled := by
  have hcontent : operand.content.Spelled := by
    cases operand with
    | int i => exact Json.spelled_ofInt _
    | float v => exact Json.spelled_ofDouble v
    | literal s | column s | word s => exact Json.spelled_ofString s
  refine Json.spelled_ofFields ?_
  simp [hcontent, Json.spelled_ofString]

/-- ... of a condition, ... -/
theorem Condition.spelled_toJson (c : Condition) : c.toJson.Spelled := by
  refine Json.spelled_ofFields ?_
  simp [c.operand.spelled_toJson, Json.spelled_ofString]

/-- ... of a rule ... -/
theorem Rule.spelled_toJson (rule : Rule) : rule.toJson.Spelled := by
  have hconnectives := Json.spelled_array_map
    (fun c : Connective => Json.spelled_ofString c.symbol) rule.connectives
  have hreferences := Json.spelled_array_map (fun name : String => Json.spelled_ofFields
    (show ∀ field ∈ [("rule_name", Json.ofString name)], field.2.Spelled by
      simp [Json.spelled_ofString])) rule.references
  refine Json.spelled_ofFields ?_
  simp [Json.spelled_ofString, Json.spelled_array_map Condition.spelled_toJson, hconnectives,
    hreferences, Json.Spelled.bool]

/-- ... and of a set. -/
theorem RuleSet.spelled_toJson (set : RuleSet) : set.toJson.Spelled := by
  refine Json.spelled_ofFields ?_
  simp [Json.spelled_array_map Rule.spelled_toJson, Json.ofNat, Json.spelled_ofInt]

/-- **What is read of a written set** is the set with its rules as they come back. -/
theorem RuleSet.decode?_encode (set : RuleSet) : decode? set.encode =
    (set.rules.mapM Rule.restored?).map fun rules => { set with rules } := by
  rw [decode?, encode, Json.read?_write Json.loose_pretty set.spelled_toJson, Option.bind_some,
    ofJson?_toJson]

/-! ## What comes back unchanged -/

/-- The double that an operand holds, if it does. -/
def Operand.double? : Operand → Option Double
  | .float v => some v
  | _ => none

/-- The doubles that a rule holds. -/
def Rule.doubles (rule : Rule) : List Double := rule.conditions.filterMap (·.operand.double?)

/-- A condition comes back as it was if and only if its double does, where it has one. -/
theorem Condition.restored?_eq_some_self_iff (c : Condition) :
    c.restored? = some c ↔ ∀ v ∈ c.operand.double?, v.restored? = some v := by
  obtain ⟨column, comparison, operand⟩ := c
  cases operand <;> simp [restored?, Operand.restored?, Operand.double?]

/-- It does not come back if and only if it has a double that does not. -/
theorem Condition.restored?_eq_none_iff (c : Condition) :
    c.restored? = none ↔ ∃ v ∈ c.operand.double?, v.restored? = none := by
  obtain ⟨column, comparison, operand⟩ := c
  cases operand <;> simp [restored?, Operand.restored?, Operand.double?]

/-- A rule comes back with its name. -/
theorem Rule.name_of_restored? {rule restored : Rule} (h : rule.restored? = some restored) :
    restored.name = rule.name := by
  obtain ⟨conditions, -, rfl⟩ := Option.map_eq_some_iff.mp h
  rfl

/-- A rule comes back as it was if and only if each of its doubles does. -/
theorem Rule.restored?_eq_some_self_iff (rule : Rule) :
    rule.restored? = some rule ↔ ∀ v ∈ rule.doubles, v.restored? = some v := by
  have hconditions : rule.restored? = some rule ↔
      rule.conditions.mapM Condition.restored? = some rule.conditions := by
    obtain ⟨name, conditions⟩ := rule
    simp [restored?]
  rw [hconditions, mapM_eq_some_self_iff]
  simp only [Condition.restored?_eq_some_self_iff, doubles, List.mem_filterMap, Option.mem_def]
  exact ⟨fun h v ⟨c, hc, hv⟩ => h c hc v hv, fun h c hc v hv => h v ⟨c, hc, hv⟩⟩

/-- It does not come back if and only if one of them does not. -/
theorem Rule.restored?_eq_none_iff (rule : Rule) :
    rule.restored? = none ↔ ∃ v ∈ rule.doubles, v.restored? = none := by
  rw [restored?, Option.map_eq_none_iff, mapM_eq_none_iff]
  simp only [Condition.restored?_eq_none_iff, doubles, List.mem_filterMap, Option.mem_def]
  exact ⟨fun ⟨c, hc, v, hv, hnone⟩ => ⟨v, ⟨c, hc, hv⟩, hnone⟩,
    fun ⟨v, ⟨c, hc, hv⟩, hnone⟩ => ⟨c, hc, v, hv, hnone⟩⟩

end TableRules
