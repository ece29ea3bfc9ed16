/-
  BATCHES: what comes of many lines, read one after another.

  1. **Lines** — a line speaks if it is neither blank nor a comment.  Whether it states a rule
     depends on the line and the columns alone (`States`).

  2. **One line** — `lineOf` is what is told of a line, and the registry has no part in it but the
     name that comes next.  That name is new, so the rule comes behind all others.

  3. **Runs** — lines are read by reading the first ones and then the others from there
     (`parseFrom_append`), so what is told of a line is told by the registry after the lines before
     it.

  4. **Replaced lines** — a line that states no rule leaves the registry as it is, and another one
     in its place does so too.

  The crux is that whether a line is accepted does not depend on when it is read.  The registry
  gives it its name, and only the name, and no line fails for its name.  So a line can be told
  apart from the run it stands in: `lineOf` looks at the registry, the number and the line, and a
  run is one such step after the other.  With a rejected line replaced by another, every later line
  finds the same registry, and is told the same.
-/
import TableRules.Proofs.RuleNames

namespace TableRules.Parser

open Text

/-! ## Lines

  What can be said of a line without a registry. -/

/-- A line that is neither blank nor a comment. -/
def Speaks (line : String) : Prop := ¬Blank line.toList ∧ (trim line.toList).head? ≠ some '#'

instance (line : String) : Decidable (Speaks line) := inferInstanceAs (Decidable (_ ∧ _))

/-- A line is passed over if it does not speak. -/
theorem isSkipped_iff {line : String} : isSkipped (trim line.toList) = true ↔ ¬Speaks line := by
  rw [isSkipped, Bool.or_eq_true, List.isEmpty_iff, trim_eq_nil_iff, beq_iff_eq, Speaks]
  tauto

/-- A line that states a rule, whatever its name. -/
def States (columns : List String) (line : String) : Prop :=
  Speaks line ∧ ∃ rule, ruleOf "" (trim line.toList) columns = .ok rule

/-- What a line states it states under every name, ... -/
theorem exists_ruleOf_of_states {columns : List String} {line : String} (h : States columns line)
    (name : String) : ∃ rule, ruleOf name (trim line.toList) columns = .ok rule := by
  obtain ⟨-, rule, hrule⟩ := h
  rcases ruleOf_cases (trim line.toList) columns with ⟨e, herror⟩ | hok
  · rw [herror] at hrule
    cases hrule
  · exact hok name

/-- ... and if it does under one name, it does. -/
theorem states_of_ruleOf {columns : List String} {line name : String} {rule : Rule}
    (hline : Speaks line) (h : ruleOf name (trim line.toList) columns = .ok rule) :
    States columns line := by
  rcases ruleOf_cases (trim line.toList) columns with ⟨e, herror⟩ | hok
  · rw [herror] at h
    cases h
  · exact ⟨hline, hok ""⟩

/-! ## One line

  What can be said of a line with one: the name that comes next, and what the line states under this
  name. -/

/-- What is told of a line, if it speaks. -/
def lineOf (registry : Registry) (columns : List String) (number : Nat) (line : String) :
    Option Line :=
  if Speaks line then
    some ⟨number, trimmed line, ruleOf (nextLineName registry) (trim line.toList) columns⟩
  else none

/-- The rules of the lines that were accepted. -/
def acceptedRules (told : List Line) : List Rule := told.filterMap (·.result.toOption)

/-- A line that was told has its rule to insert, or none. -/
theorem acceptedRules_singleton (told : Line) :
    acceptedRules [told] = told.result.toOption.toList := by
  rw [acceptedRules, List.filterMap_cons]
  cases told.result <;> rfl

/-- The name of the next line is made of the least number beyond the size of the registry whose
    name no rule has. -/
theorem isLeast_nextLineName {registry : Registry} (h : registry.Indexed) :
    ∃ n, nextLineName registry = "Rule" ++ toString n ∧
      IsLeast {n | registry.size < n ∧ "Rule" ++ toString n ∉ registry.names} n :=
  ⟨_, rfl, h.isLeast_freeNumber "Rule" (registry.size + 1)⟩

/-- So no rule has it, ... -/
theorem nextLineName_not_mem {registry : Registry} (h : registry.Indexed) :
    nextLineName registry ∉ registry.names := by
  obtain ⟨n, hname, hleast⟩ := isLeast_nextLineName h
  exact hname ▸ hleast.1.2

/-- A numbered name is a word. -/
theorem isWordChar_of_numbered {n : Nat} :
    ∀ c ∈ ("Rule" ++ toString n).toList, isWordChar c = true := by
  intro c hc
  rw [String.toList_append, List.mem_append] at hc
  rcases hc with hc | hc
  · have hword : ∀ c ∈ "Rule".toList, isPlain c = true := by decide
    exact isWordChar_of_isPlain (hword c hc)
  · exact isWordChar_of_isPlain (isPlain_of_isDigit (isDigit_of_mem_toString hc))

/-- ... and it is not empty. -/
theorem nextLineName_ne_nil (registry : Registry) : (nextLineName registry).toList ≠ [] := by
  rw [nextLineName, String.toList_append]
  exact List.append_ne_nil_of_left_ne_nil (by decide) _

/-- **A line is parsed to what it states** under the next name, and the parser counts nothing. -/
theorem parse_line (parser : Parser) (registry : Registry) (columns : List String) {line : String}
    (hline : Speaks line) :
    let out := parser.parse registry (trimmed line) columns (some (nextLineName registry))
    out.result = ruleOf (nextLineName registry) (trim line.toList) columns ∧
      out.parser = parser := by
  have htrim : trim (trimmed line).toList = trim line.toList := by
    rw [trimmed, String.toList_ofList, trim_of_tight (tight_trim _)]
  have hchosen : parser.chooseName registry (trim line.toList) (some (nextLineName registry)) =
      (nextLineName registry, parser) :=
    chooseName_of_tight (nextLineName_ne_nil registry) (tight_of_isWordChar isWordChar_of_numbered)
      parser registry _
  have hne : trim (trimmed line).toList ≠ [] := by
    rw [htrim, Ne, trim_eq_nil_iff]
    exact hline.1
  have hparse := parse_of_ne_nil parser registry columns (some (nextLineName registry)) hne
  rwa [htrim, hchosen] at hparse

/-- A line states its rule at any moment, under the name that comes next. -/
theorem states_iff (registry : Registry) {columns : List String} (number : Nat) {line : String} :
    States columns line ↔
      ∃ rule, lineOf registry columns number line = some ⟨number, trimmed line, .ok rule⟩ := by
  rw [lineOf]
  split
  next hline =>
    constructor
    · intro hstates
      obtain ⟨rule, hrule⟩ := exists_ruleOf_of_states hstates (nextLineName registry)
      exact ⟨rule, by rw [hrule]⟩
    · rintro ⟨rule, hrule⟩
      obtain ⟨-, -, hrule⟩ := Line.mk.inj (Option.some.inj hrule)
      exact states_of_ruleOf hline hrule
  next hline =>
    constructor
    · exact fun hstates => absurd hstates.1 hline
    · rintro ⟨rule, hrule⟩
      cases hrule

/-- A line that states no rule has none to insert. -/
theorem acceptedRules_lineOf_of_not_states {columns : List String} {line : String}
    (h : ¬States columns line) (registry : Registry) (number : Nat) :
    acceptedRules (lineOf registry columns number line).toList = [] := by
  rw [lineOf]
  split
  next hline =>
    rw [Option.toList_some, acceptedRules_singleton]
    cases hresult : ruleOf (nextLineName registry) (trim line.toList) columns with
    | ok rule => exact absurd (states_of_ruleOf hline hresult) h
    | error => rfl
  next => rfl

/-- A line has one rule to insert at most, and it has the name that comes next. -/
theorem acceptedRules_lineOf (registry : Registry) (columns : List String) (number : Nat)
    (line : String) :
    let accepted := acceptedRules (lineOf registry columns number line).toList
    accepted = [] ∨ ∃ rule, accepted = [rule] ∧ rule.name = nextLineName registry := by
  intro accepted
  by_cases hstates : States columns line
  · obtain ⟨rule, hrule⟩ := (states_iff registry number).mp hstates
    refine .inr ⟨rule, ?_, ?_⟩
    · simp only [accepted, hrule, Option.toList_some, acceptedRules_singleton]
      rfl
    · rw [lineOf, if_pos hstates.1, Option.some.injEq, Line.mk.injEq] at hrule
      exact name_of_ruleOf hrule.2.2
  · exact .inl (acceptedRules_lineOf_of_not_states hstates registry number)

/-- **The rule of a line comes behind all others**, since its name is new. -/
theorem rules_insertAll_lineOf {registry : Registry} (h : registry.Indexed) (columns : List String)
    (number : Nat) (line : String) :
    let accepted := acceptedRules (lineOf registry columns number line).toList
    (registry.insertAll accepted).Indexed ∧
      (registry.insertAll accepted).rules = registry.rules ++ accepted := by
  intro accepted
  refine ⟨(h.insertAll _).1, ?_⟩
  rcases acceptedRules_lineOf registry columns number line with hnone | ⟨rule, hrule, hname⟩
  · rw [show accepted = [] from hnone, List.append_nil]
    rfl
  · rw [show accepted = [rule] from hrule]
    exact h.rules_insert_of_not_mem (hname ▸ nextLineName_not_mem h)

/-! ## Runs

  All lines, by induction on their list. What is kept general is the registry and the number of the
  first line, which change from line to line. -/

section Runs

variable (parser : Parser) (registry : Registry) (columns : List String) (number : Nat)

/-- **The first line** is told, its rule is inserted, and the others are read from there. -/
theorem parseFrom_cons (line : String) (lines : List String) :
    let told := (lineOf registry columns number line).toList
    let rest := parser.parseFrom (registry.insertAll (acceptedRules told)) columns (number + 1) lines
    (parser.parseFrom registry columns number (line :: lines)).lines = told ++ rest.lines ∧
      (parser.parseFrom registry columns number (line :: lines)).registry = rest.registry := by
  intro told rest
  -- a line that does not speak is passed over, and only its number is counted
  by_cases hline : Speaks line
  · have hskip : isSkipped (trim line.toList) = false := by
      rw [← Bool.not_eq_true, isSkipped_iff, not_not]
      exact hline
    obtain ⟨hresult, hparser⟩ := parse_line parser registry columns hline
    have hregistry := parse_registry parser registry (trimmed line) columns
      (some (nextLineName registry))
    rw [hresult] at hregistry
    have htold : told = [⟨number, trimmed line,
        ruleOf (nextLineName registry) (trim line.toList) columns⟩] := by
      simp only [told, lineOf, if_pos hline, Option.toList_some]
    have haccepted : acceptedRules told =
        (ruleOf (nextLineName registry) (trim line.toList) columns).toOption.toList := by
      rw [htold, acceptedRules_singleton]
    have hrest : rest = parser.parseFrom (registry.insertAll
        (ruleOf (nextLineName registry) (trim line.toList) columns).toOption.toList)
        columns (number + 1) lines := by
      simp only [rest, haccepted]
    have htrimmed : String.ofList (trim line.toList) = trimmed line := rfl
    rw [hrest, htold]
    simp only [parseFrom, hskip, Bool.false_eq_true, if_false, htrimmed, hresult, hparser,
      hregistry, List.singleton_append, and_self]
  · have htold : told = [] := by
      simp only [told, lineOf, if_neg hline, Option.toList_none]
    simp only [parseFrom, isSkipped_iff.mpr hline, if_true, rest, htold, List.nil_append]
    exact ⟨rfl, rfl⟩

/-- **Lines are read by reading the first ones** and then the others from there. By induction on the
    first ones. -/
theorem parseFrom_append (before rest : List String) :
    let first := parser.parseFrom registry columns number before
    let second := parser.parseFrom first.registry columns (number + before.length) rest
    (parser.parseFrom registry columns number (before ++ rest)).lines =
        first.lines ++ second.lines ∧
      (parser.parseFrom registry columns number (before ++ rest)).registry = second.registry := by
  induction before generalizing registry number with
  | nil => exact ⟨rfl, rfl⟩
  | cons line before ih =>
    intro first second
    let told := (lineOf registry columns number line).toList
    obtain ⟨hlines, hregistry⟩ := parseFrom_cons parser registry columns number line before
    obtain ⟨hlines', hregistry'⟩ := parseFrom_cons parser registry columns number line (before ++ rest)
    obtain ⟨ihlines, ihregistry⟩ := ih (registry.insertAll (acceptedRules told)) (number + 1)
    -- The rest starts at the same registry and the same number, by either way of counting.
    have hsecond : second = parser.parseFrom
        (parser.parseFrom (registry.insertAll (acceptedRules told)) columns (number + 1)
          before).registry columns (number + 1 + before.length) rest := by
      simp only [second, first, hregistry, told, List.length_cons, Nat.add_assoc, Nat.add_comm 1]
    rw [List.cons_append, hsecond, hlines', hregistry', ihlines, ihregistry, hlines,
      List.append_assoc]
    exact ⟨rfl, rfl⟩

/-- **The rules of the accepted lines** come behind all others, in the order of the lines. -/
theorem rules_parseFrom (h : registry.Indexed) (lines : List String) :
    let batch := parser.parseFrom registry columns number lines
    batch.registry.Indexed ∧ batch.registry.rules = registry.rules ++ acceptedRules batch.lines := by
  induction lines generalizing registry number with
  | nil => exact ⟨h, (List.append_nil _).symm⟩
  | cons line lines ih =>
    intro batch
    obtain ⟨hindexed, hrules⟩ := rules_insertAll_lineOf h columns number line
    obtain ⟨hlines, hregistry⟩ := parseFrom_cons parser registry columns number line lines
    obtain ⟨ihindexed, ihrules⟩ := ih _ (number + 1) hindexed
    simp only [batch, hlines, hregistry]
    refine ⟨ihindexed, ?_⟩
    rw [ihrules, hrules, List.append_assoc, acceptedRules, acceptedRules, acceptedRules,
      List.filterMap_append]

/-- **Every line that speaks is told**, with its number and without the blanks around it. -/
theorem lines_parseFrom (lines : List String) :
    (parser.parseFrom registry columns number lines).lines.map
        (fun told => (told.expression, told.number)) =
      ((lines.zipIdx number).filter (fun numbered => Speaks numbered.1)).map
        (fun numbered => (trimmed numbered.1, numbered.2)) := by
  induction lines generalizing registry number with
  | nil => rfl
  | cons line lines ih =>
    rw [(parseFrom_cons parser registry columns number line lines).1, List.map_append, ih,
      List.zipIdx_cons, List.filter_cons, lineOf]
    split
    next hline => rw [if_pos (decide_eq_true hline)]; rfl
    next hline => rw [if_neg (by simpa using hline)]; rfl

/-- The numbers of the lines that are told go up. -/
theorem pairwise_numbers_parseFrom (lines : List String) :
    ((parser.parseFrom registry columns number lines).lines.map (·.number)).Pairwise (· < ·) := by
  have hnumbers := congrArg (List.map Prod.snd)
    (lines_parseFrom parser registry columns number lines)
  rw [List.map_map, List.map_map] at hnumbers
  have hsub := (List.filter_sublist (p := fun numbered : String × Nat => decide (Speaks numbered.1))
    (l := lines.zipIdx number)).map Prod.snd
  rw [List.zipIdx_map_snd] at hsub
  exact hnumbers ▸ List.Pairwise.sublist hsub List.pairwise_lt_range'

/-- The numbers of the lines that are told are among the numbers of the lines. -/
theorem number_mem_range {lines : List String} {told : Line}
    (h : told ∈ (parser.parseFrom registry columns number lines).lines) :
    number ≤ told.number ∧ told.number < number + lines.length := by
  have hmem := List.mem_map_of_mem (f := fun told : Line => (told.expression, told.number)) h
  rw [lines_parseFrom] at hmem
  obtain ⟨⟨line, n⟩, hline, heq⟩ := List.mem_map.mp hmem
  have hn : n = told.number := congrArg Prod.snd heq
  have hrange := List.mem_zipIdx (List.mem_of_mem_filter hline)
  omega

end Runs

/-! ## What is told of a line

  Numbers go up, so what is told under a number is told of the one line with this number. -/

/-- What is told of the line of that number. -/
def Batch.told? (batch : Batch) (number : Nat) : Option Line :=
  batch.lines.find? (·.number == number)

/-- The line of that number was rejected, or nothing is told of it. -/
def Batch.Idle (batch : Batch) (number : Nat) : Prop :=
  ∀ told ∈ batch.told? number, told.result.toOption = none

instance (batch : Batch) (number : Nat) : Decidable (batch.Idle number) :=
  inferInstanceAs (Decidable (∀ told ∈ batch.told? number, _))

section Told

variable (parser : Parser) (registry : Registry) (columns : List String)

/-- Nothing is told under a number that no line has. -/
theorem find?_parseFrom_of_not_mem {start number : Nat} {lines : List String}
    (h : number < start ∨ start + lines.length ≤ number) :
    (parser.parseFrom registry columns start lines).lines.find? (·.number == number) = none := by
  refine List.find?_eq_none.mpr fun told htold => ?_
  have hrange := number_mem_range parser registry columns start htold
  rw [beq_iff_eq]
  omega

/-- **What is told of a line** is told of it by the registry after the lines before it. -/
theorem told?_parseLines {lines : List String} {i : Nat} {line : String}
    (h : lines[i]? = some line) :
    (parser.parseLines registry columns lines).told? (i + 1) =
      lineOf (parser.parseLines registry columns (lines.take i)).registry columns (i + 1) line := by
  obtain ⟨hi, rfl⟩ := List.getElem?_eq_some_iff.mp h
  have hsplit : lines = lines.take i ++ lines[i] :: lines.drop (i + 1) := by
    rw [← List.drop_eq_getElem_cons hi, List.take_append_drop]
  have hlength : (lines.take i).length = i := List.length_take_of_le (Nat.le_of_lt hi)
  -- The lines in front have smaller numbers and those behind larger ones; only this one is found.
  conv_lhs => rw [hsplit]
  rw [Batch.told?, parseLines, (parseFrom_append parser registry columns 1 _ _).1,
    (parseFrom_cons ..).1, hlength, Nat.add_comm 1 i, ← parseLines, List.find?_append,
    List.find?_append, parseLines,
    find?_parseFrom_of_not_mem parser registry columns (by rw [hlength]; omega), Option.none_or,
    find?_parseFrom_of_not_mem _ _ _ (by omega), Option.or_none, lineOf]
  split
  next => exact List.find?_cons_of_pos (beq_self_eq_true _)
  next => rfl

/-- Only a line that states no rule is idle. -/
theorem idle_iff_not_states {lines : List String} {i : Nat} {line : String}
    (h : lines[i]? = some line) :
    (parser.parseLines registry columns lines).Idle (i + 1) ↔ ¬States columns line := by
  rw [Batch.Idle, told?_parseLines parser registry columns h]
  -- What a line states does not depend on the registry it is read at, so its moment can be any.
  generalize (parser.parseLines registry columns (lines.take i)).registry = moment
  rw [states_iff moment (i + 1)]
  constructor
  · rintro hidle ⟨rule, hrule⟩
    cases hidle _ hrule
  · intro hnone told htold
    -- A line that is told of and stored a rule would state that rule.
    cases hresult : told.result with
    | error => rfl
    | ok rule =>
      refine absurd ⟨rule, ?_⟩ hnone
      rw [lineOf] at htold ⊢
      split at htold
      next hline =>
        obtain rfl := Option.some.inj htold
        rw [if_pos hline, ← hresult]
      next => cases htold

/-! ## Replaced lines

  Two files that differ only in lines which state no rule. Such lines are told apart in what is
  told, but not in the registry. -/

/-- The same line, or both state no rule. -/
def Replaces (columns : List String) (line other : String) : Prop :=
  line = other ∨ ¬States columns line ∧ ¬States columns other

/-- **A line that states no rule** leaves no trace in the registry. -/
theorem registry_parseFrom_of_replaces {lines others : List String}
    (h : List.Forall₂ (Replaces columns) lines others) (number : Nat) :
    (parser.parseFrom registry columns number lines).registry =
      (parser.parseFrom registry columns number others).registry := by
  induction h generalizing registry number with
  | nil => rfl
  | @cons line other lines others hline hlines ih =>
    rw [(parseFrom_cons ..).2, (parseFrom_cons ..).2]
    rcases hline with rfl | ⟨hline, hother⟩
    · exact ih ..
    · rw [acceptedRules_lineOf_of_not_states hline, acceptedRules_lineOf_of_not_states hother]
      exact ih ..

/-- Where rejected, blank or commented lines were replaced by such lines, each line states the
    rule that it did, or neither does. -/
theorem replaces_of_idle {lines others : List String} (hlength : others.length = lines.length)
    (hidle : ∀ i, others[i]? ≠ lines[i]? →
      (parser.parseLines registry columns lines).Idle (i + 1) ∧
        (parser.parseLines registry columns others).Idle (i + 1)) :
    List.Forall₂ (Replaces columns) lines others := by
  refine List.forall₂_iff_get.mpr ⟨hlength.symm, fun i hi hi' => ?_⟩
  rw [List.get_eq_getElem, List.get_eq_getElem]
  by_cases hsame : others[i]? = lines[i]?
  · rw [List.getElem?_eq_getElem hi, List.getElem?_eq_getElem hi'] at hsame
    exact .inl (Option.some.inj hsame).symm
  · obtain ⟨hline, hother⟩ := hidle i hsame
    exact .inr ⟨(idle_iff_not_states parser registry columns (List.getElem?_eq_getElem hi)).mp hline,
      (idle_iff_not_states parser registry columns (List.getElem?_eq_getElem hi')).mp hother⟩

/-- What is told of a line that stayed is what was told of it. -/
theorem told?_parseLines_of_replaces {lines others : List String}
    (h : List.Forall₂ (Replaces columns) lines others) {i : Nat} (hsame : others[i]? = lines[i]?) :
    (parser.parseLines registry columns others).told? (i + 1) =
      (parser.parseLines registry columns lines).told? (i + 1) := by
  cases hline : lines[i]? with
  | some line =>
    have hmoment : (parser.parseLines registry columns (lines.take i)).registry =
        (parser.parseLines registry columns (others.take i)).registry :=
      registry_parseFrom_of_replaces parser registry columns (List.forall₂_take i h) 1
    rw [told?_parseLines parser registry columns hline, hmoment,
      told?_parseLines parser registry columns (hsame.trans hline)]
  | none =>
    have hi := List.getElem?_eq_none_iff.mp hline
    have hi' := List.getElem?_eq_none_iff.mp (hsame.trans hline)
    rw [Batch.told?, Batch.told?, parseLines, parseLines,
      find?_parseFrom_of_not_mem _ _ _ (by omega), find?_parseFrom_of_not_mem _ _ _ (by omega)]

end Told

/-! ## Batches -/

/-- **Many lines only append, and one bad line affects no other.**  The rules of the accepted lines
    come behind all others, in the order of the lines.  What is told are the lines that are neither
    blank nor comments, with their numbers, which go up.  Each is parsed, by the registry after the
    lines before it, under a name that no rule has at that moment.  And where rejected, blank or
    commented lines are replaced by such lines, the registry comes out the same, and so does what is
    told of every other line. -/
theorem parseLines_appends (parser : Parser) {registry : Registry} (hregistry : registry.Reachable)
    (columns lines : List String) :
    let batch := parser.parseLines registry columns lines
    batch.registry.rules = registry.rules ++ acceptedRules batch.lines ∧
    batch.lines.map (fun told => (told.expression, told.number)) =
      ((lines.zipIdx 1).filter (fun numbered => Speaks numbered.1)).map
        (fun numbered => (trimmed numbered.1, numbered.2)) ∧
    (batch.lines.map (·.number)).Pairwise (· < ·) ∧
    (∀ i line, lines[i]? = some line → Speaks line →
      let moment := (parser.parseLines registry columns (lines.take i)).registry
      ∃ n, IsLeast {n | moment.size < n ∧ "Rule" ++ toString n ∉ moment.names} n ∧
        let result :=
          (parser.parse moment (trimmed line) columns (some ("Rule" ++ toString n))).result
        batch.told? (i + 1) = some ⟨i + 1, trimmed line, result⟩ ∧
          ∀ rule, result = .ok rule → rule.name = "Rule" ++ toString n) ∧
    ∀ others : List String, others.length = lines.length →
      let batch' := parser.parseLines registry columns others
      (∀ i, others[i]? ≠ lines[i]? → batch.Idle (i + 1) ∧ batch'.Idle (i + 1)) →
        batch'.registry = batch.registry ∧
          ∀ i, others[i]? = lines[i]? → batch'.told? (i + 1) = batch.told? (i + 1) := by
  intro batch
  have hindexed := hregistry.indexed
  refine ⟨(rules_parseFrom parser registry columns 1 hindexed lines).2,
    lines_parseFrom parser registry columns 1 lines,
    pairwise_numbers_parseFrom parser registry columns 1 lines, ?_, ?_⟩
  · intro i line hi hline moment
    -- At every line the registry is still indexed, so the name that the line gets is free there.
    have hmoment : moment.Indexed :=
      (rules_parseFrom parser registry columns 1 hindexed (lines.take i)).1
    obtain ⟨n, hname, hleast⟩ := isLeast_nextLineName hmoment
    have hresult := (parse_line parser moment columns hline).1
    refine ⟨n, hleast, ?_⟩
    rw [← hname, hresult]
    refine ⟨?_, fun rule hrule => name_of_ruleOf hrule⟩
    rw [told?_parseLines parser registry columns hi, lineOf, if_pos hline]
  · intro others hlength batch' hidle
    -- Lines that store nothing on either side leave every other line the registry it had.
    have hreplaces := replaces_of_idle parser registry columns hlength hidle
    exact ⟨(registry_parseFrom_of_replaces parser registry columns hreplaces 1).symm,
      fun i hsame => told?_parseLines_of_replaces parser registry columns hreplaces hsame⟩

/-- A rule whose name is that of a second line. -/
def gappedNames : Registry := (Registry.empty.insert (.ofConditions "Rule2" [] [] "A=B")).1

/-- The lines that are accepted are named around it, whatever stands between them. -/
theorem parseLines_appends_of_gapped_names :
    let lines := ["# first", " A>B", "", "A B", "A<B"]
    let others := ["C>1", " A>B", "#", " ", "A<B"]
    let batch := fresh.parseLines gappedNames ["A", "B"] lines
    let batch' := fresh.parseLines gappedNames ["A", "B"] others
    gappedNames.Reachable ∧ others.length = lines.length ∧
      (∀ i, others[i]? ≠ lines[i]? → batch.Idle (i + 1) ∧ batch'.Idle (i + 1)) ∧
      batch.registry.names = ["Rule2", "Rule3", "Rule4"] ∧
      batch.lines.map (·.number) = [2, 4, 5] ∧ batch'.lines.map (·.number) = [1, 2, 5] ∧
      batch'.registry = batch.registry ∧ batch'.told? 5 = batch.told? 5 := by
  intro lines others batch batch'
  have hregistry : gappedNames.Reachable := Registry.Reachable.empty.insert _
  have hidle : ∀ i, others[i]? ≠ lines[i]? → batch.Idle (i + 1) ∧ batch'.Idle (i + 1) := by
    intro i hi
    have hlt : i < 5 := by
      by_contra hge
      refine hi ?_
      rw [List.getElem?_eq_none (Nat.not_lt.mp hge), List.getElem?_eq_none (Nat.not_lt.mp hge)]
    have hall : ∀ i < 5, others[i]? ≠ lines[i]? → batch.Idle (i + 1) ∧ batch'.Idle (i + 1) := by
      decide +kernel
    exact hall i hlt hi
  obtain ⟨-, -, -, -, hreplaced⟩ := parseLines_appends fresh hregistry ["A", "B"] lines
  obtain ⟨hsame, htold⟩ := hreplaced others rfl hidle
  exact ⟨hregistry, rfl, hidle, by decide +kernel, by decide +kernel, by decide +kernel, hsame,
    htold 4 rfl⟩

end TableRules.Parser
