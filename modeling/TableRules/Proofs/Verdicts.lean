/-
  WHAT A VALIDATION TELLS: one result per row and rule, and each is the meaning of the rule.

  1. **The shape of a run** — the faults are those of the checks, in the order of the rules; the
     results are those of the rows, one block after another, and all blocks are as long as the
     list of rules.  So the result on row `i` of rule `j` is at `i * rules.length + j`.

  2. **One rule** — a rule that passed its check is grounded, so it means something; and it leads
     to no rule of its name, so nothing that it needs is on the stack.  Hence it is evaluated to
     what it means, in every valid context.

  3. **One row** — the context of the row is valid after each rule.

  `Judged` says what a result is like without any evaluation: there is a fault of the check, and
  the result tells it; or there is none, the rule means something on the row, and the result tells
  that.  All five fields are said, the message to the letter, so nothing is left to the function
  that makes results.
-/
import TableRules.Proofs.Faults
import TableRules.Proofs.Memo
import TableRules.Validation

namespace TableRules

open Relation

/-! ## The shape of a run

  A run is made by adding faults and results to one that was there. What was there is dropped, and
  the rest is a list by rows and rules. -/

/-- In blocks of one length, an item is found by the number of its block and its place there. -/
theorem getElem?_flatMap_of_length {α β : Type} {f : α → List β} {size : Nat} {xs : List α}
    (hsize : ∀ x ∈ xs, (f x).length = size) {i j : Nat} {x : α} (hx : xs[i]? = some x)
    (hj : j < size) : (xs.flatMap f)[i * size + j]? = (f x)[j]? := by
  induction xs generalizing i with
  | nil => cases hx
  | cons head tail ih =>
    have hhead := hsize head (List.mem_cons_self ..)
    rw [List.flatMap_cons]
    cases i with
    | zero =>
      obtain rfl := Option.some.inj hx
      rw [List.getElem?_append_left (by omega), Nat.zero_mul, Nat.zero_add]
    | succ i =>
      -- past the first block
      have hplace : (i + 1) * size + j = size + (i * size + j) := by
        rw [Nat.succ_mul]
        omega
      rw [hplace, List.getElem?_append_right (by omega), hhead, Nat.add_sub_cancel_left]
      exact ih (fun y hy => hsize y (List.mem_cons_of_mem _ hy)) hx

/-- Whatever came of it, a result is about the rule that was evaluated. -/
theorem Result.ruleName_ofOutcome (index : Nat) (rule : Rule) (row : Row)
    (outcome : Except ReferenceError Bool) :
    (Result.ofOutcome index rule row outcome).ruleName = rule.name := by
  cases outcome with
  | error e => rfl
  | ok passed => cases passed <;> rfl

namespace Run

/-- Faults that are added one after the other stand in order behind those that are there, ... -/
theorem foldl_addFault (run : Run) (faults : List ReferenceError) :
    faults.foldl addFault run = ⟨run.results, run.faults ++ faults⟩ := by
  induction faults generalizing run with
  | nil => rw [List.append_nil]; rfl
  | cons fault faults ih => rw [List.foldl_cons, ih, addFault, List.append_assoc]; rfl

/-- ... and so do results. -/
theorem foldl_addResults {α : Type} (f : α → List Result) (run : Run) (xs : List α) :
    xs.foldl (fun run x => run.addResults (f x)) run =
      ⟨run.results ++ xs.flatMap f, run.faults⟩ := by
  induction xs generalizing run with
  | nil => rw [List.flatMap_nil, List.append_nil]; rfl
  | cons x xs ih => rw [List.foldl_cons, ih, addResults, List.flatMap_cons, List.append_assoc]

end Run

/-- The results on a row, one for each rule. -/
def Validation.blockOf (lookup : Lookup) (rules : List Rule) (numbered : Row × Nat) :
    List Result :=
  rowResults numbered.2 numbered.1 (.fresh lookup numbered.1)
    (rules.map fun rule => (rule, faultOf? lookup rule))

/-- **A run is what the checks find, and the rows in blocks**, whatever was there before. -/
theorem Run.validate_eq (run : Run) (table : Table) (rules : List Rule) (registry : Registry) :
    run.validate table rules registry =
      ⟨table.rows.zipIdx.flatMap (Validation.blockOf ⟨rules, registry⟩ rules),
        rules.filterMap (Validation.faultOf? ⟨rules, registry⟩)⟩ := by
  rw [validate]
  refine (foldl_addResults (Validation.blockOf ⟨rules, registry⟩ rules) _ _).trans ?_
  rw [foldl_addFault, cleared, List.filterMap_map]
  rfl

namespace Lookup

variable {lookup : Lookup} {row : Row} {context : Context} {rule : Rule} {index : Nat}

/-! ## One rule

  What is told of a rule if its check ends with a fault, and what if it does not. -/

/-- **A rule that passed its check is evaluated to what it means**, in every valid context with
    nothing on the stack. -/
theorem evaluate_of_check (hcanonical : lookup.Canonical) (hcheck : lookup.check rule = .ok ())
    (hvalid : context.Valid lookup row) (hstack : context.stack = []) :
    ∃ outcome, lookup.Means row rule outcome ∧ (context.evaluate rule).1 = .ok outcome := by
  obtain ⟨outcome, hmeans⟩ := exists_means row (grounded_of_check hcanonical hcheck)
  refine ⟨outcome, hmeans, Context.evaluate_of_means hcanonical hvalid hmeans ?_⟩
  -- the rule may not be the one that its name finds, so that it does not need itself is too little
  intro target hneeds end' hend hmem
  rw [hstack, List.nil_append, List.mem_singleton] at hmem
  exact name_ne_of_check hcanonical hcheck
    (transGen_refers_of_needs (TransGen.head' hneeds hend)) hmem

/-- A result tells what came of a rule on a row.  Its five fields are all spoken for, so there is
    only one such result (`Judged.unique`). -/
structure Judged (lookup : Lookup) (row : Row) (index : Nat) (rule : Rule) (result : Result) :
    Prop where
  rowIndex : result.rowIndex = index
  ruleName : result.ruleName = rule.name
  /-- Where the check found a fault, the row failed, and the message says that the rule was not
      evaluated and why. -/
  fault : ∀ e, lookup.check rule = .error e → result.passed = false ∧
    result.message =
      "Row " ++ toString index ++ ": Rule '" ++ rule.name ++ "' not evaluated: " ++ e.message
  /-- Otherwise the row passed if and only if what the rule means is true, and the message is the
      action of the rule, or says that the rule is not satisfied. -/
  outcome : lookup.check rule = .ok () → ∃ outcome,
    (∀ other, lookup.Means row rule other ↔ other = outcome) ∧ result.passed = outcome ∧
      result.message =
        if outcome then "Row " ++ toString index ++ ": " ++ rule.action
        else "Row " ++ toString index ++ ": Rule '" ++ rule.name ++ "' not satisfied"
  row : result.row = row

/-- A fault of the check is told. -/
theorem judged_of_check_error {e : ReferenceError} (hcheck : lookup.check rule = .error e) :
    lookup.Judged row index rule (.ofOutcome index rule row (.error e)) := by
  refine ⟨rfl, rfl, fun e' hcheck' => ?_, fun hcheck' => ?_, rfl⟩
  · obtain rfl := Except.error.inj (hcheck.symm.trans hcheck')
    exact ⟨rfl, rfl⟩
  · rw [hcheck] at hcheck'
    cases hcheck'

/-- What a rule means is told, if its check found no fault. -/
theorem judged_of_means {outcome : Bool} (hcheck : lookup.check rule = .ok ())
    (hmeans : lookup.Means row rule outcome) :
    lookup.Judged row index rule (.ofOutcome index rule row (.ok outcome)) := by
  -- A rule means one value at most, so this value is the one that is reported.
  have honly : ∀ other, lookup.Means row rule other ↔ other = outcome := by
    intro other
    constructor
    · exact fun hother => hother.unique hmeans
    · rintro rfl
      exact hmeans
  have hfaultless : ∀ e, lookup.check rule ≠ .error e := by
    intro e hfault
    rw [hcheck] at hfault
    cases hfault
  cases outcome with
  | true =>
    exact ⟨rfl, rfl, fun e h => absurd h (hfaultless e), fun _ => ⟨true, honly, rfl, rfl⟩, rfl⟩
  | false =>
    exact ⟨rfl, rfl, fun e h => absurd h (hfaultless e), fun _ => ⟨false, honly, rfl, rfl⟩, rfl⟩

/-- **What is told of a rule on a row leaves no choice.**  A check ends in one way, and a rule means
    one thing. -/
theorem Judged.unique {result result' : Result} (h : lookup.Judged row index rule result)
    (h' : lookup.Judged row index rule result') : result = result' := by
  have hsame : result.passed = result'.passed ∧ result.message = result'.message := by
    cases hcheck : lookup.check rule with
    | error e =>
      obtain ⟨hpassed, hmessage⟩ := h.fault e hcheck
      obtain ⟨hpassed', hmessage'⟩ := h'.fault e hcheck
      exact ⟨hpassed.trans hpassed'.symm, hmessage.trans hmessage'.symm⟩
    | ok _ =>
      obtain ⟨outcome, hmeans, hpassed, hmessage⟩ := h.outcome hcheck
      obtain ⟨outcome', hmeans', hpassed', hmessage'⟩ := h'.outcome hcheck
      -- Both results report a value that the rule means, and it means only one.
      obtain rfl := (hmeans' outcome).mp ((hmeans outcome).mpr rfl)
      exact ⟨hpassed.trans hpassed'.symm, hmessage.trans hmessage'.symm⟩
  cases result
  cases result'
  rw [Result.mk.injEq]
  exact ⟨h.rowIndex.trans h'.rowIndex.symm, h.ruleName.trans h'.ruleName.symm, hsame.1, hsame.2,
    h.row.trans h'.row.symm⟩

/-! ## One row

  All rules of a row share a context, so they are taken in order; `Valid` is what is handed on. -/

/-- **The results on a row are judged**, whatever the memo knew before of the row. -/
theorem judged_rowResults (hcanonical : lookup.Canonical) (rules : List Rule)
    (hvalid : context.Valid lookup row) (hstack : context.stack = []) :
    List.Forall₂ (lookup.Judged row index) rules (Validation.rowResults index row context
      (rules.map fun rule => (rule, Validation.faultOf? lookup rule))) := by
  induction rules generalizing context with
  | nil => exact .nil
  | cons rule rules ih =>
    rw [List.map_cons, Validation.faultOf?]
    cases hcheck : lookup.check rule with
    | error e => exact .cons (judged_of_check_error hcheck) (ih hvalid hstack)
    | ok _ =>
      obtain ⟨outcome, hmeans, hok⟩ := evaluate_of_check hcanonical hcheck hvalid hstack
      rw [Validation.rowResults]
      show List.Forall₂ _ _ (.ofOutcome index rule row (context.evaluate rule).1 ::
        Validation.rowResults index row (context.evaluate rule).2 _)
      rw [hok]
      -- The memo that the evaluation leaves is right again, and the stack is empty again.
      refine .cons (judged_of_means hcheck hmeans) (ih (hvalid.evaluate hcanonical rule) ?_)
      exact (Context.evaluate_restored context rule).stack.trans hstack

end Lookup

/-! ## All rows -/

/-- The context after rules that were evaluated one after another. -/
def Context.after (context : Context) (earlier : List Rule) : Context :=
  earlier.foldl (fun context rule => (context.evaluate rule).2) context

/-- It is valid, with the stack of the context before. -/
theorem Context.Valid.after {lookup : Lookup} {row : Row} {context : Context}
    (hcanonical : lookup.Canonical) (hvalid : context.Valid lookup row) (earlier : List Rule) :
    (context.after earlier).Valid lookup row ∧
      (context.after earlier).stack = context.stack := by
  induction earlier generalizing context with
  | nil => exact ⟨hvalid, rfl⟩
  | cons rule earlier ih =>
    obtain ⟨hvalid', hstack'⟩ := ih (hvalid.evaluate hcanonical rule)
    exact ⟨hvalid', hstack'.trans (evaluate_restored context rule).stack⟩

/-- **What a validation tells**, whatever was told before: for each row and each rule there is
    one result, in its place; it is the fault of the rule, if its check finds one, and what the
    rule means on the row, if not.  A rule that passed its check is evaluated without a fault, in
    the context of a row, whatever was evaluated before.  The faults are those of the checks, in
    order, and nothing of an earlier run is left. -/
theorem Run.validate_tells (run : Run) (table : Table) (rules : List Rule) {registry : Registry}
    (hregistry : registry.Reachable) :
    let lookup : Lookup := ⟨rules, registry⟩
    let told := run.validate table rules registry
    told.results.length = table.rows.length * rules.length ∧
    (∀ i row j rule, table.rows[i]? = some row → rules[j]? = some rule →
      ∃ result, told.results[i * rules.length + j]? = some result ∧
        lookup.Judged row i rule result) ∧
    (∀ row earlier rule, lookup.check rule = .ok () → ∃ outcome,
      (((Context.fresh lookup row).after earlier).evaluate rule).1 = .ok outcome) ∧
    told.faults = rules.filterMap (Validation.faultOf? lookup) ∧
    told = Run.none.validate table rules registry := by
  intro lookup told
  have hcanonical : lookup.Canonical := Lookup.canonical_of_indexed hregistry.indexed
  -- A row's results are one block, judged rule by rule; the results are the blocks of the rows.
  have hblock : ∀ numbered, List.Forall₂ (lookup.Judged numbered.1 numbered.2) rules
      (Validation.blockOf lookup rules numbered) := fun numbered =>
    Lookup.judged_rowResults hcanonical rules Context.Valid.fresh rfl
  have hsize : ∀ numbered ∈ table.rows.zipIdx,
      (Validation.blockOf lookup rules numbered).length = rules.length :=
    fun numbered _ => (hblock numbered).length_eq.symm
  refine ⟨?_, fun i row j rule hrow hrule => ?_, fun row earlier rule hcheck => ?_, ?_, ?_⟩
  · show (run.validate table rules registry).results.length = _
    rw [validate_eq, List.length_flatMap, List.map_congr_left hsize, List.map_const',
      List.sum_replicate_nat, List.length_zipIdx]
  · have hnumbered : table.rows.zipIdx[i]? = some (row, i) := by
      rw [List.getElem?_zipIdx, hrow]
      simp
    obtain ⟨hj, rfl⟩ := List.getElem?_eq_some_iff.mp hrule
    -- All blocks have the same length, so the place of a result tells its row and its rule.
    have hplace := getElem?_flatMap_of_length hsize hnumbered hj
    have hj' : j < (Validation.blockOf lookup rules (row, i)).length :=
      (hblock (row, i)).length_eq ▸ hj
    refine ⟨(Validation.blockOf lookup rules (row, i))[j], ?_, ?_⟩
    · show (run.validate table rules registry).results[i * rules.length + j]? = _
      rw [validate_eq]
      exact hplace.trans (List.getElem?_eq_getElem hj')
    · exact (hblock (row, i)).get hj hj'
  · obtain ⟨hvalid, hstack⟩ := (@Context.Valid.fresh lookup row).after hcanonical earlier
    obtain ⟨outcome, -, hok⟩ := Lookup.evaluate_of_check hcanonical hcheck hvalid hstack
    exact ⟨outcome, hok⟩
  · show (run.validate table rules registry).faults = _
    rw [validate_eq]
  · show run.validate table rules registry = _
    rw [validate_eq, validate_eq]

/-- All three outcomes, after another run.  On the first row the limit that `main` refers to in
    other letters is kept, on the second it is not; what `lost` refers to is not there, and `loop`
    leads back to itself. -/
theorem Run.validate_tells_of_three_outcomes :
    let limit := Rule.ofConditions "limit" [⟨"A", .greaterThan, .int 10⟩] [] "A > 10"
    let main := Rule.ofReferences "main" ["LIMIT"] [] "LIMIT"
    let lost := Rule.ofReferences "lost" ["main", "gone"] [.or] "main OR gone"
    let loop := Rule.ofReferences "loop" ["main", "LOOP"] [.and] "main AND LOOP"
    let registry := (Registry.empty.insert limit).1
    let high : Row := ⟨[("A", .int 15)]⟩
    let low : Row := ⟨[("A", .int 5)]⟩
    let run : Run := ⟨[.fail 7 "old" high], [.undefined "old" "gone"]⟩
    let told := run.validate ⟨["A"], [high, low]⟩ [main, lost, loop] registry
    registry.Reachable ∧ told.results.length = 6 ∧
      told.results[0]? = some ⟨0, "main", true, "Row 0: main validation", high⟩ ∧
      told.results[3]? = some ⟨1, "main", false, "Row 1: Rule 'main' not satisfied", low⟩ ∧
      told.results[4]? = some ⟨1, "lost", false,
        "Row 1: Rule 'lost' not evaluated: Rule 'lost' references undefined rule 'gone'", low⟩ ∧
      told.results[5]? = some ⟨1, "loop", false,
        "Row 1: Rule 'loop' not evaluated: Circular rule reference: loop -> loop", low⟩ ∧
      told.faults = [.undefined "lost" "gone", .circular ["loop", "loop"]] := by
  intro limit main lost loop registry high low run told
  have hregistry : registry.Reachable := Registry.Reachable.empty.insert limit
  let lookup : Lookup := ⟨[main, lost, loop], registry⟩
  have hlimit : lookup.get? "LIMIT" = some limit := by decide
  have hknown : lookup.get? "main" = some main := by decide
  have hself : lookup.get? "LOOP" = some loop := by decide
  have hgone : lookup.get? "gone" = Option.none := by decide
  -- each of the three is followed to `limit` first, and on to where its walk ends
  have hinside : ∀ path, "limit" ∉ path → lookup.Follows 1 "main" ["LIMIT"] path [] (.ok ["limit"]) :=
    fun path hpath => .next hlimit (by decide) hpath .nil .nil
  have hmain : lookup.check main = .ok () :=
    @Lookup.Follows.check_eq lookup 1 main _ (hinside _ (by decide))
  have hlost : lookup.check lost = .error (.undefined "lost" "gone") :=
    @Lookup.Follows.check_eq lookup 2 lost _ <|
      .next hknown (by decide) (by decide) (hinside _ (by decide)) (.undefined hgone)
  have hloop : lookup.check loop = .error (.circular ["loop", "loop"]) :=
    @Lookup.Follows.check_eq lookup 2 loop _ <|
      .next hknown (by decide) (by decide) (hinside _ (by decide))
        (.circular hself (by decide) (by decide))
  have hmeans : ∀ row outcome, combine (limit.conditions.map (·.holds row)) limit.connectives =
      outcome → lookup.Means row main outcome := by
    rintro row outcome rfl
    exact Lookup.means_of_forall₂ rfl (.cons ⟨limit, hlimit, .conditions limit rfl⟩ .nil)
  have hhigh : lookup.Means high main true := hmeans high true (by decide +kernel)
  have hlow : lookup.Means low main false := hmeans low false (by decide +kernel)
  obtain ⟨hlength, hplace, -, hfaults, -⟩ :=
    run.validate_tells ⟨["A"], [high, low]⟩ [main, lost, loop] hregistry
  -- what a result has to be, it is: there is no other that is judged so
  have htold : ∀ {i row j rule expected}, [high, low][i]? = some row →
      [main, lost, loop][j]? = some rule → lookup.Judged row i rule expected →
        told.results[i * 3 + j]? = some expected := by
    intro i row j rule expected hrow hrule hexpected
    obtain ⟨result, hresult, hjudged⟩ := hplace i row j rule hrow hrule
    rw [hexpected.unique hjudged]
    exact hresult
  refine ⟨hregistry, hlength, ?_, ?_, ?_, ?_, ?_⟩
  · exact @htold 0 high 0 main _ rfl rfl (Lookup.judged_of_means hmain hhigh)
  · exact @htold 1 low 0 main _ rfl rfl (Lookup.judged_of_means hmain hlow)
  · exact @htold 1 low 1 lost _ rfl rfl (Lookup.judged_of_check_error hlost)
  · exact @htold 1 low 2 loop _ rfl rfl (Lookup.judged_of_check_error hloop)
  · rw [hfaults]
    show [main, lost, loop].filterMap (Validation.faultOf? lookup) = _
    simp only [List.filterMap_cons, List.filterMap_nil, Validation.faultOf?, hmain, hlost, hloop]

end TableRules
