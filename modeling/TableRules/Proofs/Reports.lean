/-
  REPORTS AND SUMMARIES: both tell of every result, and they tell the same.

  The results may be any: whether one passed, and what its message says, is nobody's business here
  but its own.  A summary is made in one pass that counts, finds the tally of a rule or adds it, and
  collects what failed, all at once; the text is made by counting again.  So there are two things to
  show, that the pass comes to the right numbers, and that the other count comes to the same.

  1. **Tallies** — `tallyOf` is the tally of a rule as it should be, counted in the whole list.  The
     tallies that are kept while results are counted one by one are these, in the order in which the
     rules first appear: a result changes the tally of its rule and no other, or adds one.

  2. **One pass** — `Counts` says what a summary holds after some results, and one more result keeps
     it.  So it holds at the end of the pass (`counts_foldl`).  `Accounts` is what a reader of the
     summary may rely on, said without the functions that made it.

  3. **The text** — the lines of a report are a banner with the three counts and, if something
     failed, a section with one block for each failure of the summary.  The words that head the
     section are in no banner, so they are in the report if and only if something failed.

  4. **Runs** — a validation has one result for each row and rule.
-/
import Mathlib.Algebra.GroupWithZero.Nat
import TableRules.Proofs.FirstAppearances
import TableRules.Proofs.FreshNumbers
import TableRules.Proofs.Reliance
import TableRules.Report

namespace TableRules

/-! ## Tallies

  What the tally of a rule should be is counted in the whole list, while the tallies that are kept
  have seen only a part of it. `count_tallyOf` is the step from one to the other. -/

/-- One more result is the last that passed, if it did, ... -/
theorem passedOf_concat (results : List Result) (result : Result) :
    passedOf (results ++ [result]) = passedOf results ++ if result.passed then [result] else [] := by
  unfold passedOf
  rw [List.filter_append]
  cases h : result.passed <;> simp [h]

/-- ... and the last that failed, if it did not. -/
theorem failedOf_concat (results : List Result) (result : Result) :
    failedOf (results ++ [result]) = failedOf results ++ if result.passed then [] else [result] := by
  unfold failedOf
  rw [List.filter_append]
  cases h : result.passed <;> simp [h]

/-- What did not pass has failed. -/
theorem length_passedOf_add (results : List Result) :
    (passedOf results).length + (failedOf results).length = results.length :=
  (List.length_eq_length_filter_add Result.passed).symm

namespace Summary

/-- The tally of a rule, counted in a whole list of results. -/
def tallyOf (results : List Result) (ruleName : String) : Tally where
  ruleName := ruleName
  passed := (passedOf results).countP (·.ruleName == ruleName)
  failed := (failedOf results).countP (·.ruleName == ruleName)

section Concat

variable {earlier : List Result} {result : Result}

/-- One more result changes the tally of its rule by one, on the one side or the other. -/
theorem tallyOf_concat_self : tallyOf (earlier ++ [result]) result.ruleName =
    ⟨result.ruleName, (tallyOf earlier result.ruleName).passed + result.passed.toNat,
      (tallyOf earlier result.ruleName).failed + (!result.passed).toNat⟩ := by
  unfold tallyOf
  rw [passedOf_concat, failedOf_concat]
  cases result.passed <;> simp

/-- The other tallies stay as they are. -/
theorem tallyOf_concat_of_ne {ruleName : String} (h : ruleName ≠ result.ruleName) :
    tallyOf (earlier ++ [result]) ruleName = tallyOf earlier ruleName := by
  unfold tallyOf
  rw [passedOf_concat, failedOf_concat]
  cases result.passed <;> simp [h.symm]

/-- A rule without results has an empty tally. -/
theorem tallyOf_of_not_mem {ruleName : String} (h : ruleName ∉ earlier.map Result.ruleName) :
    tallyOf earlier ruleName = ⟨ruleName, 0, 0⟩ := by
  have hnone : ∀ other ∈ earlier, ¬ (other.ruleName == ruleName) = true := by
    intro other hother heq
    exact h (List.mem_map.mpr ⟨other, hother, beq_iff_eq.mp heq⟩)
  unfold tallyOf
  rw [List.countP_eq_zero.mpr, List.countP_eq_zero.mpr]
  · intro other hother
    exact hnone other (List.mem_filter.mp hother).1
  · intro other hother
    exact hnone other (List.mem_filter.mp hother).1

/-- A new rule gets its tally at the end, ... -/
theorem count_of_not_mem {tallies : List Tally}
    (h : result.ruleName ∉ tallies.map Tally.ruleName) :
    count result tallies =
      tallies ++ [⟨result.ruleName, result.passed.toNat, (!result.passed).toNat⟩] := by
  induction tallies with
  | nil => rfl
  | cons tally tallies ih =>
    rw [List.map_cons, List.mem_cons, not_or] at h
    rw [count, if_neg (Ne.symm h.1), ih h.2, List.cons_append]

/-- ... and the tally of a known rule is changed in its place. -/
theorem count_of_mem {names : List String} (hnames : names.Nodup) (h : result.ruleName ∈ names) :
    count result (names.map (tallyOf earlier)) = names.map (tallyOf (earlier ++ [result])) := by
  induction names with
  | nil => cases h
  | cons name names ih =>
    obtain ⟨hname, hnames⟩ := List.nodup_cons.mp hnames
    rw [List.map_cons, List.map_cons, count]
    by_cases hsame : name = result.ruleName
    · subst hsame
      -- The names differ, so behind the first match no tally is of this rule.
      have hrest : names.map (tallyOf (earlier ++ [result])) = names.map (tallyOf earlier) := by
        apply List.map_congr_left
        intro other hother
        exact tallyOf_concat_of_ne fun heq => hname (heq ▸ hother)
      rw [hrest, tallyOf_concat_self]
      exact if_pos rfl
    · have hmem : result.ruleName ∈ names := (List.mem_cons.mp h).resolve_left (Ne.symm hsame)
      rw [tallyOf_concat_of_ne hsame, ← ih hnames hmem]
      exact if_neg hsame

/-- **Counting one more result** makes of the right tallies the right tallies. -/
theorem count_tallyOf : count result
    ((earlier.map Result.ruleName).eraseDups.map (tallyOf earlier)) =
      ((earlier ++ [result]).map Result.ruleName).eraseDups.map (tallyOf (earlier ++ [result])) := by
  rw [List.map_append, List.map_singleton, eraseDups_append_singleton]
  split
  next hknown =>
    exact count_of_mem (nodup_eraseDups _) (List.mem_eraseDups.mpr hknown)
  next hnew =>
    -- A rule not met before gets a tally of its own at the end, and no other tally changes.
    have hnames : ((earlier.map Result.ruleName).eraseDups.map (tallyOf earlier)).map
        Tally.ruleName = (earlier.map Result.ruleName).eraseDups := by
      rw [List.map_map]
      exact List.map_id _
    rw [count_of_not_mem (by rwa [hnames, List.mem_eraseDups]), List.map_append, List.map_singleton,
      tallyOf_concat_self, tallyOf_of_not_mem hnew, Nat.zero_add, Nat.zero_add]
    congr 1
    apply List.map_congr_left
    intro other hother
    refine (tallyOf_concat_of_ne ?_).symm
    rintro rfl
    exact hnew (List.mem_eraseDups.mp hother)

end Concat

/-- A result is counted once. -/
theorem sum_count (result : Result) (tallies : List Tally) :
    ((count result tallies).map Tally.passed).sum =
        (tallies.map Tally.passed).sum + result.passed.toNat ∧
      ((count result tallies).map Tally.failed).sum =
        (tallies.map Tally.failed).sum + (!result.passed).toNat := by
  induction tallies with
  | nil => simp [count]
  | cons tally tallies ih =>
    obtain ⟨hpassed, hfailed⟩ := ih
    rw [count]
    split
    · simp only [List.map_cons, List.sum_cons]
      omega
    · simp only [List.map_cons, List.sum_cons]
      omega

/-! ## One pass

  First what one more result does to each field of a summary, then what a summary holds after any
  number of them, and then what a reader may rely on. -/

/-- What a summary holds after it was told some results. -/
structure Counts (summary : Summary) (results : List Result) : Prop where
  passed : summary.passed = (passedOf results).length
  failed : summary.failed = (failedOf results).length
  tallies : summary.tallies = (results.map Result.ruleName).eraseDups.map (tallyOf results)
  passed_sum : (summary.tallies.map Tally.passed).sum = summary.passed
  failed_sum : (summary.tallies.map Tally.failed).sum = summary.failed
  failures : summary.failures = (failedOf results).map failureOf

section Add

variable (summary : Summary) (result : Result)

/-- What one more result changes, field by field. The total is set in advance, ... -/
theorem total_add : (summary.add result).total = summary.total := by
  unfold add
  cases result.passed <;> rfl

/-- ... one count goes up by one ... -/
theorem passed_add : (summary.add result).passed = summary.passed + result.passed.toNat := by
  unfold add
  cases result.passed <;> rfl

/-- ... or the other, ... -/
theorem failed_add : (summary.add result).failed = summary.failed + (!result.passed).toNat := by
  unfold add
  cases result.passed <;> rfl

/-- ... the tally of the rule is counted up or added, ... -/
theorem tallies_add : (summary.add result).tallies = count result summary.tallies := by
  unfold add
  cases result.passed <;> rfl

/-- ... and a failure is kept. -/
theorem failures_add : (summary.add result).failures =
    summary.failures ++ if result.passed then [] else [failureOf result] := by
  unfold add
  cases result.passed <;> simp

end Add

/-- **One more result** keeps it. -/
theorem Counts.add {summary : Summary} {earlier : List Result} (h : summary.Counts earlier)
    (result : Result) : (summary.add result).Counts (earlier ++ [result]) := by
  obtain ⟨hpassed, hfailed⟩ := sum_count result summary.tallies
  constructor
  · rw [passed_add, passedOf_concat, List.length_append, h.passed]
    cases result.passed <;> rfl
  · rw [failed_add, failedOf_concat, List.length_append, h.failed]
    cases result.passed <;> rfl
  · rw [tallies_add, h.tallies]
    exact count_tallyOf
  · rw [tallies_add, passed_add, hpassed, h.passed_sum]
  · rw [tallies_add, failed_add, hfailed, h.failed_sum]
  · rw [failures_add, failedOf_concat, List.map_append, h.failures]
    cases result.passed <;> rfl

/-- **So does a pass** over any number of results. -/
theorem counts_foldl {summary : Summary} {earlier : List Result} (h : summary.Counts earlier)
    (results : List Result) : (results.foldl add summary).Counts (earlier ++ results) := by
  induction results generalizing summary earlier with
  | nil => rwa [List.append_nil]
  | cons result results ih =>
    have hrest := ih (h.add result)
    rwa [List.append_assoc] at hrest

/-- So a pass leaves the total as it was set. -/
theorem total_foldl (summary : Summary) (results : List Result) :
    (results.foldl add summary).total = summary.total := by
  induction results generalizing summary with
  | nil => rfl
  | cons result results ih => rw [List.foldl_cons, ih, total_add]

/-- After the whole list a summary holds what it should. -/
theorem counts_ofResults (results : List Result) : (ofResults results).Counts results := by
  have hstart : Counts ⟨results.length, 0, 0, [], [], []⟩ [] := ⟨rfl, rfl, rfl, rfl, rfl, rfl⟩
  exact counts_foldl hstart results

/-- A failure shows a result: where it is from, what it says, and the row as text. -/
structure Shows (failure : Failure) (result : Result) : Prop where
  rowIndex : failure.rowIndex = result.rowIndex
  ruleName : failure.ruleName = result.ruleName
  message : failure.message = result.message
  row : failure.row = result.row.display

/-- A summary accounts for every result: the totals are those of the list, the tallies are those of
    its rules in the order in which they first appear, and the failures show what did not pass, one
    by one. -/
structure Accounts (summary : Summary) (results : List Result) : Prop where
  /-- There are so many results, ... -/
  total : summary.total = results.length
  /-- ... each of which passed or failed. -/
  sum : summary.passed + summary.failed = summary.total
  /-- So many passed ... -/
  passed : summary.passed = results.countP (·.passed)
  /-- ... and so many did not. -/
  failed : summary.failed = results.countP (!·.passed)
  /-- No rule has two tallies, ... -/
  distinct : (summary.tallies.map Tally.ruleName).Nodup
  /-- ... and each rule with a result has one, in the order of first appearances. -/
  names : summary.tallies.map Tally.ruleName = (results.map Result.ruleName).eraseDups
  /-- A tally counts the results of its rule that passed, and those that did not. -/
  tally : ∀ tally ∈ summary.tallies,
    tally.passed = results.countP (fun result => result.ruleName == tally.ruleName && result.passed) ∧
      tally.failed =
        results.countP fun result => result.ruleName == tally.ruleName && !result.passed
  /-- The tallies add up to the totals. -/
  passed_sum : (summary.tallies.map Tally.passed).sum = summary.passed
  failed_sum : (summary.tallies.map Tally.failed).sum = summary.failed
  /-- Each failure shows a result that did not pass, and each such result is shown. -/
  failures : List.Forall₂ Shows summary.failures (results.filter (!·.passed))

/-- What a pass has counted, the summary accounts for. -/
theorem Counts.accounts {summary : Summary} {results : List Result} (h : summary.Counts results)
    (htotal : summary.total = results.length) : summary.Accounts results := by
  have hnames : summary.tallies.map Tally.ruleName =
      (results.map Result.ruleName).eraseDups := by
    rw [h.tallies, List.map_map]
    exact List.map_id _
  constructor
  · exact htotal
  · rw [h.passed, h.failed, htotal]
    exact length_passedOf_add results
  · exact h.passed.trans List.countP_eq_length_filter.symm
  · exact h.failed.trans List.countP_eq_length_filter.symm
  · rw [hnames]
    exact nodup_eraseDups _
  · exact hnames
  · intro tally hmem
    rw [h.tallies] at hmem
    obtain ⟨name, -, rfl⟩ := List.mem_map.mp hmem
    exact ⟨List.countP_filter, List.countP_filter⟩
  · exact h.passed_sum
  · exact h.failed_sum
  · rw [h.failures, List.forall₂_map_left_iff]
    exact List.forall₂_same.mpr fun result _ => ⟨rfl, rfl, rfl, rfl⟩

/-- **A summary accounts for its results.** -/
theorem accounts_ofResults (results : List Result) : (ofResults results).Accounts results :=
  (counts_ofResults results).accounts (total_foldl _ results)

/-- The faults of a run are told apart from its results. -/
theorem accounts_ofRun (run : Run) : (ofRun run).Accounts run.results := by
  obtain ⟨total, sum, passed, failed, distinct, names, tally, passed_sum, failed_sum, failures⟩ :=
    accounts_ofResults run.results
  exact ⟨total, sum, passed, failed, distinct, names, tally, passed_sum, failed_sum, failures⟩

end Summary

/-! ## The text

  The report puts line breaks between its lines. It is easier to think of them in front of all lines
  but the first, and this is what `linesAfter` does: then blocks and sections are put together by
  appending. -/

/-- Each text on a line of its own, behind what is there. -/
def Report.linesAfter (texts : List String) : String := String.join (texts.map ("\n" ++ ·))

namespace Report

/-- Nothing is put behind by no texts, ... -/
theorem linesAfter_nil : linesAfter [] = "" := rfl

/-- ... a line by each text, ... -/
theorem linesAfter_cons (text : String) (texts : List String) :
    linesAfter (text :: texts) = "\n" ++ (text ++ linesAfter texts) := by
  unfold linesAfter
  rw [List.map_cons, String.join_cons, String.append_assoc]

/-- ... and the lines of two lists one behind the other. -/
theorem linesAfter_append (texts others : List String) :
    linesAfter (texts ++ others) = linesAfter texts ++ linesAfter others := by
  unfold linesAfter
  rw [List.map_append, String.join_append]

/-- Texts joined by line breaks are the first text with the others on lines behind it. -/
theorem intercalate_cons (text : String) (texts : List String) :
    "\n".intercalate (text :: texts) = text ++ linesAfter texts := by
  induction texts generalizing text with
  | nil => rw [String.intercalate_singleton, linesAfter_nil, String.append_empty]
  | cons next texts ih =>
    rw [String.intercalate_cons_cons, ih, linesAfter_cons, String.append_assoc]

/-- The banner of a report, with its three counts. -/
def banner (total passed failed : Nat) : String :=
  ruler '=' ++ "\nVALIDATION REPORT\n" ++ ruler '=' ++ "\nTotal validations: " ++ toString total
    ++ "\nPassed: " ++ toString passed ++ "\nFailed: " ++ toString failed ++ "\n" ++ ruler '='

/-- The block of a failure. -/
def blockText (failure : Failure) : String :=
  "\n\n" ++ failure.message ++ "\nRule: " ++ failure.ruleName ++ "\nRow data: " ++ failure.row

/-- The section about failures, if there are any: its head, and a block for each. -/
def failureSection : List Failure → String
  | [] => ""
  | failure :: failures => "\n\nFAILED VALIDATIONS:\n" ++ ruler '-'
      ++ String.join ((failure :: failures).map blockText)

/-- The banner as lines. -/
theorem banner_eq (total passed failed : Nat) :
    banner total passed failed = ruler '=' ++ linesAfter ["VALIDATION REPORT", ruler '=',
      "Total validations: " ++ toString total, "Passed: " ++ toString passed,
      "Failed: " ++ toString failed, ruler '='] := by
  have htitle : "\nVALIDATION REPORT\n" = "\n" ++ ("VALIDATION REPORT" ++ "\n") := by decide
  have htotal : "\nTotal validations: " = "\n" ++ "Total validations: " := by decide
  have hpassed : "\nPassed: " = "\n" ++ "Passed: " := by decide
  have hfailed : "\nFailed: " = "\n" ++ "Failed: " := by decide
  unfold banner
  generalize ruler '=' = heavy
  rw [htitle, htotal, hpassed, hfailed]
  simp only [linesAfter_cons, linesAfter_nil, String.append_assoc, String.append_empty]

/-- The lines about a failed result are its block. -/
theorem linesAfter_block (result : Result) :
    linesAfter (block result) = blockText (Summary.failureOf result) := by
  have hgap : "\n\n" = "\n" ++ "\n" := by decide
  have hrule : "\nRule: " = "\n" ++ "Rule: " := by decide
  have hrow : "\nRow data: " = "\n" ++ "Row data: " := by decide
  unfold block blockText
  rw [hgap, hrule, hrow]
  simp only [Summary.failureOf, linesAfter_cons, linesAfter_nil, String.append_assoc,
    String.append_empty]

/-- The lines about several are their blocks, in order. -/
theorem linesAfter_flatMap_block (results : List Result) :
    linesAfter (results.flatMap block) =
      String.join ((results.map Summary.failureOf).map blockText) := by
  induction results with
  | nil => rfl
  | cons result results ih =>
    rw [List.flatMap_cons, linesAfter_append, ih, linesAfter_block, List.map_cons, List.map_cons,
      String.join_cons]

/-- The lines about failed results are their section. -/
theorem linesAfter_section (results : List Result) :
    linesAfter (if 0 < results.length then
        "\nFAILED VALIDATIONS:" :: ruler '-' :: results.flatMap block else []) =
      failureSection (results.map Summary.failureOf) := by
  have hhead : "\n\nFAILED VALIDATIONS:\n" = "\n" ++ ("\nFAILED VALIDATIONS:" ++ "\n") := by decide
  cases results with
  | nil => rfl
  | cons result results =>
    have hpos : 0 < (result :: results).length := Nat.succ_pos _
    rw [if_pos hpos, linesAfter_cons, linesAfter_cons, linesAfter_flatMap_block]
    generalize hfailures : (result :: results).map Summary.failureOf = failures
    cases failures with
    | nil => cases hfailures
    | cons failure failures =>
      unfold failureSection
      generalize ruler '-' = light
      rw [hhead]
      simp only [String.append_assoc]

/-- **The text of a report** is the banner with the counts of the summary, and the section about its
    failures. -/
theorem text_eq (results : List Result) : text results =
    banner (Summary.ofResults results).total (Summary.ofResults results).passed
        (Summary.ofResults results).failed
      ++ failureSection (Summary.ofResults results).failures := by
  have hcounts := Summary.counts_ofResults results
  have htotal : (Summary.ofResults results).total = results.length := Summary.total_foldl _ results
  have hfailed : results.length - (passedOf results).length = (failedOf results).length := by
    have hall := length_passedOf_add results
    omega
  rw [hcounts.failures, htotal, hcounts.passed, hcounts.failed, banner_eq, ← linesAfter_section, ← hfailed]
  unfold text lines
  generalize ruler '=' = heavy
  rw [List.cons_append, intercalate_cons, linesAfter_append, String.append_assoc]

/-! The banner has no capital `S`, which the head of the section has. -/

/-- No banner has a capital S: its digits are no letters, and its words do not have one. -/
theorem not_mem_banner (total passed failed : Nat) : 'S' ∉ (banner total passed failed).toList := by
  have hcount : ∀ n : Nat, 'S' ∉ (toString n).toList := by
    intro n hmem
    exact absurd (isDigit_of_mem_toString hmem) (by decide)
  have hruler : 'S' ∉ (ruler '=').toList := by
    unfold ruler
    rw [String.toList_ofList]
    intro hmem
    exact absurd (List.eq_of_mem_replicate hmem) (by decide)
  unfold banner
  generalize ruler '=' = heavy at hruler ⊢
  simp only [String.toList_append, List.mem_append, not_or]
  refine ⟨⟨⟨⟨⟨⟨⟨⟨⟨⟨hruler, ?_⟩, hruler⟩, ?_⟩, hcount _⟩, ?_⟩, hcount _⟩, ?_⟩, hcount _⟩, ?_⟩, hruler⟩
  all_goals decide

/-- The section about failures has its head. -/
theorem infix_failureSection {failure : Failure} {failures : List Failure} :
    "FAILED VALIDATIONS:".toList <:+: (failureSection (failure :: failures)).toList := by
  have hhead : "FAILED VALIDATIONS:".toList <:+: "\n\nFAILED VALIDATIONS:\n".toList :=
    ⟨['\n', '\n'], ['\n'], by decide⟩
  unfold failureSection
  generalize "\n\nFAILED VALIDATIONS:\n" = head at hhead ⊢
  simp only [String.toList_append, List.append_assoc]
  exact hhead.trans (List.prefix_append _ _).isInfix

/-- **There is a section about failures** if and only if something failed. The head of the section
    has a capital S, and the banner has none, whatever its counts. -/
theorem infix_text_iff (results : List Result) :
    "FAILED VALIDATIONS:".toList <:+: (text results).toList ↔
      ∃ result ∈ results, result.passed = false := by
  have hfailures := (Summary.counts_ofResults results).failures
  have htext := congrArg String.toList (text_eq results)
  rw [String.toList_append, hfailures] at htext
  rw [htext]
  constructor
  · intro h
    -- without a failure the text is the banner alone
    by_contra hnone
    push Not at hnone
    have hempty : failedOf results = [] := by
      rw [failedOf, List.filter_eq_nil_iff]
      intro result hmem
      simp [hnone result hmem]
    have hcapital : 'S' ∈ "FAILED VALIDATIONS:".toList := by decide
    have hnothing : (failureSection []).toList = [] := rfl
    rw [hempty, List.map_nil, hnothing, List.append_nil] at h
    exact not_mem_banner _ _ _ (h.subset hcapital)
  · rintro ⟨result, hmem, hresult⟩
    have hfailed : result ∈ failedOf results := by
      rw [failedOf, List.mem_filter, hresult]
      exact ⟨hmem, rfl⟩
    generalize hall : (failedOf results).map Summary.failureOf = failures
    cases failures with
    | nil => rw [List.map_eq_nil_iff.mp hall] at hfailed; cases hfailed
    | cons failure failures => exact infix_failureSection.trans (List.suffix_append _ _).isInfix

end Report

/-! ## Runs -/

/-- The results on a row are about the rules, one by one. -/
theorem Validation.map_ruleName_rowResults (rowIndex : Nat) (row : Row) (context : Context)
    (checked : List (Rule × Option ReferenceError)) :
    (rowResults rowIndex row context checked).map Result.ruleName =
      checked.map fun (rule, _) => rule.name := by
  induction checked generalizing context with
  | nil => rfl
  | cons first checked ih =>
    obtain ⟨rule, fault⟩ := first
    rw [List.map_cons]
    cases fault with
    | none =>
      show (Result.ofOutcome rowIndex rule row (context.evaluate rule).1).ruleName :: _ = _
      rw [Result.ruleName_ofOutcome, ih]
    | some e =>
      show (Result.ofOutcome rowIndex rule row (.error e)).ruleName :: _ = _
      rw [Result.ruleName_ofOutcome, ih]

/-- So the results of a run are about the rules, over and over for each row. -/
theorem Run.map_ruleName_validate (run : Run) (table : Table) (rules : List Rule)
    (registry : Registry) : (run.validate table rules registry).results.map Result.ruleName =
      table.rows.flatMap fun _ => rules.map Rule.name := by
  have hblock : ∀ numbered, (Validation.blockOf ⟨rules, registry⟩ rules numbered).map
      Result.ruleName = rules.map Rule.name := by
    intro numbered
    unfold Validation.blockOf
    rw [Validation.map_ruleName_rowResults, List.map_map]
    rfl
  rw [Run.validate_eq, List.map_flatMap]
  simp only [hblock]
  rw [← List.flatMap_map Prod.fst fun _ => rules.map Rule.name, List.zipIdx_map_fst]

/-- What is counted over again is counted as often. -/
theorem countP_flatMap_const {α β : Type} (xs : List α) (ys : List β) (p : β → Bool) :
    (xs.flatMap fun _ => ys).countP p = xs.length * ys.countP p := by
  have hparts : xs.map (List.countP p ∘ fun _ => ys) = List.replicate xs.length (ys.countP p) :=
    List.map_const'
  rw [List.countP_flatMap, hparts, List.sum_replicate_nat]

/-- The results that passed and those that did not are all of them. -/
theorem countP_passed_add (p : Result → Bool) (results : List Result) :
    (results.countP fun result => p result && result.passed) +
        (results.countP fun result => p result && !result.passed) = results.countP p := by
  rw [List.countP_eq_countP_filter_add results p Result.passed, List.countP_filter,
    List.countP_filter]

/-- **Summary and report account for every result, and agree.**  The report has the three counts of
    the summary, and a block for each of its failures, in their order; it has a section about
    failures if and only if something failed.  After a validation of a table with rows, the summary
    has a tally for each name of a rule, and the tally of a name counts all rows for each rule of
    that name. -/
theorem Summary.agrees_with_report :
    (∀ results, (ofResults results).Accounts results ∧
      Report.text results =
        Report.banner (ofResults results).total (ofResults results).passed
            (ofResults results).failed ++ Report.failureSection (ofResults results).failures ∧
      ("FAILED VALIDATIONS:".toList <:+: (Report.text results).toList ↔
        ∃ result ∈ results, result.passed = false)) ∧
    ∀ (run : Run) (table : Table) rules registry, table.rows ≠ [] →
      let told := run.validate table rules registry
      (ofRun told).Accounts told.results ∧
      (ofRun told).tallies.map Tally.ruleName = (rules.map Rule.name).eraseDups ∧
      ∀ tally ∈ (ofRun told).tallies, tally.passed + tally.failed =
        table.rows.length * rules.countP (·.name == tally.ruleName) := by
  constructor
  · intro results
    exact ⟨accounts_ofResults results, Report.text_eq results, Report.infix_text_iff results⟩
  · intro run table rules registry hrows told
    have haccounts := accounts_ofRun told
    have hnames : told.results.map Result.ruleName =
        table.rows.flatMap fun _ => rules.map Rule.name :=
      run.map_ruleName_validate table rules registry
    refine ⟨haccounts, ?_, ?_⟩
    · rw [haccounts.names, hnames, eraseDups_flatMap_const hrows]
    · intro tally hmem
      obtain ⟨hpassed, hfailed⟩ := haccounts.tally tally hmem
      -- A rule's results are one a row for each time it is listed, passed or failed.
      calc tally.passed + tally.failed
        _ = told.results.countP (·.ruleName == tally.ruleName) := by
            rw [hpassed, hfailed, countP_passed_add fun result => result.ruleName == tally.ruleName]
        _ = (told.results.map Result.ruleName).countP (· == tally.ruleName) := by
            rw [List.countP_map]
            rfl
        _ = table.rows.length * rules.countP (·.name == tally.ruleName) := by
            rw [hnames, countP_flatMap_const, List.countP_map]
            rfl

/-- Two rules of one name, and one whose reference leads nowhere, on a row that satisfies both of the
    former and on one that satisfies the second only. -/
theorem Summary.agrees_with_report_of_repeated_name :
    let strict := Rule.ofConditions "c" [⟨"A", .greaterThan, .int 10⟩] [] "A > 10"
    let broken := Rule.ofReferences "d" ["limit", "gone"] [.and] "limit AND gone"
    let loose := Rule.ofConditions "c" [⟨"A", .greaterThan, .int 1⟩] [] "A > 1"
    let limit := Rule.ofConditions "limit" [⟨"A", .lessThan, .int 99⟩] [] "A < 99"
    let registry := (Registry.empty.insert limit).1
    let table : Table := ⟨["A"], [⟨[("A", .int 15)]⟩, ⟨[("A", .int 5)]⟩]⟩
    let rules := [strict, broken, loose]
    let told := Run.none.validate table rules registry
    let reason := "Rule 'd' references undefined rule 'gone'"
    let failures : List Failure := [
      ⟨0, "d", "Row 0: Rule 'd' not evaluated: " ++ reason, "\x7b'A': 15\x7d"⟩,
      ⟨1, "c", "Row 1: Rule 'c' not satisfied", "\x7b'A': 5\x7d"⟩,
      ⟨1, "d", "Row 1: Rule 'd' not evaluated: " ++ reason, "\x7b'A': 5\x7d"⟩]
    table.rows ≠ [] ∧ (ofRun told).Accounts told.results ∧
      (ofRun told).tallies = [⟨"c", 3, 1⟩, ⟨"d", 0, 2⟩] ∧
      (∀ tally ∈ (ofRun told).tallies,
        tally.passed + tally.failed = 2 * rules.countP (·.name == tally.ruleName)) ∧
      List.Forall₂ Shows failures (told.results.filter (!·.passed)) ∧
      Report.text told.results = Report.banner 6 3 3 ++ Report.failureSection failures ∧
      failures.map Report.blockText = [
        "\n\nRow 0: Rule 'd' not evaluated: " ++ reason ++ "\nRule: d\nRow data: \x7b'A': 15\x7d",
        "\n\nRow 1: Rule 'c' not satisfied\nRule: c\nRow data: \x7b'A': 5\x7d",
        "\n\nRow 1: Rule 'd' not evaluated: " ++ reason ++ "\nRule: d\nRow data: \x7b'A': 5\x7d"] := by
  intro strict broken loose limit registry table rules told reason failures
  have hregistry : registry.Reachable := Registry.Reachable.empty.insert limit
  let high : Row := ⟨[("A", .int 15)]⟩
  let low : Row := ⟨[("A", .int 5)]⟩
  let lookup : Lookup := ⟨rules, registry⟩
  have hcanonical : lookup.Canonical := Lookup.canonical_of_indexed hregistry.indexed
  have hbroken : lookup.check broken = .error (.undefined "d" "gone") :=
    @Lookup.Follows.check_eq lookup 1 broken _ <|
      .next (show lookup.get? "limit" = some limit by decide) (by decide) (by decide) .nil
        (.undefined (by decide))
  have hrow : ∀ row i, rules.map (lookup.resultOf (row, i)) =
      [.ofOutcome i strict row (.ok (Condition.holds ⟨"A", .greaterThan, .int 10⟩ row)),
        .error i "d" reason row,
        .ofOutcome i loose row (.ok (Condition.holds ⟨"A", .greaterThan, .int 1⟩ row))] := by
    intro row i
    rw [List.map_cons, List.map_cons, List.map_singleton,
      Lookup.resultOf_of_conditions hcanonical rfl, Lookup.resultOf_of_check_error hbroken,
      Lookup.resultOf_of_conditions hcanonical rfl]
    rfl
  have htold : told.results = [
      .pass 0 "c" "c validation" high, .error 0 "d" reason high, .pass 0 "c" "c validation" high,
      .fail 1 "c" low, .error 1 "d" reason low, .pass 1 "c" "c validation" low] := by
    show (Run.none.validate table rules registry).results = _
    rw [Run.results_validate hregistry]
    show rules.map (lookup.resultOf (high, 0)) ++ (rules.map (lookup.resultOf (low, 1)) ++ []) = _
    rw [hrow, hrow]
    decide +kernel
  have hsummary : ofResults told.results =
      ⟨6, 3, 3, [⟨"c", 3, 1⟩, ⟨"d", 0, 2⟩], failures, []⟩ := by
    rw [htold]
    decide +kernel
  obtain ⟨haccounts, -, hsums⟩ :=
    agrees_with_report.2 Run.none table rules registry (List.cons_ne_nil _ _)
  obtain ⟨haccounts', htext, -⟩ := agrees_with_report.1 told.results
  rw [hsummary] at haccounts' htext
  exact ⟨List.cons_ne_nil _ _, haccounts, congrArg Summary.tallies hsummary, hsums,
    haccounts'.failures, htext, by decide +kernel⟩

end TableRules
