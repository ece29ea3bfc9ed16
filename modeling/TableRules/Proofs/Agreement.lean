/-
  CHECKING AND EVALUATING AGREE: a rule passes its check if and only if it can be evaluated.

  The two walks go the same way.  The path of the check is the stack of the evaluation, and the
  names that are done for the one are those that the memo of the other knows (`Knows`); so they
  skip the same references, and end with the same fault.  That the rules join conditions or
  refer to other rules, but not both, is needed: a check follows the references of every rule,
  an evaluation those of rules without conditions.

  The proof goes along the walk of the check and lets the evaluation follow.  The other way round
  would do as well, but the check is the simpler of the two, as it has no outcomes; these are
  thrown away by `Agrees`, which keeps of an evaluation its fault and what it has learned.
-/
import TableRules.Proofs.Resolution
import TableRules.Proofs.Walk

namespace TableRules

/-- The rule joins conditions, or it joins other rules. -/
def Rule.Plain (rule : Rule) : Prop := rule.conditions = [] ∨ rule.references = []

/-- A rule with conditions only is no reference rule, and the other way round. -/
theorem Rule.Plain.references_eq_nil {rule : Rule} (h : rule.Plain)
    (hrule : rule.isReference = false) : rule.references = [] := by
  rcases h with h | h
  · rw [isReference, h, List.isEmpty_nil, Bool.true_and, Bool.not_eq_false', List.isEmpty_iff] at hrule
    exact hrule
  · exact h

namespace Context

variable {context : Context} {done : List String}

/-- The memo knows exactly these names. -/
def Knows (context : Context) (done : List String) : Prop :=
  ∀ name, name ∈ done ↔ (context.memo.lookup name).isSome

namespace Knows

variable {name : String}

/-- What is done is known, ... -/
theorem exists_known (h : context.Knows done) (hmem : name ∈ done) :
    ∃ known, context.memo.lookup name = some known :=
  Option.isSome_iff_exists.mp ((h name).mp hmem)

/-- ... what is not done is not, ... -/
theorem lookup_eq_none (h : context.Knows done) (hmem : name ∉ done) :
    context.memo.lookup name = none :=
  Option.not_isSome_iff_eq_none.mp fun hsome => hmem ((h name).mpr hsome)

/-- ... and what is learned is done with. -/
theorem learn (h : context.Knows done) (name : String) (outcome : Bool) :
    (context.learn name outcome).Knows (name :: done) := by
  intro other
  rw [lookup_learn, List.mem_cons]
  by_cases heq : other = name
  · simp [heq]
  · rw [if_neg heq, ← h other]
    simp [heq]

end Knows

/-! ## The same way

  One case for each rule of the walk. -/

/-- A walk and an evaluation end alike: with the same fault, or knowing the same names. -/
structure Agrees {α : Type} (walk : Except ReferenceError (List String))
    (out : Except ReferenceError α × Context) : Prop where
  result : (walk.map fun _ => ()) = out.1.map fun _ => ()
  knows : ∀ known, walk = .ok known → out.2.Knows known

/-- What is made of the outcomes does not matter. -/
theorem Agrees.map {α β : Type} {walk : Except ReferenceError (List String)}
    {out : Except ReferenceError α × Context} (h : Agrees walk out) (f : α → β) :
    Agrees walk (out.1.map f, out.2) := by
  refine ⟨?_, h.knows⟩
  rw [h.result]
  cases out.1 with
  | error e => rfl
  | ok outcome => rfl

/-- What agrees on the references of a rule agrees on the rule. -/
theorem Agrees.evaluate {walk : Except ReferenceError (List String)} {rule : Rule}
    (hplain : rule.Plain)
    (h : Agrees walk ((context.push rule.name).evaluateAll rule.name rule.references)) :
    Agrees walk (context.evaluate rule) := by
  cases hrule : rule.isReference with
  | true =>
    rw [evaluate_of_references _ hrule]
    exact ⟨(h.map _).result, h.knows⟩
  | false =>
    rw [hplain.references_eq_nil hrule, evaluateAll_nil] at h
    rw [evaluate_of_conditions _ hrule]
    exact ⟨h.result, h.knows⟩

/-- **The two walks go the same way**, from a context that knows what is done and has the path for
    its stack. By induction on the walk; the context is kept general, as it changes with every rule
    that is learned. -/
theorem agrees_of_follows {lookup : Lookup} (hplain : ∀ rule ∈ lookup.rules, rule.Plain)
    {depth : Nat} {owner : String} {references path done : List String}
    {walk : Except ReferenceError (List String)}
    (h : lookup.Follows depth owner references path done walk) :
    ∀ context : Context, context.lookup = lookup → context.stack = path → context.Knows done →
      Agrees walk (context.evaluateAll owner references) := by
  induction h with
  | nil =>
    intro context _ _ hknows
    rw [evaluateAll_nil]
    refine ⟨rfl, fun known heq => ?_⟩
    obtain rfl := Except.ok.inj heq
    exact hknows
  | undefined hfound =>
    rintro context rfl _ _
    rw [evaluateAll_of_error (evaluateOne_of_none hfound)]
    exact ⟨rfl, fun known heq => by cases heq⟩
  | skip hfound hdone _ ih =>
    rintro context rfl hpath hknows
    obtain ⟨known, hmemo⟩ := hknows.exists_known hdone
    rw [evaluateAll_of_ok (evaluateOne_of_known hfound hmemo)]
    exact (ih _ rfl hpath hknows).map _
  | circular hfound hdone hmem =>
    rintro context rfl rfl hknows
    rw [evaluateAll_of_error (evaluateOne_of_mem hfound (hknows.lookup_eq_none hdone) hmem)]
    exact ⟨rfl, fun known heq => by cases heq⟩
  | @fault _ _ _ _ _ _ target _ hfound hdone hnew _ ih =>
    rintro context rfl rfl hknows
    -- the fault comes out of the new rule, and the memo does not matter any more
    have hinner := (ih (context.push target.name) rfl rfl hknows).evaluate
      (hplain target (Lookup.mem_of_get? hfound))
    rcases heval : context.evaluate target with ⟨e' | outcome, after⟩
    · rw [heval] at hinner
      rw [evaluateAll_of_error
        (evaluateOne_of_notMem hfound (hknows.lookup_eq_none hdone) hnew heval)]
      exact ⟨hinner.result, hinner.knows⟩
    · rw [heval] at hinner
      exact absurd hinner.result (by simp [Except.map])
  | @next _ _ _ _ _ _ known target _ hfound hdone hnew _ _ ihinner ihrest =>
    rintro context rfl rfl hknows
    -- the new rule is done, and learned: so the same names are known
    have hinner := (ihinner (context.push target.name) rfl rfl hknows).evaluate
      (hplain target (Lookup.mem_of_get? hfound))
    have hrestored := evaluate_restored context target
    rcases heval : context.evaluate target with ⟨e' | outcome, after⟩
    · rw [heval] at hinner
      exact absurd hinner.result (by simp [Except.map])
    · rw [heval] at hinner hrestored
      rw [evaluateAll_of_ok
        (evaluateOne_of_notMem hfound (hknows.lookup_eq_none hdone) hnew heval)]
      exact (ihrest (after.learn target.name outcome) hrestored.lookup hrestored.stack
        ((hinner.knows known rfl).learn target.name outcome)).map _

/-- What a check tells is what a first evaluation tells, but for the outcome. -/
theorem check_eq_map_evaluate {lookup : Lookup} (hplain : ∀ rule ∈ lookup.rules, rule.Plain)
    (row : Row) {rule : Rule} (hrule : rule.Plain) :
    lookup.check rule = ((fresh lookup row).evaluate rule).1.map fun _ => () := by
  rw [Lookup.check_eq]
  have hfollows := Lookup.follows_visitAll lookup _ rule.name rule.references [rule.name] []
    (Nat.le_refl _)
  have hknows : ((fresh lookup row).push rule.name).Knows [] := by
    intro name
    simp [fresh]
  exact ((agrees_of_follows hplain hfollows _ rfl rfl hknows).evaluate hrule).result

end Context

/-- **Checking and evaluating agree**, whatever the rules, the registry and the row, if no rule
    has both conditions and references: a rule passes its check if and only if a first
    evaluation of it has an outcome, and when the one ends with a fault, the other ends with the
    same. -/
theorem check_agrees_evaluate (rules : List Rule) (registry : Registry) (row : Row) (rule : Rule)
    (hplain : ∀ other ∈ rule :: (rules ++ registry.rules), other.Plain) :
    let lookup : Lookup := ⟨rules, registry⟩
    (lookup.check rule = .ok () ↔
      ∃ outcome, ((Context.fresh lookup row).evaluate rule).1 = .ok outcome) ∧
    ∀ e, lookup.check rule = .error e ↔ ((Context.fresh lookup row).evaluate rule).1 = .error e := by
  intro lookup
  have hcheck := @Context.check_eq_map_evaluate lookup
    (fun other hother => hplain other (List.mem_cons_of_mem _ hother)) row rule
    (hplain rule (List.mem_cons_self ..))
  rw [hcheck]
  cases ((Context.fresh lookup row).evaluate rule).1 with
  | error e => simp [Except.map]
  | ok outcome => simp [Except.map]

/-- Two rules that refer to each other: as the evaluation of the first ends with the cycle, so
    does its check. -/
theorem check_agrees_evaluate_of_mutual_rules :
    let first := Rule.ofReferences "a" ["b"] [] ""
    let second := Rule.ofReferences "b" ["A"] [] ""
    let lookup : Lookup := ⟨[first, second], .empty⟩
    (∀ other ∈ first :: ([first, second] ++ Registry.empty.rules), other.Plain) ∧
      ((Context.fresh lookup ⟨[]⟩).evaluate first).1 = .error (.circular ["a", "b", "a"]) ∧
      lookup.check first = .error (.circular ["a", "b", "a"]) := by
  intro first second lookup
  have hplain : ∀ other ∈ first :: ([first, second] ++ Registry.empty.rules), other.Plain := by
    intro other hother
    left
    revert other
    decide
  have hsecond : lookup.get? "b" = some second := by decide
  have hback : lookup.get? "A" = some first := by decide
  let inside := ((Context.fresh lookup ⟨[]⟩).push "a").push "b"
  have hinner : Context.Resolves inside "b" ["A"] (.error (.circular ["a", "b", "a"])) inside :=
    @Context.Resolves.circular inside "b" "A" [] first hback rfl (by decide)
  have hresolves : Context.Resolves ((Context.fresh lookup ⟨[]⟩).push "a") "a" ["b"]
      (.error (.circular ["a", "b", "a"])) inside.pop :=
    .fault hsecond rfl (by decide) rfl hinner
  have hreference : first.isReference = true := rfl
  have heval : ((Context.fresh lookup ⟨[]⟩).evaluate first).1 =
      .error (.circular ["a", "b", "a"]) :=
    congrArg Prod.fst (Context.evaluate_of_evaluateAll hreference hresolves.eq)
  exact ⟨hplain, heval,
    ((check_agrees_evaluate [first, second] .empty ⟨[]⟩ first hplain).2 _).mpr heval⟩

end TableRules
