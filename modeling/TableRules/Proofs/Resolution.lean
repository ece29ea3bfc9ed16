/-
  HOW REFERENCES ARE RESOLVED, RULE BY RULE: what each step of an evaluation does.

  `Resolves` has a rule for each thing that can happen to the first of the references that are
  left: it finds nothing, it finds a rule that the memo knows, or one that is on the stack; or
  it finds a new rule, which joins its conditions, or the outcomes of its own references, where
  these end with a fault or without.

  * `resolves_outcomes` — every evaluation comes to an end, with what `outcomes` tells;
  * `Resolves.eq`       — and with nothing else;
  * `evaluate_restored` — it leaves the stack as it was;
  * `evaluate_keeps`    — and forgets nothing, even if it ends with a fault.

  What an evaluation keeps is shown by induction on `Resolves`.

  The functions of the model call one another on contexts that carry a proof of what they kept, so
  no induction on them is short.  They are opened here once, in the lemmas `evaluateOne_of_…` and
  `evaluateAll_of_…`, one for each rule of the relation, and nowhere else: all that is said about
  references in other files goes by induction on `Resolves`, or by these lemmas.  The measure that
  makes an evaluation end is the one of the model: a target is entered only if it is not on the
  stack, and there are finitely many rules to be found.
-/
import TableRules.Evaluation.Context

namespace TableRules.Context

/-! ## One step of the program

  The only place where the functions of an evaluation are unfolded. -/

section

variable {context after : Context} {rule target : Rule} {owner reference : String}
  {references : List String}

/-- A rule is put on top of the stack, ... -/
@[simp] theorem push_memo (name : String) : (context.push name).memo = context.memo := rfl
@[simp] theorem push_stack (name : String) : (context.push name).stack = context.stack ++ [name] :=
  rfl

/-- ... and taken from it again. -/
theorem pop_push (name : String) : (context.push name).pop = context := by
  cases context
  rw [push, pop, List.dropLast_concat]

/-- What is known after a rule was learned. -/
theorem lookup_learn (name other : String) (outcome : Bool) :
    (context.learn name outcome).memo.lookup other =
      if other = name then some outcome else context.memo.lookup other := by
  show List.lookup other ((name, outcome) :: context.memo) = _
  rw [List.lookup_cons]
  by_cases h : other = name
  · rw [if_pos h, beq_iff_eq.mpr h]
  · rw [if_neg h, beq_eq_false_iff_ne.mpr h]

/-- The outcomes of references, and the context after them. -/
def evaluateAll (context : Context) (owner : String) (references : List String) :
    Except ReferenceError (List Bool) × Context := (context.outcomes owner references).pair

/-- The outcome of one reference, and the context after it. -/
def evaluateOne (context : Context) (owner reference : String) :
    Except ReferenceError Bool × Context := (context.resolve owner reference).pair

/-- A rule of conditions joins what they say of the row, and leaves the context alone. -/
theorem evaluate_of_conditions (context : Context) (h : rule.isReference = false) :
    context.evaluate rule =
      (.ok (combine (rule.conditions.map (·.holds context.row)) rule.connectives), context) := by
  rw [evaluate, outcome]
  simp only [Outcome.pair, h, Bool.false_eq_true, if_false, pop_push]
  rfl

/-- A rule of references resolves them one level up, and comes down again however that ends. -/
theorem evaluate_of_references (context : Context) (h : rule.isReference = true) :
    context.evaluate rule =
      (((context.push rule.name).evaluateAll rule.name rule.references).1.map
          (combine · rule.connectives),
        ((context.push rule.name).evaluateAll rule.name rule.references).2.pop) := by
  rw [evaluate, outcome]
  simp only [Outcome.pair, h, if_true]
  rfl

/-- A reference rule joins what its references are resolved to. -/
theorem evaluate_of_evaluateAll {items : Except ReferenceError (List Bool)}
    (h : rule.isReference = true)
    (hall : (context.push rule.name).evaluateAll rule.name rule.references = (items, after)) :
    context.evaluate rule = (items.map (combine · rule.connectives), after.pop) := by
  rw [evaluate_of_references context h, hall]

/-- A reference that finds no rule is undefined. Nothing else has happened yet. -/
theorem evaluateOne_of_none (hfound : context.lookup.get? reference = none) :
    context.evaluateOne owner reference = (.error (.undefined owner reference), context) := by
  rw [evaluateOne, resolve]
  split
  next => rfl
  next hfound' => exact absurd (hfound.symm.trans hfound') (by simp)

/-- A reference to a rule that the memo knows has that outcome: the rule is not evaluated again. -/
theorem evaluateOne_of_known (hfound : context.lookup.get? reference = some target)
    {known : Bool} (hmemo : context.memo.lookup target.name = some known) :
    context.evaluateOne owner reference = (.ok known, context) := by
  rw [evaluateOne, resolve]
  split
  next hfound' => exact absurd (hfound.symm.trans hfound') (by simp)
  next hfound' =>
    obtain rfl := Option.some.inj (hfound.symm.trans hfound')
    simp only [hmemo]
    rfl

/-- A reference to a rule on the stack closes a cycle, which is told from that rule on. -/
theorem evaluateOne_of_mem (hfound : context.lookup.get? reference = some target)
    (hmemo : context.memo.lookup target.name = none) (hstack : target.name ∈ context.stack) :
    context.evaluateOne owner reference =
      (.error (.circular (chainFrom context.stack target.name)), context) := by
  rw [evaluateOne, resolve]
  split
  next hfound' => exact absurd (hfound.symm.trans hfound') (by simp)
  next hfound' =>
    obtain rfl := Option.some.inj (hfound.symm.trans hfound')
    simp only [hmemo, dif_pos hstack]
    rfl

/-- Any other rule is evaluated, and its outcome is learned. A fault is not: it ends the evaluation,
    and the memo stays as it was left. -/
theorem evaluateOne_of_notMem (hfound : context.lookup.get? reference = some target)
    (hmemo : context.memo.lookup target.name = none) (hstack : target.name ∉ context.stack)
    {result : Except ReferenceError Bool} (heval : context.evaluate target = (result, after)) :
    context.evaluateOne owner reference =
      match result with
      | .error e => (.error e, after)
      | .ok outcome => (.ok outcome, after.learn target.name outcome) := by
  rw [evaluateOne, resolve]
  split
  next hfound' => exact absurd (hfound.symm.trans hfound') (by simp)
  next hfound' =>
    obtain rfl := Option.some.inj (hfound.symm.trans hfound')
    -- Evaluating the target runs the same outcome that resolving the reference does.
    rw [evaluate] at heval
    rcases hout : context.outcome target with ⟨_ | _, after', h⟩
    · rw [hout] at heval
      obtain ⟨rfl, rfl⟩ := Prod.mk.inj heval
      simp only [hmemo, dif_neg hstack]
      rfl
    · rw [hout] at heval
      obtain ⟨rfl, rfl⟩ := Prod.mk.inj heval
      simp only [hmemo, dif_neg hstack]
      rfl

/-- Without references there is nothing to do. -/
theorem evaluateAll_nil : context.evaluateAll owner [] = (.ok [], context) := by
  rw [evaluateAll, outcomes]
  rfl

/-- A first reference without an outcome ends the evaluation. -/
theorem evaluateAll_of_error {e : ReferenceError}
    (hfirst : context.evaluateOne owner reference = (.error e, after)) :
    context.evaluateAll owner (reference :: references) = (.error e, after) := by
  rw [evaluateAll, outcomes]
  rw [evaluateOne] at hfirst
  rcases hres : context.resolve owner reference with ⟨_ | _, after', h⟩
  · rw [hres] at hfirst
    obtain ⟨heq, rfl⟩ := Prod.mk.inj hfirst
    obtain rfl := Except.error.inj heq
    rfl
  · rw [hres] at hfirst
    exact absurd (congrArg Prod.fst hfirst) (by simp [Outcome.pair])

/-- After a first reference with an outcome, the others are resolved from where that ends. -/
theorem evaluateAll_of_ok {outcome : Bool}
    (hfirst : context.evaluateOne owner reference = (.ok outcome, after)) :
    context.evaluateAll owner (reference :: references) =
      ((after.evaluateAll owner references).1.map (outcome :: ·),
        (after.evaluateAll owner references).2) := by
  rw [evaluateAll, outcomes]
  rw [evaluateOne] at hfirst
  rcases hres : context.resolve owner reference with ⟨_ | _, after', h⟩
  · rw [hres] at hfirst
    exact absurd (congrArg Prod.fst hfirst) (by simp [Outcome.pair])
  · rw [hres] at hfirst
    obtain ⟨heq, rfl⟩ := Prod.mk.inj hfirst
    obtain rfl := Except.ok.inj heq
    rfl

end

/-- **The stack is as it was**, however an evaluation ends. -/
theorem evaluate_restored (context : Context) (rule : Rule) :
    Restored context (context.evaluate rule).2 := (context.outcome rule).restored

/-! ## The rules of the evaluation

  One rule for each branch of the program, with the contexts before and after. -/

/-- From references that `owner` holds, in a context, the evaluation ends with a fault or with
    their outcomes, in another context. -/
inductive Resolves :
    Context → String → List String → Except ReferenceError (List Bool) → Context → Prop
  /-- Nothing is left to resolve. -/
  | nil {context : Context} {owner : String} : Resolves context owner [] (.ok []) context
  /-- The first reference finds no rule. -/
  | undefined {context : Context} {owner reference : String} {references : List String}
      (hfound : context.lookup.get? reference = none) :
      Resolves context owner (reference :: references) (.error (.undefined owner reference)) context
  /-- It finds a rule whose outcome is known. -/
  | known {context after : Context} {owner reference : String} {references : List String}
      {target : Rule} {known : Bool} {items : Except ReferenceError (List Bool)}
      (hfound : context.lookup.get? reference = some target)
      (hmemo : context.memo.lookup target.name = some known)
      (hrest : Resolves context owner references items after) :
      Resolves context owner (reference :: references) (items.map (known :: ·)) after
  /-- It finds a rule that is being evaluated. -/
  | circular {context : Context} {owner reference : String} {references : List String}
      {target : Rule}
      (hfound : context.lookup.get? reference = some target)
      (hmemo : context.memo.lookup target.name = none) (hstack : target.name ∈ context.stack) :
      Resolves context owner (reference :: references)
        (.error (.circular (chainFrom context.stack target.name))) context
  /-- It finds a rule of conditions, whose outcome is learned. -/
  | leaf {context after : Context} {owner reference : String} {references : List String}
      {target : Rule} {outcome : Bool} {items : Except ReferenceError (List Bool)}
      (hfound : context.lookup.get? reference = some target)
      (hmemo : context.memo.lookup target.name = none) (hstack : target.name ∉ context.stack)
      (htarget : target.isReference = false)
      (houtcome : outcome =
        combine (target.conditions.map (·.holds context.row)) target.connectives)
      (hrest : Resolves (context.learn target.name outcome) owner references items after) :
      Resolves context owner (reference :: references) (items.map (outcome :: ·)) after
  /-- It finds a rule of references of which one has no outcome: the fault goes up as it is. -/
  | fault {context inside : Context} {owner reference : String} {references : List String}
      {target : Rule} {e : ReferenceError}
      (hfound : context.lookup.get? reference = some target)
      (hmemo : context.memo.lookup target.name = none) (hstack : target.name ∉ context.stack)
      (htarget : target.isReference = true)
      (hinner : Resolves (context.push target.name) target.name target.references (.error e)
        inside) :
      Resolves context owner (reference :: references) (.error e) inside.pop
  /-- It finds a rule of references that all have outcomes: they are joined, and that is learned. -/
  | join {context inside after : Context} {owner reference : String} {references : List String}
      {target : Rule} {outcomes : List Bool} {outcome : Bool}
      {items : Except ReferenceError (List Bool)}
      (hfound : context.lookup.get? reference = some target)
      (hmemo : context.memo.lookup target.name = none) (hstack : target.name ∉ context.stack)
      (htarget : target.isReference = true)
      (hinner : Resolves (context.push target.name) target.name target.references (.ok outcomes)
        inside)
      (houtcome : outcome = combine outcomes target.connectives)
      (hrest : Resolves (inside.pop.learn target.name outcome) owner references items after) :
      Resolves context owner (reference :: references) (items.map (outcome :: ·)) after

/-! ## The rules and the program

  Both ways: what the program does is allowed by the rules, and the rules allow nothing else. -/

/-- The evaluation comes to an end, and `evaluateAll` tells how. By the induction that the model
    itself ends by, with one case for each thing that can happen to the first reference. -/
theorem resolves_evaluateAll (context : Context) (owner : String) (references : List String) :
    Resolves context owner references (context.evaluateAll owner references).1
      (context.evaluateAll owner references).2 := by
  match references with
  | [] =>
    rw [evaluateAll_nil]
    exact .nil
  | reference :: references =>
    cases hfound : context.lookup.get? reference with
    | none =>
      rw [evaluateAll_of_error (evaluateOne_of_none hfound)]
      exact .undefined hfound
    | some target =>
      cases hmemo : context.memo.lookup target.name with
      | some known =>
        rw [evaluateAll_of_ok (evaluateOne_of_known hfound hmemo)]
        exact .known hfound hmemo (resolves_evaluateAll context owner references)
      | none =>
        by_cases hstack : target.name ∈ context.stack
        · rw [evaluateAll_of_error (evaluateOne_of_mem hfound hmemo hstack)]
          exact .circular hfound hmemo hstack
        · have hrestored := evaluate_restored context target
          cases htarget : target.isReference with
          | false =>
            have heval := evaluate_of_conditions context htarget
            rw [evaluateAll_of_ok (evaluateOne_of_notMem hfound hmemo hstack heval)]
            exact .leaf hfound hmemo hstack htarget rfl (resolves_evaluateAll _ owner references)
          | true =>
            have hinner := resolves_evaluateAll (context.push target.name) target.name
              target.references
            rcases hout : (context.push target.name).evaluateAll target.name target.references with
              ⟨e | outcomes, inside⟩
            · rw [hout] at hinner
              have heval := evaluate_of_evaluateAll htarget hout
              rw [evaluateAll_of_error (evaluateOne_of_notMem hfound hmemo hstack heval)]
              exact .fault hfound hmemo hstack htarget hinner
            · rw [hout] at hinner
              have heval := evaluate_of_evaluateAll htarget hout
              rw [heval] at hrestored
              -- that the stack is as it was is what lets the others be resolved from here
              have hback : Restored context inside.pop := hrestored
              rw [evaluateAll_of_ok (evaluateOne_of_notMem hfound hmemo hstack heval)]
              exact .join hfound hmemo hstack htarget hinner rfl
                (resolves_evaluateAll _ owner references)
termination_by (context.lookup.unseen context.stack, references.length)
decreasing_by
  · exact Prod.Lex.right _ (Nat.lt_succ_self _)
  · exact Prod.Lex.left _ _ (Lookup.unseen_append_lt (Lookup.mem_of_get? hfound) hstack)
  · show Prod.Lex _ _ (inside.pop.lookup.unseen inside.pop.stack, references.length) _
    rw [hback.lookup, hback.stack]
    exact Prod.Lex.right _ (Nat.lt_succ_self _)
  · exact Prod.Lex.right _ (Nat.lt_succ_self _)

namespace Resolves

variable {context after : Context} {owner : String} {references : List String}
  {items : Except ReferenceError (List Bool)}

/-- An evaluation ends in one way. -/
theorem eq (h : Resolves context owner references items after) :
    context.evaluateAll owner references = (items, after) := by
  induction h with
  | nil => exact evaluateAll_nil
  | undefined hfound => exact evaluateAll_of_error (evaluateOne_of_none hfound)
  | known hfound hmemo _ ih => rw [evaluateAll_of_ok (evaluateOne_of_known hfound hmemo), ih]
  | circular hfound hmemo hstack =>
    exact evaluateAll_of_error (evaluateOne_of_mem hfound hmemo hstack)
  | @leaf context _ _ _ _ target _ _ hfound hmemo hstack htarget houtcome _ ih =>
    subst houtcome
    have heval := evaluate_of_conditions context htarget
    rw [evaluateAll_of_ok (evaluateOne_of_notMem hfound hmemo hstack heval), ih]
  | @fault context inside _ _ _ target e hfound hmemo hstack htarget _ ih =>
    -- The references below fail, so the target fails with the same error and is not learnt.
    have heval : context.evaluate target = (.error e, inside.pop) :=
      evaluate_of_evaluateAll htarget ih
    exact evaluateAll_of_error (evaluateOne_of_notMem hfound hmemo hstack heval)
  | @join context inside _ _ _ _ target outcomes _ _ hfound hmemo hstack htarget _ houtcome _
      ihinner ihrest =>
    subst houtcome
    have heval : context.evaluate target = (.ok (combine outcomes target.connectives), inside.pop) :=
      evaluate_of_evaluateAll htarget ihinner
    rw [evaluateAll_of_ok (evaluateOne_of_notMem hfound hmemo hstack heval), ihrest]

/-- An evaluation of references leaves the stack as it was. -/
theorem restored (h : Resolves context owner references items after) : Restored context after := by
  have heq : (context.outcomes owner references).after = after := congrArg Prod.snd h.eq
  rw [← heq]
  exact (context.outcomes owner references).restored

/-- An evaluation of references forgets nothing. A rule is learned only after the memo was asked for
    it, so nothing that is known is written over. -/
theorem keeps (h : Resolves context owner references items after) :
    ∀ {name known}, context.memo.lookup name = some known →
      after.memo.lookup name = some known := by
  induction h with
  | nil => exact fun h => h
  | undefined _ => exact fun h => h
  | known _ _ _ ih => exact ih
  | circular _ _ _ => exact fun h => h
  | @leaf context _ _ _ _ target _ _ _ hmemo _ _ _ _ ih =>
    intro name known hknown
    refine ih ?_
    -- what is learned was not known, so it does not come before what was
    rw [lookup_learn, if_neg]
    · exact hknown
    · rintro rfl
      exact absurd (hknown.symm.trans hmemo) (by simp)
  | fault _ _ _ _ _ ih => exact ih
  | @join context _ _ _ _ _ target _ _ _ _ hmemo _ _ _ _ _ ihinner ihrest =>
    intro name known hknown
    refine ihrest ?_
    rw [lookup_learn, if_neg]
    · exact ihinner hknown
    · rintro rfl
      exact absurd (hknown.symm.trans hmemo) (by simp)

end Resolves

/-- **An evaluation forgets nothing**, even if it ends with a fault. -/
theorem evaluate_keeps {context : Context} {rule : Rule} {name : String} {known : Bool}
    (hknown : context.memo.lookup name = some known) :
    (context.evaluate rule).2.memo.lookup name = some known := by
  cases hrule : rule.isReference with
  | false =>
    rw [evaluate_of_conditions _ hrule]
    exact hknown
  | true =>
    rw [evaluate_of_references _ hrule]
    exact (resolves_evaluateAll (context.push rule.name) rule.name rule.references).keeps hknown

end TableRules.Context
