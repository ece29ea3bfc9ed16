/-
  THE MEMO IS NOT SEEN: every answer is the one that a fresh context gives.

  1. **Valid contexts** — what the memo knows of a name is what the rule means that the name
     finds.  Evaluating keeps a context valid, even if it ends with a fault: only what came to
     an outcome is learned (`Resolves.valid`).

  2. **Rules with a meaning** — a rule that means something is evaluated to that in every valid
     context, if nothing that it needs is on the stack (`evaluate_of_means`).

  3. **Two contexts** — the rules on the stack lead to the one that is being evaluated, so none
     of them is known: it would need itself, and mean nothing.  Hence what one context finds on
     its stack, another with the same stack (`Alike`) finds there too and not in its memo; and
     what one knows, the other can evaluate (`Resolves.agrees`).

  4. **Names** — rules that are found by names and evaluated one after another.

  The crux is the rules without a meaning.  Of those that have one, the memo may know the outcome
  or not; it is the same outcome, and evaluating finds it.  But a rule that leads into a cycle, or
  to a name that nothing has, ends with a fault, and the fault tells where the cycle was entered
  and who asked for the name.  A memo could hide that: a rule on the cycle that was known already
  would be answered and not entered.  It cannot be known, since what is known has a meaning and
  a meaning takes everything that is needed; but that has to be carried through the evaluation,
  which is what `Leads` is for.
-/
import TableRules.Proofs.Meaning
import TableRules.Proofs.Resolution

namespace TableRules

open Relation

/-! ## Valid contexts

  What is learned comes from evaluating, and what is evaluated takes what was learned: so that
  outcomes are right and that the memo is right has to be shown at once. -/

namespace Context

/-- A context of the lookup and the row whose memo knows nothing but meanings. -/
structure Valid (lookup : Lookup) (row : Row) (context : Context) : Prop where
  /-- What is known of a name is what a reference by that name gives. -/
  memo : ∀ name known, context.memo.lookup name = some known → lookup.Gives row name known
  lookup : context.lookup = lookup
  row : context.row = row

variable {lookup : Lookup} {row : Row} {context after : Context} {owner reference : String}
  {references : List String} {rule target : Rule} {outcome : Bool}
  {items : Except ReferenceError (List Bool)}

namespace Valid

/-- A fresh context knows nothing, so it is valid, ... -/
theorem fresh : (Context.fresh lookup row).Valid lookup row :=
  ⟨fun name known h => absurd h (by simp [Context.fresh]), rfl, rfl⟩

/-- ... and it does not matter what goes on the stack ... -/
theorem push (h : context.Valid lookup row) (name : String) :
    (context.push name).Valid lookup row := ⟨h.memo, h.lookup, h.row⟩

/-- ... or comes off it. -/
theorem pop (h : context.Valid lookup row) : context.pop.Valid lookup row :=
  ⟨h.memo, h.lookup, h.row⟩

/-- What a rule means may be learned. -/
theorem learn (h : context.Valid lookup row) (hfound : lookup.get? target.name = some target)
    (hmeans : lookup.Means row target outcome) :
    (context.learn target.name outcome).Valid lookup row := by
  refine ⟨fun name known hknown => ?_, h.lookup, h.row⟩
  rw [lookup_learn] at hknown
  by_cases heq : name = target.name
  · rw [if_pos heq] at hknown
    obtain rfl := Option.some.inj hknown
    exact ⟨target, heq ▸ hfound, hmeans⟩
  · rw [if_neg heq] at hknown
    exact h.memo name known hknown

/-- What is known of a rule is what it means. -/
theorem means (h : context.Valid lookup row) (hfound : lookup.get? target.name = some target)
    (hknown : context.memo.lookup target.name = some outcome) :
    lookup.Means row target outcome := by
  obtain ⟨target', hfound', hmeans⟩ := h.memo target.name outcome hknown
  obtain rfl := Option.some.inj (hfound'.symm.trans hfound)
  exact hmeans

/-- A rule that means nothing is not known. -/
theorem lookup_eq_none (h : context.Valid lookup row)
    (hfound : lookup.get? target.name = some target)
    (hnot : ∀ known, ¬lookup.Means row target known) :
    context.memo.lookup target.name = none := by
  cases hknown : context.memo.lookup target.name with
  | none => rfl
  | some known => exact absurd (h.means hfound hknown) (hnot known)

/-- A rule that joins conditions is evaluated to what it means. -/
theorem means_of_conditions (h : context.Valid lookup row) (hrule : rule.isReference = false) :
    lookup.Means row rule
      (combine (rule.conditions.map (·.holds context.row)) rule.connectives) := by
  rw [h.row]
  exact .conditions rule hrule

end Valid

/-- If the first reference gives an outcome, and the others give what they are resolved to, then
    so do all of them. -/
theorem forall₂_of_map (hgives : lookup.Gives row reference outcome)
    (hrest : ∀ outcomes, items = .ok outcomes →
      List.Forall₂ (lookup.Gives row) references outcomes) :
    ∀ outcomes, items.map (outcome :: ·) = .ok outcomes →
      List.Forall₂ (lookup.Gives row) (reference :: references) outcomes := by
  intro outcomes heq
  cases items with
  | error e => cases heq
  | ok rest =>
    obtain rfl := Except.ok.inj heq
    exact .cons hgives (hrest rest rfl)

/-- **Evaluating keeps a context valid**, and outcomes are what references give. By induction on the
    evaluation; a fault gives no outcomes, but what was learned before it stays, and has to be
    valid. -/
theorem Resolves.valid (hcanonical : lookup.Canonical)
    (h : Resolves context owner references items after) :
    context.Valid lookup row → after.Valid lookup row ∧
      ∀ outcomes, items = .ok outcomes →
        List.Forall₂ (lookup.Gives row) references outcomes := by
  induction h with
  | nil =>
    intro hvalid
    refine ⟨hvalid, fun outcomes heq => ?_⟩
    obtain rfl := Except.ok.inj heq
    exact .nil
  | undefined _ => exact fun hvalid => ⟨hvalid, fun outcomes heq => by cases heq⟩
  | @known context _ _ _ _ target known _ hfound hmemo _ ih =>
    intro hvalid
    rw [hvalid.lookup] at hfound
    -- Answered from the memo: what is stored there is what the rule means.
    have hmeans := hvalid.means (hcanonical _ _ hfound) hmemo
    exact ⟨(ih hvalid).1, forall₂_of_map ⟨target, hfound, hmeans⟩ (ih hvalid).2⟩
  | circular _ _ _ => exact fun hvalid => ⟨hvalid, fun outcomes heq => by cases heq⟩
  | @leaf context _ _ _ _ target _ _ hfound _ _ htarget houtcome _ ih =>
    intro hvalid
    rw [hvalid.lookup] at hfound
    have hmeans := hvalid.means_of_conditions htarget
    rw [← houtcome] at hmeans
    -- Conditions were evaluated: the memo learns their value and stays right.
    have hlearned := hvalid.learn (hcanonical _ _ hfound) hmeans
    exact ⟨(ih hlearned).1, forall₂_of_map ⟨target, hfound, hmeans⟩ (ih hlearned).2⟩
  | @fault context _ _ _ _ target _ _ _ _ _ _ ih =>
    exact fun hvalid => ⟨(ih (hvalid.push target.name)).1.pop, fun outcomes heq => by cases heq⟩
  | @join context _ _ _ _ _ target outcomes _ _ hfound _ _ htarget _ houtcome _ ihinner ihrest =>
    intro hvalid
    rw [hvalid.lookup] at hfound
    -- References below: the inner run's values join to what the target means, which is then learnt.
    obtain ⟨hinside, hall⟩ := ihinner (hvalid.push target.name)
    have hmeans := Lookup.means_of_forall₂ htarget (hall outcomes rfl)
    rw [← houtcome] at hmeans
    have hlearned := hinside.pop.learn (hcanonical _ _ hfound) hmeans
    exact ⟨(ihrest hlearned).1, forall₂_of_map ⟨target, hfound, hmeans⟩ (ihrest hlearned).2⟩

/-- A context stays valid when any rule is evaluated. -/
theorem Valid.evaluate (hcanonical : lookup.Canonical) (h : context.Valid lookup row)
    (rule : Rule) : (context.evaluate rule).2.Valid lookup row := by
  cases hrule : rule.isReference with
  | false =>
    rw [evaluate_of_conditions _ hrule]
    exact h
  | true =>
    rw [evaluate_of_references _ hrule]
    exact ((resolves_evaluateAll _ _ _).valid hcanonical (h.push rule.name)).1.pop

end Context

/-! ## Rules with a meaning

  Here a fault is excluded. The only way to one, with all references found, is to meet a rule on the
  stack, and a rule that is `Clear` of the stack meets none. -/

namespace Lookup

variable {lookup : Lookup} {row : Row} {stack : List String} {rule target : Rule}
  {outcome : Bool}

/-- Nothing that the rule needs is on the stack, the rule included. -/
def Clear (lookup : Lookup) (stack : List String) (rule : Rule) : Prop :=
  ∀ target, ReflTransGen lookup.Needs rule target → target.name ∉ stack

/-- A rule that means something may go on the stack before what it needs. -/
theorem Clear.push (hcanonical : lookup.Canonical) (hrule : lookup.get? rule.name = some rule)
    (hmeans : lookup.Means row rule outcome) (hclear : lookup.Clear stack rule)
    (hneeds : lookup.Needs rule target) : lookup.Clear (stack ++ [rule.name]) target := by
  intro end' hend hmem
  have hfrom : TransGen lookup.Needs rule end' := TransGen.head' hneeds hend
  rcases List.mem_append.mp hmem with hmem | hmem
  · exact hclear end' hfrom.to_reflTransGen hmem
  · -- the rule would need itself
    have hfound := get?_name_of_needs hcanonical hrule hfrom.to_reflTransGen
    obtain rfl := hcanonical.eq_of_name_eq hfound hrule (List.mem_singleton.mp hmem)
    exact hmeans.not_cyclic hfrom

end Lookup

namespace Context

variable {lookup : Lookup} {row : Row} {context after other : Context}
  {owner reference : String} {references : List String} {rule target : Rule} {outcome : Bool}
  {items : Except ReferenceError (List Bool)}

/-- References that give something, to rules that are clear of the stack, have outcomes. -/
theorem Resolves.exists_ok (hcanonical : lookup.Canonical)
    (h : Resolves context owner references items after) :
    context.Valid lookup row →
      (∀ reference ∈ references, ∃ target outcome, lookup.get? reference = some target ∧
        lookup.Means row target outcome ∧ lookup.Clear context.stack target) →
      ∃ outcomes, items = .ok outcomes := by
  induction h with
  | nil => exact fun _ _ => ⟨[], rfl⟩
  | undefined hfound =>
    intro hvalid hgives
    obtain ⟨target, _, hsome, -⟩ := hgives _ (List.mem_cons_self ..)
    rw [hvalid.lookup, hsome] at hfound
    cases hfound
  | known _ _ _ ih =>
    intro hvalid hgives
    obtain ⟨outcomes, rfl⟩ := ih hvalid fun reference hmem =>
      hgives reference (List.mem_cons_of_mem _ hmem)
    exact ⟨_, rfl⟩
  | circular hfound _ hstack =>
    intro hvalid hgives
    obtain ⟨target, _, hsome, -, hclear⟩ := hgives _ (List.mem_cons_self ..)
    rw [hvalid.lookup, hsome] at hfound
    obtain rfl := Option.some.inj hfound
    exact absurd hstack (hclear target .refl)
  | leaf hfound _ _ htarget houtcome _ ih =>
    intro hvalid hgives
    rw [hvalid.lookup] at hfound
    have hmeans := hvalid.means_of_conditions htarget
    rw [← houtcome] at hmeans
    obtain ⟨outcomes, rfl⟩ := ih (hvalid.learn (hcanonical _ _ hfound) hmeans)
      fun reference hmem => hgives reference (List.mem_cons_of_mem _ hmem)
    exact ⟨_, rfl⟩
  | @fault context _ _ _ _ target _ hfound _ _ htarget _ ih =>
    intro hvalid hgives
    -- what the target needs means something too, so there is no fault inside
    obtain ⟨target', _, hsome, hmeans, hclear⟩ := hgives _ (List.mem_cons_self ..)
    rw [hvalid.lookup, hsome] at hfound
    obtain rfl := Option.some.inj hfound
    obtain ⟨outcomes, heq⟩ := ih (hvalid.push target'.name) fun reference hmem => by
      obtain ⟨given, next, hnext, hgiven⟩ := hmeans.gives htarget hmem
      exact ⟨next, given, hnext, hgiven,
        hclear.push hcanonical (hcanonical _ _ hsome) hmeans ⟨htarget, reference, hmem, hnext⟩⟩
    cases heq
  | @join context inside _ _ _ _ target _ _ _ hfound _ _ htarget hinner houtcome _ _ ih =>
    intro hvalid hgives
    rw [hvalid.lookup] at hfound
    obtain ⟨hinside, hall⟩ := hinner.valid hcanonical (hvalid.push target.name)
    have hmeans := Lookup.means_of_forall₂ htarget (hall _ rfl)
    rw [← houtcome] at hmeans
    have hstack : inside.pop.stack = context.stack := hinner.restored.pop.stack
    obtain ⟨outcomes, rfl⟩ := ih (hinside.pop.learn (hcanonical _ _ hfound) hmeans)
      fun reference hmem => by
        obtain ⟨next, given, hnext, hgiven, hclear⟩ := hgives reference (List.mem_cons_of_mem _ hmem)
        exact ⟨next, given, hnext, hgiven, hstack.symm ▸ hclear⟩
    exact ⟨_, rfl⟩

/-- **A rule that means something is evaluated to that**, if what it needs is clear of it and of
    the stack. -/
theorem evaluate_of_means (hcanonical : lookup.Canonical) (hvalid : context.Valid lookup row)
    (hmeans : lookup.Means row rule outcome)
    (hclear : ∀ target, lookup.Needs rule target →
      lookup.Clear (context.stack ++ [rule.name]) target) :
    (context.evaluate rule).1 = .ok outcome := by
  cases hrule : rule.isReference with
  | false =>
    rw [evaluate_of_conditions _ hrule, (hvalid.means_of_conditions hrule).unique hmeans]
  | true =>
    have hresolves := resolves_evaluateAll (context.push rule.name) rule.name rule.references
    -- No reference can fail: each one means something, and none leads back to the stack.
    obtain ⟨outcomes, hok⟩ := hresolves.exists_ok hcanonical (hvalid.push rule.name)
      fun reference hmem => by
        obtain ⟨given, target, hfound, hgiven⟩ := hmeans.gives hrule hmem
        exact ⟨target, given, hfound, hgiven, hclear target ⟨hrule, reference, hmem, hfound⟩⟩
    have hall := (hresolves.valid hcanonical (hvalid.push rule.name)).2 outcomes hok
    rw [evaluate_of_references _ hrule, hok]
    exact congrArg Except.ok ((Lookup.means_of_forall₂ hrule hall).unique hmeans)

/-- A reference to a rule that means something and is clear of the stack gives that first, and
    leaves the others to a valid context. -/
theorem evaluateAll_of_means (hcanonical : lookup.Canonical) (hvalid : context.Valid lookup row)
    (hfound : lookup.get? reference = some target) (hmeans : lookup.Means row target outcome)
    (hclear : lookup.Clear context.stack target)
    (hrest : ∀ next : Context, next.Valid lookup row → next.stack = context.stack →
      (next.evaluateAll owner references).1 = items) :
    (context.evaluateAll owner (reference :: references)).1 = items.map (outcome :: ·) := by
  have hname := hcanonical reference target hfound
  have hget : context.lookup.get? reference = some target := hvalid.lookup ▸ hfound
  -- The value is the same whether the memo knows it or the target is evaluated now.
  cases hmemo : context.memo.lookup target.name with
  | some known =>
    obtain rfl := (hvalid.means hname hmemo).unique hmeans
    rw [evaluateAll_of_ok (evaluateOne_of_known hget hmemo), hrest context hvalid rfl]
  | none =>
    have hok := evaluate_of_means hcanonical hvalid hmeans fun next hneeds =>
      hclear.push hcanonical hname hmeans hneeds
    have heval : context.evaluate target = (.ok outcome, (context.evaluate target).2) := by
      rw [← hok]
    have hlearned := (hvalid.evaluate hcanonical target).learn hname hmeans
    rw [evaluateAll_of_ok (evaluateOne_of_notMem hget hmemo (hclear target .refl) heval),
      hrest _ hlearned (evaluate_restored context target).stack]

end Context

/-! ## Two contexts

  Here a fault is compared with a fault. What one context finds on its stack the other finds on its
  own, since the stacks are the same, unless the other knows the rule from before; and it does not,
  since the rule has no meaning. -/

/-- All rules on the stack lead to the rule. -/
def Lookup.Leads (lookup : Lookup) (stack : List String) (rule : Rule) : Prop :=
  ∀ name ∈ stack, ∃ between, lookup.get? name = some between ∧
    ReflTransGen lookup.Needs between rule

namespace Lookup.Leads

variable {lookup : Lookup} {row : Row} {stack : List String} {rule target : Rule}
  {outcome : Bool}

/-- A rule that is needed is led to as well, and by the rule that needs it too. -/
theorem push (h : lookup.Leads stack rule) (hneeds : lookup.Needs rule target)
    (hfound : lookup.get? target.name = some target) :
    lookup.Leads (stack ++ [target.name]) target := by
  intro name hmem
  rcases List.mem_append.mp hmem with hmem | hmem
  · obtain ⟨between, hbetween, hleads⟩ := h name hmem
    exact ⟨between, hbetween, hleads.tail hneeds⟩
  · exact ⟨target, List.mem_singleton.mp hmem ▸ hfound, .refl⟩

/-- A rule that means something does not need those that need it. -/
theorem clear (hcanonical : lookup.Canonical) (h : lookup.Leads stack rule)
    (hneeds : lookup.Needs rule target) (hfound : lookup.get? target.name = some target)
    (hmeans : lookup.Means row target outcome) : lookup.Clear stack target := by
  intro end' hend hmem
  obtain ⟨between, hbetween, hleads⟩ := h end'.name hmem
  have hend' := get?_name_of_needs hcanonical hfound hend
  obtain rfl := Option.some.inj (hend'.symm.trans hbetween)
  exact hmeans.not_cyclic (TransGen.tail' (hend.trans hleads) hneeds)

end Lookup.Leads

namespace Context

/-- Two valid contexts with one stack, all of whose rules lead to the rule. -/
structure Alike (lookup : Lookup) (row : Row) (rule : Rule) (context other : Context) : Prop where
  first : context.Valid lookup row
  second : other.Valid lookup row
  stack : other.stack = context.stack
  leads : lookup.Leads context.stack rule

variable {lookup : Lookup} {row : Row} {context inside after other : Context}
  {owner reference : String} {references : List String} {rule target : Rule} {outcome : Bool}
  {items : Except ReferenceError (List Bool)}

namespace Alike

/-- Contexts that are alike stay so when a rule that is needed goes on both stacks. -/
theorem push (h : Alike lookup row rule context other) (hneeds : lookup.Needs rule target)
    (hname : lookup.get? target.name = some target) :
    Alike lookup row target (context.push target.name) (other.push target.name) :=
  ⟨h.first.push _, h.second.push _, congrArg (· ++ [target.name]) h.stack, h.leads.push hneeds hname⟩

/-- A rule that is needed and means something comes first in the other context too; the rest is
    left to contexts that are alike. -/
theorem evaluateAll (hcanonical : lookup.Canonical) (h : Alike lookup row rule context other)
    (hneeds : lookup.Needs rule target) (hfound : lookup.get? reference = some target)
    (hmeans : lookup.Means row target outcome) (hinside : inside.Valid lookup row)
    (hback : inside.stack = context.stack)
    (hrest : ∀ next, Alike lookup row rule inside next →
      (next.evaluateAll owner references).1 = items) :
    (other.evaluateAll owner (reference :: references)).1 = items.map (outcome :: ·) := by
  have hclear := h.leads.clear hcanonical hneeds (hcanonical _ _ hfound) hmeans
  refine evaluateAll_of_means hcanonical h.second hfound hmeans (h.stack ▸ hclear) ?_
  intro next hnext hstack
  exact hrest next ⟨hinside, hnext, hstack.trans (h.stack.trans hback.symm), hback ▸ h.leads⟩

end Alike

/-- **Contexts that are alike resolve references alike.** By induction on the evaluation in the one
    context; the other stays general, as it learns other rules on the way. -/
theorem Resolves.agrees (hcanonical : lookup.Canonical)
    (h : Resolves context owner references items after) :
    ∀ {rule : Rule} (other : Context), Alike lookup row rule context other →
      (∀ reference ∈ references, ∀ target, lookup.get? reference = some target →
        lookup.Needs rule target) →
      (other.evaluateAll owner references).1 = items := by
  -- a reference that has an outcome here has a meaning, and so the same outcome there
  induction h with
  | nil =>
    intro rule other _ _
    rw [evaluateAll_nil]
  | undefined hfound =>
    intro rule other halike _
    rw [halike.first.lookup, ← halike.second.lookup] at hfound
    rw [evaluateAll_of_error (evaluateOne_of_none hfound)]
  | known hfound hmemo _ ih =>
    intro rule other halike hneeds
    rw [halike.first.lookup] at hfound
    have hmeans := halike.first.means (hcanonical _ _ hfound) hmemo
    exact halike.evaluateAll hcanonical (hneeds _ (List.mem_cons_self ..) _ hfound) hfound hmeans
      halike.first rfl fun next hnext =>
        ih next hnext fun r hmem => hneeds r (List.mem_cons_of_mem _ hmem)
  | @circular context _ _ _ target hfound hmemo hmem =>
    intro rule other halike hneeds
    rw [halike.first.lookup] at hfound
    have hname := hcanonical _ _ hfound
    -- if it meant something, it would be clear of the stack
    have hnew := halike.second.lookup_eq_none hname fun known hmeans =>
      halike.leads.clear hcanonical (hneeds _ (List.mem_cons_self ..) _ hfound) hname hmeans
        target .refl hmem
    rw [← halike.second.lookup] at hfound
    rw [evaluateAll_of_error (evaluateOne_of_mem hfound hnew (halike.stack ▸ hmem)), halike.stack]
  | leaf hfound _ _ htarget houtcome _ ih =>
    intro rule other halike hneeds
    rw [halike.first.lookup] at hfound
    have hmeans := halike.first.means_of_conditions htarget
    rw [← houtcome] at hmeans
    exact halike.evaluateAll hcanonical (hneeds _ (List.mem_cons_self ..) _ hfound) hfound hmeans
      (halike.first.learn (hcanonical _ _ hfound) hmeans) rfl fun next hnext =>
        ih next hnext fun r hmem => hneeds r (List.mem_cons_of_mem _ hmem)
  | @fault context inside _ _ _ target e hfound hmemo hnot htarget hinner ih =>
    intro rule other halike hneeds
    rw [halike.first.lookup] at hfound
    have hname := hcanonical _ _ hfound
    have hneeded := hneeds _ (List.mem_cons_self ..) target hfound
    have hnew := halike.second.lookup_eq_none hname fun known hmeans => by
      -- if it meant something, the first context would have evaluated it
      have hclear := halike.leads.clear hcanonical hneeded hname hmeans
      have hok := evaluate_of_means hcanonical halike.first hmeans fun next hnext =>
        hclear.push hcanonical hname hmeans hnext
      rw [evaluate_of_references _ htarget, hinner.eq] at hok
      cases hok
    have hsame := ih (other.push target.name) (halike.push hneeded hname)
      fun r hmem next hnext => ⟨htarget, r, hmem, hnext⟩
    have heval : other.evaluate target = (.error e, (other.evaluate target).2) := by
      rw [evaluate_of_references _ htarget, hsame]
      rfl
    rw [← halike.second.lookup] at hfound
    rw [evaluateAll_of_error (evaluateOne_of_notMem hfound hnew (halike.stack ▸ hnot) heval)]
  | @join context inside _ _ _ _ target _ _ _ hfound _ _ htarget hinner houtcome _ _ ih =>
    intro rule other halike hneeds
    rw [halike.first.lookup] at hfound
    obtain ⟨hinside, hall⟩ := hinner.valid hcanonical (halike.first.push target.name)
    have hmeans := Lookup.means_of_forall₂ htarget (hall _ rfl)
    rw [← houtcome] at hmeans
    exact halike.evaluateAll hcanonical (hneeds _ (List.mem_cons_self ..) _ hfound) hfound hmeans
      (hinside.pop.learn (hcanonical _ _ hfound) hmeans) hinner.restored.pop.stack
      fun next hnext => ih next hnext fun r hmem => hneeds r (List.mem_cons_of_mem _ hmem)

/-- Between valid contexts, with nothing on the stack, a rule that its own name finds is evaluated
    alike. -/
theorem Valid.evaluate_eq (hcanonical : lookup.Canonical) (hvalid : context.Valid lookup row)
    (hother : other.Valid lookup row) (hstack : context.stack = []) (hstack' : other.stack = [])
    (hrule : lookup.get? rule.name = some rule) :
    (other.evaluate rule).1 = (context.evaluate rule).1 := by
  cases hreference : rule.isReference with
  | false =>
    rw [evaluate_of_conditions _ hreference, evaluate_of_conditions _ hreference, hvalid.row,
      hother.row]
  | true =>
    -- the rule alone is on the stack
    have hleads : lookup.Leads (context.push rule.name).stack rule := by
      intro name hmem
      rw [push_stack, hstack, List.nil_append] at hmem
      exact ⟨rule, List.mem_singleton.mp hmem ▸ hrule, .refl⟩
    have halike : Alike lookup row rule (context.push rule.name) (other.push rule.name) :=
      ⟨hvalid.push _, hother.push _, by rw [push_stack, push_stack, hstack, hstack'], hleads⟩
    have hresolves := resolves_evaluateAll (context.push rule.name) rule.name rule.references
    have hsame := hresolves.agrees hcanonical (other.push rule.name) halike
      fun reference hmem target hfound => ⟨hreference, reference, hmem, hfound⟩
    rw [evaluate_of_references _ hreference, evaluate_of_references _ hreference, hsame]

/-! ## Asking for one name after another

  A context that has answered is still valid and has nothing on its stack, so it answers the next
  name as a fresh one would. -/

/-- The outcome of the rule that a name finds, or nothing, and the context after it. -/
def answer (context : Context) (name : String) :
    Option (Except ReferenceError Bool) × Context :=
  match context.lookup.get? name with
  | none => (none, context)
  | some rule => (some (context.evaluate rule).1, (context.evaluate rule).2)

/-- The outcomes of the rules that names find, evaluated in one context. -/
def answers (context : Context) : List String → List (Option (Except ReferenceError Bool))
  | [] => []
  | name :: names => (context.answer name).1 :: (context.answer name).2.answers names

/-- What a valid context answers is what a fresh one does, and it stays valid. -/
theorem Valid.answer (hcanonical : lookup.Canonical) (hvalid : context.Valid lookup row)
    (hstack : context.stack = []) (name : String) :
    (context.answer name).1 = ((Context.fresh lookup row).answer name).1 ∧
      (context.answer name).2.Valid lookup row ∧ (context.answer name).2.stack = [] := by
  have hfresh : (Context.fresh lookup row).lookup = lookup := rfl
  rw [Context.answer, Context.answer, hvalid.lookup, hfresh]
  cases hfound : lookup.get? name with
  | none => exact ⟨rfl, hvalid, hstack⟩
  | some rule =>
    refine ⟨congrArg some ?_, hvalid.evaluate hcanonical rule, ?_⟩
    · exact Valid.fresh.evaluate_eq hcanonical hvalid rfl hstack (hcanonical name rule hfound)
    · exact (evaluate_restored context rule).stack.trans hstack

/-- So do all of its answers. -/
theorem Valid.answers (hcanonical : lookup.Canonical) (hvalid : context.Valid lookup row)
    (hstack : context.stack = []) (names : List String) :
    context.answers names =
      names.map fun name => ((Context.fresh lookup row).answer name).1 := by
  induction names generalizing context with
  | nil => rfl
  | cons name names ih =>
    obtain ⟨hfirst, hvalid', hstack'⟩ := hvalid.answer hcanonical hstack name
    rw [Context.answers, List.map_cons, hfirst, ih hvalid' hstack']

end Context

/-- **The memo is not seen.**  Rules that are found by their names and evaluated in one context,
    one after another, have the outcomes and the faults that they have in fresh contexts, whatever
    came before.  And after every evaluation, with an outcome or without, the stack is as it was
    and all that the memo knew is known as before. -/
theorem answers_eq_map_fresh (rules : List Rule) {registry : Registry}
    (hregistry : registry.Reachable) (row : Row) (names : List String) :
    (Context.fresh ⟨rules, registry⟩ row).answers names =
      names.map (fun name => ((Context.fresh ⟨rules, registry⟩ row).answer name).1) ∧
    ∀ (context : Context) (rule : Rule), (context.evaluate rule).2.stack = context.stack ∧
      ∀ name known, context.memo.lookup name = some known →
        (context.evaluate rule).2.memo.lookup name = some known := by
  have hcanonical : (⟨rules, registry⟩ : Lookup).Canonical :=
    Lookup.canonical_of_indexed hregistry.indexed
  refine ⟨Context.Valid.fresh.answers hcanonical rfl names, fun context rule => ⟨?_, ?_⟩⟩
  · exact (Context.evaluate_restored context rule).stack
  · exact fun name known hknown => Context.evaluate_keeps hknown

/-- What `left` learns of the rule that it shares with `right` is what `right` is answered from, and
    that learns nothing more.  Two rules that refer to each other are asked for after that: each
    answer tells the cycle from where it was entered. -/
theorem answers_of_shared_rule :
    let shared := Rule.ofConditions "shared" [⟨"A", .greaterThan, .int 10⟩] [] "A > 10"
    let left := Rule.ofReferences "left" ["shared"] [] "shared"
    let right := Rule.ofReferences "right" ["SHARED"] [] "SHARED"
    let first := Rule.ofReferences "a" ["b"] [] "b"
    let second := Rule.ofReferences "b" ["A"] [] "A"
    let registry := (Registry.empty.insert shared).1
    let fresh := Context.fresh ⟨[left, right, first, second], registry⟩ ⟨[("A", .int 15)]⟩
    registry.Reachable ∧
      (fresh.answer "left").2.memo = [("shared", true)] ∧
      ((fresh.answer "left").2.answer "right").1 = some (.ok true) ∧
      ((fresh.answer "left").2.answer "right").2.memo = [("shared", true)] ∧
      fresh.answers ["left", "right", "a", "c", "b"] =
        [some (.ok true), some (.ok true), some (.error (.circular ["a", "b", "a"])), none,
          some (.error (.circular ["b", "a", "b"]))] := by
  intro shared left right first second registry fresh
  have hregistry : registry.Reachable := Registry.Reachable.empty.insert shared
  have hleft : fresh.lookup.get? "left" = some left := by decide
  have hright : fresh.lookup.get? "right" = some right := by decide
  have hshared : fresh.lookup.get? "shared" = some shared := by decide
  have hSHARED : fresh.lookup.get? "SHARED" = some shared := by decide
  have ha : fresh.lookup.get? "a" = some first := by decide
  have hA : fresh.lookup.get? "A" = some first := by decide
  have hb : fresh.lookup.get? "b" = some second := by decide
  have hc : fresh.lookup.get? "c" = none := by decide
  -- the shared rule is evaluated by whichever of the two comes first
  have hholds : true = combine (shared.conditions.map (·.holds fresh.row)) shared.connectives := by
    decide +kernel
  have hfirstly : ∀ name reference, fresh.lookup.get? reference = some shared →
      "shared" ∉ (fresh.push name).stack → Context.Resolves (fresh.push name) name [reference]
        (.ok [true]) ((fresh.push name).learn "shared" true) :=
    fun name reference hfound hstack =>
      @Context.Resolves.leaf (fresh.push name) _ name reference [] shared true _ hfound rfl hstack
        rfl hholds .nil
  have hevalLeft := @Context.evaluate_of_evaluateAll fresh _ left _ rfl
    (hfirstly "left" "shared" hshared (by decide)).eq
  have hevalRight := @Context.evaluate_of_evaluateAll fresh _ right _ rfl
    (hfirstly "right" "SHARED" hSHARED (by decide)).eq
  -- and known to the other
  let known := ((fresh.push "left").learn "shared" true).pop
  have hsecondly : Context.Resolves (known.push "right") "right" ["SHARED"] (.ok [true])
      (known.push "right") :=
    @Context.Resolves.known (known.push "right") _ "right" "SHARED" [] shared true _ hSHARED rfl .nil
  have hevalKnown := @Context.evaluate_of_evaluateAll known _ right _ rfl hsecondly.eq
  have hanswerLeft : fresh.answer "left" = (some (.ok true), known) := by
    simp only [Context.answer, hleft, hevalLeft]
    rfl
  have hanswerRight : known.answer "right" = (some (.ok true), (known.push "right").pop) := by
    simp only [Context.answer, show known.lookup.get? "right" = some right from hright, hevalKnown]
    rfl
  let ab := (fresh.push "a").push "b"
  let ba := (fresh.push "b").push "a"
  have hab : Context.Resolves ab "b" ["A"] (.error (.circular ["a", "b", "a"])) ab :=
    @Context.Resolves.circular ab "b" "A" [] first hA rfl (by decide)
  have hba : Context.Resolves ba "a" ["b"] (.error (.circular ["b", "a", "b"])) ba :=
    @Context.Resolves.circular ba "a" "b" [] second hb rfl (by decide)
  have hfirst : Context.Resolves (fresh.push "a") "a" ["b"]
      (.error (.circular ["a", "b", "a"])) ab.pop := .fault hb rfl (by decide) rfl hab
  have hsecond : Context.Resolves (fresh.push "b") "b" ["A"]
      (.error (.circular ["b", "a", "b"])) ba.pop := .fault hA rfl (by decide) rfl hba
  have hevalFirst := @Context.evaluate_of_evaluateAll fresh _ first _ rfl hfirst.eq
  have hevalSecond := @Context.evaluate_of_evaluateAll fresh _ second _ rfl hsecond.eq
  have hanswers := (answers_eq_map_fresh [left, right, first, second] hregistry
    ⟨[("A", .int 15)]⟩ ["left", "right", "a", "c", "b"]).1
  refine ⟨hregistry, by rw [hanswerLeft]; rfl, by rw [hanswerLeft, hanswerRight],
    by rw [hanswerLeft, hanswerRight]; rfl, hanswers.trans ?_⟩
  show [(fresh.answer "left").1, (fresh.answer "right").1, (fresh.answer "a").1,
    (fresh.answer "c").1, (fresh.answer "b").1] = _
  rw [hanswerLeft]
  simp only [Context.answer, hright, ha, hb, hc, hevalRight, hevalFirst, hevalSecond, Except.map]
  rfl

end TableRules
