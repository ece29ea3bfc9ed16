/-
  EVALUATING RULES ON A ROW: with a memo of what is known already.

  1. **The meaning** — a rule joins the outcomes of its conditions; a reference rule joins the
     outcomes of the rules that it refers to.

  2. **The context** — one per row.  It carries a MEMO of the outcomes of referenced rules, by
     name, and the STACK of the rules under evaluation, outermost first.  A rule goes on the
     stack when its evaluation begins and off it when that ends, with an outcome or without.
     A reference is looked up in the memo before it is tested against the stack.

  3. **Faults** — an unknown reference, or one to a rule on the stack, ends the evaluation.
     What the memo learned before stays known.

  The memo holds only rules that were referred to, never the rule that was asked for itself.

  An `Outcome` is what an evaluation ends with.  It carries the proof that the context after it
  has the stack of the context before it (`Restored`): the walk goes on from there, and only a
  stack that was restored lets `Lookup.unseen` be its measure.
-/
import TableRules.Evaluation.Check
import TableRules.Evaluation.Condition

set_option linter.unusedVariables false

namespace TableRules

/-- Outcomes of rules, by name. -/
abbrev Memo := List (String × Bool)

/-- The state of the evaluations on one row. -/
structure Context where
  lookup : Lookup
  row : Row
  memo : Memo
  stack : List String

namespace Context

/-- The context of a row before any evaluation. -/
def fresh (lookup : Lookup) (row : Row) : Context := ⟨lookup, row, [], []⟩

/-- The context inside of a rule. -/
def push (context : Context) (name : String) : Context :=
  { context with stack := context.stack ++ [name] }

/-- The context outside of the innermost rule. -/
def pop (context : Context) : Context := { context with stack := context.stack.dropLast }

/-- The context that knows the outcome of one more rule. -/
def learn (context : Context) (name : String) (outcome : Bool) : Context :=
  { context with memo := (name, outcome) :: context.memo }

/-! ## Restored contexts -/

/-- One context comes after another and is back where that was: only the memo may differ. -/
structure Restored (before after : Context) : Prop where
  lookup : after.lookup = before.lookup
  row : after.row = before.row
  stack : after.stack = before.stack

namespace Restored

variable {before between after : Context}

theorem refl : Restored before before := ⟨rfl, rfl, rfl⟩

theorem trans (h : Restored before between) (h' : Restored between after) :
    Restored before after :=
  ⟨h'.lookup.trans h.lookup, h'.row.trans h.row, h'.stack.trans h.stack⟩

/-- What a rule was put on comes back when the rule is taken off. -/
theorem pop {name : String} (h : Restored (before.push name) after) : Restored before after.pop := by
  refine ⟨h.lookup, h.row, ?_⟩
  show after.stack.dropLast = before.stack
  rw [h.stack]
  exact List.dropLast_concat

theorem learn {name : String} {outcome : Bool} (h : Restored before after) :
    Restored before (after.learn name outcome) := ⟨h.lookup, h.row, h.stack⟩

end Restored

/-- What an evaluation ends with. -/
structure Outcome (before : Context) (α : Type) where
  result : Except ReferenceError α
  after : Context
  restored : Restored before after

/-- The result and the context after it. -/
def Outcome.pair {before : Context} {α : Type} (outcome : Outcome before α) :
    Except ReferenceError α × Context := (outcome.result, outcome.after)

/-! ## The walk -/

mutual

/-- Evaluates a rule: on the stack, its items, off the stack. -/
def outcome (context : Context) (rule : Rule) : Outcome context Bool :=
  let inside := context.push rule.name
  let items : Outcome inside (List Bool) :=
    if rule.isReference then outcomes inside rule.name rule.references
    else ⟨.ok (rule.conditions.map (·.holds inside.row)), inside, .refl⟩
  ⟨items.result.map (combine · rule.connectives), items.after.pop, items.restored.pop⟩
termination_by (context.lookup.unseen (context.stack ++ [rule.name]), rule.references.length + 1)

/-- Evaluates references that the rule `owner` holds, up to one that has no outcome. -/
def outcomes (context : Context) (owner : String) (references : List String) :
    Outcome context (List Bool) :=
  match references with
  | [] => ⟨.ok [], context, .refl⟩
  | reference :: references =>
    match resolve context owner reference with
    | ⟨.error e, after, h⟩ => ⟨.error e, after, h⟩
    | ⟨.ok first, after, h⟩ =>
      let rest := outcomes after owner references
      ⟨rest.result.map (first :: ·), rest.after, h.trans rest.restored⟩
termination_by (context.lookup.unseen context.stack, references.length)
decreasing_by
  · exact Prod.Lex.right _ (Nat.succ_pos _)
  · rw [h.lookup, h.stack]
    exact Prod.Lex.right _ (Nat.lt_succ_self _)

/-- Evaluates one reference: what the memo knows, or the rule itself. -/
def resolve (context : Context) (owner reference : String) : Outcome context Bool :=
  match hfound : context.lookup.get? reference with
  | none => ⟨.error (.undefined owner reference), context, .refl⟩
  | some target =>
    match context.memo.lookup target.name with
    | some known => ⟨.ok known, context, .refl⟩
    | none =>
      if hnew : target.name ∈ context.stack then
        ⟨.error (.circular (chainFrom context.stack target.name)), context, .refl⟩
      else
        match outcome context target with
        | ⟨.error e, after, h⟩ => ⟨.error e, after, h⟩
        | ⟨.ok result, after, h⟩ => ⟨.ok result, after.learn target.name result, h.learn⟩
termination_by (context.lookup.unseen context.stack, 0)
decreasing_by
  exact Prod.Lex.left _ _ (Lookup.unseen_append_lt (Lookup.mem_of_get? hfound) hnew)

end

/-! ## Evaluating -/

/-- The outcome of a rule, and the context after it. -/
def evaluate (context : Context) (rule : Rule) : Except ReferenceError Bool × Context :=
  (context.outcome rule).pair

end Context

end TableRules
