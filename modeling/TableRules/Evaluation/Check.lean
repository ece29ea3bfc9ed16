/-
  CHECKING REFERENCES: can a rule be evaluated at all?

  A walk follows every reference that can be reached, depth first.  It keeps the PATH, the
  names of the rules that it is inside of, outermost first, and the names that are DONE, whose
  references were all followed without a fault.  It ends with the first fault: a name that no
  rule has, or a rule that is on the path already, in which case the chain from there back to
  the same name is reported.

  A rule that has both conditions and references is followed along its references too.
-/
import TableRules.Evaluation.Lookup
import TableRules.Notice

set_option linter.unusedVariables false

namespace TableRules

/-- The chain that a name closes: the path from its first occurrence on, and the name. -/
def chainFrom (path : List String) (name : String) : List String :=
  path.dropWhile (· != name) ++ [name]

namespace Lookup

mutual

/-- Follows the references of a rule that was met at the end of a path; the names that are
    done afterwards. -/
def visit (lookup : Lookup) (rule : Rule) (path done : List String) :
    Except ReferenceError (List String) :=
  match visitAll lookup rule.name rule.references (path ++ [rule.name]) done with
  | .error e => .error e
  | .ok done => .ok (rule.name :: done)
termination_by (lookup.unseen (path ++ [rule.name]), rule.references.length + 1)

/-- Follows references that the rule `owner` holds. -/
def visitAll (lookup : Lookup) (owner : String) (references : List String)
    (path done : List String) : Except ReferenceError (List String) :=
  match references with
  | [] => .ok done
  | reference :: references =>
    match h : lookup.get? reference with
    | none => .error (.undefined owner reference)
    | some target =>
      if target.name ∈ done then visitAll lookup owner references path done
      else if hnew : target.name ∈ path then .error (.circular (chainFrom path target.name))
      else
        match visit lookup target path done with
        | .error e => .error e
        | .ok done => visitAll lookup owner references path done
termination_by (lookup.unseen path, references.length)
decreasing_by
  · exact Prod.Lex.right _ (Nat.lt_succ_self _)
  · exact Prod.Lex.left _ _ (unseen_append_lt (mem_of_get? h) hnew)
  · exact Prod.Lex.right _ (Nat.lt_succ_self _)

end

/-- The fault in the references that can be reached from a rule, if there is one. -/
def check (lookup : Lookup) (rule : Rule) : Except ReferenceError Unit :=
  (lookup.visit rule [] []).map fun _ => ()

end Lookup

end TableRules
