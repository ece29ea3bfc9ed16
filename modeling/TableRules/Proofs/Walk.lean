/-
  THE WALK ALONG REFERENCES, RULE BY RULE: what each step of a check does.

  `Follows` has a rule for each thing that can happen to the first of the references that are
  left: it finds nothing, it finds a rule that is done, or one that is on the path; or it finds
  a new rule, whose references come first and end with a fault or without.  A derivation is a
  walk that comes to an end; it tells how DEEP the walk may go into new rules.

  * `follows_visitAll` — every walk comes to an end, no deeper than there are rules whose names
    are not on its path, and with the result of `visitAll`;
  * `Follows.eq`       — it ends with no other result;
  * `checks_iff`       — so a check takes at most as many rules inside of one another as there
    are.

  What a walk keeps is shown by induction on `Follows`.

  The depth is not needed for that.  It is there because a relation alone says nothing about how
  long a walk takes; with it, `checks_iff` says of every rule that its check ends, and bounds what
  it has to hold at a time.  The bound is `unseen`, the rules whose names are not on the path: to
  go into a rule puts its name there, so one is left less.
-/
import TableRules.Evaluation.Check

namespace TableRules.Lookup

/-! ## One step of the program -/

section

variable {lookup : Lookup} {owner reference : String} {references path done : List String}

/-- A reference that finds nothing ends the walk. -/
theorem visitAll_of_none (hfound : lookup.get? reference = none) :
    lookup.visitAll owner (reference :: references) path done =
      .error (.undefined owner reference) := by
  rw [visitAll]
  split
  next => rfl
  next target hfound' => exact absurd (hfound.symm.trans hfound') (by simp)

/-- A reference that finds a rule: it is done, or on the path, or else it is walked first and is
    done when that ends without a fault. -/
theorem visitAll_of_some {target : Rule} (hfound : lookup.get? reference = some target) :
    lookup.visitAll owner (reference :: references) path done =
      if target.name ∈ done then lookup.visitAll owner references path done
      else if target.name ∈ path then .error (.circular (chainFrom path target.name))
      else
        match lookup.visitAll target.name target.references (path ++ [target.name]) done with
        | .error e => .error e
        | .ok known => lookup.visitAll owner references path (target.name :: known) := by
  rw [visitAll]
  split
  next hfound' => exact absurd (hfound.symm.trans hfound') (by simp)
  next other hfound' =>
    obtain rfl := Option.some.inj (hfound.symm.trans hfound')
    -- Visiting the target walks its references with the target on the path.
    rw [visit]
    cases lookup.visitAll target.name target.references (path ++ [target.name]) done with
    | error e => rfl
    | ok known => rfl

end

/-! ## The rules of the walk -/

/-- From references that `owner` holds, with a path and the names that are done, a walk that
    goes no deeper than told ends with a fault, or with the names that are done then. -/
inductive Follows (lookup : Lookup) : Nat → String → List String → List String → List String →
    Except ReferenceError (List String) → Prop
  /-- Nothing is left to follow. -/
  | nil {depth : Nat} {owner : String} {path done : List String} :
      Follows lookup depth owner [] path done (.ok done)
  /-- The first reference finds no rule. -/
  | undefined {depth : Nat} {owner reference : String} {references path done : List String}
      (hfound : lookup.get? reference = none) :
      Follows lookup depth owner (reference :: references) path done
        (.error (.undefined owner reference))
  /-- It finds a rule that is done. -/
  | skip {depth : Nat} {owner reference : String} {references path done : List String}
      {target : Rule} {result : Except ReferenceError (List String)}
      (hfound : lookup.get? reference = some target) (hdone : target.name ∈ done)
      (hrest : Follows lookup depth owner references path done result) :
      Follows lookup depth owner (reference :: references) path done result
  /-- It finds a rule that is on the path. -/
  | circular {depth : Nat} {owner reference : String} {references path done : List String}
      {target : Rule}
      (hfound : lookup.get? reference = some target) (hdone : target.name ∉ done)
      (hpath : target.name ∈ path) :
      Follows lookup depth owner (reference :: references) path done
        (.error (.circular (chainFrom path target.name)))
  /-- It finds a new rule, and the walk from there ends with a fault. -/
  | fault {depth : Nat} {owner reference : String} {references path done : List String}
      {target : Rule} {e : ReferenceError}
      (hfound : lookup.get? reference = some target) (hdone : target.name ∉ done)
      (hpath : target.name ∉ path)
      (hinner : Follows lookup depth target.name target.references (path ++ [target.name]) done
        (.error e)) :
      Follows lookup (depth + 1) owner (reference :: references) path done (.error e)
  /-- It finds a new rule, and the walk from there ends without one: the rule is done. -/
  | next {depth : Nat} {owner reference : String} {references path done known : List String}
      {target : Rule} {result : Except ReferenceError (List String)}
      (hfound : lookup.get? reference = some target) (hdone : target.name ∉ done)
      (hpath : target.name ∉ path)
      (hinner : Follows lookup depth target.name target.references (path ++ [target.name]) done
        (.ok known))
      (hrest : Follows lookup (depth + 1) owner references path (target.name :: known) result) :
      Follows lookup (depth + 1) owner (reference :: references) path done result

/-- A check of a rule that goes no deeper than told comes to an outcome. -/
def Checks (lookup : Lookup) (depth : Nat) (rule : Rule) (outcome : Except ReferenceError Unit) :
    Prop :=
  ∃ result, Follows lookup depth rule.name rule.references [rule.name] [] result ∧
    outcome = result.map fun _ => ()

/-! ## The rules and the program -/

/-- The walk comes to an end, and `visitAll` tells how. By the recursion of `visitAll`, one case for
    each thing that can happen to the first reference. -/
theorem follows_visitAll (lookup : Lookup) (depth : Nat) (owner : String)
    (references path done : List String) (hdepth : lookup.unseen path ≤ depth) :
    Follows lookup depth owner references path done
      (lookup.visitAll owner references path done) := by
  match references with
  | [] =>
    rw [visitAll]
    exact .nil
  | reference :: references =>
    cases hfound : lookup.get? reference with
    | none =>
      rw [visitAll_of_none hfound]
      exact .undefined hfound
    | some target =>
      rw [visitAll_of_some hfound]
      by_cases hdone : target.name ∈ done
      · rw [if_pos hdone]
        exact .skip hfound hdone (follows_visitAll lookup depth owner references path done hdepth)
      · rw [if_neg hdone]
        by_cases hpath : target.name ∈ path
        · rw [if_pos hpath]
          exact .circular hfound hdone hpath
        · rw [if_neg hpath]
          -- the new name leaves fewer rules unseen, and that pays for the depth
          have hlt := unseen_append_lt (mem_of_get? hfound) hpath
          obtain ⟨depth, rfl⟩ := Nat.exists_eq_succ_of_ne_zero (by omega : depth ≠ 0)
          have hinner := follows_visitAll lookup depth target.name target.references
            (path ++ [target.name]) done (by omega)
          cases hresult : lookup.visitAll target.name target.references
              (path ++ [target.name]) done with
          | error e => exact .fault hfound hdone hpath (hresult ▸ hinner)
          | ok known =>
            exact .next hfound hdone hpath (hresult ▸ hinner)
              (follows_visitAll lookup (depth + 1) owner references path (target.name :: known) hdepth)
termination_by (lookup.unseen path, references.length)
decreasing_by
  · exact Prod.Lex.right _ (Nat.lt_succ_self _)
  · exact Prod.Lex.left _ _ hlt
  · exact Prod.Lex.right _ (Nat.lt_succ_self _)

/-- A walk ends in one way. -/
theorem Follows.eq {lookup : Lookup} {depth : Nat} {owner : String}
    {references path done : List String} {result : Except ReferenceError (List String)}
    (h : Follows lookup depth owner references path done result) :
    lookup.visitAll owner references path done = result := by
  induction h with
  | nil => rw [visitAll]
  | undefined hfound => rw [visitAll_of_none hfound]
  | skip hfound hdone _ ih => rw [visitAll_of_some hfound, if_pos hdone, ih]
  | circular hfound hdone hpath => rw [visitAll_of_some hfound, if_neg hdone, if_pos hpath]
  | fault hfound hdone hpath _ ih =>
    rw [visitAll_of_some hfound, if_neg hdone, if_neg hpath, ih]
  | next hfound hdone hpath _ _ ihinner ihrest =>
    rw [visitAll_of_some hfound, if_neg hdone, if_neg hpath, ihinner]
    exact ihrest

/-- What a check tells is how the walk from the rule ends. -/
theorem check_eq (lookup : Lookup) (rule : Rule) :
    lookup.check rule =
      (lookup.visitAll rule.name rule.references [rule.name] []).map fun _ => () := by
  rw [check, visit, List.nil_append]
  cases lookup.visitAll rule.name rule.references [rule.name] [] with
  | error e => rfl
  | ok known => rfl

/-- A walk from the rule on tells what a check of it does, however deep it is said to go. -/
theorem Follows.check_eq {lookup : Lookup} {depth : Nat} {rule : Rule}
    {result : Except ReferenceError (List String)}
    (h : Follows lookup depth rule.name rule.references [rule.name] [] result) :
    lookup.check rule = result.map fun _ => () := by
  rw [Lookup.check_eq, h.eq]

/-- **A check comes to an outcome**, and goes no deeper than there are rules. -/
theorem checks_iff {lookup : Lookup} {rule : Rule} {outcome : Except ReferenceError Unit} :
    lookup.Checks lookup.rules.length rule outcome ↔ outcome = lookup.check rule := by
  constructor
  · rintro ⟨result, hfollows, rfl⟩
    exact hfollows.check_eq.symm
  · rintro rfl
    rw [Lookup.check_eq]
    exact ⟨_, follows_visitAll lookup _ rule.name rule.references [rule.name] []
      List.countP_le_length, rfl⟩

/-- A check that finds a fault walked into it. -/
theorem follows_of_check_error {lookup : Lookup} {rule : Rule} {e : ReferenceError}
    (h : lookup.check rule = .error e) :
    Follows lookup lookup.rules.length rule.name rule.references [rule.name] [] (.error e) := by
  obtain ⟨result, hfollows, hresult⟩ := checks_iff.mpr h.symm
  cases result with
  | error e' =>
    obtain rfl : e = e' := Except.error.inj hresult
    exact hfollows
  | ok known => exact absurd hresult (by simp [Except.map])

/-- A check that finds none walked to the end. -/
theorem follows_of_check_ok {lookup : Lookup} {rule : Rule} (h : lookup.check rule = .ok ()) :
    ∃ known, Follows lookup lookup.rules.length rule.name rule.references [rule.name] []
      (.ok known) := by
  obtain ⟨result, hfollows, hresult⟩ := checks_iff.mpr h.symm
  cases result with
  | error e => exact absurd hresult (by simp [Except.map])
  | ok known => exact ⟨known, hfollows⟩

end TableRules.Lookup
