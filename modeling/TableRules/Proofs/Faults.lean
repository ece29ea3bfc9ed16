/-
  WHAT A CHECK TELLS: a rule is grounded, or there is the fault that is told.

  1. **Without a fault** — the names that are done stay `Settled`: each finds a grounded rule,
     and all that this reaches is done too.  None of them is on the path.  That is why a rule
     that is met again need not be followed again, and why no cycle is missed: it would lead
     from a name that is done to one on the path.

  2. **With a fault** — the path is a `Trail`: it begins at the rule that is checked, and each
     rule on it holds a reference to the next.  What is found missing is held by the last of
     them; what is found on the path closes a cycle.

  3. **Both ways** — a rule passes its check if and only if it is grounded, that is, if all that
     it reaches refers to rules that are found and does not lead back to itself.

  The crux is that a rule which is done is never looked at again, though it was met on another path
  than it is met on now.  That could hide a cycle through the new path.  It does not, because all
  that a rule leads to is done when it is done, and nothing that is done is on the path: the two
  facts are kept together (`Followed`), since neither is kept without the other.
-/
import Mathlib.Data.List.Chain
import TableRules.Proofs.References
import TableRules.Proofs.Walk

namespace TableRules.Lookup

open Relation

variable {lookup : Lookup} {depth : Nat} {owner : String} {references path done : List String}
  {result : Except ReferenceError (List String)} {root rule target : Rule}

/-! ## Without a fault

  By induction on the walk, and then for the whole of it, which starts with nothing done. -/

/-- Each name finds a grounded rule, and the names of all that it reaches are here too. -/
def Settled (lookup : Lookup) (done : List String) : Prop :=
  ∀ name ∈ done, ∃ rule, lookup.get? name = some rule ∧ rule.name = name ∧
    lookup.Grounded rule ∧ ∀ target, lookup.Reaches rule target → target.name ∈ done

/-- What a walk leaves behind that met no fault. -/
structure Followed (lookup : Lookup) (references path done known : List String) : Prop where
  settled : lookup.Settled known
  /-- No name that is done is on the path. -/
  apart : ∀ name ∈ known, name ∉ path
  /-- What was done before is done still. -/
  grown : ∀ name ∈ done, name ∈ known
  /-- The references find rules, and these are done. -/
  reached : ∀ reference ∈ references, ∃ target,
    lookup.get? reference = some target ∧ target.name ∈ known

namespace Followed

variable {known : List String}

/-- The rules that the references find are grounded, and what they reach is done. -/
theorem grounded (hcanonical : lookup.Canonical) (h : lookup.Followed references path done known)
    {reference : String} (hmem : reference ∈ references)
    (hfound : lookup.get? reference = some target) :
    lookup.Grounded target ∧ ∀ end', lookup.Reaches target end' → end'.name ∈ known := by
  obtain ⟨target', hfound', hdone⟩ := h.reached reference hmem
  obtain rfl : target' = target := Option.some.inj (hfound'.symm.trans hfound)
  obtain ⟨rule, hrule, hname, hgrounded, hreach⟩ := h.settled target'.name hdone
  obtain rfl : rule = target' := hcanonical.eq_of_name_eq hrule hfound hname
  exact ⟨hgrounded, hreach⟩

/-- A rule all of whose references were followed is grounded. -/
theorem grounded_of_references (hcanonical : lookup.Canonical)
    (h : lookup.Followed rule.references path done known) : lookup.Grounded rule := by
  refine .intro rule (fun reference hmem => ?_) ?_
  · obtain ⟨target, hfound, -⟩ := h.reached reference hmem
    exact ⟨target, hfound⟩
  · rintro target ⟨reference, hmem, hfound⟩
    exact (h.grounded hcanonical hmem hfound).1

/-- What it leads to is done. -/
theorem mem_of_transGen (hcanonical : lookup.Canonical)
    (h : lookup.Followed rule.references path done known)
    (hreach : TransGen lookup.Refers rule target) : target.name ∈ known := by
  obtain ⟨next, ⟨reference, hmem, hfound⟩, hrest⟩ := TransGen.head'_iff.mp hreach
  exact (h.grounded hcanonical hmem hfound).2 target hrest

/-- When a rule was followed on a longer path, its name may be added to what is done. -/
theorem settled_cons (hcanonical : lookup.Canonical) {reference : String}
    (hfound : lookup.get? reference = some target)
    (h : lookup.Followed target.references path done known) :
    lookup.Settled (target.name :: known) := by
  intro name hname
  rcases List.mem_cons.mp hname with rfl | hname
  · refine ⟨target, hcanonical reference target hfound, rfl, h.grounded_of_references hcanonical, ?_⟩
    intro end' hreach
    rcases reflTransGen_iff_eq_or_transGen.mp hreach with rfl | hreach
    · exact List.mem_cons_self ..
    · exact List.mem_cons_of_mem _ (h.mem_of_transGen hcanonical hreach)
  · obtain ⟨rule, hrule, heq, hgrounded, hreach⟩ := h.settled name hname
    exact ⟨rule, hrule, heq, hgrounded,
      fun end' hend => List.mem_cons_of_mem _ (hreach end' hend)⟩

end Followed

/-- **A walk without a fault** leaves only what is settled. -/
theorem Follows.followed (hcanonical : lookup.Canonical)
    (h : Follows lookup depth owner references path done result) :
    ∀ {known}, result = .ok known → lookup.Settled done → (∀ name ∈ done, name ∉ path) →
      lookup.Followed references path done known := by
  induction h with
  | nil =>
    intro known heq hsettled hapart
    obtain rfl := Except.ok.inj heq
    exact ⟨hsettled, hapart, fun name h => h, fun reference h => absurd h List.not_mem_nil⟩
  | undefined _ =>
    intro known heq
    cases heq
  | skip hfound hdone _ ih =>
    intro known heq hsettled hapart
    have hrest := ih heq hsettled hapart
    refine ⟨hrest.settled, hrest.apart, hrest.grown, fun reference hmem => ?_⟩
    rcases List.mem_cons.mp hmem with rfl | hmem
    · exact ⟨_, hfound, hrest.grown _ hdone⟩
    · exact hrest.reached reference hmem
  | circular _ _ _ =>
    intro known heq
    cases heq
  | fault _ _ _ _ _ =>
    intro known heq
    cases heq
  | @next depth owner reference references path done inside target result hfound hdone hpath _ _
      ihinner ihrest =>
    intro known heq hsettled hapart
    -- inside, the path is longer by a name that is not done
    have hinner := ihinner rfl hsettled fun name hname hon => by
      rcases List.mem_append.mp hon with hon | hon
      · exact hapart name hname hon
      · exact hdone (List.mem_singleton.mp hon ▸ hname)
    -- outside, that name is done, and was not on the path
    have hrest := ihrest heq (hinner.settled_cons hcanonical hfound) fun name hname hon => by
      rcases List.mem_cons.mp hname with rfl | hname
      · exact hpath hon
      · exact hinner.apart name hname (List.mem_append_left _ hon)
    refine ⟨hrest.settled, hrest.apart, fun name hname => ?_, fun reference hmem => ?_⟩
    · exact hrest.grown name (List.mem_cons_of_mem _ (hinner.grown name hname))
    · rcases List.mem_cons.mp hmem with rfl | hmem
      · exact ⟨target, hfound, hrest.grown _ (List.mem_cons_self ..)⟩
      · exact hrest.reached reference hmem

/-- A rule that passes its check was followed to the end. -/
theorem followed_of_check (hcanonical : lookup.Canonical) (h : lookup.check rule = .ok ()) :
    ∃ known, lookup.Followed rule.references [rule.name] [] known := by
  obtain ⟨known, hfollows⟩ := follows_of_check_ok h
  exact ⟨known, hfollows.followed hcanonical rfl (fun name h => absurd h List.not_mem_nil)
    (fun name h => absurd h List.not_mem_nil)⟩

/-- It is grounded. -/
theorem grounded_of_check (hcanonical : lookup.Canonical) (h : lookup.check rule = .ok ()) :
    lookup.Grounded rule := by
  obtain ⟨known, hfollowed⟩ := followed_of_check hcanonical h
  exact hfollowed.grounded_of_references hcanonical

/-- It leads to no rule of its name, be that the rule itself or a namesake. -/
theorem name_ne_of_check (hcanonical : lookup.Canonical) (h : lookup.check rule = .ok ())
    (hreach : TransGen lookup.Refers rule target) : target.name ≠ rule.name := by
  obtain ⟨known, hfollowed⟩ := followed_of_check hcanonical h
  intro heq
  exact hfollowed.apart target.name (hfollowed.mem_of_transGen hcanonical hreach)
    (List.mem_singleton.mpr heq)

/-! ## With a fault

  By induction on the walk as well, but from the front: the trail to where it is now is carried
  along. -/

/-- A rule that is reached from the root has one name, and holds a reference to a rule that has
    the other. -/
def Links (lookup : Lookup) (root : Rule) (name next : String) : Prop :=
  ∃ rule target, lookup.Reaches root rule ∧ rule.name = name ∧ lookup.Refers rule target ∧
    target.name = next

/-- The path of a walk from a root to a rule. -/
inductive Trail (lookup : Lookup) (root : Rule) : List String → Rule → Prop
  | start : Trail lookup root [root.name] root
  | step {path : List String} {rule target : Rule} (h : Trail lookup root path rule)
      (hstep : lookup.Refers rule target) : Trail lookup root (path ++ [target.name]) target

namespace Trail

/-- The rule where a trail ends is reached from the root. -/
theorem reaches (h : lookup.Trail root path rule) : lookup.Reaches root rule := by
  induction h with
  | start => exact .refl
  | step _ hstep ih => exact ih.tail hstep

/-- The last name is that of the rule where the trail ends. -/
theorem getLast? (h : lookup.Trail root path rule) : path.getLast? = some rule.name := by
  cases h with
  | start => rfl
  | step _ _ => exact List.getLast?_concat

/-- Each name on a trail is that of a rule on the way. -/
theorem on_the_way (h : lookup.Trail root path rule) {name : String} (hmem : name ∈ path) :
    ∃ between, between.name = name ∧ lookup.Reaches root between ∧ lookup.Reaches between rule := by
  induction h with
  | start => exact ⟨root, (List.mem_singleton.mp hmem).symm, .refl, .refl⟩
  | @step path rule target h hstep ih =>
    rcases List.mem_append.mp hmem with hmem | hmem
    · obtain ⟨between, hname, hfrom, hto⟩ := ih hmem
      exact ⟨between, hname, hfrom, hto.tail hstep⟩
    · exact ⟨target, (List.mem_singleton.mp hmem).symm, h.reaches.tail hstep, .refl⟩

/-- The names on a trail are linked. -/
theorem isChain (h : lookup.Trail root path rule) : path.IsChain (lookup.Links root) := by
  induction h with
  | start => exact .singleton _
  | @step path rule target h hstep ih =>
    refine ih.append (.singleton _) fun name hname next hnext => ?_
    rw [h.getLast?, Option.mem_some_iff] at hname
    rw [List.head?_cons, Option.mem_some_iff] at hnext
    exact ⟨rule, target, h.reaches, hname, hstep, hnext⟩

end Trail

/-- A chain that a name closes begins and ends with it. -/
theorem exists_chainFrom_eq {name : String} (hmem : name ∈ path) :
    ∃ before between, path = before ++ name :: between ∧
      chainFrom path name = (name :: between) ++ [name] := by
  induction path with
  | nil => exact absurd hmem List.not_mem_nil
  | cons head tail ih =>
    by_cases hhead : head = name
    · subst hhead
      exact ⟨[], tail, rfl, by rw [chainFrom, List.dropWhile_cons_of_neg (by simp)]⟩
    · have htail := (List.mem_cons.mp hmem).resolve_left (Ne.symm hhead)
      obtain ⟨before, between, hpath, hchain⟩ := ih htail
      refine ⟨head :: before, between, by rw [hpath, List.cons_append], ?_⟩
      rw [chainFrom, List.dropWhile_cons_of_pos (by simpa using hhead)]
      exact hchain

/-- A chain of names that shows a cycle of rules that are reached from the root. -/
structure Cycle (lookup : Lookup) (root : Rule) (chain : List String) : Prop where
  /-- There are two names at least, the first and the last, ... -/
  length : 2 ≤ chain.length
  /-- ... and these are the same. -/
  closed : chain.head? = chain.getLast?
  /-- Each of them is the name of a rule that is reached. -/
  reached : ∀ name ∈ chain, ∃ rule, lookup.Reaches root rule ∧ rule.name = name
  /-- Each rule refers to the next. -/
  linked : chain.IsChain (lookup.Links root)
  /-- One of the rules leads to a rule of its name. -/
  returns : ∃ rule target, lookup.Reaches root rule ∧ TransGen lookup.Refers rule target ∧
    rule.name = target.name

/-- A step from the end of a trail to a name on it closes a cycle. -/
theorem Trail.cycle (h : lookup.Trail root path rule) (hstep : lookup.Refers rule target)
    (hmem : target.name ∈ path) : lookup.Cycle root (chainFrom path target.name) := by
  obtain ⟨before, between, hpath, hchain⟩ := exists_chainFrom_eq hmem
  have hnames : ∀ name ∈ chainFrom path target.name, name ∈ path := by
    intro name hname
    rw [hchain] at hname
    rcases List.mem_append.mp hname with hname | hname
    · exact hpath ▸ List.mem_append_right _ hname
    · exact List.mem_singleton.mp hname ▸ hmem
  refine ⟨?_, ?_, fun name hname => ?_, ?_, ?_⟩
  · rw [hchain, List.length_append, List.length_cons, List.length_singleton]
    omega
  · rw [hchain, List.getLast?_concat]
    rfl
  · obtain ⟨passed, hname', hreach, -⟩ := h.on_the_way (hnames name hname)
    exact ⟨passed, hreach, hname'⟩
  · -- the part of the trail from the name on, and the step that comes back to it
    have hfrom := h.isChain
    rw [hpath] at hfrom
    rw [hchain]
    refine hfrom.right_of_append.append (.singleton _) fun name hname next hnext => ?_
    have hlast := h.getLast?
    rw [hpath, List.getLast?_append_cons] at hlast
    rw [hlast, Option.mem_some_iff] at hname
    rw [List.head?_cons, Option.mem_some_iff] at hnext
    exact ⟨rule, target, h.reaches, hname, hstep, hnext⟩
  · obtain ⟨passed, hname, hfrom, hto⟩ := h.on_the_way hmem
    exact ⟨passed, target, hfrom, TransGen.tail' hto hstep, hname⟩

/-- What a fault tells about the rules that are reached from the root. -/
def Shows (lookup : Lookup) (root : Rule) : ReferenceError → Prop
  | .undefined owner reference => ∃ rule, lookup.Reaches root rule ∧ rule.name = owner ∧
      reference ∈ rule.references ∧ lookup.get? reference = none
  | .circular chain => lookup.Cycle root chain

/-- **A walk with a fault** tells what is there. -/
theorem Follows.shows (h : Follows lookup depth owner references path done result) :
    ∀ {rule : Rule} {e}, result = .error e → rule.name = owner →
      (∀ reference ∈ references, reference ∈ rule.references) → lookup.Trail root path rule →
      lookup.Shows root e := by
  induction h with
  | nil =>
    intro rule e heq
    cases heq
  | undefined hfound =>
    intro rule e heq hname hsub htrail
    obtain rfl := Except.error.inj heq
    exact ⟨rule, htrail.reaches, hname, hsub _ (List.mem_cons_self ..), hfound⟩
  | skip _ _ _ ih =>
    intro rule e heq hname hsub htrail
    exact ih heq hname (fun reference hmem => hsub reference (List.mem_cons_of_mem _ hmem)) htrail
  | circular hfound _ hpath =>
    intro rule e heq hname hsub htrail
    obtain rfl := Except.error.inj heq
    -- The rule that is met again stands on the path, so the path from there on is a circle.
    exact htrail.cycle ⟨_, hsub _ (List.mem_cons_self ..), hfound⟩ hpath
  | fault hfound _ _ _ ih =>
    intro rule e heq hname hsub htrail
    -- The fault lies below the target: the target is the owner there, one step further on the
    -- trail.
    exact ih heq rfl (fun _ hmem => hmem)
      (htrail.step ⟨_, hsub _ (List.mem_cons_self ..), hfound⟩)
  | next _ _ _ _ _ _ ih =>
    intro rule e heq hname hsub htrail
    exact ih heq hname (fun reference hmem => hsub reference (List.mem_cons_of_mem _ hmem)) htrail

/-- A check that fails tells what is there. -/
theorem shows_of_check {e : ReferenceError} (h : lookup.check rule = .error e) :
    lookup.Shows rule e :=
  (follows_of_check_error h).shows rfl rfl (fun _ hmem => hmem) .start

/-! ## Both ways -/

/-- A rule whose own name finds it passes its check, if all that it reaches refers to rules that
    are found and does not lead back to itself. -/
theorem check_eq_ok_of_acyclic (hcanonical : lookup.Canonical)
    (hrule : lookup.get? rule.name = some rule)
    (hfound : ∀ target, lookup.Reaches rule target → ∀ reference ∈ target.references,
      ∃ next, lookup.get? reference = some next)
    (hacyclic : ∀ target, lookup.Reaches rule target → ¬TransGen lookup.Refers target target) :
    lookup.check rule = .ok () := by
  cases hcheck : lookup.check rule with
  | ok _ => rfl
  | error e =>
    have hshows := shows_of_check hcheck
    cases e with
    | undefined owner reference =>
      obtain ⟨target, hreach, -, hmem, hnone⟩ := hshows
      obtain ⟨next, hsome⟩ := hfound target hreach reference hmem
      exact absurd (hsome.symm.trans hnone) (by simp)
    | circular chain =>
      obtain ⟨target, next, hreach, hback, hname⟩ := hshows.returns
      -- a cycle is shown by names, and these stand for rules
      have htarget := get?_name_of_reaches hcanonical hrule hreach
      have hnext := get?_name_of_transGen hcanonical hback
      obtain rfl := hcanonical.eq_of_name_eq htarget hnext hname
      exact absurd hback (hacyclic target hreach)

/-- So does a grounded rule whose own name finds it. -/
theorem check_of_grounded (hcanonical : lookup.Canonical)
    (hrule : lookup.get? rule.name = some rule) (h : lookup.Grounded rule) :
    lookup.check rule = .ok () :=
  check_eq_ok_of_acyclic hcanonical hrule (fun _ hreach => (h.of_reaches hreach).found)
    fun _ hreach => (h.of_reaches hreach).not_cyclic

/-- **What a check of a rule tells**, if its own name finds the rule: it comes to an outcome
    after at most as many rules inside of one another as there are; it passes if and only if all
    that the rule reaches refers to rules that are found and does not lead back to itself; and a
    fault that it tells is there. -/
theorem check_tells {rules : List Rule} {registry : Registry} (hregistry : registry.Reachable)
    {rule : Rule} (hrule : (⟨rules, registry⟩ : Lookup).get? rule.name = some rule) :
    let lookup : Lookup := ⟨rules, registry⟩
    (∀ outcome, lookup.Checks lookup.rules.length rule outcome ↔ outcome = lookup.check rule) ∧
    (lookup.check rule = .ok () ↔
      (∀ target, lookup.Reaches rule target → ∀ reference ∈ target.references,
        ∃ next, lookup.get? reference = some next) ∧
      ∀ target, lookup.Reaches rule target → ¬TransGen lookup.Refers target target) ∧
    (∀ owner reference, lookup.check rule = .error (.undefined owner reference) →
      ∃ target, lookup.Reaches rule target ∧ target.name = owner ∧
        reference ∈ target.references ∧ lookup.get? reference = none) ∧
    (∀ chain, lookup.check rule = .error (.circular chain) →
      2 ≤ chain.length ∧ chain.head? = chain.getLast? ∧
        (∀ name ∈ chain, ∃ target, lookup.Reaches rule target ∧ target.name = name) ∧
        chain.IsChain (lookup.Links rule)) := by
  intro lookup
  have hcanonical : lookup.Canonical := canonical_of_indexed hregistry.indexed
  refine ⟨fun outcome => checks_iff, ⟨fun hcheck => ?_, fun h => ?_⟩, fun owner reference h => ?_,
    fun chain h => ?_⟩
  -- what is grounded is found and comes to an end, and the other way round
  · have hgrounded := grounded_of_check hcanonical hcheck
    exact ⟨fun target hreach => (hgrounded.of_reaches hreach).found,
      fun target hreach => (hgrounded.of_reaches hreach).not_cyclic⟩
  · exact check_eq_ok_of_acyclic hcanonical hrule h.1 h.2
  · exact shows_of_check h
  · have hcycle : lookup.Cycle rule chain := shows_of_check h
    exact ⟨hcycle.length, hcycle.closed, hcycle.reached, hcycle.linked⟩

/-- Two rules that refer to each other: the check of the first tells the cycle, although one of
    the names is written in another case. -/
theorem check_tells_of_mutual_rules :
    let first := Rule.ofReferences "a" ["b"] [] ""
    let second := Rule.ofReferences "b" ["A"] [] ""
    let lookup : Lookup := ⟨[first, second], .empty⟩
    lookup.get? first.name = some first ∧
      lookup.check first = .error (.circular ["a", "b", "a"]) ∧
      ["a", "b", "a"].IsChain (lookup.Links first) := by
  intro first second lookup
  have hfirst : lookup.get? first.name = some first := by decide
  have hsecond : lookup.get? "b" = some second := by decide
  have hback : lookup.get? "A" = some first := by decide
  obtain ⟨hchecks, -, -, hcircular⟩ := check_tells .empty hfirst
  have hwalk : lookup.Follows 2 "a" ["b"] ["a"] [] (.error (.circular ["a", "b", "a"])) :=
    .fault hsecond (by decide) (by decide) (.circular hback (by decide) (by decide))
  have hcheck : .error (.circular ["a", "b", "a"]) = lookup.check first :=
    (hchecks _).mp ⟨_, hwalk, rfl⟩
  exact ⟨hfirst, hcheck.symm, (hcircular _ hcheck.symm).2.2.2⟩

end TableRules.Lookup
