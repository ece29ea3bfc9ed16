/-
  FIRST APPEARANCES: names without repetitions, in the order in which each is met first.

  Rules that are put into a list one after the other keep the places of their names, and the tallies
  of a summary stand where the names of the rules came up.  Both are `List.eraseDups` of names, and
  both grow at the end, by one name at a time.  So what is told here is what the last name does: it is
  known already, and nothing changes, or it is new, and stands last (`eraseDups_append_singleton`).
-/
import Mathlib.Data.List.Induction
import Mathlib.Data.List.Nodup

namespace TableRules

/-- A name that comes last is another first appearance, if it is new. -/
theorem eraseDups_append_singleton (names : List String) (name : String) :
    (names ++ [name]).eraseDups =
      if name ∈ names then names.eraseDups else names.eraseDups ++ [name] := by
  have hsingle : [name].eraseDups = [name] := rfl
  rw [List.eraseDups_append]
  by_cases h : name ∈ names <;> simp [List.removeAll, h, hsingle]

/-- No name appears first twice. -/
theorem nodup_eraseDups (names : List String) : names.eraseDups.Nodup := by
  -- on the last name, for that is where a name is added
  induction names using List.reverseRecOn with
  | nil => exact List.nodup_nil
  | append_singleton names name ih =>
    rw [eraseDups_append_singleton]
    split
    · exact ih
    next hnew =>
      rw [List.nodup_append]
      refine ⟨ih, List.nodup_singleton name, ?_⟩
      intro other hother last hlast
      rw [List.mem_singleton.mp hlast]
      rintro rfl
      exact hnew (List.mem_eraseDups.mp hother)

/-- Names that are told over again, however often, appear first the first time: each row of a table
    brings the same rules. -/
theorem eraseDups_flatMap_const {α : Type} {xs : List α} (h : xs ≠ []) (names : List String) :
    (xs.flatMap fun _ => names).eraseDups = names.eraseDups := by
  obtain ⟨x, xs, rfl⟩ := List.exists_cons_of_ne_nil h
  have hold : (xs.flatMap fun _ => names).removeAll names = [] := by
    rw [List.removeAll, List.filter_eq_nil_iff]
    intro name hmem
    obtain ⟨-, -, hname⟩ := List.mem_flatMap.mp hmem
    simp [hname]
  rw [List.flatMap_cons, List.eraseDups_append, hold]
  exact List.append_nil _

end TableRules
