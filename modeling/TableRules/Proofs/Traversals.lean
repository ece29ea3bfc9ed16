/-
  TRAVERSALS: lists whose items are read one by one, where each may fail.

  1. **All of it** — a list is read if all of its items are, and fails with any of them.

  2. **What is kept** — what the reading of each item keeps, the reading of the list keeps.
-/
import Mathlib.Data.List.Basic

namespace TableRules

/-! ## All of it -/

variable {α β : Type} {f : α → Option β} {xs : List α}

/-- A list is read as the images of its items if and only if each of them is, ... -/
theorem mapM_eq_some_map_iff {g : α → β} :
    xs.mapM f = some (xs.map g) ↔ ∀ x ∈ xs, f x = some (g x) := by
  induction xs with
  | nil => simp
  | cons x xs ih =>
    rw [List.forall_mem_cons, ← ih, List.mapM_cons, List.map_cons]
    cases f x <;> cases xs.mapM f <;> simp

/-- ... as itself if each of them is, ... -/
theorem mapM_eq_some_self_iff {f : α → Option α} :
    xs.mapM f = some xs ↔ ∀ x ∈ xs, f x = some x := by
  have hmap : xs.mapM f = some (xs.map id) ↔ ∀ x ∈ xs, f x = some x := mapM_eq_some_map_iff
  rwa [List.map_id] at hmap

/-- ... and not at all if and only if one of them is not. -/
theorem mapM_eq_none_iff : xs.mapM f = none ↔ ∃ x ∈ xs, f x = none := by
  induction xs with
  | nil => simp
  | cons x xs ih =>
    rw [List.exists_mem_cons_iff, ← ih, List.mapM_cons]
    cases f x <;> cases xs.mapM f <;> simp

/-! ## What is kept -/

/-- What each item keeps, all of them keep. -/
theorem map_eq_of_mapM_eq_some {γ : Type} {kept : α → γ} {kept' : β → γ}
    (hf : ∀ x y, f x = some y → kept' y = kept x) {ys : List β} (h : xs.mapM f = some ys) :
    ys.map kept' = xs.map kept := by
  induction xs generalizing ys with
  | nil =>
    obtain rfl := Option.some.inj h
    rfl
  | cons x xs ih =>
    rw [List.mapM_cons] at h
    obtain ⟨y, hy, h⟩ := Option.bind_eq_some_iff.mp h
    obtain ⟨ys', hys, h⟩ := Option.bind_eq_some_iff.mp h
    obtain rfl := Option.some.inj h
    rw [List.map_cons, List.map_cons, hf x y hy, ih hys]

end TableRules
