/-
  FRESH NUMBERS: a bounded search finds what an unbounded one would.

  1. **Searching** — `firstFrom` stops at the first number that passes, or has made all its tests.

  2. **Numbered names** — a stem and a number give a name of its own to every number.

  3. **Enough tests** — of `count + 1` numbered names one is free when only `count` names are taken.
     So the number that is found is the least free one from where the search began
     (`isLeast_freshNumber`): a search without a bound ends there too.
-/
import Mathlib.Data.List.Nodup
import Mathlib.Data.List.Perm.Subperm
import Mathlib.Order.Bounds.Defs
import TableRules.Fresh

namespace TableRules

/-! ## Searching -/

/-- All numbers before the one that is found fail the test; and it passes, unless the tests were
    used up. -/
theorem firstFrom_spec (test : Nat → Bool) (tests start : Nat) :
    start ≤ firstFrom test tests start ∧
      (∀ n, start ≤ n → n < firstFrom test tests start → test n = false) ∧
      (test (firstFrom test tests start) = true ∨
        firstFrom test tests start = start + tests) := by
  induction tests generalizing start with
  | zero => exact ⟨Nat.le_refl _, fun n hle hlt => absurd hle (Nat.not_le.mpr hlt), .inr rfl⟩
  | succ tests ih =>
    rw [firstFrom]
    split
    next htest =>
      exact ⟨Nat.le_refl _, fun n hle hlt => absurd hle (Nat.not_le.mpr hlt), .inl htest⟩
    next htest =>
      obtain ⟨hstart, hbefore, hfound⟩ := ih (start + 1)
      refine ⟨by omega, fun n hle hlt => ?_, ?_⟩
      -- A number before the one found is this one, which fails, or one that the rest of the search
      -- passed.
      · rcases Nat.eq_or_lt_of_le hle with rfl | hle
        · exact Bool.eq_false_iff.mpr htest
        · exact hbefore n hle hlt
      · rcases hfound with hfound | hfound
        · exact .inl hfound
        · exact .inr (by omega)

/-! ## Numbered names -/

/-- A number is written in decimal digits. -/
theorem toList_toString (n : Nat) : (toString n).toList = Nat.toDigits 10 n := by
  rw [Nat.toString_eq_repr, Nat.toList_repr]

/-- So a number holds nothing but digits. -/
theorem isDigit_of_mem_toString {n : Nat} {d : Char} (h : d ∈ (toString n).toList) :
    d.isDigit = true := by
  rw [toList_toString] at h
  exact Nat.isDigit_of_mem_toDigits (by decide) (by decide) h

/-- The digits give the number back. -/
theorem toDigits_injective : Function.Injective (Nat.toDigits 10) := by
  intro m n h
  calc m
    _ = Nat.ofDigitChars 10 (Nat.toDigits 10 m) 0 := Nat.ofDigitChars_ten_toDigits.symm
    _ = n := by rw [h, Nat.ofDigitChars_ten_toDigits]

/-- Names with one stem and different numbers differ. -/
theorem numbered_injective (stem : String) :
    Function.Injective fun n : Nat => stem ++ toString n := by
  intro m n h
  refine toDigits_injective ?_
  rw [← toList_toString, ← toList_toString, (String.append_right_inj stem).mp h]

/-! ## Enough tests -/

variable {names : List String} {name : Nat → String}

/-- So many names cannot hold one numbered name more. -/
theorem exists_not_mem (hname : Function.Injective name) (names : List String) (start : Nat) :
    ∃ n, start ≤ n ∧ n ≤ start + names.length ∧ name n ∉ names := by
  by_contra hall
  push Not at hall
  have hsub : (List.range' start (names.length + 1)).map name ⊆ names := by
    intro taken hmem
    obtain ⟨n, hn, rfl⟩ := List.mem_map.mp hmem
    obtain ⟨hle, hlt⟩ := List.mem_range'_1.mp hn
    exact hall n hle (by omega)
  have hle := (List.subperm_of_subset ((List.nodup_range' 1).map hname) hsub).length_le
  rw [List.length_map, List.length_range'] at hle
  omega

/-- **The fresh number** is the least from the start on whose name is free. -/
theorem isLeast_freshNumber {isTaken : String → Bool}
    (htaken : ∀ name, isTaken name = true ↔ name ∈ names) (hname : Function.Injective name)
    (start : Nat) :
    IsLeast {n | start ≤ n ∧ name n ∉ names} (freshNumber isTaken names.length name start) := by
  have htest : ∀ n, (!isTaken (name n)) = true ↔ name n ∉ names := by
    intro n
    rw [Bool.not_eq_true', Bool.eq_false_iff, Ne, htaken]
  obtain ⟨hstart, hbefore, hfound⟩ :=
    firstFrom_spec (fun n => !isTaken (name n)) names.length start
  have hleast : ∀ n, start ≤ n → name n ∉ names →
      freshNumber isTaken names.length name start ≤ n := by
    intro n hle hfree
    by_contra hlt
    have hfails := hbefore n hle (Nat.not_le.mp hlt)
    exact Bool.eq_false_iff.mp hfails ((htest n).mpr hfree)
  refine ⟨⟨hstart, ?_⟩, fun n hn => hleast n hn.1 hn.2⟩
  rcases hfound with hfound | hfound
  · exact (htest _).mp hfound
  · -- the tests were used up, so the free number that there must be is the last
    obtain ⟨n, hle, hbound, hfree⟩ := exists_not_mem hname names start
    have heq : freshNumber isTaken names.length name start = n :=
      Nat.le_antisymm (hleast n hle hfree) (Nat.le_trans hbound (Nat.le_of_eq hfound.symm))
    rwa [heq]

end TableRules
