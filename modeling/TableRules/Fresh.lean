/-
  FRESH NUMBERS: the least number whose name is still free.

  Of `count + 1` different names at most `count` are taken when only `count` names are in use
  at all, so `count` tests suffice: if none of them finds a free name, the next one is free.
-/

namespace TableRules

/-- The first number from `n` on that passes a test, of which so many are made; after them the
    next number is the answer. -/
def firstFrom (test : Nat → Bool) : Nat → Nat → Nat
  | 0, n => n
  | tests + 1, n => if test n then n else firstFrom test tests (n + 1)

/-- The least number from `start` on whose name is free, where `count` names are in use. -/
def freshNumber (isTaken : String → Bool) (count : Nat) (name : Nat → String) (start : Nat) : Nat :=
  firstFrom (fun n => !isTaken (name n)) count start

example : freshNumber (["r2", "r3"].contains ·) 2 (fun n => "r" ++ toString n) 2 = 4 := by
  decide +kernel

end TableRules
