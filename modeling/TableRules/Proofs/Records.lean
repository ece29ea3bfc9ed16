/-
  RECORDS: what is stored as a record is taken from it again.

  1. **Simple values** — texts, names of choices, truth values and integers come back; an integer
     does if the range that is asked for holds it.

  2. **Fields** — of a record whose fields have different names every field is found, and none is
     absent.

  3. **Spelling** — what the writers of simple values, lists and records make is spelled, so that
     it survives being written.

  What is stored nests: a set holds rules, a rule conditions, a condition operands.  Each level
  is one record whose fields are simple values or lists of the level below, so the lemmas here are
  all that a level needs: it finds its fields by `fields?_ofFields`, and its lists come back by
  `list?_array_map` as soon as the level below does.  Only different names are asked of the
  fields, and for a given record `decide` shows that.
-/
import Mathlib.Data.List.Nodup
import TableRules.Json.Record
import TableRules.Proofs.Documents
import TableRules.Proofs.Traversals

namespace TableRules.Json

/-! ## Simple values -/

@[simp] theorem text?_ofString (s : String) : (ofString s).text? = some s := by
  simp [ofString, text?]

@[simp] theorem choice?_ofString (s : String) : (ofString s).choice? = some s := by
  simp [ofString, choice?]

@[simp] theorem bool?_bool (b : Bool) : (Json.bool b).bool? = some b := rfl

/-- Digits stand for the number that they were written from. -/
@[simp] theorem ofDigits_digits (n : Nat) : Decimal.ofDigits (Decimal.digits n) = n :=
  Nat.ofDigitChars_toDigits (by decide) (by decide)

/-- An integer of 64 bits, with or without a sign, is read as one. -/
theorem number?_ofInt {i : Int} (hleast : -9223372036854775808 ≤ i)
    (hgreatest : i ≤ 18446744073709551615) : (ofInt i).number? = some (.integer i) := by
  show Number.read? (intText i) = _
  have hinteger : Number.integer? (decide (i < 0)) (Decimal.digits i.natAbs) = some i := by
    have hpow : Nat.pow 2 63 = 9223372036854775808 := by decide
    have hmax : Number.maxSignificand = 18446744073709551615 := by decide
    simp only [Number.integer?, ofDigits_digits, hpow, hmax, decide_eq_true_eq]
    by_cases hneg : i < 0
    · rw [if_pos hneg, if_pos (by omega), Option.some.injEq]
      omega
    · rw [if_neg hneg, if_pos (by omega), Option.some.injEq]
      omega
  rw [← Spelt.lexeme_ofInt, Spelt.read?_lexeme]
  simp [Spelt.ofInt, hinteger]

/-- An integer within the range that is asked for comes back, if 64 bits can hold it. -/
theorem intWithin?_ofInt {i least greatest : Int} (hleast : least ≤ i) (hgreatest : i ≤ greatest)
    (h : -9223372036854775808 ≤ i ∧ i ≤ 18446744073709551615) :
    (ofInt i).intWithin? least greatest = some i := by
  simp [intWithin?, number?_ofInt h.1 h.2, hleast, hgreatest]

/-- An integer of 64 bits comes back: the range that is asked for is its own. -/
@[simp] theorem int64?_ofInt (i : Int64) : (ofInt i.toInt).int64? = some i := by
  have hleast := Int64.le_toInt i
  have hgreatest := Int64.toInt_lt i
  have hmin : Int64.minValue.toInt = -2 ^ 63 := by decide
  have hmax : Int64.maxValue.toInt = 2 ^ 63 - 1 := by decide
  rw [int64?, intWithin?_ofInt (by omega) (by omega) (by omega), Option.map_some, Int64.ofInt_toInt]

/-- So does one of 32 bits without a sign. -/
@[simp] theorem uint32?_ofNat (n : UInt32) : (ofNat n.toNat).uint32? = some n := by
  have hlt := n.toNat_lt
  have hsize : UInt32.size = 2 ^ 32 := rfl
  rw [uint32?, ofNat, intWithin?_ofInt (by omega) (by omega) (by omega), Option.map_some,
    Int.toNat_natCast, UInt32.ofNat_toNat]

/-- Items that are all read make the list of what they are read as. -/
theorem list?_array_map {α β : Type} (toJson : α → Json) (item? : Json → Option β) (xs : List α) :
    (Json.array (xs.map toJson)).list? item? = xs.mapM fun x => item? (toJson x) := by
  rw [list?, List.mapM_map]
  rfl

/-- Where every item comes back, the list does. -/
theorem list?_array_map_of_some {α : Type} (toJson : α → Json) (item? : Json → Option α)
    (h : ∀ x, item? (toJson x) = some x) (xs : List α) :
    (Json.array (xs.map toJson)).list? item? = some xs := by
  rw [list?_array_map, mapM_eq_some_self_iff.mpr fun x _ => h x]

/-! ## Fields -/

/-- A field is found by its name, if no other has it. The reader refuses a name that stands twice,
    so it is not enough that the field is there: the filter has to leave this one only. -/
theorem single?_of_mem {fields : List (String × Json)} (h : (fields.map Prod.fst).Nodup)
    {field : String × Json} (hmem : field ∈ fields) :
    single? (fields.map fun field => (field.1.toList, field.2)) field.1 = some (some field.2) := by
  have hfilter : fields.filter (fun other => other.1.toList == field.1.toList) = [field] := by
    -- by induction on the fields: the one that is looked for is the first or it is not
    induction fields with
    | nil => cases hmem
    | cons first fields ih =>
      obtain ⟨hfirst, hrest⟩ := List.nodup_cons.mp h
      have hother : ∀ other ∈ fields, other.1 ≠ first.1 := fun other hother hname =>
        hfirst (hname ▸ List.mem_map_of_mem hother)
      rcases List.mem_cons.mp hmem with rfl | hmem
      · rw [List.filter_cons, if_pos (beq_self_eq_true _), List.filter_eq_nil_iff.mpr]
        intro other hmem
        rw [beq_iff_eq, String.toList_inj]
        exact hother other hmem
      · rw [List.filter_cons_of_neg, ih hrest hmem]
        rw [beq_iff_eq, String.toList_inj]
        exact (hother field hmem).symm
  rw [single?, List.filter_map]
  simp only [Function.comp_def, hfilter, List.map_singleton]

/-- **Every field of a record is found**, in the order in which the fields are asked for. -/
theorem fields?_ofFields {fields : List (String × Json)} (h : (fields.map Prod.fst).Nodup) :
    (ofFields fields).fields? (fields.map Prod.fst) =
      some (fields.map fun field => some field.2) := by
  have hmembers := (@mapM_eq_some_map_iff _ _
    (fun field : String × Json => (Quoted.unescape? (Quoted.escape field.1.toList)).map
      fun name => (name, field.2)) fields (fun field => (field.1.toList, field.2))).mpr
    fun field _ => by rw [Quoted.unescape?_escape, Option.map_some]
  simp only [ofFields, fields?, List.mapM_map, Function.comp_def, hmembers, Option.bind_eq_bind,
    Option.bind_some]
  exact mapM_eq_some_map_iff.mpr fun field hmem => single?_of_mem h hmem

/-! ## Spelling -/

theorem spelled_ofString (s : String) : Spelled (ofString s) := .string s.toList

/-- The text of an integer is the lexeme of a spelt number. -/
theorem spelled_ofInt (i : Int) : Spelled (ofInt i) := by
  rw [ofInt, ← Spelt.lexeme_ofInt]
  exact .number _

/-- So is what is written of a finite double; of any other, `null` is written. -/
theorem spelled_ofDouble (v : Double) : Spelled (ofDouble v) := by
  rw [ofDouble, ← Spelt.map_lexeme_ofDouble?]
  cases Spelt.ofDouble? v with
  | none => exact .null
  | some n => exact .number n

/-- A list is spelled if its items are, ... -/
theorem spelled_array_map {α : Type} {toJson : α → Json} (h : ∀ x, Spelled (toJson x))
    (xs : List α) : Spelled (.array (xs.map toJson)) :=
  .array fun j hj => by
    obtain ⟨x, -, rfl⟩ := List.mem_map.mp hj
    exact h x

/-- ... and a record if its fields are, as its names are texts. -/
theorem spelled_ofFields {fields : List (String × Json)} (h : ∀ field ∈ fields, Spelled field.2) :
    Spelled (ofFields fields) := by
  refine .object (fun m hm => ?_) fun m hm => ?_
  · obtain ⟨field, -, rfl⟩ := List.mem_map.mp hm
    exact ⟨field.1.toList, rfl⟩
  · obtain ⟨field, hfield, rfl⟩ := List.mem_map.mp hm
    exact h field hfield

end TableRules.Json
