/-
  COLUMN NAMES: how the columns of a table come to names that tell them apart.

  1. **Usable names** — a name is usable if it is neither empty nor blank at an end.  The base name
     of a column is, whatever the text in the header, and a number behind it does not change that.

  2. **One column** — the name of a column is chosen among the names before it.  If the base is one
     of these, then the search for a number ends after as many numbers as there are names before:
     the base itself takes up one of them, so they cannot hold all the numbered names.

  3. **All columns** — usable names that differ are kept.  The names that are found are such names,
     so finding names for them changes nothing.

  Each name is chosen from the left, among those before it only, so what is shown goes by induction
  on the header with the taken names kept general.  That finding names once more changes nothing
  needs no look at how they were found: it is enough what they are like.
-/
import TableRules.Proofs.ReadTables
import TableRules.Proofs.Texts

namespace TableRules.Csv

open Text

/-! ## Usable names -/

/-- A name that is not empty and that trimming leaves as it is. -/
structure Usable (name : String) : Prop where
  ne_nil : name.toList ≠ []
  tight : Tight name.toList

namespace Usable

variable {name : String} (h : Usable name)
include h

/-- Trimming leaves a usable name alone, ... -/
theorem trimmed_eq : trimmed name = name := by
  rw [trimmed, trim_of_tight h.tight, String.ofList_toList]

/-- ... and it is not the empty one. -/
theorem ne_empty : name ≠ "" := fun heq => h.ne_nil (by rw [heq]; rfl)

/-- It names its column wherever it stands. -/
theorem baseName_eq (position : Nat) : baseName position name = name := by
  unfold baseName
  rw [h.trimmed_eq]
  exact if_neg h.ne_empty

/-- A number behind it keeps it usable. -/
theorem numbered (n : Nat) : Usable (name ++ toString n) := by
  have hdigits : (toString n).toList ≠ [] := by
    rw [toList_toString]
    exact Nat.toDigits_ne_nil
  have hword : ∀ c ∈ (toString n).toList, isWordChar c = true := by
    intro c hc
    exact isWordChar_of_isPlain (isPlain_of_isDigit (isDigit_of_mem_toString hc))
  constructor
  · rw [String.toList_append]
    intro hnil
    exact h.ne_nil (List.append_eq_nil_iff.mp hnil).1
  · rw [String.toList_append]
    exact tight_append h.ne_nil hdigits h.tight (tight_of_isWordChar hword) []

end Usable

/-- The name that a blank column gets is usable. -/
theorem usable_placeholder (position : Nat) : Usable (placeholder position) := by
  have hcolumn : Usable "column_" := by
    constructor
    · decide
    · exact tight_of_isWordChar (by decide +kernel)
  exact hcolumn.numbered (position + 1)

/-- **The base name** of a column is usable. -/
theorem usable_baseName (position : Nat) (raw : String) : Usable (baseName position raw) := by
  unfold baseName
  dsimp only
  split
  next => exact usable_placeholder position
  next hname =>
    have htext : (trimmed raw).toList = trim raw.toList := String.toList_ofList
    constructor
    · intro hnil
      exact hname (String.toList_eq_nil_iff.mp hnil)
    · rw [htext]
      exact tight_trim raw.toList

/-- A name that was made new is usable if its base is: it is the base, or a number stands behind
    it. -/
theorem usable_distinctName {base : String} (h : Usable base) (taken : List String) :
    Usable (distinctName taken base) := by
  rcases distinctName_cases taken base with ⟨-, hname⟩ | ⟨-, n, -, hname⟩
  · rwa [hname]
  · rw [hname]
    exact h.numbered n

/-! ## One column -/

/-- There is one name for each column. -/
theorem length_headersFrom (taken : List String) (position : Nat) (raw : List String) :
    (headersFrom taken position raw).length = raw.length := by
  induction raw generalizing taken position with
  | nil => rfl
  | cons first raw ih =>
    rw [headersFrom, List.length_cons, List.length_cons, ih]

/-- **The name of a column** is chosen among the names before it and those taken at the start. -/
theorem getElem?_headersFrom (taken : List String) (position : Nat) {raw : List String} {i : Nat}
    {text : String} (h : raw[i]? = some text) :
    (headersFrom taken position raw)[i]? =
      some (distinctName (((headersFrom taken position raw).take i).reverse ++ taken)
        (baseName (position + i) text)) := by
  induction raw generalizing taken position i with
  | nil => cases h
  | cons first raw ih =>
    rw [headersFrom]
    cases i with
    | zero =>
      obtain rfl := Option.some.inj h
      rfl
    | succ i =>
      -- the first name is taken for all that follow
      have hrest := ih (distinctName taken (baseName position first) :: taken) (position + 1) h
      rw [List.getElem?_cons_succ, hrest, List.take_succ_cons, List.reverse_cons,
        List.append_assoc, show position + 1 + i = position + (i + 1) by omega]
      rfl

/-- A number is written with at least one digit. -/
theorem numbered_ne (base : String) (n : Nat) : base ++ toString n ≠ base := by
  intro h
  have hdigits : (toString n).toList = [] := by
    have hlist := congrArg String.toList h
    rw [String.toList_append] at hlist
    exact List.append_right_eq_self.mp hlist
  rw [toList_toString] at hdigits
  exact Nat.toDigits_ne_nil hdigits

/-- **The search ends** after as many numbers as there are names, since one of these is the base. -/
theorem le_length_of_isLeast {earlier : List String} {base : String} (h : base ∈ earlier) {n : Nat}
    (hn : IsLeast {n | 1 ≤ n ∧ base ++ toString n ∉ earlier} n) : n ≤ earlier.length := by
  obtain ⟨m, hstart, hbound, hfree⟩ :=
    exists_not_mem (numbered_injective base) (earlier.erase base) 1
  have hpos : 0 < earlier.length := List.length_pos_of_mem h
  rw [List.length_erase_of_mem h] at hbound
  have hnew : base ++ toString m ∉ earlier := by
    intro hmem
    exact hfree ((List.mem_erase_of_ne (numbered_ne base m)).mpr hmem)
  have hle : n ≤ m := hn.2 ⟨hstart, hnew⟩
  omega

/-! ## All columns -/

/-- All names of columns are usable. -/
theorem usable_of_mem_headersFrom {taken : List String} {position : Nat} {raw : List String} :
    ∀ name ∈ headersFrom taken position raw, Usable name := by
  induction raw generalizing taken position with
  | nil => exact fun name hname => nomatch hname
  | cons first raw ih =>
    intro name hname
    rw [headersFrom] at hname
    rcases List.mem_cons.mp hname with rfl | hname
    · exact usable_distinctName (usable_baseName position first) taken
    · exact ih name hname

/-- **Usable names that differ are kept**, from each other and from what is taken. -/
theorem headersFrom_eq_self {taken : List String} {position : Nat} {names : List String}
    (husable : ∀ name ∈ names, Usable name) (hdiffer : names.Nodup)
    (hfree : ∀ name ∈ names, name ∉ taken) : headersFrom taken position names = names := by
  induction names generalizing taken position with
  | nil => rfl
  | cons first names ih =>
    obtain ⟨hfirst, hdiffer⟩ := List.nodup_cons.mp hdiffer
    -- The first name is its own base and is free, so it stays; it then counts as taken for the
    -- rest.
    have hkept : distinctName taken (baseName position first) = first := by
      rw [(husable first (List.mem_cons_self ..)).baseName_eq]
      rcases distinctName_cases taken first with ⟨-, hname⟩ | ⟨htaken, -⟩
      · exact hname
      · exact absurd htaken (hfree first (List.mem_cons_self ..))
    rw [headersFrom, hkept, ih (fun name hname => husable name (List.mem_cons_of_mem _ hname))
      hdiffer]
    intro name hname hmem
    rcases List.mem_cons.mp hmem with rfl | hmem
    · exact hfirst hname
    · exact hfree name (List.mem_cons_of_mem _ hname) hmem

/-- **Columns are told apart** by names as many as there are texts in the header, all different and
    none blank.  A column has its base name if no column before has that name; else it has the base
    with the least number from 1 on that makes it new, and that is found among the first `i` numbers
    for the column at position `i`.  Found once, the names are found again for themselves. -/
theorem headers_tell_apart (raw : List String) :
    (headers raw).length = raw.length ∧ (headers raw).Nodup ∧
    (∀ name ∈ headers raw, trimmed name ≠ "") ∧
    (∀ (i : Nat) text name, raw[i]? = some text → (headers raw)[i]? = some name →
      let earlier := (headers raw).take i
      let base := baseName i text
      (base ∉ earlier → name = base) ∧
      (base ∈ earlier → ∃ n ≤ i, IsLeast {n | 1 ≤ n ∧ base ++ toString n ∉ earlier} n ∧
        name = base ++ toString n)) ∧
    headers (headers raw) = headers raw := by
  have hlength : (headers raw).length = raw.length := length_headersFrom [] 0 raw
  have husable : ∀ name ∈ headers raw, Usable name := usable_of_mem_headersFrom
  refine ⟨hlength, nodup_headers raw, ?_, ?_, ?_⟩
  · intro name hname
    rw [(husable name hname).trimmed_eq]
    exact (husable name hname).ne_empty
  · intro i text name htext hname earlier base
    -- The name at `i` is chosen against the names in front of it, which the run holds latest first.
    have hchosen : (headers raw)[i]? = some (distinctName earlier.reverse base) := by
      have hfound := getElem?_headersFrom [] 0 htext
      rwa [List.append_nil, Nat.zero_add] at hfound
    obtain rfl : distinctName earlier.reverse base = name :=
      Option.some.inj (hchosen.symm.trans hname)
    have hsize : earlier.length ≤ i := List.length_take_le i (headers raw)
    rcases distinctName_cases earlier.reverse base with ⟨hfree, heq⟩ | ⟨htaken, n, hn, heq⟩
    · rw [List.mem_reverse] at hfree
      exact ⟨fun _ => heq, fun htaken => absurd htaken hfree⟩
    · simp only [List.mem_reverse] at htaken hn
      refine ⟨fun hfree => absurd htaken hfree, fun _ => ⟨n, ?_, hn, heq⟩⟩
      exact Nat.le_trans (le_length_of_isLeast htaken hn) hsize
  -- On the second pass no name is blank and none is taken, so none is changed.
  · exact headersFrom_eq_self husable (nodup_headers raw) fun name _ hmem => nomatch hmem

/-- A number makes a name that a later column has, and a position one too. -/
theorem headers_tell_apart_of_taken_names :
    let raw := ["A", "A", " A1 ", "\u3000", "column_4"]
    (headers raw)[2]? = some "A11" ∧ "A1" ∈ (headers raw).take 2 ∧
      (∃ n ≤ 2, IsLeast {n | 1 ≤ n ∧ "A1" ++ toString n ∉ (headers raw).take 2} n ∧
        "A11" = "A1" ++ toString n) ∧
      (headers raw)[3]? = some "column_4" ∧ headers (headers raw) = headers raw := by
  intro raw
  obtain ⟨-, -, -, hnames, hagain⟩ := headers_tell_apart raw
  have hthird : (headers raw)[2]? = some "A11" := by decide +kernel
  have htaken : "A1" ∈ (headers raw).take 2 := by decide +kernel
  have hfourth : (headers raw)[3]? = some "column_4" := by decide +kernel
  have hbase : baseName 2 " A1 " = "A1" := by decide +kernel
  have hnumber := (hnames 2 " A1 " "A11" rfl hthird).2
  rw [hbase] at hnumber
  exact ⟨hthird, htaken, hnumber htaken, hfourth, hagain⟩

end TableRules.Csv
