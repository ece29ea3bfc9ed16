/-
  READ TABLES: what a table is like that comes of records.

  1. **Headers** — a name is kept if no earlier column has it, and otherwise gets the least number
     that makes it new (`distinctName_cases`).  So the columns differ.

  2. **Fields** — where names differ, a name finds its one field.

  3. **Rows** — a row shows a record if it has one field for each column, and the name of a column
     finds what stands in the record at its position.  A table shows records if its columns differ
     and its rows show the records one by one.

  4. **Reading** — `Gives` says what comes of records: an error if one of them cannot be read, or if
     there is no header where there should be one, and else a table that shows all records behind
     the header.  So whatever is read is rectangular, be the records long or short.
-/
import Mathlib.Data.List.Forall2
import TableRules.Csv.Reader
import TableRules.Proofs.FreshNumbers
import TableRules.Proofs.Traversals

namespace TableRules

namespace Csv

/-! ## Headers -/

/-- A name stays as it is unless it is taken, and then gets the least number that makes it new. -/
theorem distinctName_cases (taken : List String) (base : String) :
    (base ∉ taken ∧ distinctName taken base = base) ∨
      (base ∈ taken ∧ ∃ n, IsLeast {n | 1 ≤ n ∧ base ++ toString n ∉ taken} n ∧
        distinctName taken base = base ++ toString n) := by
  rw [distinctName]
  split
  next htaken =>
    exact .inr ⟨List.contains_iff_mem.mp htaken, _,
      isLeast_freshNumber (fun _ => List.contains_iff_mem) (numbered_injective base) 1, rfl⟩
  next hfree => exact .inl ⟨mt List.contains_iff_mem.mpr hfree, rfl⟩

/-- In both cases it is new. -/
theorem distinctName_not_mem (taken : List String) (base : String) :
    distinctName taken base ∉ taken := by
  rcases distinctName_cases taken base with ⟨hfree, hname⟩ | ⟨-, n, hleast, hname⟩
  · rwa [hname]
  · rw [hname]
    exact hleast.1.2

/-- **Headers differ** from each other, and from what was taken before. -/
theorem nodup_headersFrom (taken : List String) (position : Nat) (raw : List String) :
    (headersFrom taken position raw).Nodup ∧
      ∀ name ∈ headersFrom taken position raw, name ∉ taken := by
  induction raw generalizing taken position with
  | nil => exact ⟨List.nodup_nil, fun _ h => nomatch h⟩
  | cons first raw ih =>
    have hnew := distinctName_not_mem taken (baseName position first)
    obtain ⟨hrest, hapart⟩ :=
      ih (distinctName taken (baseName position first) :: taken) (position + 1)
    refine ⟨List.nodup_cons.mpr ⟨fun hmem => ?_, hrest⟩, fun name hname => ?_⟩
    · exact hapart _ hmem (List.mem_cons_self ..)
    · rcases List.mem_cons.mp hname with rfl | hname
      · exact hnew
      · exact fun hmem => hapart name hname (List.mem_cons_of_mem _ hmem)

/-- So the columns of a table differ. -/
theorem nodup_headers (raw : List String) : (headers raw).Nodup := (nodup_headersFrom [] 0 raw).1

/-- So do the names that columns have by their positions. -/
theorem nodup_placeholders (count : Nat) : ((List.range count).map placeholder).Nodup :=
  List.nodup_range.map fun _ _ h => Nat.succ.inj (numbered_injective "column_" h)

end Csv

/-! ## Fields -/

namespace Row

variable {row : Row} {name : String} {cell : Cell}

/-- Only a name without a field finds no cell. -/
theorem get?_eq_none_iff : row.get? name = none ↔ name ∉ row.fields.map Prod.fst := by
  rw [get?, Option.map_eq_none_iff, List.find?_eq_none, List.mem_map, not_exists]
  refine forall_congr' fun field => ?_
  rw [beq_iff_eq, not_and]

/-- Where names differ, a name finds the cell of its field. -/
theorem get?_eq_some_iff (h : (row.fields.map Prod.fst).Nodup) :
    row.get? name = some cell ↔ (name, cell) ∈ row.fields := by
  rw [get?, Option.map_eq_some_iff]
  have hnamed : ∀ {field : String × Cell},
      row.fields.find? (fun field => field.1 == name) = some field →
        field ∈ row.fields ∧ field.1 = name := by
    intro field hfound
    have hname := List.find?_some hfound
    exact ⟨List.mem_of_find?_eq_some hfound, beq_iff_eq.mp hname⟩
  constructor
  · rintro ⟨field, hfound, rfl⟩
    obtain ⟨hmem, rfl⟩ := hnamed hfound
    exact hmem
  · intro hmem
    obtain ⟨field, hfound⟩ := Option.isSome_iff_exists.mp
      (List.find?_isSome (p := fun field => field.1 == name).mpr
        ⟨(name, cell), hmem, beq_self_eq_true name⟩)
    obtain ⟨hfield, hname⟩ := hnamed hfound
    -- it has that name, and so it is the one
    have hsame := List.inj_on_of_nodup_map h hfield hmem hname
    exact ⟨field, hfound, by rw [hsame]⟩

end Row

/-! ## Rows

  What is left out of a short record is nothing, and what a long one has too much is left out. -/

/-- A row shows a record: it has one field for each column, and the name of a column finds what is
    inferred from the field of the record at its position, or nothing beyond the end of it. -/
structure Row.Shows (row : Row) (columns record : List String) : Prop where
  /-- There is one field for each column, in order. -/
  names : row.fields.map Prod.fst = columns
  /-- A column finds what is inferred from the field in its place. -/
  cell : ∀ (position : Nat) name field, columns[position]? = some name →
    record[position]? = some field → row.get? name = some (.infer field)
  /-- Beyond the end of the record it finds nothing. -/
  missing : ∀ (position : Nat) name, columns[position]? = some name →
    record.length ≤ position → row.get? name = some .null

/-- The columns differ, and the rows show the records one by one. -/
structure Table.Shows (table : Table) (records : List (List String)) : Prop where
  columns : table.columns.Nodup
  rows : List.Forall₂ (fun record row => row.Shows table.columns record) records table.rows

/-- The columns differ, and every row has one field for each, in their order. -/
structure Table.Rectangular (table : Table) : Prop where
  columns : table.columns.Nodup
  rows : ∀ row ∈ table.rows, row.fields.map Prod.fst = table.columns

/-- A table that shows records, long or short, is rectangular. -/
theorem Table.Shows.rectangular {table : Table} {records : List (List String)}
    (h : table.Shows records) : table.Rectangular := by
  refine ⟨h.columns, fun row hrow => ?_⟩
  obtain ⟨i, hi, rfl⟩ := List.mem_iff_getElem.mp hrow
  have hrecord : i < records.length := by rwa [h.rows.length_eq]
  exact (h.rows.get hrecord hi).names

namespace Csv

/-- A row that is made of a record shows it. -/
theorem shows_rowOf {columns : List String} (h : columns.Nodup) (record : List String) :
    (rowOf columns record).Shows columns record := by
  have hnames : (rowOf columns record).fields.map Prod.fst = columns := by
    rw [rowOf, List.map_map]
    exact List.zipIdx_map_fst 0 columns
  -- Column names differ, so the field found under a name is the one made at its position.
  have hfound : ∀ {position : Nat} {name}, columns[position]? = some name →
      (rowOf columns record).get? name = some ((record[position]?.map Cell.infer).getD .null) := by
    intro position name hname
    rw [Row.get?_eq_some_iff (by rwa [hnames])]
    exact List.mem_map.mpr ⟨(name, position), List.mk_mem_zipIdx_iff_getElem?.mpr hname, rfl⟩
  constructor
  · exact hnames
  · intro position name field hname hfield
    rw [hfound hname, hfield]
    rfl
  · intro position name hname hshort
    rw [hfound hname, List.getElem?_eq_none_iff.mpr hshort]
    rfl

/-- A table that is made of records shows them. -/
theorem shows_tableOf {columns : List String} (h : columns.Nodup) (records : List (List String)) :
    (tableOf columns records).Shows records := by
  refine ⟨h, ?_⟩
  show List.Forall₂ _ records (records.map (rowOf columns))
  rw [List.forall₂_map_right_iff, List.forall₂_same]
  intro record _
  exact shows_rowOf h record

/-- No record is longer than the longest. -/
theorem length_le_width {records : List (List String)} {record : List String}
    (h : record ∈ records) : record.length ≤ width records := by
  have hmax : ∀ (lengths : List Nat) (n : Nat), n ≤ lengths.foldl max n ∧
      ∀ m ∈ lengths, m ≤ lengths.foldl max n := by
    intro lengths
    induction lengths with
    | nil => exact fun n => ⟨Nat.le_refl n, fun m hm => nomatch hm⟩
    | cons length lengths ih =>
      intro n
      obtain ⟨hstart, hrest⟩ := ih (max n length)
      refine ⟨by rw [List.foldl_cons]; omega, fun m hm => ?_⟩
      rcases List.mem_cons.mp hm with rfl | hm
      · rw [List.foldl_cons]
        omega
      · exact hrest m hm
  exact (hmax _ 0).2 _ (List.mem_map_of_mem h)

/-! ## Reading -/

/-- What comes of the records that are not skipped. -/
inductive Gives (settings : Settings) (records : List (Option (List String))) :
    Except Error (Table × List Notice) → Prop where
  /-- One of them cannot be read. -/
  | unreadable (h : none ∈ records) : Gives settings records (.error .notText)
  /-- There should be a header, and there is none. -/
  | headless (h : settings.hasHeaders = true) (hrecords : records = []) :
      Gives settings records (.error (.noHeaderRow settings.headerRow))
  /-- The first is the header, and all others are shown. -/
  | headed {header : List String} {texts : List (List String)} {table : Table}
      {notices : List Notice} (h : settings.hasHeaders = true)
      (hrecords : records = some header :: texts.map some)
      (hcolumns : table.columns = headers header) (hshows : table.Shows texts) :
      Gives settings records (.ok (table, notices))
  /-- All of them are shown, and none is longer than the list of columns. -/
  | bare {texts : List (List String)} {table : Table} {notices : List Notice}
      (h : settings.hasHeaders = false) (hrecords : records = texts.map some)
      (hshows : table.Shows texts)
      (hwide : ∀ record ∈ texts, record.length ≤ table.columns.length) :
      Gives settings records (.ok (table, notices))

/-- **Records give** a table that shows them, unless they cannot be read or there is no header. -/
theorem gives_tableOfRecords (settings : Settings) (records : List (Option (List String))) :
    Gives settings (records.drop settings.headerRow) (tableOfRecords settings records) := by
  rw [tableOfRecords]
  generalize records.drop settings.headerRow = kept
  cases hread : kept.mapM id with
  | none =>
    obtain ⟨record, hmem, rfl⟩ := mapM_eq_none_iff.mp hread
    exact .unreadable hmem
  -- all records can be read, and the first may be the header
  | some texts =>
    have hkept : kept = texts.map some := by
      rw [map_eq_of_mapM_eq_some (fun record text h => Eq.symm h) hread, List.map_id]
    dsimp only
    by_cases hheaders : settings.hasHeaders = true
    · cases texts with
      | nil =>
        simp only [splitHeader, hheaders, if_true]
        exact .headless hheaders hkept
      | cons header texts =>
        simp only [splitHeader, hheaders, if_true]
        exact .headed hheaders hkept rfl (shows_tableOf (nodup_headers header) texts)
    · simp only [splitHeader, if_neg hheaders]
      refine .bare (Bool.not_eq_true _ ▸ hheaders) hkept
        (shows_tableOf (nodup_placeholders _) texts) fun record hmem => ?_
      show record.length ≤ ((List.range (width texts)).map placeholder).length
      rw [List.length_map, List.length_range]
      exact length_le_width hmem

/-- **Tables show what is read**, whatever records are delivered: an error tells that one that is
    not skipped cannot be read, or that the header is missing, and a table has distinct columns and
    shows every record behind the header, each cell under the name of its own column. -/
theorem read_gives_rows {settings : Settings} (h : settings.delimiter.toNat < 128) :
    (∀ delivered : List (Option (List String)),
      Gives settings (delivered.drop settings.headerRow) (tableOfRecords settings delivered)) ∧
    ∀ input : List UInt8,
      Gives settings
        (((records settings.delimiter.toNat.toUInt8 input).map decodeRecord?).drop
          settings.headerRow)
        (read settings input) := by
  refine ⟨gives_tableOfRecords settings, fun input => ?_⟩
  rw [read, if_neg (Nat.not_le.mpr h)]
  exact gives_tableOfRecords settings _

/-- A line that is no text is skipped, a name stands twice in the header, one is blank, and the
    only row is short: its second cell is found under the new name, and nothing under the third. -/
theorem read_gives_rows_repeated_name :
    let settings : Settings := ⟨',', 1, true⟩
    let input : List UInt8 := [0xFF, 10, 65, 44, 65, 44, 10, 49, 44, 120, 10]
    settings.delimiter.toNat < 128 ∧
      ∃ table notices, read settings input = .ok (table, notices) ∧
        table.columns = ["A", "A1", "column_3"] ∧
        ∃ row, table.rows = [row] ∧ row.get? "A1" = some (.text "x") ∧
          row.get? "column_3" = some .null := by
  intro settings input
  have hdelimiter : settings.delimiter.toNat < 128 := by decide
  refine ⟨hdelimiter, ?_⟩
  have hgives := (read_gives_rows hdelimiter).2 input
  have hrecords : ((records settings.delimiter.toNat.toUInt8 input).map decodeRecord?).drop
      settings.headerRow = [some ["A", "A", ""], some ["1", "x"]] := by decide +kernel
  rw [hrecords] at hgives
  generalize read settings input = result at hgives
  cases hgives with
  | unreadable hnone => simp at hnone
  | headless _ hempty => simp at hempty
  | bare hheaders _ _ _ => simp [settings] at hheaders
  | @headed header texts table notices _ hread hcolumns hshows =>
    have hheader : header = ["A", "A", ""] := by simpa using (List.cons.inj hread).1.symm
    have htexts : texts = [["1", "x"]] :=
      (List.map_inj_right fun _ _ => Option.some.inj).mp (List.cons.inj hread).2.symm
    subst hheader htexts
    have hnames : table.columns = ["A", "A1", "column_3"] := hcolumns.trans (by decide +kernel)
    obtain ⟨row, rows, hrow, hrest, hrows⟩ := List.forall₂_cons_left_iff.mp hshows.rows
    rw [List.forall₂_nil_left_iff] at hrest
    rw [hnames] at hrow
    refine ⟨table, notices, rfl, hnames, row, by rw [hrows, hrest], ?_, ?_⟩
    · have hcell := hrow.cell 1 "A1" "x" rfl rfl
      rwa [show Cell.infer "x" = .text "x" from by decide +kernel] at hcell
    · exact hrow.missing 2 "column_3" rfl (by decide)

/-- **Whatever is read is rectangular.** -/
theorem rectangular_of_read {settings : Settings} {records : List (Option (List String))}
    {table : Table} {notices : List Notice}
    (h : tableOfRecords settings records = .ok (table, notices)) : table.Rectangular := by
  have hgives := gives_tableOfRecords settings records
  rw [h] at hgives
  cases hgives with
  | headed _ _ _ hshows => exact hshows.rectangular
  | bare _ _ hshows _ => exact hshows.rectangular

end Csv

end TableRules
