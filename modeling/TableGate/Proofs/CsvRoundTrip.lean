import Mathlib.Data.List.Nodup
import TableGate.Proofs.CsvReading
import TableGate.Proofs.RowTransport

/-! Rows written as comma separated values are read as the rows that were sent. The fields are
found by their names in the first line, so that it does not matter which of them were selected,
and no value ends a line or becomes another one. -/
namespace TableGate.CsvRoundTrip
open CsvReading Fallible MediaReading RowIdentity RowTransport

/-- The names of the fields tell them apart from each other and from the row id, and have no
quotes. -/
structure Named (table : Table) : Prop where
  distinct : (table.columns.map (·.name)).Nodup
  apart : ∀ column ∈ table.columns, column.name ≠ table.settings.idField
  unquoted : ∀ column ∈ table.columns, '"' ∉ column.name

/-- What a hasher disguises can be read again and is never empty, whatever the seed. -/
structure Hidden (table : Table) : Prop where
  reversible : Reversible table
  visible : ∀ hasher, table.hasher = some hasher → ∀ value seed, value ≠ [] →
    hasher.encode value seed ≠ []

variable {layout : Layout} {row : Row} {column : Column} {written : WrittenRow} {boundary : Text}

/-! ### What is written -/

/-- The names in the first line. -/
def header (layout : Layout) : List Wire :=
  .text layout.table.settings.idField ::
    (layout.table.columns.filter layout.isSelected).map fun column => .text column.name

/-- The values of a row. -/
def valuesOf (written : WrittenRow) : List Wire := .text written.id :: written.fields.map (·.shown)

private theorem csvHeader_eq (layout : Layout) : layout.csvHeader = line (header layout) := by
  simp [Layout.csvHeader, line, header, Function.comp_def]

private theorem csvRow_eq (written : WrittenRow) : Layout.csvRow written = line (valuesOf written) := by
  simp [Layout.csvRow, line, valuesOf, Function.comp_def]

/-! ### Fields -/

/-- The names and the values of a row in pairs, as they are read. -/
private def entries (layout : Layout) (written : WrittenRow) : List (Wire × Wire) :=
  (asRead (.text layout.table.settings.idField), asRead (.text written.id)) ::
    written.fields.map fun field => (.text field.column.name, asRead field.shown)

private theorem read_name (names : Named layout.table) (member : column ∈ layout.table.columns) :
    asRead (.text column.name) = .text column.name :=
  congrArg _ (TextFacts.replaceChar_of_not_mem (names.unquoted column member))

/-- The values of a line stand under the names of the first line. -/
private theorem entries_split (names : Named layout.table) (shown : layout.row row = .ok written) :
    (entries layout written).map (·.1) = (header layout).map asRead ∧
      (entries layout written).map (·.2) = (valuesOf written).map asRead := by
  have columns := written_columns shown
  have keys : written.fields.map (fun field => Wire.text field.column.name) =
      (layout.table.columns.filter layout.isSelected).map fun column => asRead (.text column.name) := by
    have own : (layout.table.columns.filter layout.isSelected).map
          (fun column => asRead (.text column.name)) =
        (layout.table.columns.filter layout.isSelected).map fun column => .text column.name :=
      List.map_congr_left fun column member => read_name names (List.mem_filter.mp member).1
    rw [own, ← columns, List.map_map]
    rfl
  constructor
  · simp [entries, header, Function.comp_def, keys]
  · simp [entries, valuesOf, Function.comp_def]

/-- The name of the row id does not read as that of a field, even if its quotes are written twice. -/
private theorem id_apart (names : Named layout.table) (member : column ∈ layout.table.columns) :
    asRead (.text layout.table.settings.idField) ≠ .text column.name := by
  rw [← read_name names member]
  intro same
  have undoubled := congrArg Media.undouble (Wire.text.inj same)
  rw [undouble_doubled, undouble_doubled] at undoubled
  exact names.apart column member undoubled.symm

private theorem entries_distinct (names : Named layout.table)
    (shown : layout.row row = .ok written) : ((entries layout written).map (·.1)).Nodup := by
  have columns := written_columns shown
  have texts : (entries layout written).map (·.1) =
      asRead (.text layout.table.settings.idField) ::
        (layout.table.columns.filter layout.isSelected).map fun column => .text column.name := by
    rw [← columns]
    simp [entries, Function.comp_def]
  rw [texts, List.nodup_cons]
  constructor
  · intro member
    obtain ⟨column, among, same⟩ := List.mem_map.mp member
    exact id_apart names (List.mem_filter.mp among).1 same.symm
  · have kept := names.distinct.sublist ((List.filter_sublist (p := layout.isSelected)).map (·.name))
    have texts := List.Nodup.map (fun _ _ same => Wire.text.inj same) kept
    rwa [List.map_map] at texts

/-- A field receives what was sent of it. -/
private theorem field_received (plain : Plain layout) (names : Named layout.table)
    (hidden : Hidden layout.table) (shown : layout.row row = .ok written) {field : Column × Cell}
    (member : field ∈ cellsOf layout.table.columns row) {both : Wire × Cell}
    (back : carried layout field = .ok both) :
    Body.Csv.cell layout.table field.1 ((((header layout).map asRead).idxOf? (.text field.1.name)).bind
      (((valuesOf written).map asRead)[·]?)) = .ok both.2 := by
  obtain ⟨wire, cell⟩ := both
  obtain ⟨found, read⟩ := carried_eq_ok.mp back
  obtain ⟨keys, values⟩ := entries_split names shown
  have listed : field.1 ∈ layout.table.columns := by
    rw [← cellsOf_columns layout.table.columns row]
    exact List.mem_map_of_mem member
  rw [← keys, ← values, place_of_key]
  cases selected : layout.isSelected field.1 with
  | true =>
    obtain ⟨seed, fields⟩ := row_fields plain shown
    obtain ⟨shown, among, own, sends, rfl⟩ :=
      (partners fields).1 field (List.mem_filter.mpr ⟨member, selected⟩)
    rw [found] at sends
    cases sends
    have entry : (Wire.text field.1.name, asRead (hide layout seed field.1 wire)) ∈
        entries layout written := List.mem_cons_of_mem _ (List.mem_map_of_mem among)
    rw [find_of_mem (entries_distinct names shown) entry]
    cases wire with
    | text text =>
      exact (readWire_hidden plain hidden.reversible hidden.visible
        (congrArg _ (undouble_doubled _))).trans read
    | null => exact read
    | absent => exact read
  | false =>
    have nothing : wire = .absent := by simpa [sent, selected, eq_comm] using found
    subst nothing
    have missing : (entries layout written).find? (·.1 == .text field.1.name) = none := by
      refine List.find?_eq_none.mpr fun entry among same => ?_
      have key : entry.1 ∈ (header layout).map asRead := keys ▸ List.mem_map_of_mem among
      rw [eq_of_beq same, header, List.map_cons, List.map_map] at key
      rcases List.mem_cons.mp key with id | other
      · exact id_apart names listed id.symm
      · obtain ⟨column, kept, name⟩ := List.mem_map.mp other
        obtain ⟨own, chosen⟩ := List.mem_filter.mp kept
        have name := (read_name names own).symm.trans name
        have same := List.inj_on_of_nodup_map names.distinct own listed (Wire.text.inj name)
        rw [same, selected] at chosen
        cases chosen
    rw [missing]
    exact read

/-- A line is read as the row that was sent. -/
private theorem row_received (plain : Plain layout) (names : Named layout.table)
    (hidden : Hidden layout.table) (shown : layout.row row = .ok written) {result : Option Row}
    (back : returned layout row = .ok result) :
    ∃ read, Body.Csv.row layout.table ((header layout).map asRead) (Layout.csvRow written) = .ok read ∧
      result = if Row.hasData read then some read else none := by
  obtain ⟨cells, all, same⟩ := bind_eq_ok.mp back
  have each := mapM_eq_ok_iff.mp all
  refine ⟨cells.map (·.2), ?_, ?_⟩
  · unfold Body.Csv.row
    rw [csvRow_eq, valuesOf, values_line, ← valuesOf, mapM_eq_ok_iff]
    have members : ∀ field ∈ cellsOf layout.table.columns row,
        field ∈ cellsOf layout.table.columns row := fun _ => id
    have columns := cellsOf_columns layout.table.columns row
    rw [← columns, List.forall₂_map_left_iff, List.forall₂_map_right_iff]
    refine ((List.forall₂_and_left _ _).mpr ⟨members, each⟩).imp fun field both pair => ?_
    exact field_received plain names hidden shown pair.1 pair.2
  · rw [received_data each]
    exact (Except.ok.inj same).symm

/-! ### Rows -/

/-- A row of which it is known what comes back is written. -/
private theorem returned_written (plain : Plain layout) {result : Option Row}
    (back : returned layout row = .ok result) : ∃ written, layout.row row = .ok written := by
  obtain ⟨cells, all, -⟩ := bind_eq_ok.mp back
  refine row_total plain fun field member => ?_
  obtain ⟨both, -, carries⟩ := (partners (mapM_eq_ok_iff.mp all)).1 field member
  exact ⟨_, (carried_eq_ok.mp carries).1⟩

/-- If no field is named in the first line, nothing is sent of any row. -/
private theorem nothing_named (names : Named layout.table)
    (unnamed : ∀ column ∈ layout.table.columns, Wire.text column.name ∉ (header layout).map asRead)
    {result : Option Row} (back : returned layout row = .ok result) : result = none := by
  obtain ⟨cells, all, same⟩ := bind_eq_ok.mp back
  have nothing : ∀ both ∈ cells, both.1 = .absent := by
    intro both member
    obtain ⟨field, among, carries⟩ := (partners (mapM_eq_ok_iff.mp all)).2 both member
    have listed : field.1 ∈ layout.table.columns := by
      rw [← cellsOf_columns layout.table.columns row]
      exact List.mem_map_of_mem among
    have unselected : layout.isSelected field.1 = false := by
      by_contra selected
      rw [Bool.not_eq_false] at selected
      have named : Wire.text field.1.name ∈ header layout :=
        List.mem_cons_of_mem _ (List.mem_map.mpr ⟨_, List.mem_filter.mpr ⟨listed, selected⟩, rfl⟩)
      have read := List.mem_map_of_mem (f := asRead) named
      rw [read_name names listed] at read
      exact unnamed field.1 listed read
    have found := (carried_eq_ok.mp carries).1
    simpa [sent, unselected, eq_comm] using found
  have none : cells.any (·.1 != .absent) = false := by simpa using nothing
  rw [none, if_neg Bool.false_ne_true] at same
  exact (Except.ok.inj same).symm

/-- The rows of a text of lines: none where no field is named, else those of the lines one after
the other. -/
private theorem lines_received (layout : Layout) (writtens : List WrittenRow) :
    (Body.Csv.rows layout.table (layout.csvRows (writtens.map Layout.csvRow))).result =
      if ∀ column ∈ layout.table.columns, Wire.text column.name ∉ (header layout).map asRead then .ok []
      else (writtens.mapM fun written =>
        Body.Csv.row layout.table ((header layout).map asRead) (Layout.csvRow written) >>= fun row =>
          .ok (if row.hasData then some row else none)).map (List.filterMap id) := by
  have written : layout.csvRows (writtens.map Layout.csvRow) =
      Text.join "\r\n" ((header layout :: writtens.map valuesOf).map line) := by
    have rows : Layout.csvRow = fun written => line (valuesOf written) := funext csvRow_eq
    simp [Layout.csvRows, csvHeader_eq, rows, Function.comp_def]
  obtain ⟨first, others⟩ := lines_of_lines (header layout) (writtens.map valuesOf) (by
    intro wires member
    obtain ⟨written, -, rfl⟩ := List.mem_map.mp member
    exact line_ne_nil _ _)
  have names : Body.Csv.values (line (header layout)) = (header layout).map asRead := values_line _ _
  rw [written]
  unfold Body.Csv.rows
  dsimp only
  have unnamed : (layout.table.columns.all fun column =>
        !((header layout).map asRead).contains (.text column.name)) = true ↔
      ∀ column ∈ layout.table.columns, Wire.text column.name ∉ (header layout).map asRead := by
    simp only [List.all_eq_true, Bool.not_eq_true', List.contains_eq_mem, decide_eq_false_iff_not]
  rw [first, others, names]
  by_cases none : ∀ column ∈ layout.table.columns, Wire.text column.name ∉ (header layout).map asRead
  · rw [if_pos none, if_pos (unnamed.mpr none)]
    rfl
  · have rows : (writtens.map valuesOf).map line = writtens.map Layout.csvRow := by
      simp [csvRow_eq, Function.comp_def]
    rw [if_neg none, if_neg (mt unnamed.mp none), kept_of_read, rows, List.mapM_map]
    rfl

/-- Order lines in disguise, without their amounts. -/
def hiddenKeys : Layout := { table := hiddenLines, select := some ⟨["line"]⟩ }

end TableGate.CsvRoundTrip
