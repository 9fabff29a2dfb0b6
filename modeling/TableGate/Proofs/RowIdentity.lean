import TableGate.Answer
import TableGate.Proofs.IdParts
import TableGate.Proofs.KeyCondition
import TableGate.Proofs.MediaReading
import TableGate.Proofs.TagReplacement

/-! A row id locates the row it was written for. The id of a row's own key and the ids that the
writers show differ in the seeds of their disguises; each of them, read back out of its format,
leads to the condition on the values that the key cells are written as. -/
namespace TableGate.RowIdentity
open Fallible KeyCondition IdParts MediaReading TagReplacement

/-- What a hasher disguises can be read again, whatever the seed. -/
def Reversible (table : Table) : Prop :=
  ∀ hasher, table.hasher = some hasher → ∀ value seed, hasher.decode (hasher.encode value seed) = value

/-- The key fields of a table with their cells of a row. -/
def keyCells (table : Table) (row : Row) : List (Column × Cell) :=
  (cellsOf table.columns row).filter (·.1.isPrimaryKey)

/-- A key cell is written as a value: a text that is not empty. -/
def Writes (table : Table) (key : Column × Cell) (value : Text) : Prop :=
  key.1.serialize table.engine key.2 = .ok (.text value) ∧ value ≠ []

/-- A key cell has a literal: its codec takes the value that it is written as for a cell that is
there, and this cell prints as the literal. -/
def Keyed (table : Table) (key : Column × Cell) (literal : Text) : Prop :=
  ∃ value cell, Writes table key value ∧ key.1.deserialize (.text value) = .ok cell ∧
    cell.isEmpty = false ∧ key.1.literal table.engine cell = .ok literal

/-- A part of a row id for a key cell: the value that the cell is written as, in a disguise if
the field has one. -/
def IsPart (table : Table) (key : Column × Cell) (part : Text) : Prop :=
  ∃ value, Writes table key value ∧ reveal table key.1 part = value

/-- A row id locates the row with a key of these literals. -/
def Locates (table : Table) (id : Text) (literals : List Text) : Prop :=
  table.deleteSql id = .ok ("DELETE FROM " ++ table.engine.quoteTable table.options.tableName ++
    " WHERE " ++ clause table literals ++ ";")

variable {table : Table} {layout : Layout} {row : Row} {column : Column} {cell : Cell}
  {key : Column × Cell} {id seed value part literal : Text} {parts literals : List Text}

/-! ### Parts of a key -/

private theorem writes_unique {other : Text} (first : Writes table key value)
    (second : Writes table key other) : value = other := by
  have same := first.1.symm.trans second.1
  cases same
  rfl

private theorem part_stands (keyed : Keyed table key literal) (own : IsPart table key part) :
    Stands table key.1 part literal := by
  obtain ⟨value, cell, written, decoded, present, printed⟩ := keyed
  obtain ⟨other, shown, revealed⟩ := own
  obtain rfl := writes_unique written shown
  exact ⟨cell, by rw [revealed, decoded], present, printed⟩

private theorem keyed_writes {keys : List (Column × Cell)}
    (keyed : List.Forall₂ (Keyed table) keys literals) :
    ∀ key ∈ keys, ∃ value, Writes table key value := by
  induction keyed with
  | nil => simp
  | cons head _ ih =>
    obtain ⟨value, _, written, -⟩ := head
    exact List.forall_mem_cons.mpr ⟨⟨value, written⟩, ih⟩

private theorem parts_stand {keys : List (Column × Cell)} (keyed : List.Forall₂ (Keyed table) keys literals)
    (own : List.Forall₂ (IsPart table) keys parts) :
    List.Forall₂ (fun key literal => Stands table key.1 key.2 literal)
      ((keys.map (·.1)).zip parts) literals := by
  induction keyed generalizing parts with
  | nil => simp
  | cons head _ ih =>
    cases own with
    | cons first rest => exact .cons (part_stands head first) (ih rest)

theorem cellsOf_columns (columns : List Column) (row : Row) :
    (cellsOf columns row).map (·.1) = columns := by
  induction columns generalizing row with
  | nil => rfl
  | cons column columns ih =>
    cases row with
    | nil => exact congrArg (column :: ·) (ih [])
    | cons cell row => exact congrArg (column :: ·) (ih row)

theorem keyCells_columns (table : Table) (row : Row) :
    (keyCells table row).map (·.1) = table.keys := by
  have kept := List.filter_map (f := (Prod.fst : Column × Cell → Column))
    (p := (·.isPrimaryKey)) (l := cellsOf table.columns row)
  rw [Table.keys, ← cellsOf_columns table.columns row, kept]
  rfl

private theorem standard_separates (standard : table.settings.idSeparator = '_') :
    Separates table.settings := by
  rw [Separates, standard]
  decide

/-- An id that is joined from a part for each key cell locates the row. -/
theorem joined_id_locates (separates : Separates table.settings) (some : table.keys ≠ [])
    (keyed : List.Forall₂ (Keyed table) (keyCells table row) literals)
    (own : List.Forall₂ (IsPart table) (keyCells table row) parts) :
    Locates table (table.settings.joinId parts) literals := by
  have count : parts.length = table.keys.length := by
    rw [← keyCells_columns table row, List.length_map, own.length_eq]
  have nonempty : parts ≠ [] := by
    rintro rfl
    exact some (List.length_eq_zero_iff.mp count.symm)
  have split := splitId_joinId separates nonempty
  have stands := parts_stand keyed own
  rw [keyCells_columns] at stands
  have condition : table.idCondition (table.settings.joinId parts) = .ok (clause table literals) := by
    rw [id_condition_eq_ok, split]
    exact ⟨count, literals, stands, rfl⟩
  exact bind_eq_ok.mpr ⟨_, condition, rfl⟩

/-! ### The id of a row's own key -/

private theorem reveal_disguised (reversible : Reversible table) (seed : Text) {hidden : Text}
    (plain : table.hasher = none → hidden = value)
    (encoded : ∀ hasher, table.hasher = some hasher →
      hidden = if column.kind == .number then hasher.encode value seed else value) :
    reveal table column hidden = value := by
  unfold reveal
  cases found : table.hasher with
  | none => exact plain found
  | some hasher =>
    have same := encoded hasher found
    by_cases number : (column.kind == .number) = true
    · rw [if_pos number] at same
      simp only [number, ↓reduceIte, same]
      exact reversible hasher found value seed
    · rw [if_neg number] at same
      simp only [number, same, Bool.false_eq_true, ↓reduceIte]

private theorem reveal_own (reversible : Reversible table) (some : value ≠ []) :
    reveal table column (table.disguise column value) = value := by
  have present : value.isEmpty = false := by simpa using some
  apply reveal_disguised reversible []
  · intro none
    rw [Table.disguise, none]
  · intro hasher found
    simp only [Table.disguise, found, present, Bool.not_false, Bool.true_and]

private theorem writes_keyText (written : Writes table key value) :
    table.keyText key.1 key.2 = .ok value :=
  bind_eq_ok.mpr ⟨_, written.1, rfl⟩

private theorem keyValues_total (each : ∀ key ∈ keyCells table row, ∃ value, Writes table key value)
    (hash : Bool) : ∃ values, table.keyValues hash row = .ok values := by
  refine mapM_total fun key member => ?_
  obtain ⟨value, written⟩ := each key member
  exact ⟨_, bind_eq_ok.mpr ⟨value, writes_keyText written, rfl⟩⟩

private theorem own_parts (reversible : Reversible table)
    (each : ∀ key ∈ keyCells table row, ∃ value, Writes table key value) :
    ∃ parts, table.keyValues true row = .ok parts ∧
      List.Forall₂ (IsPart table) (keyCells table row) parts := by
  obtain ⟨parts, values⟩ := keyValues_total each true
  refine ⟨parts, values, ?_⟩
  have both := (List.forall₂_and_left _ _).mpr ⟨each, mapM_eq_ok_iff.mp values⟩
  refine both.imp fun key part own => ?_
  obtain ⟨⟨value, written⟩, read⟩ := own
  obtain ⟨other, found, same⟩ := bind_eq_ok.mp read
  rw [writes_keyText written] at found
  cases found
  cases same
  exact ⟨value, written, reveal_own reversible written.2⟩

/-! ### The ids that writers show -/

private theorem writes_defined (written : Writes table (column, cell) value) :
    cell.isUndefined = false := by
  cases cell with
  | undefined =>
    have read := written.1
    cases kind : column.kind <;>
      simp [Column.serialize, kind, Engine.readValue, DriverValue.toCell, Column.serializeRead, bind,
        Except.bind] at read
  | _ => rfl

private theorem round_key (primary : column.isPrimaryKey = true) (text : Text) :
    layout.round column text = .ok text := by
  unfold Layout.round
  split
  · rw [if_pos (by simp [primary])]
  · rfl

private theorem plain_key (unformatted : layout.format = none) (primary : column.isPrimaryKey = true)
    (written : Writes layout.table (column, cell) value) :
    layout.plain column cell = .ok (.text value) := by
  unfold Layout.plain
  rw [writes_defined written, if_neg Bool.false_ne_true, unformatted]
  refine bind_eq_ok.mpr ⟨_, written.1, ?_⟩
  exact map_eq_ok.mpr ⟨value, round_key primary value, rfl⟩

/-- No function is applied to a field. -/
def Unaggregated (layout : Layout) : Prop :=
  ∀ aggregate, layout.aggregate = some aggregate → aggregate.isEmpty = true

theorem uncovered (unaggregated : Unaggregated layout) (column : Column) :
    (layout.aggregate.map (·.covers column)).getD false = false := by
  cases found : layout.aggregate with
  | none => rfl
  | some aggregate =>
    have none : aggregate.calls = [] := by simpa [Aggregate.isEmpty] using unaggregated aggregate found
    simp [Aggregate.covers, Aggregate.fields, none]

private theorem reveal_shown (reversible : Reversible layout.table) (unaggregated : Unaggregated layout)
    (primary : column.isPrimaryKey = true) (some : value ≠ []) (seed : Text) :
    reveal layout.table column (layout.disguise seed column value) = value := by
  have present : value.isEmpty = false := by simpa using some
  have hashed : layout.isHashed column = (layout.table.hasher.isSome && column.kind == .number) := by
    simp [Layout.isHashed, uncovered unaggregated, Table.isHashed, primary]
  apply reveal_disguised reversible (column.name ++ ' ' :: seed)
  · intro none
    rw [Layout.disguise, none]
  · intro hasher found
    simp only [Layout.disguise, hashed, found, present, Option.isSome_some, Bool.not_false,
      Bool.true_and]

private theorem field_part (reversible : Reversible layout.table) (unaggregated : Unaggregated layout)
    (unformatted : layout.format = none) (primary : column.isPrimaryKey = true)
    (written : Writes layout.table (column, cell) value) {field : WrittenField}
    (shown : layout.field seed column cell = .ok field) :
    IsPart layout.table (column, cell) (Layout.keyValue field) := by
  obtain ⟨plain, found, same⟩ := bind_eq_ok.mp shown
  rw [plain_key unformatted primary written] at found
  cases found
  cases same
  exact ⟨value, written, reveal_shown reversible unaggregated primary written.2 seed⟩

private theorem field_column {field : WrittenField} (shown : layout.field seed column cell = .ok field) :
    field.column = column := by
  obtain ⟨plain, -, same⟩ := bind_eq_ok.mp shown
  cases same
  rfl

theorem key_selected (primary : column.isPrimaryKey = true) : layout.isSelected column = true := by
  unfold Layout.isSelected isSelected
  cases layout.select with
  | none => rfl
  | some select => simp [Select.selects, primary]

/-- The fields of a row that are written. -/
def writtenCells (layout : Layout) (row : Row) : List (Column × Cell) :=
  (cellsOf layout.table.columns row).filter fun (column, _) => layout.isSelected column

theorem written_keys (layout : Layout) (row : Row) :
    (writtenCells layout row).filter (·.1.isPrimaryKey) = keyCells layout.table row := by
  unfold writtenCells keyCells
  rw [List.filter_filter]
  refine List.filter_congr fun key _ => ?_
  cases primary : key.1.isPrimaryKey with
  | false => rfl
  | true => simp [key_selected primary]

/-- The fields of a written row are those that are selected, in the order of the table. -/
theorem written_columns {written : WrittenRow} (shown : layout.row row = .ok written) :
    written.fields.map (·.column) = layout.table.columns.filter layout.isSelected := by
  obtain ⟨seed, -, shown⟩ := bind_eq_ok.mp shown
  obtain ⟨fields, found, same⟩ := bind_eq_ok.mp shown
  cases same
  have columns : List.Forall₂ (· = ·) (fields.map (·.column)) ((writtenCells layout row).map (·.1)) := by
    rw [List.forall₂_map_left_iff, List.forall₂_map_right_iff]
    exact ((mapM_eq_ok_iff.mp found).imp fun _ _ => field_column).flip
  rw [List.forall₂_eq_eq_eq] at columns
  have kept := List.filter_map (f := (Prod.fst : Column × Cell → Column)) (p := layout.isSelected)
    (l := cellsOf layout.table.columns row)
  rw [cellsOf_columns] at kept
  exact columns.trans kept.symm

private theorem shown_parts (reversible : Reversible layout.table) (unaggregated : Unaggregated layout)
    (unformatted : layout.format = none)
    (each : ∀ key ∈ keyCells layout.table row, ∃ value, Writes layout.table key value)
    {fields : List WrittenField}
    (shown : List.Forall₂ (fun key field => layout.field seed key.1 key.2 = .ok field)
      (writtenCells layout row) fields) :
    List.Forall₂ (IsPart layout.table) (keyCells layout.table row)
      ((fields.filter (·.column.isPrimaryKey)).map Layout.keyValue) := by
  have keys := List.rel_filter (p := fun key => key.1.isPrimaryKey)
    (q := fun field => field.column.isPrimaryKey)
    (fun key field found => by simp only [field_column found]) shown
  rw [written_keys] at keys
  have keyed : ∀ key ∈ keyCells layout.table row,
      key.1.isPrimaryKey = true ∧ ∃ value, Writes layout.table key value :=
    fun key member => ⟨(List.mem_filter.mp member).2, each key member⟩
  refine List.forall₂_map_right_iff.mpr (((List.forall₂_and_left _ _).mpr ⟨keyed, keys⟩).imp ?_)
  rintro key field ⟨⟨primary, value, written⟩, found⟩
  exact field_part reversible unaggregated unformatted primary written found

/-- The id of a written row is joined from a part for each key cell. -/
private theorem written_parts (reversible : Reversible layout.table)
    (unaggregated : Unaggregated layout) (unformatted : layout.format = none)
    (each : ∀ key ∈ keyCells layout.table row, ∃ value, Writes layout.table key value)
    {written : WrittenRow} (shown : layout.row row = .ok written) :
    ∃ parts, written.id = layout.table.settings.joinId parts ∧
      List.Forall₂ (IsPart layout.table) (keyCells layout.table row) parts := by
  obtain ⟨seed, -, shown⟩ := bind_eq_ok.mp shown
  obtain ⟨fields, found, same⟩ := bind_eq_ok.mp shown
  cases same
  exact ⟨_, rfl, shown_parts reversible unaggregated unformatted each (mapM_eq_ok_iff.mp found)⟩

/-- Key cells keep no row from being written: a row is, as soon as its other cells are. -/
private theorem row_total (unformatted : layout.format = none)
    (each : ∀ key ∈ keyCells layout.table row, ∃ value, Writes layout.table key value)
    (others : ∀ pair ∈ writtenCells layout row, pair.1.isPrimaryKey = false →
      ∃ wire, layout.plain pair.1 pair.2 = .ok wire) :
    ∃ written, layout.row row = .ok written := by
  have seeded : ∃ seed, layout.seed row = .ok seed := by
    obtain ⟨values, found⟩ := keyValues_total each false
    exact ⟨_, map_eq_ok.mpr ⟨values, found, rfl⟩⟩
  obtain ⟨seed, seeds⟩ := seeded
  have total : ∀ pair ∈ writtenCells layout row, ∃ field, layout.field seed pair.1 pair.2 = .ok field := by
    intro pair member
    have plain : ∃ wire, layout.plain pair.1 pair.2 = .ok wire := by
      cases primary : pair.1.isPrimaryKey with
      | false => exact others pair member primary
      | true =>
        have among : pair ∈ keyCells layout.table row := by
          rw [← written_keys]
          exact List.mem_filter.mpr ⟨member, primary⟩
        obtain ⟨value, written⟩ := each pair among
        exact ⟨_, plain_key unformatted primary written⟩
    obtain ⟨wire, found⟩ := plain
    exact ⟨_, bind_eq_ok.mpr ⟨wire, found, rfl⟩⟩
  obtain ⟨fields, found⟩ := mapM_total total
  exact ⟨_, bind_eq_ok.mpr ⟨seed, seeds, bind_eq_ok.mpr ⟨fields, found, rfl⟩⟩⟩

/-! ### Reading ids out of answers -/

/-- Each format shows the id of a row so that its readers find it again: as the first entry of
an object, as the first value of a line, between the header of the first part and a line break,
as the first parameter, and in every place that a template keeps for it, which is the place of
the tag where the tag stands alone. -/
structure ShowsId (layout : Layout) (written : WrittenRow) : Prop where
  json : ∃ literal rest, layout.jsonRow written =
      '\x7b' :: Text.jsonString layout.table.settings.idField ++ ':' :: '"' :: literal ∧
    readString literal = .ok (written.id, rest)
  csv : ∃ quoted, (Body.Csv.values (Layout.csvRow written)).head? = some (.text quoted) ∧
    Media.csv.decode quoted = .ok written.id
  form : '\r' ∉ written.id ∧ ∃ rest, layout.formRow written =
    Layout.partBoundary ++ "\r\nContent-Disposition: form-data; name=\"" ++
      layout.table.settings.idField ++ "\"\r\n\r\n" ++ (written.id ++ "\r\n") ++ rest
  url : ∃ shown rest, layout.urlRow written =
      Text.percentEncode layout.table.settings.idField ++ '=' :: shown ++ rest ∧
    '&' ∉ shown ∧ (rest = [] ∨ rest.head? = some '&') ∧ Media.urlEncoded.decode shown = .ok written.id
  html : ∀ template, ∃ pieces, ∀ id,
    layout.htmlRow template { written with id } = Text.join (Text.markup id) pieces ++ "\r\n"
  htmlTag : ∀ front rest, '#' ∉ front → '#' ∉ rest →
    (∀ column ∈ layout.table.columns, Layout.htmlTag column.name ≠ Layout.idPlaceholder) →
    layout.htmlRow (front ++ Layout.htmlTag layout.table.settings.idField ++ rest) written =
      front ++ Text.markup written.id ++ rest ++ "\r\n"
  markup : Media.html.decode (Text.markup written.id) = .ok written.id

private theorem first_parameter (first : Text) (others : List Text) :
    ∃ rest, Text.join "&" (first :: others) = first ++ rest ∧ (rest = [] ∨ rest.head? = some '&') := by
  cases others with
  | nil => exact ⟨[], (List.append_nil first).symm, .inl rfl⟩
  | cons next others =>
    exact ⟨'&' :: Text.join "&" (next :: others), by simp [Text.join], .inr rfl⟩

private theorem shows_id (standard : layout.table.settings.idSeparator = '_') {written : WrittenRow}
    (joined : written.id = layout.table.settings.joinId parts) : ShowsId layout written where
  json := by
    refine ⟨Text.jsonInside written.id ++ '"' :: (written.fields.flatMap layout.jsonEntry ++ "\x7d"), _,
      ?_, readString_jsonInside written.id _⟩
    simp [Layout.jsonRow, Text.jsonString]
  csv := first_value written.id _
  form := by
    refine ⟨fun member => ?_, written.fields.flatMap Layout.part ++ (Layout.partBoundary ++ "--\r\n"), ?_⟩
    · rw [joined] at member
      rcases joinId_chars (standard_separates standard) member with uri | same
      · exact absurd (uri_apart uri).1 (by decide)
      · rw [standard] at same
        exact absurd same (by decide)
    · simp only [Layout.formRow, Layout.textPart, Option.map_some, Option.getD_some, List.append_assoc]
  url := by
    obtain ⟨rest, parameters, ended⟩ := first_parameter (Text.percentEncode
      layout.table.settings.idField ++ '=' :: Text.percentEncode written.id)
      (written.fields.filterMap Layout.parameter?)
    refine ⟨Text.percentEncode written.id, rest, parameters, fun member => ?_, ended,
      congrArg _ (Text.percentDecode_percentEncode written.id)⟩
    exact (uri_apart (percentEncode_uri member)).2.1 rfl
  html template := htmlRow_pieces layout template written.fields
  htmlTag front rest before after others := htmlRow_of_tag layout written before after others
  markup := ofMarkup_markup written.id

/-- Order lines whose numbers are disguised by a letter, which tells whether there was a seed. -/
def hiddenLines : Table :=
  { orderLines with hasher := some {
      encode := fun value seed => (if seed.isEmpty then 'A' else 'B') :: value
      decode := List.tail } }

/-- A table without a key. -/
def readings : Table where
  engine := .sqlite
  options := { tableName := "readings" }
  columns := [{ name := "degrees", kind := .number, sqlType := "INTEGER" }]

/-- A table with a field that has the name of the placeholder. -/
def badges : Table where
  engine := .sqlite
  options := { tableName := "badges" }
  columns := [
    { name := "code", kind := .string, sqlType := "TEXT", isPrimaryKey := true },
    { name := "sqlrest_temporary_row_id", kind := .string, sqlType := "TEXT" }]

end TableGate.RowIdentity
