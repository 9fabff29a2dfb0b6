import Mathlib.Data.List.Nodup
import TableGate.Answer
import TableGate.Proofs.BlobTransport
import TableGate.Proofs.IsoReading
import TableGate.Proofs.JsonReading
import TableGate.Proofs.RowTransport

/-! Rows written as JSON are read as they were. Every kind of value has its own way there and back,
null and nothing are told apart, and only points in time lose what their texts don't show. -/
namespace TableGate.JsonRoundTrip
open DecimalReading Fallible FiniteIntegers IsoReading JsonReading RowIdentity RowTransport TextFacts

/-- The cells that a field may hold: none, null, or a value of its kind that its native type is made
for. -/
def Holds (engine : Engine) (column : Column) : Cell → Prop
  | .null | .undefined => True
  | .text _ => column.kind = .string
  | .bool _ => column.kind = .boolean ∧ engine.typeClass column.sqlType = .boolean
  | .int n => column.kind = .number ∧ engine.typeClass column.sqlType = .number ∧ n.natAbs < integerBound
  | .bytes _ => column.kind = .blob ∧ engine.typeClass column.sqlType = .blob
  | .dateTime _ => column.kind = .dateTime ∧ engine.typeClass column.sqlType = .date
  | .float _ | .list _ | .dict _ => False

/-- Every field may hold its cell of a row. -/
def RowHolds (table : Table) (row : Row) : Prop :=
  ∀ field ∈ cellsOf table.columns row, Holds table.engine field.1 field.2

/-- The names of the fields tell them apart from each other and from the row id. -/
structure Named (table : Table) : Prop where
  distinct : (table.columns.map (·.name)).Nodup
  apart : ∀ column ∈ table.columns, column.name ≠ table.settings.idField

/-- Every field is written as it is. -/
structure Open (layout : Layout) : Prop where
  plain : Plain layout
  unhidden : layout.table.hasher = none
  selected : ∀ column, layout.isSelected column = true

/-- A cell as it comes back. -/
def restored : Cell → Cell
  | .dateTime d => .dateTime (readBack d)
  | cell => cell

/-- One cell for each field. -/
def completed (table : Table) (row : Row) : Row := (cellsOf table.columns row).map (·.2)

variable {layout : Layout} {column : Column} {cell : Cell} {row : Row} {written : WrittenRow} {value : Json}

/-! ### Cells -/

/-- What is sent of a cell. -/
def wireOf : Cell → Wire
  | .null => .null
  | .bool flag => .text (if flag then "true" else "false")
  | .int n => .text (signed n)
  | .text text => .text text
  | .bytes bytes => .text (Text.base64 bytes)
  | .dateTime d => .text d.isoMillis
  | _ => .absent

/-- The JSON value that stands for a cell. -/
private def jsonOf : Cell → Option Json
  | .null => some .null
  | .bool flag => some (.bool flag)
  | .int n => some (.int n)
  | .text text => some (.text text)
  | .bytes bytes => some (.text (Text.base64 bytes))
  | .dateTime d => some (.text d.isoMillis)
  | _ => none

private theorem booleanText_bool (flag : Bool) :
    Column.booleanText (.bool flag) = .ok (if flag then "true" else "false") := by
  cases flag <;> rfl

theorem serialize_held {engine : Engine} (held : Holds engine column cell)
    (defined : cell.isUndefined = false) : column.serialize engine cell = .ok (wireOf cell) := by
  cases cell with
  | undefined => cases defined
  | null =>
    cases kind : column.kind <;>
      simp only [Column.serialize, kind, Engine.readValue, DriverValue.toCell, Column.serializeRead] <;> rfl
  | text text =>
    have kind : column.kind = .string := held
    unfold Column.serialize
    rw [kind]
    rfl
  | bool flag =>
    obtain ⟨kind, type⟩ := held
    have read : engine.readValue (.cell (.bool flag)) column.sqlType = .ok (.bool flag) := by
      cases engine <;> simp [Engine.readValue, DriverValue.toCell, type, Engine.readBoolean]
    rw [Column.serialize_of_read (by simp [kind]) read]
    simp only [Column.serializeRead, kind, booleanText_bool]
    rfl
  | int n =>
    obtain ⟨kind, type, small⟩ := held
    have read : engine.readValue (.cell (.int n)) column.sqlType = .ok (.int n) := by
      simp [Engine.readValue, DriverValue.toCell, type]
    rw [Column.serialize_of_read (by simp [kind]) read]
    simp only [Column.serializeRead, kind, Column.numberText, Cell.toText, Cell.shown, integer_text small]
    rfl
  | bytes bytes =>
    obtain ⟨kind, type⟩ := held
    exact BlobTransport.serialize_bytes kind (by simp [type]) rfl
  | dateTime d =>
    obtain ⟨kind, type⟩ := held
    exact serialize_dateTime kind type d
  | float value => cases held
  | list items => cases held
  | dict entries => cases held

private theorem sent_held (free : Open layout) (held : Holds layout.table.engine column cell) :
    sent layout (column, cell) = .ok (wireOf cell) := by
  unfold sent
  rw [free.selected]
  cases defined : cell.isUndefined with
  | true =>
    have missing : cell = .undefined := by
      cases cell <;> first | rfl | cases defined
    rw [missing]
    rfl
  | false => exact serialize_held held defined

private theorem shown_held (free : Open layout) (held : Holds layout.table.engine column cell) :
    Option.Rel ReadsAs (layout.jsonValue ⟨column, wireOf cell, wireOf cell⟩) (jsonOf cell) := by
  have unhashed : layout.isHashed column = false := by
    simp [Layout.isHashed, Table.isHashed, free.unhidden]
  cases cell with
  | undefined => exact .none
  | null => exact .some reads_null
  | text text =>
    have kind : column.kind = .string := held
    have quoted : layout.isBare column text = false := by
      simp [Layout.isBare, kind]
    simp only [Layout.jsonValue, wireOf, jsonOf, quoted]
    exact .some (reads_string text)
  | bool flag =>
    have bare (text : Text) : layout.isBare column text = true := by
      simp [Layout.isBare, held.1]
    have inside : Text.jsonInside (if flag then "true" else "false") =
        (if flag then "true" else "false" : Text) := by
      cases flag <;> rfl
    simp only [Layout.jsonValue, wireOf, jsonOf, bare, inside, ↓reduceIte]
    exact .some (reads_bool flag)
  | int n =>
    obtain ⟨kind, -, small⟩ := held
    have bare : layout.isBare column (signed n) = true := by
      simp [Layout.isBare, kind, unhashed, numberOf_integer small]
    simp only [Layout.jsonValue, wireOf, jsonOf, bare, jsonInside_number (signed_number n), ↓reduceIte]
    exact .some (reads_integer small)
  | bytes bytes =>
    have quoted (text : Text) : layout.isBare column text = false := by
      simp [Layout.isBare, held.1]
    simp only [Layout.jsonValue, wireOf, jsonOf, quoted]
    exact .some (reads_string _)
  | dateTime d =>
    have quoted (text : Text) : layout.isBare column text = false := by
      simp [Layout.isBare, held.1]
    simp only [Layout.jsonValue, wireOf, jsonOf, quoted]
    exact .some (reads_string _)
  | float value => cases held
  | list items => cases held
  | dict entries => cases held

private theorem cell_held {table : Table} (unhidden : table.hasher = none)
    (held : Holds table.engine column cell) (shown : jsonOf cell = some value) :
    Body.cellOfJson table column value = .ok (restored cell) := by
  have text (text : Text) : Body.cellOfJson table column (.text text) = column.deserialize (.text text) := by
    simp [Body.cellOfJson, Table.readWire, Media.decode, unhidden, bind, Except.bind]
  cases cell with
  | undefined => cases shown
  | null =>
    cases shown
    rfl
  | text content =>
    have kind : column.kind = .string := held
    cases shown
    simp [text, Column.deserialize, kind, restored]
  | bool flag =>
    cases shown
    rfl
  | int n =>
    cases shown
    rfl
  | bytes bytes =>
    cases shown
    rw [text]
    exact BlobTransport.deserialize_base64 held.1 bytes
  | dateTime d =>
    cases shown
    rw [text]
    exact deserialize_isoMillis held.1 d
  | float value => cases shown
  | list items => cases shown
  | dict entries => cases shown

/-! ### Objects -/

/-- The entries of a row's fields. -/
private def entriesOf (table : Table) (row : Row) : List (Text × Json) :=
  (cellsOf table.columns row).filterMap fun field => (jsonOf field.2).map (field.1.name, ·)

/-- The object of a row. -/
private def objectOf (table : Table) (id : Text) (row : Row) : Json :=
  .object ((table.settings.idField, .text id) :: entriesOf table row)

private theorem cellsOf_names (table : Table) (row : Row) :
    (cellsOf table.columns row).map (·.1.name) = table.columns.map (·.name) := by
  have columns := congrArg (List.map (·.name)) (cellsOf_columns table.columns row)
  rwa [List.map_map] at columns

private theorem objectOf_distinct {table : Table} (named : Named table) (row : Row) :
    (table.settings.idField :: (entriesOf table row).map (·.1)).Nodup := by
  have keys (fields : List (Column × Cell)) :
      ((fields.filterMap fun field => (jsonOf field.2).map (field.1.name, ·)).map (·.1)).Sublist
        (fields.map (·.1.name)) := by
    induction fields with
    | nil => exact .slnil
    | cons field fields ih =>
      cases shown : jsonOf field.2 with
      | none => simpa [shown] using ih.cons _
      | some value => simpa [shown] using ih
  have names := keys (cellsOf table.columns row)
  rw [cellsOf_names] at names
  refine List.nodup_cons.mpr ⟨fun member => ?_, named.distinct.sublist names⟩
  obtain ⟨column, among, same⟩ := List.mem_map.mp (names.subset member)
  exact named.apart column among same

private theorem entries_shown (layout : Layout) (fields : List WrittenField) :
    fields.flatMap layout.jsonEntry =
      (fields.filterMap fun field => (layout.jsonValue field).map (field.column.name, ·)).flatMap
        fun other => ',' :: entry other.1 other.2 := by
  induction fields with
  | nil => rfl
  | cons field fields ih =>
    rw [List.flatMap_cons, List.filterMap_cons, ih]
    cases shown : layout.jsonValue field with
    | none => simp [Layout.jsonEntry, shown]
    | some value => simp [Layout.jsonEntry, shown, entry]

/-- The text of a row is read as an object, if the values of its fields are read as values. -/
theorem row_item {values : List (Text × Json)}
    (entries : List.Forall₂ (fun other value => other.1 = value.1 ∧ ReadsAs other.2 value.2)
      (written.fields.filterMap fun field => (layout.jsonValue field).map (field.column.name, ·)) values)
    (distinct : (layout.table.settings.idField :: values.map (·.1)).Nodup) :
    IsItem (layout.jsonRow written)
      (.object ((layout.table.settings.idField, .text written.id) :: values)) := by
  have text (rest : Text) : layout.jsonRow written ++ rest = '\x7b' :: (entry layout.table.settings.idField
      (Text.jsonString written.id) ++ (written.fields.flatMap layout.jsonEntry ++ '\x7d' :: rest)) := by
    simp [Layout.jsonRow, entry]
  refine ⟨rfl, fun rest => ?_⟩
  rw [text, entries_shown]
  exact object_read _ (reads_string written.id) entries distinct rest

/-- Where all fields are written and none is hidden, each has what its codec serializes. -/
theorem row_fields_sent (free : Open layout) {wire : Column × Cell → Wire}
    (sends : ∀ field ∈ cellsOf layout.table.columns row, sent layout field = .ok (wire field))
    (shown : layout.row row = .ok written) :
    written.fields = (cellsOf layout.table.columns row).map fun field =>
      ⟨field.1, wire field, wire field⟩ := by
  obtain ⟨seed, fields⟩ := row_fields free.plain shown
  have all : writtenCells layout row = cellsOf layout.table.columns row :=
    List.filter_eq_self.mpr fun field _ => free.selected field.1
  rw [all] at fields
  rw [← List.forall₂_eq_eq_eq, List.forall₂_map_right_iff]
  refine (((List.forall₂_and_left _ _).mpr ⟨sends, fields⟩).imp ?_).flip
  rintro field _ ⟨sends, own, found, rfl⟩
  rw [sends] at found
  cases found
  have visible : hide layout seed field.1 (wire field) = wire field := by
    cases wire field <;> simp [hide, Layout.disguise, free.unhidden]
  exact congrArg (WrittenField.mk field.1 (wire field)) visible

/-- The text of a row is read as its object. -/
private theorem row_shown (free : Open layout) (named : Named layout.table)
    (held : RowHolds layout.table row)
    (shown : layout.row row = .ok written) :
    IsItem (layout.jsonRow written) (objectOf layout.table written.id row) := by
  have fields := row_fields_sent free (fun field member => sent_held free (held field member)) shown
  have each : List.Forall₂ (fun shown field => shown.column = field.1 ∧
      Option.Rel ReadsAs (layout.jsonValue shown) (jsonOf field.2)) written.fields
      (cellsOf layout.table.columns row) := by
    rw [fields, List.forall₂_map_left_iff, List.forall₂_same]
    exact fun field member => ⟨rfl, shown_held free (held field member)⟩
  refine row_item (List.rel_filterMap ?_ each) (objectOf_distinct named row)
  rintro shown field ⟨column, reads⟩
  dsimp only
  rw [column]
  generalize layout.jsonValue shown = text, jsonOf field.2 = value at reads
  cases reads with
  | some reads => exact .some ⟨rfl, reads⟩
  | none => exact .none

/-- A field finds its own entry, and none if it has no cell. -/
private theorem lookup_field {table : Table} (named : Named table) (id : Text) {field : Column × Cell}
    (member : field ∈ cellsOf table.columns row) :
    Json.lookup? ((table.settings.idField, .text id) :: entriesOf table row) field.1.name =
      jsonOf field.2 := by
  cases shown : jsonOf field.2 with
  | some value =>
    have listed : (field.1.name, value) ∈ entriesOf table row :=
      List.mem_filterMap.mpr ⟨field, member, by rw [shown]; rfl⟩
    have distinct : (((table.settings.idField, Json.text id) :: entriesOf table row).map (·.1)).Nodup :=
      objectOf_distinct named row
    rw [Json.lookup?, find_of_mem distinct (List.mem_cons_of_mem _ listed)]
    rfl
  | none =>
    have names := named.distinct
    rw [← cellsOf_names table row] at names
    have column : field.1 ∈ table.columns := by
      rw [← cellsOf_columns table.columns row]
      exact List.mem_map_of_mem member
    have missing : ((table.settings.idField, Json.text id) :: entriesOf table row).find?
        (·.1 == field.1.name) = none := by
      refine List.find?_eq_none.mpr fun entry among same => ?_
      have name := eq_of_beq same
      rcases List.mem_cons.mp among with rfl | other
      · exact named.apart field.1 column name.symm
      · obtain ⟨source, own, found⟩ := List.mem_filterMap.mp other
        obtain ⟨value, present, rfl⟩ := Option.map_eq_some_iff.mp found
        have source_eq := List.inj_on_of_nodup_map names own member name
        rw [source_eq, shown] at present
        cases present
    rw [Json.lookup?, missing]
    rfl

/-- Only a cell that is not there has no value. -/
private theorem undefined_of_none (held : Holds layout.table.engine column cell) (none : jsonOf cell = none) :
    cell = .undefined := by
  cases cell with
  | undefined => rfl
  | float value => cases held
  | list items => cases held
  | dict entries => cases held
  | _ => cases none

/-- The object of a row is read as its cells. -/
private theorem row_back (free : Open layout) (named : Named layout.table) (id : Text)
    (held : RowHolds layout.table row) :
    Body.rowOfJson layout.table (objectOf layout.table id row) =
      .ok ((completed layout.table row).map restored) := by
  have columns := cellsOf_columns layout.table.columns row
  unfold Body.rowOfJson objectOf completed
  rw [mapM_eq_ok_iff, List.map_map]
  nth_rewrite 1 [← columns]
  rw [List.forall₂_map_left_iff, List.forall₂_map_right_iff]
  refine List.forall₂_same.mpr fun field member => ?_
  rw [lookup_field named id member]
  cases shown : jsonOf field.2 with
  | some value => exact cell_held free.unhidden (held field member) shown
  | none =>
    refine congrArg Except.ok ?_
    rw [Function.comp_apply, undefined_of_none (held field member) shown]
    rfl

/-! ### Answers -/

theorem restored_undefined (cell : Cell) : (restored cell).isUndefined = cell.isUndefined := by
  cases cell <;> rfl

private theorem restored_data (row : Row) : Row.hasData (row.map restored) = row.hasData := by
  simp [Row.hasData, List.any_map, Function.comp_def, restored_undefined]

/-- An array of items is read as it was written. -/
theorem rows_shown {texts : List Text} {values : List Json}
    (each : List.Forall₂ IsItem texts values) :
    Json.parse (Layout.jsonRows texts) = .ok (.array values) := by
  have written : Layout.jsonRows texts = '[' :: '\r' :: '\n' :: (Text.join ",\r\n" texts ++ "\r\n]") := rfl
  have read : readValue (Layout.jsonRows texts) = .ok (.array values, []) := by
    rw [written, value_array]
    cases each with
    | nil => rfl
    | @cons text value texts values head tail =>
      have all := items_read head tail []
      rw [List.append_nil] at all
      obtain ⟨more, starts⟩ := items_start head texts "\r\n]"
      rw [starts] at all ⊢
      have gap : Json.skipGap ('\r' :: '\n' :: '\x7b' :: more) = '\x7b' :: more := rfl
      rw [gap]
      exact congrArg (Except.map fun read => (Json.array read.1, read.2)) all
  rw [written] at read
  rw [Json.parse, written, document_read rfl rfl read]
  rfl

/-- The objects that the texts of rows are read as are read as the rows. -/
private theorem objects_exist (free : Open layout) (named : Named layout.table) {rows : List Row}
    {writtens : List WrittenRow}
    (held : ∀ row ∈ rows, RowHolds layout.table row)
    (shown : List.Forall₂ (fun row written => layout.row row = .ok written) rows writtens) :
    ∃ objects, List.Forall₂ IsItem (writtens.map layout.jsonRow) objects ∧
      List.Forall₂ (fun object row => Body.rowOfJson layout.table object =
        .ok ((completed layout.table row).map restored)) objects rows := by
  induction shown with
  | nil => exact ⟨[], .nil, .nil⟩
  | @cons row written rows writtens head tail ih =>
    obtain ⟨first, others⟩ := List.forall_mem_cons.mp held
    obtain ⟨objects, items, read⟩ := ih others
    exact ⟨objectOf layout.table written.id row :: objects, .cons (row_shown free named first head) items,
      .cons (row_back free named written.id first) read⟩

private theorem kept_restored (rows : List Row) :
    (rows.map fun row =>
        if Row.hasData (row.map restored) then some (row.map restored) else none).filterMap id =
      (rows.filter Row.hasData).map (List.map restored) := by
  induction rows with
  | nil => rfl
  | cons row rows ih =>
    rw [List.map_cons, List.filter_cons, restored_data]
    split
    · exact congrArg _ ih
    · exact ih

/-- Rows are read as they were written, each with a cell for every field. -/
private theorem rows_return (layout : Layout) (cursor : Cursor) (boundary : Text) (free : Open layout)
    (named : Named layout.table)
    (held : ∀ row ∈ cursor.left, RowHolds layout.table row) :
    ∃ text, (layout.write .json cursor).text.result = .ok text ∧
      (Body.rows layout.table .json boundary (.text text)).result =
        .ok (((cursor.left.map (completed layout.table)).filter Row.hasData).map (List.map restored)) := by
  have total : ∀ row ∈ cursor.left, ∃ written, layout.row row = .ok written := by
    intro row member
    exact row_total free.plain fun field among => ⟨_, sent_held free (held row member field among)⟩
  obtain ⟨writtens, shown⟩ := mapM_total total
  obtain ⟨objects, items, read⟩ := objects_exist free named held (mapM_eq_ok_iff.mp shown)
  refine ⟨Layout.jsonRows (writtens.map layout.jsonRow), ?_, ?_⟩
  · rw [json_result, shown]
    rfl
  · have lifted : (Body.rows layout.table .json boundary
        (.text (Layout.jsonRows (writtens.map layout.jsonRow)))).result =
        (Body.rowsOfJsonText layout.table (Layout.jsonRows (writtens.map layout.jsonRow))).result := rfl
    have parsed : (Body.rowsOfJsonText layout.table (Layout.jsonRows (writtens.map layout.jsonRow))).result =
        (Body.rowsOfJson layout.table (.array objects)).result := by
      unfold Body.rowsOfJsonText
      rw [rows_shown items, result_bind]
      rfl
    have each : objects.mapM (fun object => Body.rowOfJson layout.table object >>= fun row =>
        .ok (if row.hasData then some row else none)) =
        .ok ((cursor.left.map (completed layout.table)).map fun row =>
          if Row.hasData (row.map restored) then some (row.map restored) else none) := by
      rw [List.map_map, mapM_eq_ok_iff, List.forall₂_map_right_iff]
      refine read.imp fun object row found => ?_
      exact bind_eq_ok.mpr ⟨_, found, rfl⟩
    rw [lifted, parsed]
    unfold Body.rowsOfJson
    rw [kept_of_read, each, ← kept_restored]
    rfl

theorem cellsOf_full (columns : List Column) (row : Row) (full : row.length = columns.length) :
    (cellsOf columns row).map (·.2) = row := by
  induction columns generalizing row with
  | nil => exact (List.length_eq_zero_iff.mp full).symm
  | cons column columns ih =>
    cases row with
    | nil => cases full
    | cons cell row => exact congrArg (cell :: ·) (ih row (Nat.succ.inj full))

/-- Fields of every kind. -/
def kinds : Layout :=
  { table :=
      { engine := .sqlite
        options := { tableName := "kinds" }
        columns :=
          [{ name := "s", kind := .string, sqlType := "TEXT" },
           { name := "b", kind := .boolean, sqlType := "BOOLEAN" },
           { name := "n", kind := .number, sqlType := "INTEGER" },
           { name := "x", kind := .blob, sqlType := "BLOB" },
           { name := "d", kind := .dateTime, sqlType := "DATETIME" }] } }

/-- A second and a half into the year, with an offset from UTC. -/
def newYear (offset : Int) (valid : isOffset (some offset) = true) : DateTime :=
  ⟨2020, 1, 1, 0, 0, 1, 500600, some offset, by decide, by decide, valid⟩

private theorem kinds_open : Open kinds := ⟨⟨rfl, rfl, by rintro _ ⟨⟩⟩, rfl, fun _ => rfl⟩

private theorem kinds_named : Named kinds.table := ⟨by decide, by decide⟩

private theorem kinds_types : Engine.typeClass .sqlite "BOOLEAN" = .boolean ∧
    Engine.typeClass .sqlite "INTEGER" = .number ∧ Engine.typeClass .sqlite "BLOB" = .blob ∧
      Engine.typeClass .sqlite "DATETIME" = .date := by
  decide +kernel

/-- A value of every kind, null and nothing, and a row without a cell. -/
def kindRows (d : DateTime) : List Row :=
  [[.text "a\"\n", .bool true, .int (-5), .bytes [0, 255], .dateTime d], [.null, .undefined, .null], []]

private theorem kinds_held (d : DateTime) : ∀ row ∈ kindRows d, RowHolds kinds.table row := by
  obtain ⟨boolean, number, blob, date⟩ := kinds_types
  have small : (-5 : Int).natAbs < integerBound := by
    decide +kernel
  simp only [kindRows, kinds, cellsOf, RowHolds, Holds, List.forall_mem_cons, List.not_mem_nil, false_implies,
    implies_true, and_true, boolean, number, blob, date, small]

end TableGate.JsonRoundTrip
