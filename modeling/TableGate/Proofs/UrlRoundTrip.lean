import TableGate.Proofs.FormRows
import TableGate.Proofs.IdParts

/-! One row as the parameters of a URL, and the row that is read of them. Every text comes back but
one: a text that is the word for null is written like null itself. -/
namespace TableGate.UrlRoundTrip
open Body.UrlEncoded Fallible FormRows IdParts JsonRoundTrip RowTransport Text TextFacts

/-- A field holds nothing, null or, if it is a field of texts, a text. -/
def IsTextual (column : Column) : Cell → Prop
  | .null | .undefined => True
  | .text _ => column.kind = .string
  | _ => False

/-- A cell as it comes back: the word for null as null. -/
def reread : Cell → Cell
  | .text text => if text = ("null" : Text) then .null else .text text
  | cell => cell

variable {layout : Layout} {table : Table} {column : Column} {cell : Cell} {row : Row} {text value : Text}
  {c : Char}

/-! ### Characters -/

/-- What a parameter has for a value. -/
private def encoded (value : Text) : Prop := ∀ c ∈ value, IsUriChar c

private theorem encoded_null : encoded "null" := by
  have safe : ∀ c ∈ ("null" : Text), isUriSafe c = true := each_of_all (by decide)
  exact fun c member => .inl (safe c member)

/-- Characters of URI components have no plus sign that would become a blank. -/
private theorem withoutPlus_encoded (all : encoded text) : withoutPlus text = text :=
  replaceChar_of_not_mem fun member => (uri_apart (all _ member)).2.2.2 rfl

/-- A text that is written for a URL has no plus sign, and is read as the text. -/
theorem encoded_read (text : Text) :
    Media.decode .urlEncoded (withoutPlus (percentEncode text)) = .ok text := by
  rw [withoutPlus_encoded fun c member => percentEncode_uri member]
  exact congrArg Except.ok (percentDecode_percentEncode text)

/-! ### Parameters -/

/-- A name and a value, as they stand in a URL. -/
private def pair (name value : Text) : Text := percentEncode name ++ '=' :: value

/-- A parameter is taken apart at its only equals sign. -/
private theorem parameter_split {key : Text} (left : '=' ∉ key) (right : '=' ∉ value) :
    splitOn '=' (key ++ '=' :: value) = [key, value] := by
  rw [splitOn_append_cons left, splitOn_of_not_mem right]

/-- A parameter whose decoded name no field has is passed over. -/
theorem parameter_unnamed {key name : Text} (left : '=' ∉ key) (right : '=' ∉ value)
    (decoded : Media.decode .urlEncoded (withoutPlus key) = .ok name)
    (unnamed : ∀ column ∈ table.columns, column.name ≠ name) :
    setParameter table row (key ++ '=' :: value) = .ok row := by
  obtain ⟨place, -⟩ := place_missing unnamed
  rw [setParameter, parameter_split left right]
  simp [decoded, place, bind, Except.bind]

private theorem name_whole (name : Text) : '=' ∉ percentEncode name :=
  fun member => (uri_apart (percentEncode_uri member)).2.2.1 rfl

private theorem value_whole (plain : encoded value) : '=' ∉ value :=
  fun member => (uri_apart (plain _ member)).2.2.1 rfl

private theorem pair_chars (name : Text) (plain : encoded value) (member : c ∈ pair name value) :
    isBlank c = false ∧ c ≠ '&' := by
  rcases List.mem_append.mp member with key | rest
  · have apart := uri_apart (percentEncode_uri key)
    exact ⟨apart.1, apart.2.1⟩
  · rcases List.mem_cons.mp rest with rfl | rest
    · decide
    · have apart := uri_apart (plain c rest)
      exact ⟨apart.1, apart.2.1⟩

/-- A parameter sets its field to null if it is the word for null, else to what its text stands for. -/
private theorem parameter_set {place : Nat} (found : table.indexOf? column.name = some place)
    (own : table.find? column.name = some column) (plain : encoded value)
    (reads : value ≠ "null" → table.readWire column .urlEncoded value = .ok cell) :
    setParameter table row (pair column.name value) =
      .ok (row.set place (if value = "null" then .null else cell)) := by
  unfold setParameter
  rw [pair, parameter_split (name_whole _) (value_whole plain)]
  by_cases null : value = "null"
  · subst null
    simp [encoded_read, found, own, bind, Except.bind]
  · rw [if_neg null]
    simp only [encoded_read, found, own, beq_eq_false_iff_ne.mpr null, withoutPlus_encoded plain, reads null,
      bind, Except.bind, Bool.false_eq_true, ↓reduceIte]

/-! ### Rows -/

/-- The parameter of a field. -/
private def source (field : Column × Cell) : Option Text :=
  Layout.parameter? ⟨field.1, wireOf field.2, wireOf field.2⟩

private theorem encode_word : percentEncode text = "null" ↔ text = "null" := by
  constructor
  · intro same
    have back := congrArg percentDecode same
    rw [percentDecode_percentEncode] at back
    exact back
  · rintro rfl
    rfl

/-- The parameter of a field sets the field to its cell as it comes back. -/
private theorem source_set {place : Nat} {part : Text} (unhidden : table.hasher = none)
    (textual : IsTextual column cell) (found : table.indexOf? column.name = some place)
    (own : table.find? column.name = some column) (given : source (column, cell) = some part) :
    setParameter table row part = .ok (row.set place (reread cell)) := by
  cases cell with
  | undefined => cases given
  | null =>
    cases given
    have reads : ("null" : Text) ≠ "null" → table.readWire column .urlEncoded "null" = .ok .null :=
      fun other => absurd rfl other
    exact parameter_set found own encoded_null reads
  | text text =>
    cases given
    have kind : column.kind = .string := textual
    have reads : table.readWire column .urlEncoded (percentEncode text) = .ok (.text text) := by
      simp [Table.readWire, Media.decode, unhidden, percentDecode_percentEncode, Column.deserialize,
        kind, bind, Except.bind]
    have set : setParameter table row (pair column.name (percentEncode text)) =
        .ok (row.set place (if percentEncode text = "null" then .null else .text text)) :=
      parameter_set found own (fun c member => percentEncode_uri member) fun _ => reads
    simp only [encode_word] at set
    exact set
  | _ => cases textual

private theorem parameter_chars {field : Column × Cell} {part : Text}
    (textual : IsTextual field.1 field.2) (given : source field = some part) (member : c ∈ part) :
    isBlank c = false ∧ c ≠ '&' := by
  obtain ⟨column, cell⟩ := field
  cases cell with
  | undefined => cases given
  | null =>
    cases given
    exact pair_chars column.name encoded_null member
  | text text =>
    cases given
    exact pair_chars column.name (fun c member => percentEncode_uri member) member
  | _ => cases textual

/-- The text of a row is one line of parameters, the first of which is the row id. -/
private theorem line_written (free : Open layout) {cursor : Cursor} (single : cursor.left = [row])
    (textual : ∀ field ∈ cellsOf layout.table.columns row, IsTextual field.1 field.2) :
    ∃ id : Text, (layout.write .urlEncoded cursor).text.result =
      .ok (join "&" (pair layout.table.settings.idField (percentEncode id) ::
        (cellsOf layout.table.columns row).filterMap source) ++ ("\r\n" : Text)) := by
  have held : ∀ field ∈ cellsOf layout.table.columns row,
      FormHolds layout.table.engine field.1 field.2 := by
    rintro ⟨column, cell⟩ member
    have own := textual _ member
    cases cell <;> first | exact trivial | exact own | cases own
  obtain ⟨written, shown, fields⟩ := row_written free held
  have line : layout.urlRow written =
      join "&" (pair layout.table.settings.idField (percentEncode written.id) ::
        (cellsOf layout.table.columns row).filterMap source) := by
    rw [Layout.urlRow, fields, List.filterMap_map]
    rfl
  have read : (cursor.readRows fun row => (layout.row row).map layout.urlRow).1 =
      .ok [layout.urlRow written] := by
    refine (mapRows_result _ _).trans ?_
    rw [single, mapM_eq_ok_iff]
    exact .cons (by rw [shown]; rfl) .nil
  refine ⟨written.id, ?_⟩
  simp only [Layout.write, Layout.writeRows, read, ← line]
  simp [Layout.urlRows, Logged.lift, bind, Logged.andThen, pure]

/-- The parameter of the row id is passed over, and those of the fields fill the empty row. -/
private theorem parameters_read (named : Named table) (unhidden : table.hasher = none)
    (textual : ∀ field ∈ cellsOf table.columns row, IsTextual field.1 field.2)
    {id : Text} (plain : encoded id) :
    (pair table.settings.idField id :: (cellsOf table.columns row).filterMap source).foldlM
      (setParameter table) table.emptyRow = .ok ((completed table row).map reread) := by
  rw [List.foldlM_cons, pair, parameter_unnamed (name_whole _) (value_whole plain) (encoded_read _) named.apart]
  refine row_filled named.distinct ?_ ?_
  · rintro ⟨column, cell⟩ member place placed own part given row'
    exact source_set unhidden (textual (column, cell) member) placed own given
  · rintro ⟨column, cell⟩ member none
    have textual : IsTextual column cell := textual _ member
    cases cell with
    | undefined => rfl
    | null => cases none
    | text text => cases none
    | _ => cases textual

/-- A form is read parameter by parameter, whatever blanks are behind it. -/
theorem rows_of_parameters {parameters : List Text} {blanks : Text}
    (parts : ∀ parameter ∈ parameters, ∀ c ∈ parameter, isBlank c = false ∧ c ≠ '&')
    (blank : ∀ c ∈ blanks, isBlank c = true) :
    rows table (join "&" parameters ++ blanks) =
      Logged.lift (parameters.foldlM (setParameter table) table.emptyRow) >>=
        fun row => row.kept >>= fun kept => pure kept.toList := by
  have bare : ∀ c ∈ join "&" parameters, isBlank c = false := by
    intro c member
    rcases mem_join member with mark | ⟨part, among, inside⟩
    · rw [List.mem_singleton.mp mark]
      decide
    · exact (parts part among c inside).1
  rw [rows, strip_behind bare blank]
  by_cases nothing : parameters = []
  · subst nothing
    rfl
  · have cut : splitOn '&' (join "&" parameters) = parameters :=
      splitOn_join nothing fun part among member => (parts part among '&' member).2 rfl
    rw [cut]

/-- One line of parameters is read as the row that its parameters fill. -/
private theorem line_read (named : Named layout.table) (unhidden : layout.table.hasher = none)
    (textual : ∀ field ∈ cellsOf layout.table.columns row, IsTextual field.1 field.2) (id : Text) :
    (rows layout.table (join "&" (pair layout.table.settings.idField (percentEncode id) ::
        (cellsOf layout.table.columns row).filterMap source) ++ ("\r\n" : Text))).result =
      (Row.kept ((completed layout.table row).map reread)).result.map Option.toList := by
  have idEncoded : encoded (percentEncode id) := fun c member => percentEncode_uri member
  have parts : ∀ part ∈ pair layout.table.settings.idField (percentEncode id) ::
      (cellsOf layout.table.columns row).filterMap source, ∀ c ∈ part, isBlank c = false ∧ c ≠ '&' := by
    rw [List.forall_mem_cons]
    refine ⟨fun c member => pair_chars _ idEncoded member, fun part among c member => ?_⟩
    obtain ⟨field, own, given⟩ := List.mem_filterMap.mp among
    exact parameter_chars (textual field own) given member
  rw [rows_of_parameters parts (each_of_all (by decide)), parameters_read named unhidden textual idEncoded,
    Logged.lift_ok_bind, result_bind]
  rfl

private theorem reread_undefined (cell : Cell) : (reread cell).isUndefined = cell.isUndefined := by
  cases cell with
  | text text =>
    rw [reread]
    split <;> rfl
  | _ => rfl

/-- Only the word for null is changed. -/
private theorem reread_eq_iff (cell : Cell) : reread cell = cell ↔ cell ≠ .text "null" := by
  cases cell with
  | text text =>
    rw [reread]
    split
    · rename_i null
      simp [null]
    · rename_i other
      simpa using other
  | _ => exact iff_of_true rfl nofun

private theorem reread_row_iff (row : Row) : row.map reread = row ↔ Cell.text "null" ∉ row := by
  induction row with
  | nil => exact iff_of_true rfl List.not_mem_nil
  | cons cell row ih =>
    rw [List.map_cons, List.cons.injEq, reread_eq_iff, ih, List.mem_cons, not_or, ne_comm]

/-- Two fields of texts. -/
def notes : Layout :=
  { table :=
      { engine := .sqlite
        options := { tableName := "notes" }
        columns :=
          [{ name := "a&b", kind := .string, sqlType := "TEXT", isPrimaryKey := true },
           { name := "s", kind := .string, sqlType := "TEXT" },
           { name := "n", kind := .number, sqlType := "INTEGER" },
           { name := "x", kind := .string, sqlType := "TEXT" }] } }

private theorem notes_open : Open notes := ⟨⟨rfl, rfl, by rintro _ ⟨⟩⟩, rfl, fun _ => rfl⟩

private theorem notes_named : Named notes.table := ⟨by decide, by decide⟩

end TableGate.UrlRoundTrip
