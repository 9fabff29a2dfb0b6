import TableGate.Proofs.JsonPrinting
import TableGate.Proofs.RowTransport
import TableGate.Proofs.SpelledCells

/-! The rows of a body, whatever the body is. A body that can't be read is refused with a fault of a
kind that requests are prepared for, and the cells of a body that is a text or bytes all have
texts. -/
namespace TableGate.BodyRows
open Contracts JsonPrinting RowTransport SpelledCells

/-- The kinds of faults that make a body invalid data: texts, bytes and options that can't be
converted, values that are no rows, and all faults of the request itself. -/
def isInvalidData : Fault → Bool
  | .conversion _ | .json _ _ _ _ | .utf8 _ _ _ _ | .options _ | .configFile _ _ => true
  | .notIterable _ => true
  | fault => fault.isRequestFault

/-- Every cell of a row has a text. -/
def RowSpelled (row : Row) : Prop := ∀ cell ∈ row, Spelled cell

/-- A good value is read, or a body is invalid data. -/
abbrev Reads {α : Type} (good : α → Prop) : Except Fault α → Prop :=
  Ensures good (isInvalidData · = true)

/-- Rows are read all of whose cells have texts, or a body is invalid data. -/
abbrev ReadsRows : Except Fault (List Row) → Prop := Reads fun rows => ∀ row ∈ rows, RowSpelled row

variable {table : Table} {column : Column} {text : Text} {row : Row} {media : Media}

private theorem invalid_value {fault : Fault} (value : IsValue fault) : isInvalidData fault = true := by
  obtain ⟨problem, rfl⟩ := value
  rfl

/-! ### Texts -/

private theorem reference_converts {size : Nat} {result : Except Fault Text}
    (found : Text.reference? text = some (size, result)) :
    Reads (fun _ => True) result := by
  unfold Text.reference? at found
  split at found
  · dsimp only at found
    split at found
    · cases found
      split
      · rfl
      · trivial
    · split at found
      · split at found
        · cases found
          trivial
        · cases found
      · cases found
  · dsimp only at found
    split at found
    · cases found
    · cases found
      trivial

private theorem markup_converts (skipped : Nat) (text : Text) :
    Reads (fun _ => True) (Text.resolveReferences skipped text) := by
  fun_induction Text.resolveReferences skipped text with
  | case1 => trivial
  | case2 skipped _ rest ih => exact ih
  | case3 c rest size result found ih =>
    have own : Reads (fun _ => True) result := by
      split at found
      · exact reference_converts found
      · cases found
    exact own.bind fun _ _ => ih.bind fun _ _ => trivial
  | case4 c rest found ih => exact ih.map fun _ _ => trivial

private theorem decode_converts (media : Media) (text : Text) :
    Reads (fun _ => True) (media.decode text) := by
  cases media with
  | html => exact markup_converts 0 text
  | _ => trivial

private theorem utf8_converts (bytes : List UInt8) : Reads (fun _ => True) (Text.ofUtf8 bytes) := by
  have from_position (position skipped : Nat) :
      Reads (fun _ => True) (Text.decodeStrict position skipped bytes) := by
    fun_induction Text.decodeStrict position skipped bytes with
    | case1 => trivial
    | case2 position skipped _ rest ih => exact ih
    | case3 position b rest c size step ih => exact ih.map fun _ _ => trivial
    | case4 position b rest problem size step => rfl
  exact from_position 0 0

/-! ### Cells -/

/-- A codec refuses a text of a body as a value, or as one that can't be converted. -/
theorem deserialize_body (column : Column) (text : Text) :
    Reads Spelled (column.deserialize (.text text)) := by
  by_cases alien : Alien column text
  · rw [deserialize_alien alien]
    rfl
  · exact (deserialize_ensures alien).mono (fun _ => id) fun _ => invalid_value

private theorem readWire_body (media : Media) (text : Text) :
    Reads Spelled (table.readWire column media text) :=
  (decode_converts media text).bind fun _ _ => deserialize_body column _

/-! ### Rows of texts -/

private theorem csv_row (header : List Wire) (line : Text) :
    Reads RowSpelled (Body.Csv.row table header line) := by
  refine Ensures.mapM fun column _ => ?_
  unfold Body.Csv.cell
  split
  · exact readWire_body .csv _
  · trivial
  · trivial
  · trivial

private theorem integer_converts (n : Int) : Reads (fun _ => True) (Integer.text n) := by
  have natural (n : Nat) : Reads (fun _ => True) (Integer.textOfNat n) := by
    unfold Integer.textOfNat
    dsimp only
    split
    · rfl
    · trivial
  cases n with
  | ofNat n => exact natural n
  | negSucc n => exact (natural (n + 1)).map fun _ _ => trivial

mutual

/-- A nested value has its own text, unless one of its integers is too long. -/
private theorem nested_text (json : Json) : Reads (fun _ => True) json.write := by
  cases json with
  | null => trivial
  | bool value => cases value <;> trivial
  | int n => exact integer_converts n
  | float number => trivial
  | text value => trivial
  | array items => exact (nested_items items).bind fun _ _ => trivial
  | object entries => exact (nested_entries entries).bind fun _ _ => trivial
termination_by structural json

private theorem nested_items (items : List Json) :
    Reads (fun _ => True) (Json.writeItems items) := by
  cases items with
  | nil => trivial
  | cons item items =>
    exact (nested_text item).bind fun _ _ => (nested_items items).bind fun _ _ => trivial
termination_by structural items

private theorem nested_entries (entries : List (Text × Json)) :
    Reads (fun _ => True) (Json.writeEntries entries) := by
  cases entries with
  | nil => trivial
  | cons entry entries =>
    obtain ⟨key, value⟩ := entry
    exact (nested_text value).bind fun _ _ => (nested_entries entries).bind fun _ _ => trivial
termination_by structural entries

end

private theorem json_cell {json : Json} (printable : Printable json) :
    Reads Spelled (Body.cellOfJson table column json) := by
  cases printable with
  | null => trivial
  | bool value => trivial
  | int printed => exact printed
  | float prints => exact prints
  | text value => exact readWire_body .json value
  | array each => exact (nested_text _).map fun _ _ => trivial
  | object each => exact (nested_text _).map fun _ _ => trivial

private theorem json_row {json : Json} (printable : Printable json) :
    Reads RowSpelled (Body.rowOfJson table json) := by
  cases printable with
  | object each =>
    refine Ensures.mapM fun column _ => ?_
    split
    · rename_i value found
      obtain ⟨entry, known, rfl⟩ := Option.map_eq_some_iff.mp found
      exact json_cell (each entry (List.mem_of_find?_eq_some known))
    · trivial
  | _ => rfl

private theorem kept_rows {α : Type} {read : α → Except Fault Row} {sources : List α}
    (each : ∀ source ∈ sources, Reads RowSpelled (read source)) :
    ReadsRows (sources.mapM (fun source => do
        let row ← (read source : Logged Row)
        row.kept) >>= fun rows => pure (rows.filterMap id) : Logged (List Row)).result := by
  rw [kept_of_read]
  have all : Reads (fun rows => ∀ row ∈ rows, ∀ own, row = some own → RowSpelled own)
      (sources.mapM fun source => read source >>= fun row =>
        .ok (if row.hasData then some row else none)) := by
    refine Ensures.mapM fun source member => (each source member).bind fun row spelled => ?_
    intro own same
    split at same
    · cases same
      exact spelled
    · cases same
  refine all.map fun rows spelled row member => ?_
  obtain ⟨own, among, same⟩ := List.mem_filterMap.mp member
  exact spelled own among row same

private theorem csv_rows (text : Text) :
    ReadsRows (Body.Csv.rows table text).result := by
  unfold Body.Csv.rows
  dsimp only
  split
  · exact fun _ => nofun
  · exact kept_rows fun line _ => csv_row _ line

private theorem json_rows (text : Text) :
    ReadsRows (Body.rowsOfJsonText table text).result := by
  unfold Body.rowsOfJsonText
  rw [result_bind]
  have parsed : Reads Printable (Json.parse text) := by
    cases read : Json.parse text with
    | ok json => exact document_prints read
    | error fault =>
      rcases parse_refuses read with ⟨_, _, _, _, rfl⟩ | ⟨_, rfl⟩ <;> rfl
  refine parsed.bind fun json printable => kept_rows fun object member => ?_
  split at member
  · cases printable with
    | array each => exact json_row (each object member)
  · obtain rfl := List.mem_singleton.mp member
    exact json_row printable

private theorem emptyRow_spelled (table : Table) : RowSpelled table.emptyRow := by
  intro cell member
  obtain ⟨column, -, rfl⟩ := List.mem_map.mp member
  trivial

private theorem set_spelled {cell : Cell} {index : Nat} (spelled : RowSpelled row) (new : Spelled cell) :
    RowSpelled (row.set index cell) := by
  intro other member
  rcases List.mem_or_eq_of_mem_set member with old | rfl
  · exact spelled other old
  · exact new

private theorem kept_row {read : Except Fault Row}
    (spelled : Reads RowSpelled read) :
    ReadsRows (do
        let row ← (read : Logged Row)
        let row ← row.kept
        return row.toList : Logged (List Row)).result := by
  rw [result_bind]
  refine spelled.bind fun row own => ?_
  rw [result_bind, kept_result]
  split
  · exact List.forall_mem_singleton.mpr own
  · exact fun _ => nofun

private theorem url_parameter (spelled : RowSpelled row) (parameter : Text) :
    Reads RowSpelled (Body.UrlEncoded.setParameter table row parameter) := by
  unfold Body.UrlEncoded.setParameter
  split
  · refine (decode_converts .urlEncoded _).bind fun name _ => ?_
    split
    · split
      · exact set_spelled spelled trivial
      · exact (readWire_body .urlEncoded _).bind fun cell new => set_spelled spelled new
    · exact spelled
  · exact spelled

private theorem url_rows (text : Text) :
    ReadsRows (Body.UrlEncoded.rows table text).result :=
  kept_row (Ensures.foldlM (emptyRow_spelled table) fun _ _ spelled => url_parameter spelled _)

/-! ### Forms -/

private theorem form_cell (isFile isBase64 : Bool) (content : List UInt8) :
    Reads Spelled (Body.Multipart.cell table column isFile isBase64 content) := by
  unfold Body.Multipart.cell
  split
  · trivial
  · split
    · trivial
    · refine (utf8_converts content).bind fun text _ => ?_
      split
      · exact deserialize_body column _
      · exact readWire_body .formData _

private theorem form_part (spelled : RowSpelled row) (part : List UInt8) :
    Reads RowSpelled (Body.Multipart.setPart table row part).result := by
  have set (column : Column) (index : Nat) (isFile isBase64 : Bool) (content : List UInt8) :
      Reads RowSpelled (do
          let cell ← (Body.Multipart.cell table column isFile isBase64 content : Logged Cell)
          return row.set index cell : Logged Row).result := by
    rw [result_bind]
    exact (form_cell isFile isBase64 content).bind fun cell new => set_spelled spelled new
  unfold Body.Multipart.setPart
  split
  · exact spelled
  · rw [result_bind]
    refine (utf8_converts _).bind fun head _ => ?_
    dsimp only
    split
    · exact spelled
    · split
      · split
        · exact spelled
        · exact set ..
        · exact set ..
      · exact spelled

private theorem form_rows (boundary : Text) (bytes : List UInt8) :
    ReadsRows (Body.Multipart.rows table boundary bytes).result := by
  unfold Body.Multipart.rows
  dsimp only
  split
  · exact fun _ => nofun
  · split
    · exact fun _ => nofun
    · rename_i parts _
      have read :
          Reads RowSpelled (parts.foldlM (Body.Multipart.setPart table) table.emptyRow).result := by
        rw [result_foldlM]
        exact Ensures.foldlM (emptyRow_spelled table) fun _ _ spelled => form_part spelled _
      have kept := kept_row read
      simp only [result_bind] at kept ⊢
      exact kept

/-! ### Bodies -/

private theorem text_rows (media : Media) (boundary source : Text) :
    ReadsRows (Body.rowsOfText table media boundary source).result := by
  cases media with
  | json => exact json_rows source
  | csv => exact csv_rows source
  | formData => exact form_rows boundary (Text.utf8 source)
  | urlEncoded => exact url_rows source
  | html => exact url_rows source

private theorem byte_rows (media : Media) (boundary : Text) (source : List UInt8) :
    ReadsRows (Body.rowsOfBytes table media boundary source).result := by
  unfold Body.rowsOfBytes
  split
  · exact form_rows boundary source
  · rw [result_bind]
    exact (utf8_converts source).bind fun text _ => text_rows _ boundary text

private theorem input_rows {rows : Logged (List Row)}
    (read : ReadsRows rows.result) :
    ReadsRows (Body.ifInput media rows).result := by
  unfold Body.ifInput
  split
  · exact read
  · exact fun _ => nofun

/-- The rows of a text have cells with texts, and a text that can't be read is invalid data. -/
theorem text_body (table : Table) (media : Media) (boundary source : Text) :
    ReadsRows ((Body.text source).rows table media boundary).result :=
  input_rows (text_rows media boundary source)

/-- So have those of bytes. -/
theorem byte_body (table : Table) (media : Media) (boundary : Text) (source : List UInt8) :
    ReadsRows ((Body.bytes source).rows table media boundary).result :=
  input_rows (byte_rows media boundary source)

/-- A body of any kind that can't be read is invalid data. -/
theorem body_faults (table : Table) (media : Media) (boundary : Text) (body : Body) :
    Reads (fun _ => True) (body.rows table media boundary).result := by
  cases body with
  | text source => exact (text_body table media boundary source).mono (fun _ _ => trivial) fun _ => id
  | bytes source =>
    exact (byte_body table media boundary source).mono (fun _ _ => trivial) fun _ => id
  | object entries => trivial
  | items cells =>
    have each : ∀ cell ∈ cells, Reads (fun _ => True)
        (Body.rowOfItem table cell) := by
      intro cell _
      cases cell with
      | dict | list | text | bytes => trivial
      | _ => rfl
    exact Ensures.each each

end TableGate.BodyRows
