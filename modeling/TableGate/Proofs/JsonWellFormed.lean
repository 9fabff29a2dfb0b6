import TableGate.Answer
import TableGate.Proofs.JsonNumbers
import TableGate.Proofs.RowTransport

/-! Rows as JSON are well-formed texts. Names, texts, booleans and null always are values, and so is
every number that the program writes itself; a text of a number field that is read as a number is written
as it stands, and it has to be a number of JSON texts for the rows to be well-formed. -/
namespace TableGate.JsonWellFormed
open Fallible JsonGrammar JsonNumbers Layout RowIdentity RowTransport Text TextFacts WrittenNumbers

/-- The texts of a number field stay as they are: they are neither disguised nor rounded. -/
def Verbatim (layout : Layout) (column : Column) : Prop :=
  column.kind = .number ∧ layout.isHashed column = false ∧
    (layout.table.options.numberDecimals = none ∨ column.isPrimaryKey = true)

/-- A text of a number field that is read as a number is spelled as one, but for spaces around it. -/
def Spelled (layout : Layout) (column : Column) (cell : Cell) : Prop :=
  Verbatim layout column → ∀ text, layout.table.engine.readValue cell column.sqlType = .ok (.text text) →
    (numberOf? text).isSome = true → IsPadded text

/-- A value that is written without quotes in a number field is spelled as a number. -/
private def Fine (layout : Layout) (field : WrittenField) : Prop :=
  ∀ text, field.plain = .text text → field.column.kind = .number →
    layout.isBare field.column text = true → IsPadded text

variable {layout : Layout} {column : Column} {cell : Cell} {text value : Text} {field : WrittenField}
  {seed : Text}

/-! ### Cells of number fields -/

private theorem not_number {c : Char} (member : c ∈ text) (other : ¬ IsFigure c) :
    (numberOf? text).isSome ≠ true := fun number => other (figures number c member)

/-- A cell that is not a text is written as a number, or as no number at all. -/
private theorem numberText_number {read : Cell} (printed : Column.numberText read = .ok text)
    (number : (numberOf? text).isSome = true) : IsNumber text ∨ read = .text text := by
  cases read with
  | text read =>
    cases printed
    exact .inr rfl
  | int n => exact .inl (integer_number printed)
  | bool flag =>
    have digits : Integer.text 1 = .ok "1" ∧ Integer.text 0 = .ok "0" := ⟨rfl, rfl⟩
    cases flag
    · cases printed
      exact .inl (integer_number digits.2)
    · cases printed
      exact .inl (integer_number digits.1)
  | float read =>
    unfold Column.numberText at printed
    dsimp only at printed
    split at printed
    · exact .inl (integer_number printed)
    · cases printed
      cases read with
      | nan => cases number
      | infinite negative => cases negative <;> cases number
      | finite negative mantissa exponent => exact .inl (float_number rfl)
  | null =>
    cases printed
    cases number
  | undefined =>
    cases printed
    cases number
  | bytes bytes =>
    cases printed
    exact absurd number (not_number (c := 'b') List.mem_cons_self (by decide))
  | dateTime d =>
    cases printed
    have colon : ':' ∈ d.iso ' ' := by simp [DateTime.iso, DateTime.clockText]
    exact absurd number (not_number colon (by decide))
  | list items =>
    obtain ⟨shown, -, same⟩ := bind_eq_ok.mp printed
    cases same
    exact absurd number (not_number (c := '[') List.mem_cons_self (by decide))
  | dict entries =>
    obtain ⟨shown, -, same⟩ := bind_eq_ok.mp printed
    cases same
    exact absurd number (not_number (c := '\x7b') List.mem_cons_self (by decide))

/-- A text that is written of a cell is that of its codec, rounded. Formatters are for points in time
only. -/
private theorem plain_text_iff (kind : column.kind ≠ .dateTime) :
    layout.plain column cell = .ok (.text text) ↔ cell.isUndefined = false ∧
      ∃ source, column.serialize layout.table.engine cell = .ok (.text source) ∧
        layout.round column source = .ok text := by
  have formatted (format : DateTime → Text) : column.serializeLocal layout.table.engine format cell =
      column.serialize layout.table.engine cell := by
    rw [Column.serializeLocal, if_pos (by simpa using kind)]
  unfold Layout.plain
  cases cell.isUndefined with
  | true => simp
  | false =>
    rw [if_neg Bool.false_ne_true, and_iff_right rfl]
    cases layout.format
    all_goals
      simp only [formatted, bind_eq_ok]
      constructor
      · rintro ⟨wire, serialized, written⟩
        cases wire with
        | text source =>
          obtain ⟨rounded, round, same⟩ := map_eq_ok.mp written
          cases same
          exact ⟨source, serialized, round⟩
        | null => cases written
        | absent => cases written
      · rintro ⟨source, serialized, round⟩
        exact ⟨.text source, serialized, map_eq_ok.mpr ⟨text, round, rfl⟩⟩

private theorem codec_number {source : Text} (kind : column.kind = .number)
    (serialized : column.serialize layout.table.engine cell = .ok (.text source))
    (number : (numberOf? source).isSome = true) :
    IsNumber source ∨ layout.table.engine.readValue cell column.sqlType = .ok (.text source) := by
  unfold Column.serialize at serialized
  rw [kind] at serialized
  obtain ⟨read, found, printed⟩ := bind_eq_ok.mp serialized
  have written : (Column.numberText read).map Wire.text = .ok (.text source) := by
    cases read with
    | null => simp [Column.serializeRead, kind] at printed
    | undefined => simp [Column.serializeRead, kind] at printed
    | text text =>
      cases text with
      | nil => simp [Column.serializeRead, kind] at printed
      | cons c text => simpa [Column.serializeRead, kind] using printed
    | _ => simpa [Column.serializeRead, kind] using printed
  obtain ⟨digits, shown, same⟩ := map_eq_ok.mp written
  cases same
  exact (numberText_number shown number).imp_right fun same => by rw [← same]; exact found

/-- A number that is written of a number field is spelled as one, or it is a text of the database as it
was. -/
private theorem plain_number (kind : column.kind = .number) (shown : layout.isHashed column = false)
    (written : layout.plain column cell = .ok (.text text)) (number : (numberOf? text).isSome = true) :
    IsNumber text ∨
      Verbatim layout column ∧ layout.table.engine.readValue cell column.sqlType = .ok (.text text) := by
  obtain ⟨-, source, serialized, round⟩ := (plain_text_iff (by simp [kind])).mp written
  unfold Layout.round at round
  split at round
  · rename_i places value decimals found
    split at round
    · cases round
      rename_i kept
      refine (codec_number kind serialized number).imp_right fun read => ⟨⟨kind, shown, .inr ?_⟩, read⟩
      simpa [kind, shown] using kept
    · split at round
      · cases round
      · cases round
        exact .inl (fixed_number (Option.filter_eq_some_iff.mp found).2 places)
  · rename_i other
    cases round
    refine (codec_number kind serialized number).imp_right fun read => ⟨⟨kind, shown, .inl ?_⟩, read⟩
    cases decimals : layout.table.options.numberDecimals with
    | none => rfl
    | some places =>
      obtain ⟨value, found⟩ := Option.isSome_iff_exists.mp number
      exact absurd found (other places value decimals)

private theorem round_verbatim (verbatim : Verbatim layout column) (text : Text) :
    layout.round column text = .ok text := by
  obtain ⟨-, -, unrounded | primary⟩ := verbatim
  · simp [Layout.round, unrounded]
  · unfold Layout.round
    split
    · rw [if_pos (by simp [primary])]
    · rfl

/-- A text of the database that is read as a number is written as it is. -/
private theorem verbatim_plain (verbatim : Verbatim layout column)
    (read : layout.table.engine.readValue cell column.sqlType = .ok (.text text))
    (number : (numberOf? text).isSome = true) : layout.plain column cell = .ok (.text text) := by
  have kind := verbatim.1
  refine (plain_text_iff (by simp [kind])).mpr ⟨?_, text, ?_, round_verbatim verbatim text⟩
  · cases cell with
    | undefined => cases read
    | _ => rfl
  · unfold Column.serialize
    rw [kind]
    refine bind_eq_ok.mpr ⟨_, read, ?_⟩
    cases text with
    | nil => cases number
    | cons c text =>
      unfold Column.serializeRead
      rw [kind]
      rfl

/-! ### Fields -/

private theorem booleanText_words {read : Cell} (printed : Column.booleanText read = .ok text) :
    text = "false" ∨ text = "true" := by
  have word (source : Text) : (if source.isEmpty || source.map Char.toLower == "false" || Column.isZeros source
      then "false" else "true" : Text) ∈ (["false", "true"] : List Text) := by
    split
    · exact List.mem_cons_self
    · exact List.mem_cons_of_mem _ List.mem_cons_self
  have among : text ∈ (["false", "true"] : List Text) := by
    unfold Column.booleanText at printed
    dsimp only at printed
    split at printed
    · obtain ⟨source, -, same⟩ := bind_eq_ok.mp printed
      cases same
      exact word source
    · cases printed
      exact word []
  simpa using among

private theorem boolean_text (kind : column.kind = .boolean)
    (written : layout.plain column cell = .ok (.text text)) : text = "false" ∨ text = "true" := by
  obtain ⟨-, source, serialized, round⟩ := (plain_text_iff (by simp [kind])).mp written
  have same : text = source := by
    unfold Layout.round at round
    split at round
    · rw [if_pos (by simp [kind])] at round
      cases round
      rfl
    · cases round
      rfl
  subst same
  unfold Column.serialize at serialized
  rw [kind] at serialized
  obtain ⟨read, -, printed⟩ := bind_eq_ok.mp serialized
  have flag : (Column.booleanText read).map Wire.text = .ok (.text text) := by
    cases read with
    | null => simp [Column.serializeRead, kind] at printed
    | undefined => simp [Column.serializeRead, kind] at printed
    | _ => simpa [Column.serializeRead, kind] using printed
  obtain ⟨word, shown, same⟩ := map_eq_ok.mp flag
  cases same
  exact booleanText_words shown

private theorem unhashed (kind : column.kind ≠ .number) : layout.isHashed column = false := by
  simp [Layout.isHashed, Table.isHashed, kind]

theorem undisguised (shown : layout.isHashed column = false) (text : Text) :
    layout.disguise seed column text = text := by
  unfold Layout.disguise
  split
  · rw [shown, Bool.and_false, if_neg Bool.false_ne_true]
  · rfl

/-- A value that is written of a field is a value, if it is spelled as a number where it is taken for
one. -/
private theorem value_settles (made : layout.field seed column cell = .ok field)
    (shown : layout.jsonValue field = some value) : Settles Value '\x7d' value (Fine layout field) := by
  obtain ⟨plain, written, same⟩ := bind_eq_ok.mp made
  cases same
  cases plain with
  | absent => cases shown
  | null =>
    cases shown
    exact (settles_null rfl).congr (iff_of_true trivial fun _ same => absurd same (by simp))
  | text text =>
    have fine_of_other {shown : Wire} (other : ¬ (column.kind = .number ∧ layout.isBare column text = true)) :
        Fine layout ⟨column, .text text, shown⟩ := by
      intro own same kind bare
      cases same
      exact absurd ⟨kind, bare⟩ other
    have given : value = if layout.isBare column text then jsonInside (layout.disguise seed column text)
        else jsonString (layout.disguise seed column text) := (Option.some.inj shown).symm
    rw [given]
    split
    · rename_i bare
      by_cases kind : column.kind = .number
      · have taken := bare
        simp only [isBare, kind, Bool.and_eq_true, Bool.not_eq_true', beq_self_eq_true, Bool.true_and,
          Bool.or_eq_true] at taken
        obtain ⟨visible, number⟩ := taken.resolve_left (by decide)
        rw [undisguised visible]
        refine (settles_figures (figures number)).congr ⟨fun padded own same _ _ => ?_, fun fine => ?_⟩
        · cases same
          exact padded
        · exact fine text rfl kind bare
      · have boolean : column.kind = .boolean := by simpa [isBare, kind] using bare
        rw [undisguised (unhashed kind)]
        have other := fun number : column.kind = .number ∧ layout.isBare column text = true => kind number.1
        rcases boolean_text boolean written with rfl | rfl
        · exact (settles_false rfl).congr (iff_of_true trivial (fine_of_other other))
        · exact (settles_true rfl).congr (iff_of_true trivial (fine_of_other other))
    · rename_i quoted
      exact (settles_string _ rfl).congr (iff_of_true trivial (fine_of_other fun number => quoted number.2))

private theorem fine_iff (made : layout.field seed column cell = .ok field) :
    Fine layout field ↔ Spelled layout column cell := by
  obtain ⟨plain, written, same⟩ := bind_eq_ok.mp made
  cases same
  have bare_iff (kind : column.kind = .number) (text : Text) : layout.isBare column text = true ↔
      layout.isHashed column = false ∧ (numberOf? text).isSome = true := by
    simp [isBare, kind]
  constructor
  · intro fine verbatim text read number
    have same := verbatim_plain verbatim read number
    rw [written] at same
    exact fine text (Except.ok.inj same) verbatim.1 ((bare_iff verbatim.1 text).mpr ⟨verbatim.2.1, number⟩)
  · intro spelled text same kind bare
    cases same
    obtain ⟨visible, number⟩ := (bare_iff kind text).mp bare
    rcases plain_number kind visible written number with spelling | ⟨verbatim, read⟩
    · exact ⟨[], text, [], by simp, List.forall_mem_nil _, spelling, List.forall_mem_nil _⟩
    · exact spelled verbatim text read number

/-- What is not written of a field is no number. -/
private theorem fine_of_unwritten (made : layout.field seed column cell = .ok field)
    (unwritten : layout.jsonValue field = none) : Fine layout field := by
  obtain ⟨plain, -, same⟩ := bind_eq_ok.mp made
  cases same
  intro text same
  subst same
  cases unwritten

/-! ### Rows -/

private theorem all_iff {α β : Type} {R : α → β → Prop} {P : α → Prop} {Q : β → Prop} {items : List α}
    {values : List β} (paired : List.Forall₂ R items values)
    (each : ∀ item value, R item value → (P item ↔ Q value)) :
    (∀ item ∈ items, P item) ↔ ∀ value ∈ values, Q value := by
  constructor
  · intro all value member
    obtain ⟨item, among, own⟩ := (partners paired).2 value member
    exact (each item value own).mp (all item among)
  · intro all item member
    obtain ⟨value, among, own⟩ := (partners paired).1 item member
    exact (each item value own).mpr (all value among)

/-- The fields that are written of a row, with their values. -/
private def valued (layout : Layout) (fields : List WrittenField) : List (WrittenField × Text) :=
  fields.filterMap fun field => (layout.jsonValue field).map fun value => (field, value)

private theorem mem_valued {fields : List WrittenField} {item : WrittenField × Text} :
    item ∈ valued layout fields ↔ item.1 ∈ fields ∧ layout.jsonValue item.1 = some item.2 := by
  obtain ⟨field, value⟩ := item
  unfold valued
  rw [List.mem_filterMap]
  constructor
  · rintro ⟨_, inside, shown⟩
    obtain ⟨_, found, same⟩ := Option.map_eq_some_iff.mp shown
    cases same
    exact ⟨inside, found⟩
  · rintro ⟨inside, found⟩
    exact ⟨field, inside, Option.map_eq_some_iff.mpr ⟨value, found, rfl⟩⟩

private def member (item : WrittenField × Text) : Text := jsonString item.1.column.name ++ ':' :: item.2

private theorem entries_valued (layout : Layout) (fields : List WrittenField) :
    fields.flatMap layout.jsonEntry = (valued layout fields).flatMap fun item => ',' :: member item := by
  induction fields with
  | nil => rfl
  | cons field fields ih =>
    rw [List.flatMap_cons, ih, Layout.jsonEntry]
    cases found : layout.jsonValue field with
    | none =>
      have skipped : valued layout (field :: fields) = valued layout fields :=
        List.filterMap_cons_none (by rw [found]; rfl)
      rw [skipped]
      rfl
    | some value =>
      have kept : valued layout (field :: fields) = (field, value) :: valued layout fields :=
        List.filterMap_cons_some (by rw [found]; rfl)
      rw [kept]
      rfl

theorem row_made {row : Row} {written : WrittenRow} (made : layout.row row = .ok written) :
    ∃ seed, List.Forall₂ (fun cell field => layout.field seed cell.1 cell.2 = .ok field)
      (writtenCells layout row) written.fields := by
  obtain ⟨seed, -, step⟩ := bind_eq_ok.mp made
  obtain ⟨fields, found, same⟩ := bind_eq_ok.mp step
  cases same
  exact ⟨seed, mapM_eq_ok_iff.mp found⟩

/-- A row is an object if its numbers are spelled as such. -/
private theorem row_settles {Item : Text → Text → Prop} (object : TakesObjects Item)
    {row : Row} {written : WrittenRow} (made : layout.row row = .ok written) :
    Settles Item ']' (layout.jsonRow written) (∀ field ∈ written.fields, Fine layout field) := by
  obtain ⟨seed, paired⟩ := row_made made
  have origin : ∀ field ∈ written.fields,
      ∃ cell : Column × Cell, layout.field seed cell.1 cell.2 = .ok field := by
    intro field among
    obtain ⟨cell, -, own⟩ := (partners paired).2 field among
    exact ⟨cell, own⟩
  have each : ∀ item ∈ valued layout written.fields,
      Settles (Member Value) '\x7d' (member item) (Fine layout item.1) := by
    intro item among
    obtain ⟨inside, shown⟩ := mem_valued.mp among
    obtain ⟨cell, own⟩ := origin item.1 inside
    exact settles_member _ (value_settles own shown)
  have all : (∀ item ∈ valued layout written.fields, Fine layout item.1) ↔
      ∀ field ∈ written.fields, Fine layout field := by
    constructor
    · intro fine field among
      cases shown : layout.jsonValue field with
      | none =>
        obtain ⟨cell, own⟩ := origin field among
        exact fine_of_unwritten own shown
      | some value => exact fine (field, value) (mem_valued.mpr ⟨among, shown⟩)
    · intro fine item among
      exact fine item.1 (mem_valued.mp among).1
  have first : Settles (Member Value) '\x7d'
      (jsonString layout.table.settings.idField ++ ':' :: jsonString written.id) True :=
    settles_member _ (settles_string _ rfl)
  have whole := settles_object object (by decide : Json.isGap ']' = false) first each
  have shape : layout.jsonRow written = '\x7b' :: (jsonString layout.table.settings.idField ++ ':' ::
      jsonString written.id ++
        ((valued layout written.fields).flatMap (fun item => ',' :: member item) ++ ['\x7d'])) := by
    rw [Layout.jsonRow, entries_valued]
    simp
  rw [shape]
  exact whole.congr (by rw [true_and, all])

private theorem row_fine_iff {row : Row} {written : WrittenRow} (made : layout.row row = .ok written) :
    (∀ field ∈ writtenCells layout row, Spelled layout field.1 field.2) ↔
      ∀ field ∈ written.fields, Fine layout field := by
  obtain ⟨seed, paired⟩ := row_made made
  exact all_iff paired fun cell field own => (fine_iff own).symm

/-- The text of rows is made of the texts of the rows. -/
theorem rows_written {cursor : Cursor} (written : (layout.write .json cursor).text.result = .ok text) :
    ∃ writtens, List.Forall₂ (fun row written => layout.row row = .ok written) cursor.left writtens ∧
      text = jsonRows (writtens.map layout.jsonRow) := by
  rw [json_result] at written
  obtain ⟨writtens, made, rfl⟩ := map_eq_ok.mp written
  exact ⟨writtens, mapM_eq_ok_iff.mp made, rfl⟩

private theorem rows_shape (texts : List Text) :
    jsonRows texts = '[' :: '\r' :: '\n' :: (join ",\r\n" texts ++ ['\r', '\n', ']']) := rfl

/-- The brackets of the array hold the rows, if their numbers are spelled as such. -/
private theorem rows_enclosed {Item : Text → Text → Prop} (object : TakesObjects Item) (bare : Bare Item)
    (unclosed : ∀ text rest, ¬ Item (']' :: text) rest) {rows : List Row} {writtens : List WrittenRow}
    (made : List.Forall₂ (fun row written => layout.row row = .ok written) rows writtens)
    (count : Nat) (rest : Text) :
    Enclosed Item ']' count
        ('\r' :: '\n' :: (join ",\r\n" (writtens.map layout.jsonRow) ++ ['\r', '\n', ']'])) rest ↔
      count = rows.length ∧ rest = [] ∧
        ∀ row ∈ rows, ∀ field ∈ writtenCells layout row, Spelled layout field.1 field.2 := by
  have each : ∀ written ∈ writtens, Settles Item ']' ('\x7b' :: (layout.jsonRow written).tail)
      (∀ field ∈ written.fields, Fine layout field) := by
    intro written among
    obtain ⟨row, -, own⟩ := (partners made).2 written among
    exact row_settles object own
  rw [all_iff made fun row written own => row_fine_iff own, made.length_eq]
  exact enclosed_lines bare unclosed each

private theorem document_iff {writtens : List WrittenRow} {rows : List Row}
    (made : List.Forall₂ (fun row written => layout.row row = .ok written) rows writtens) :
    IsDocument (jsonRows (writtens.map layout.jsonRow)) ↔
      ∀ row ∈ rows, ∀ field ∈ writtenCells layout row, Spelled layout field.1 field.2 := by
  have unclosed (text rest : Text) : ¬ Value (']' :: text) rest := by
    intro value
    obtain ⟨word, number, split⟩ := (value_number (by decide)).mp value
    exact absurd (number_start number split) (by decide)
  have values := rows_enclosed value_takes value_bare unclosed made
  rw [rows_shape, IsDocument, spaced_none rfl]
  simp only [value_array, values, exists_eq_left]
  constructor
  · rintro ⟨_, ⟨-, spelled⟩, -⟩
    exact spelled
  · intro spelled
    exact ⟨[], ⟨rfl, spelled⟩, .done⟩

/-- Rows that are written as JSON are well-formed exactly if the texts of number fields that are read as
numbers are spelled as such, up to spaces around them, and they are an array with an object for each row
then. Nothing else in the rows, and no number that is not a text, keeps them from it. -/
theorem json_well_formed_iff (layout : Layout) (cursor : Cursor) (text : Text)
    (written : (layout.write .json cursor).text.result = .ok text) :
    (IsDocument text ↔ ∀ row ∈ cursor.left, ∀ field ∈ writtenCells layout row, Spelled layout field.1 field.2) ∧
      (IsDocument text → IsObjects cursor.left.length text) := by
  obtain ⟨writtens, made, rfl⟩ := rows_written written
  refine ⟨document_iff made, fun well => ?_⟩
  have unclosed (text rest : Text) : ¬ Object (']' :: text) rest := by
    intro object
    cases object
  have objects := rows_enclosed object_takes object_bare unclosed made
  rw [rows_shape]
  exact .around .done (.items ((objects _ _).mpr ⟨rfl, rfl, (document_iff made).mp well⟩)) .done

def amount : Column := { name := "n", kind := .number, sqlType := "INTEGER" }

def flag : Column := { name := "b", kind := .boolean, sqlType := "BOOLEAN" }

/-- Numbers, each with a flag. -/
def readings : Layout :=
  { table := { engine := .sqlite, options := { tableName := "readings" }, columns := [amount, flag] } }

def readingRows : List Row := [[.text " -2.50e3 ", .bool true], [.text "n/a", .null], [.int 7]]

def readingText : Text :=
  "[\r\n\x7b\"_id_\":\"\",\"n\": -2.50e3 ,\"b\":true\x7d,\r\n" ++
    "\x7b\"_id_\":\"\",\"n\":\"n/a\",\"b\":null\x7d,\r\n\x7b\"_id_\":\"\",\"n\":7\x7d\r\n]"

private theorem readings_spelled : ∀ row ∈ readingRows, ∀ field ∈ writtenCells readings row,
    Spelled readings field.1 field.2 := by
  have padded : IsPadded " -2.50e3 " := by
    have digits (digits : Text) (only : digits.all (fun c => decide (c.isDigit = true)) = true)
        (some : digits ≠ []) : IsDigits digits := ⟨some, each_of_all only⟩
    have two := digits ['2'] rfl (List.cons_ne_nil _ _)
    have fifty := digits ['5', '0'] rfl (List.cons_ne_nil _ _)
    have three := digits ['3'] rfl (List.cons_ne_nil _ _)
    refine ⟨[' '], ['-', '2', '.', '5', '0', 'e', '3'], [' '], rfl, each_of_all rfl, ?_, each_of_all rfl⟩
    exact ⟨['-'], ['2'], ['.', '5', '0'], ['e', '3'], rfl, .inr rfl, ⟨two, by decide⟩, .inr ⟨_, rfl, fifty⟩,
      .inr ⟨'e', [], ['3'], rfl, .inl rfl, .inl rfl, three⟩⟩
  have unnumbered (cell : Cell) : Spelled readings flag cell := fun verbatim => absurd verbatim.1 (by decide)
  have cells (row : Row) : writtenCells readings row = cellsOf [amount, flag] row :=
    List.filter_eq_self.mpr fun _ _ => rfl
  simp only [readingRows, cells, cellsOf, List.forall_mem_cons, List.not_mem_nil, false_implies, implies_true,
    and_true, unnumbered]
  refine ⟨?_, ?_, ?_⟩
  · intro _ text read _
    cases read
    exact padded
  · intro _ text read number
    cases read
    cases number
  · intro _ text read _
    cases read

/-- A number with spaces around it, a text that is no number, and a number of the database. -/
theorem readings_well_formed :
    (readings.write .json { rows := readingRows }).text.result = .ok readingText ∧ IsObjects 3 readingText := by
  have written : (readings.write .json { rows := readingRows }).text.result = .ok readingText := rfl
  obtain ⟨well, objects⟩ := json_well_formed_iff readings _ _ written
  exact ⟨written, objects (well.mpr readings_spelled)⟩

/-- A number with a plus sign is written as it is, which is no number of JSON texts. -/
theorem plus_sign_kept :
    (readings.write .json { rows := [[.text "+5"]] }).text.result =
        .ok "[\r\n\x7b\"_id_\":\"\",\"n\":+5\x7d\r\n]" ∧
      ¬ IsDocument "[\r\n\x7b\"_id_\":\"\",\"n\":+5\x7d\r\n]" := by
  have written : (readings.write .json { rows := [[.text "+5"]] }).text.result =
        .ok "[\r\n\x7b\"_id_\":\"\",\"n\":+5\x7d\r\n]" := rfl
  refine ⟨written, fun well => ?_⟩
  obtain ⟨writtens, made, same⟩ := rows_written written
  rw [same, document_iff made] at well
  have field : (amount, .text "+5") ∈ writtenCells readings [.text "+5"] := List.mem_cons_self
  have padded := well _ List.mem_cons_self _ field ⟨rfl, rfl, .inl rfl⟩ "+5" rfl rfl
  exact absurd (padded_start padded) (by decide)

end TableGate.JsonWellFormed
