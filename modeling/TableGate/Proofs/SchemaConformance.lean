import TableGate.OpenApi
import TableGate.Proofs.JsonRoundTrip
import TableGate.Proofs.JsonWellFormed

/-! Rows conform to the schema of their table. What the description of the interface promises of a row is
decided from the fields alone, and what is written of it from its cells; whatever the cells are, the object
of a row has every property of the schema, each with a value that the schema of the property admits. -/
namespace TableGate.SchemaConformance
open DecimalReading Fallible JsonReading JsonRoundTrip JsonWellFormed Layout OpenApi RowIdentity RowTransport
open Text TextFacts WrittenNumbers
open JsonGrammar (IsNumber)

/-! ### Schemas -/

/-- Whether a value is of a type. Only finite numbers are numbers. -/
def hasType (name : Text) : Json → Bool
  | .null => name == "null"
  | .bool _ => name == "boolean"
  | .int _ => name == "number"
  | .float number => name == "number" && number.isFinite
  | .text _ => name == "string"
  | .array _ => name == "array"
  | .object _ => name == "object"

/-- The value of a property, if there is an object that has it. -/
def property? (key : Text) : Json → Option Json
  | .object entries => Json.lookup? entries key
  | _ => none

/-- Whether a property that is asked for is there. Nothing is asked for of values that are no objects. -/
def hasRequired (value : Json) : Json → Bool
  | .text key =>
    match value with
    | .object entries => (Json.lookup? entries key).isSome
    | _ => true
  | _ => false

mutual

/-- Whether a value is one that a schema admits. -/
def admits : (schema value : Json) → Bool
  | .object rules, value => admitsRules rules value
  | .bool all, _ => all
  | _, _ => false
termination_by structural schema => schema

/-- Whether a value follows every rule of a schema. -/
def admitsRules : List (Text × Json) → Json → Bool
  | [], _ => true
  | rule :: rules, value => admitsRule rule value && admitsRules rules value
termination_by structural rules => rules

/-- Whether a value follows one rule. Other keywords than those of the schemas of rows ask for nothing. -/
def admitsRule : Text × Json → Json → Bool
  | (keyword, .text name), value => keyword != "type" || hasType name value
  | (keyword, .array items), value =>
    if keyword == "anyOf" then admitsAny items value
    else keyword != "required" || items.all (hasRequired value)
  | (keyword, .object properties), value => keyword != "properties" || admitsEach properties value
  | _, _ => true
termination_by structural rule => rule

/-- Whether one of several schemas admits a value. -/
def admitsAny : List Json → Json → Bool
  | [], _ => false
  | schema :: schemas, value => admits schema value || admitsAny schemas value
termination_by structural schemas => schemas

/-- Whether the properties that a value has are admitted by their schemas. -/
def admitsEach : List (Text × Json) → Json → Bool
  | [], _ => true
  | property :: properties, value => admitsProperty property value && admitsEach properties value
termination_by structural properties => properties

/-- Whether a property of a value, if it is there, is admitted by its schema. -/
def admitsProperty : Text × Json → Json → Bool
  | (key, schema), value =>
    match property? key value with
    | some content => admits schema content
    | none => true
termination_by structural property => property

end

variable {table : Table} {layout : Layout} {column : Column} {cell : Cell} {row : Row} {text : Text}
  {wire : Wire} {value : Json} {entries : List (Text × Json)}

theorem admitsEach_eq (properties : List (Text × Json)) (value : Json) :
    admitsEach properties value = properties.all (admitsProperty · value) := by
  induction properties with
  | nil => rfl
  | cons property properties ih => rw [admitsEach, ih, List.all_cons]

/-- A field's schema admits the values of its type, and null unless the field is never null. -/
theorem admits_fieldSchema (table : Table) (column : Column) (value : Json) :
    admits (fieldSchema table column) value =
      (hasType (typeName table column) value || (!column.isNotNull && hasType "null" value)) := by
  have type (name : Text) : admits (object [("type", .text name)]) value = hasType name value := by
    show ((false || hasType name value) && true) = _
    rw [Bool.false_or, Bool.and_true]
  unfold fieldSchema
  cases column.isNotNull with
  | true =>
    rw [if_pos rfl, type, Bool.not_true, Bool.false_and, Bool.or_false]
  | false =>
    show ((admits (object [("type", .text (typeName table column))]) value ||
      (admits (object [("type", .text "null")]) value || false)) && true) = _
    rw [type, type, Bool.or_false, Bool.and_true, Bool.not_false, Bool.true_and]

/-- An object is admitted as a row if its properties are admitted and none of the key is missing. -/
theorem admits_rowSchema (table : Table) (entries : List (Text × Json)) :
    admits (rowSchema table) (.object entries) =
      ((properties table).all (admitsProperty · (.object entries)) &&
        table.keys.all fun column => (Json.lookup? entries column.name).isSome) := by
  show (true && ((false || admitsEach (properties table) (.object entries)) &&
    ((false || (table.keys.map fun column => Json.text column.name).all (hasRequired (.object entries))) &&
      true))) = _
  rw [Bool.true_and, Bool.false_or, Bool.false_or, Bool.and_true, admitsEach_eq, List.all_map]
  rfl

/-! ### Cells -/

/-- The cells that a field is made for: a value of its kind that its native type is made for, or null unless
the field is never null. -/
def Fills (engine : Engine) (column : Column) : Cell → Prop
  | .undefined => False
  | .null => column.isNotNull = false
  | .float number =>
    column.kind = .number ∧ engine.typeClass column.sqlType = .number ∧ Representable number
  | cell => Holds engine column cell

/-- What is sent of such a cell. -/
private def Fits (column : Column) : Wire → Prop
  | .absent => False
  | .null => column.isNotNull = false
  | .text text => (column.kind = .number → IsNumber text ∧ ReadsFinite text) ∧
      (column.kind = .boolean → ∃ flag, Wire.text text = wireOf (.bool flag))

private theorem serialize_float {engine : Engine} {number : Binary64} (kind : column.kind = .number)
    (type : engine.typeClass column.sqlType = .number)
    (printed : Column.numberText (.float number) = .ok text) :
    column.serialize engine (.cell (.float number)) = .ok (.text text) := by
  have read : engine.readValue (.cell (.float number)) column.sqlType = .ok (.float number) := by
    simp [Engine.readValue, DriverValue.toCell, type]
  rw [Column.serialize_of_read (by simp [kind]) read]
  simp only [Column.serializeRead, kind, printed]
  rfl

private theorem serialize_fits {engine : Engine} (filled : Fills engine column cell) :
    ∃ wire, column.serialize engine cell = .ok wire ∧ Fits column wire := by
  have held (held : Holds engine column cell) (defined : cell.isUndefined = false)
      (fits : Fits column (wireOf cell)) : ∃ wire, column.serialize engine cell = .ok wire ∧ Fits column wire :=
    ⟨_, serialize_held held defined, fits⟩
  cases cell with
  | undefined => exact filled.elim
  | null => exact held trivial rfl filled
  | text text =>
    have kind : column.kind = .string := filled
    exact held filled rfl ⟨by simp [kind], by simp [kind]⟩
  | bool flag => exact held filled rfl ⟨by simp [filled.1], fun _ => ⟨flag, rfl⟩⟩
  | int n =>
    obtain ⟨kind, -, small⟩ := id filled
    refine held filled rfl ⟨fun _ => ⟨integer_number (integer_text small), integer_finite ?_⟩, by simp [kind]⟩
    exact Nat.le_trans small.le FiniteIntegers.integerBound_le
  | bytes bytes => exact held filled rfl ⟨by simp [filled.1], by simp [filled.1]⟩
  | dateTime d => exact held filled rfl ⟨by simp [filled.1], by simp [filled.1]⟩
  | float number =>
    obtain ⟨kind, type, representable⟩ := filled
    obtain ⟨text, printed, spelled, finite⟩ := float_finite representable
    exact ⟨_, serialize_float kind type printed, fun _ => ⟨spelled, finite⟩, by simp [kind]⟩
  | list items => exact False.elim filled
  | dict entries => exact False.elim filled

/-- Rounding writes a finite number, too. -/
private theorem round_fits {rounded : Text} (fits : Fits column (.text text))
    (made : layout.round column text = .ok rounded) : Fits column (.text rounded) := by
  unfold Layout.round at made
  split at made
  · rename_i places number decimals found
    split at made
    · cases made
      exact fits
    · rename_i chosen
      have kind : column.kind = .number := by
        by_contra other
        simp [other] at chosen
      split at made
      · cases made
      · cases made
        obtain ⟨-, read, same, within⟩ := fits.1 kind
        rw [same] at found
        cases found
        exact ⟨fun _ => ⟨fixed_number within.isFinite places, fixed_finite within places⟩, by simp [kind]⟩
  · cases made
    exact fits

/-- The number of places is one that numbers can be written with. -/
def PlacesFit (table : Table) : Prop :=
  ∀ places, table.options.numberDecimals = some places → places < placesLimit

private theorem round_total (places : PlacesFit layout.table) (column : Column) (text : Text) :
    ∃ rounded, layout.round column text = .ok rounded := by
  unfold Layout.round
  split
  · rename_i count number decimals found
    split
    · exact ⟨_, rfl⟩
    · rw [if_neg (Nat.not_le.mpr (places count decimals))]
      exact ⟨_, rfl⟩
  · exact ⟨_, rfl⟩

/-! ### Fields -/

/-- The layout of whole rows: with every field, no functions and no formatter. -/
def whole (table : Table) : Layout := { table }

private theorem filled_defined {engine : Engine} (filled : Fills engine column cell) :
    cell.isUndefined = false := by
  cases cell with
  | undefined => exact filled.elim
  | _ => rfl

/-- What is written of a cell is what is sent of it, rounded. -/
private theorem plain_eq (filled : Fills table.engine column cell) : (whole table).plain column cell =
    column.serialize table.engine cell >>= fun wire =>
      match wire with
      | .text text => ((whole table).round column text).map .text
      | wire => .ok wire := by
  unfold Layout.plain
  rw [filled_defined filled, if_neg Bool.false_ne_true]
  rfl

private theorem plain_fits (filled : Fills table.engine column cell)
    (made : (whole table).plain column cell = .ok wire) : Fits column wire := by
  obtain ⟨sent, serialized, fits⟩ := serialize_fits filled
  rw [plain_eq filled, serialized] at made
  cases sent with
  | text text =>
    obtain ⟨rounded, round, rfl⟩ := map_eq_ok.mp made
    exact round_fits fits round
  | null =>
    cases made
    exact fits
  | absent => exact fits.elim

private theorem plain_total (places : PlacesFit table) (filled : Fills table.engine column cell) :
    ∃ wire, (whole table).plain column cell = .ok wire := by
  obtain ⟨sent, serialized, fits⟩ := serialize_fits filled
  rw [plain_eq filled, serialized]
  cases sent with
  | text text =>
    obtain ⟨rounded, round⟩ := @round_total (whole table) places column text
    exact ⟨_, map_eq_ok.mpr ⟨rounded, round, rfl⟩⟩
  | null => exact ⟨_, rfl⟩
  | absent => exact fits.elim

private theorem whole_hashed (column : Column) : (whole table).isHashed column = table.isHashed column := by
  simp [Layout.isHashed, whole]

/-- A value in quotes is a text for the schema. -/
private theorem typeName_quoted (fits : Fits column (.text text))
    (quoted : (whole table).isBare column text = false) : typeName table column = "string" := by
  unfold typeName
  split
  · rename_i kind
    simp [Layout.isBare, kind] at quoted
  · rename_i kind
    -- A number that is sent is a finite one, so that nothing but its disguise brings it into quotes.
    obtain ⟨-, read, found, -⟩ := fits.1 kind
    have hashed : table.isHashed column = true := by
      simpa [Layout.isBare, kind, whole_hashed, found] using quoted
    rw [if_pos hashed]
  · rfl

/-- A value without quotes is not disguised, and it is read as one of the type that the schema names. -/
private theorem bare_admitted (fits : Fits column (.text text))
    (bare : (whole table).isBare column text = true) : (whole table).isHashed column = false ∧
      ∃ value, ReadsAs (jsonInside text) value ∧ hasType (typeName table column) value = true := by
  simp only [Layout.isBare, Bool.or_eq_true, Bool.and_eq_true, beq_iff_eq, Bool.not_eq_true'] at bare
  rcases bare with kind | ⟨⟨kind, visible⟩, finite⟩
  · have type : typeName table column = "boolean" := by
      rw [typeName, kind]
    refine ⟨by simp [whole_hashed, Table.isHashed, kind], ?_⟩
    rw [type]
    obtain ⟨flag, same⟩ := fits.2 kind
    cases flag <;> cases same
    · exact ⟨.bool false, reads_bool false, rfl⟩
    · exact ⟨.bool true, reads_bool true, rfl⟩
  · have type : typeName table column = "number" := by
      rw [whole_hashed] at visible
      simp only [typeName, kind, visible, Bool.false_eq_true, ↓reduceIte]
    have spelled := (fits.1 kind).1
    obtain ⟨value, reads, numeric⟩ := reads_finite spelled finite
    refine ⟨visible, value, by rwa [jsonInside_number spelled], ?_⟩
    rw [type]
    cases value with
    | int n => rfl
    | float number => exact numeric
    | _ => cases numeric

/-- What is written of a field is read as a value that its schema admits. -/
private theorem value_admitted {seed : Text} {field : WrittenField} (filled : Fills table.engine column cell)
    (made : (whole table).field seed column cell = .ok field) :
    field.column = column ∧ ∃ shown value, (whole table).jsonValue field = some shown ∧
      ReadsAs shown value ∧ admits (fieldSchema table column) value = true := by
  obtain ⟨plain, written, same⟩ := bind_eq_ok.mp made
  cases same
  have fits := plain_fits filled written
  refine ⟨rfl, ?_⟩
  simp only [admits_fieldSchema]
  cases plain with
  | absent => exact fits.elim
  | null =>
    have nullable : column.isNotNull = false := fits
    exact ⟨_, .null, rfl, reads_null, by simp [nullable, hasType]⟩
  | text text =>
    simp only [Layout.jsonValue]
    cases bare : (whole table).isBare column text with
    | false => exact ⟨_, _, rfl, reads_string _, by rw [typeName_quoted fits bare]; rfl⟩
    | true =>
      obtain ⟨visible, value, reads, type⟩ := bare_admitted fits bare
      exact ⟨_, value, rfl, by rwa [if_pos rfl, undisguised visible], by rw [type, Bool.true_or]⟩

/-! ### Rows -/

/-- Every field has a cell that it is made for. -/
def Filled (table : Table) (row : Row) : Prop :=
  ∀ field ∈ cellsOf table.columns row, Fills table.engine field.1 field.2

/-- Entries with the names of properties, each with a value that the schema of its property admits. -/
def Answers (properties entries : List (Text × Json)) : Prop :=
  List.Forall₂ (fun property entry => entry.1 = property.1 ∧ admits property.2 entry.2 = true)
    properties entries

/-- The entries of an object that has the properties of a table's rows and no others, each with a value that
its schema admits. -/
structure Conforms (table : Table) (entries : List (Text × Json)) : Prop where
  answers : Answers (properties table) entries
  admitted : admits (rowSchema table) (.object entries) = true

private theorem named_keys (named : Named table) :
    (table.settings.idField :: table.columns.map (·.name)).Nodup := by
  refine List.nodup_cons.mpr ⟨fun member => ?_, named.distinct⟩
  obtain ⟨column, among, same⟩ := List.mem_map.mp member
  exact named.apart column among same

private theorem properties_eq (named : Named table) : properties table =
    (table.settings.idField, object [("type", .text "string"), ("readOnly", .bool true)]) ::
      table.columns.map fun column => (column.name, fieldSchema table column) := by
  refine distinctKeys_of_nodup ?_
  rw [List.map_cons, List.map_map]
  exact named_keys named

private theorem Answers.distinct {properties : List (Text × Json)} (answers : Answers properties entries)
    (distinct : (properties.map (·.1)).Nodup) : (entries.map (·.1)).Nodup := by
  have keys : entries.map (·.1) = properties.map (·.1) := by
    rw [← List.forall₂_eq_eq_eq, List.forall₂_map_left_iff, List.forall₂_map_right_iff]
    exact answers.flip.imp fun _ _ own => own.1
  rwa [keys]

/-- Of properties with different names each finds its own entry. -/
private theorem Answers.found {properties : List (Text × Json)} (answers : Answers properties entries)
    (distinct : (properties.map (·.1)).Nodup) :
    ∀ property ∈ properties, ∃ content, Json.lookup? entries property.1 = some content ∧
      admits property.2 content = true := by
  intro property member
  obtain ⟨⟨key, content⟩, among, same, own⟩ := (partners answers).1 property member
  have found := find_of_mem (answers.distinct distinct) among
  refine ⟨content, ?_, own⟩
  rw [Json.lookup?, ← same, found]
  rfl

/-- Where every property has its entry, the whole object is admitted. -/
private theorem admitted_of_answers (named : Named table) (answers : Answers (properties table) entries) :
    admits (rowSchema table) (.object entries) = true := by
  have found := answers.found (nodup_distinctKeys _)
  rw [admits_rowSchema, Bool.and_eq_true, List.all_eq_true, List.all_eq_true]
  constructor
  · intro property member
    obtain ⟨content, shown, own⟩ := found property member
    rw [admitsProperty, property?, shown]
    exact own
  · intro column key
    have listed : (column.name, fieldSchema table column) ∈ properties table := by
      rw [properties_eq named]
      exact List.mem_cons_of_mem _ (List.mem_map_of_mem (List.mem_filter.mp key).1)
    obtain ⟨content, shown, -⟩ := found _ listed
    rw [shown]
    rfl

private theorem fields_read {seed : Text} {cells : List (Column × Cell)} {fields : List WrittenField}
    (filled : ∀ field ∈ cells, Fills table.engine field.1 field.2)
    (made : List.Forall₂ (fun cell field => (whole table).field seed cell.1 cell.2 = .ok field) cells fields) :
    ∃ values : List (Text × Json), List.Forall₂ (fun other value => other.1 = value.1 ∧ ReadsAs other.2 value.2)
      (fields.filterMap fun field => ((whole table).jsonValue field).map (field.column.name, ·)) values ∧
      List.Forall₂ (fun cell value => value.1 = cell.1.name ∧ admits (fieldSchema table cell.1) value.2 = true)
        cells values := by
  induction made with
  | nil => exact ⟨[], .nil, .nil⟩
  | @cons cell field cells fields head tail ih =>
    obtain ⟨first, others⟩ := List.forall_mem_cons.mp filled
    obtain ⟨values, read, admitted⟩ := ih others
    obtain ⟨column, text, value, shown, reads, own⟩ := value_admitted first head
    refine ⟨(cell.1.name, value) :: values, ?_, .cons ⟨rfl, own⟩ admitted⟩
    rw [List.filterMap_cons, shown, column]
    exact .cons ⟨rfl, reads⟩ read

private theorem whole_cells (table : Table) (row : Row) :
    writtenCells (whole table) row = cellsOf table.columns row := List.filter_eq_self.mpr fun _ _ => rfl

/-- The text of a row is read as an object that conforms to the schema. -/
private theorem row_conforms {written : WrittenRow} (named : Named table) (filled : Filled table row)
    (made : (whole table).row row = .ok written) :
    ∃ entries, IsItem ((whole table).jsonRow written) (.object entries) ∧ Conforms table entries := by
  obtain ⟨seed, fields⟩ := row_made made
  rw [whole_cells] at fields
  obtain ⟨values, read, admitted⟩ := fields_read filled fields
  have columns := cellsOf_columns table.columns row
  have answers : Answers (properties table) ((table.settings.idField, .text written.id) :: values) := by
    rw [properties_eq named]
    refine .cons ⟨rfl, rfl⟩ ?_
    nth_rewrite 1 [← columns]
    rw [List.map_map, List.forall₂_map_left_iff]
    exact admitted
  have distinct := answers.distinct (nodup_distinctKeys _)
  exact ⟨_, row_item read distinct, answers, admitted_of_answers named answers⟩

private theorem rows_conform {rows : List Row} {writtens : List WrittenRow} (named : Named table)
    (filled : ∀ row ∈ rows, Filled table row)
    (made : List.Forall₂ (fun row written => (whole table).row row = .ok written) rows writtens) :
    ∃ objects : List (List (Text × Json)),
      List.Forall₂ IsItem (writtens.map (whole table).jsonRow) (objects.map Json.object) ∧
      objects.length = rows.length ∧ ∀ entries ∈ objects, Conforms table entries := by
  induction made with
  | nil => exact ⟨[], .nil, rfl, List.forall_mem_nil _⟩
  | cons head tail ih =>
    obtain ⟨first, others⟩ := List.forall_mem_cons.mp filled
    obtain ⟨objects, items, count, conform⟩ := ih others
    obtain ⟨entries, item, own⟩ := row_conforms named first head
    exact ⟨entries :: objects, .cons item items, congrArg (· + 1) count,
      List.forall_mem_cons.mpr ⟨own, conform⟩⟩

private theorem row_written (places : PlacesFit table) (filled : Filled table row) :
    ∃ written, (whole table).row row = .ok written := by
  obtain ⟨seed, seeded⟩ : ∃ seed, (whole table).seed row = .ok seed := by
    refine seed_total fun field member => ?_
    obtain ⟨wire, serialized, -⟩ := serialize_fits (filled field member)
    refine ⟨wire, ?_⟩
    unfold sent
    rw [filled_defined (filled field member)]
    exact serialized
  have total : ∀ field ∈ writtenCells (whole table) row,
      ∃ shown, (whole table).field seed field.1 field.2 = .ok shown := by
    rw [whole_cells]
    intro field member
    obtain ⟨wire, written⟩ := plain_total places (filled field member)
    exact ⟨_, bind_eq_ok.mpr ⟨wire, written, rfl⟩⟩
  obtain ⟨fields, written⟩ := mapM_total total
  exact ⟨_, bind_eq_ok.mpr ⟨seed, seeded, bind_eq_ok.mpr ⟨fields, written, rfl⟩⟩⟩

/-- Rows whose cells are those that their fields are made for are written as JSON, unless numbers are to be
written with too many places; and whatever is written is read as one object for each row that conforms to the
published schema of the table, with or without disguised keys, rounded numbers and null. -/
theorem written_rows_conform (table : Table) (cursor : Cursor) (named : Named table)
    (filled : ∀ row ∈ cursor.left, Filled table row) :
    (PlacesFit table → ∃ text, ((whole table).write .json cursor).text.result = .ok text) ∧
      ∀ text, ((whole table).write .json cursor).text.result = .ok text →
        ∃ objects : List (List (Text × Json)), Json.parse text = .ok (.array (objects.map .object)) ∧
          objects.length = cursor.left.length ∧ ∀ entries ∈ objects, Conforms table entries := by
  constructor
  · intro places
    obtain ⟨writtens, made⟩ := mapM_total fun row member => row_written places (filled row member)
    exact ⟨_, by rw [json_result, made]; rfl⟩
  · intro text written
    obtain ⟨writtens, made, rfl⟩ := rows_written written
    obtain ⟨objects, items, count, conform⟩ := rows_conform named filled made
    exact ⟨objects, rows_shown items, count, conform⟩

/-- Prices with two places under keys in disguise. -/
def prices : Table where
  engine := .sqlite
  options := { tableName := "prices", numberDecimals := some 2 }
  hasher := some { encode := fun value _ => 'H' :: value, decode := List.tail }
  columns :=
    [{ name := "id", kind := .number, sqlType := "INTEGER", isPrimaryKey := true, isNotNull := true },
     { name := "price", kind := .number, sqlType := "REAL" },
     { name := "sold", kind := .boolean, sqlType := "BOOLEAN", isNotNull := true },
     { name := "note", kind := .string, sqlType := "TEXT" }]

/-- A price of two and a half, without a note. -/
def priceRow : Row := [.int 7, .float (.finite false 5 (-1)), .bool true, .null]

def priceText : Text :=
  "[\r\n\x7b\"_id_\":\"H7\",\"id\":\"H7\",\"price\":2.50,\"sold\":true,\"note\":null\x7d\r\n]"

private theorem prices_filled : ∀ row ∈ [priceRow], Filled prices row := by
  have types : Engine.typeClass .sqlite "INTEGER" = .number ∧ Engine.typeClass .sqlite "REAL" = .number ∧
      Engine.typeClass .sqlite "BOOLEAN" = .boolean := by
    decide +kernel
  obtain ⟨integer, real, boolean⟩ := types
  have small : (7 : Int).natAbs < FiniteIntegers.integerBound := by
    decide +kernel
  have representable : Representable (.finite false 5 (-1)) := by
    constructor <;> decide
  simp only [priceRow, prices, cellsOf, Filled, Fills, Holds, List.forall_mem_cons, List.not_mem_nil,
    false_implies, implies_true, and_true, integer, real, boolean, small, representable]

/-- A key in disguise, a rounded price and no note conform to the schema. -/
theorem price_conforms :
    ((whole prices).write .json { rows := [priceRow] }).text.result = .ok priceText ∧
      ∃ entries, Json.parse priceText = .ok (.array [.object entries]) ∧ Conforms prices entries := by
  have written : ((whole prices).write .json { rows := [priceRow] }).text.result = .ok priceText := by
    decide +kernel
  obtain ⟨-, conform⟩ := written_rows_conform prices { rows := [priceRow] } ⟨by decide, by decide⟩ prices_filled
  obtain ⟨objects, parsed, count, each⟩ := conform priceText written
  obtain ⟨entries, rfl⟩ := List.length_eq_one_iff.mp count
  exact ⟨written, entries, parsed, each entries List.mem_cons_self⟩

end TableGate.SchemaConformance
