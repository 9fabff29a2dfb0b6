import TableGate.Body
import TableGate.Proofs.RowIdentity

/-! What is sent of a row and what is received of it. Of every field a text, null or nothing is
sent; a row is written as soon as this is known of all its fields, and the row that is received
holds what the codecs make of the texts. -/
namespace TableGate.RowTransport
open Fallible KeyCondition RowIdentity

/-- Rows are written as their codecs write them: no number is rounded, no point in time has a
format of its own, and no function is applied to a field. -/
structure Plain (layout : Layout) : Prop where
  unrounded : layout.table.options.numberDecimals = none
  unformatted : layout.format = none
  unaggregated : Unaggregated layout

/-- What is sent of a field: nothing if it is not selected or has no cell. -/
def sent (layout : Layout) (field : Column × Cell) : Except Fault Wire :=
  if layout.isSelected field.1 && !field.2.isUndefined then
    field.1.serialize layout.table.engine field.2
  else .ok .absent

/-- The cell that is received where a value was sent. -/
def received (column : Column) : Wire → Except Fault Cell
  | .text text => column.deserialize (.text text)
  | .null => .ok .null
  | .absent => .ok .undefined

/-- What is sent of a field and what is received of it. -/
def carried (layout : Layout) (field : Column × Cell) : Except Fault (Wire × Cell) := do
  let wire ← sent layout field
  let cell ← received field.1 wire
  .ok (wire, cell)

/-- The row that is received of a row, or none if nothing of it is sent. -/
def returned (layout : Layout) (row : Row) : Except Fault (Option Row) := do
  let cells ← (cellsOf layout.table.columns row).mapM (carried layout)
  .ok (if cells.any (·.1 != .absent) then some (cells.map (·.2)) else none)

/-- A value in its disguise. -/
def hide (layout : Layout) (seed : Text) (column : Column) : Wire → Wire
  | .text text => .text (layout.disguise seed column text)
  | wire => wire

variable {layout : Layout} {row : Row} {column : Column} {cell : Cell} {wire : Wire} {seed : Text}

/-! ### Operations with records -/

theorem result_bind {α β : Type} (first : Logged α) (next : α → Logged β) :
    (first >>= next).result = first.result >>= fun value => (next value).result := by
  obtain ⟨records, result⟩ := first
  cases result <;> rfl

theorem result_mapM {α β : Type} (f : α → Logged β) (items : List α) :
    (items.mapM f).result = items.mapM fun item => (f item).result := by
  induction items with
  | nil => rfl
  | cons item items ih =>
    rw [List.mapM_cons, List.mapM_cons, result_bind]
    congr 1
    funext value
    rw [result_bind, ih]
    rfl

theorem result_foldlM {α state : Type} (f : state → α → Logged state) (items : List α)
    (start : state) : (items.foldlM f start).result =
      items.foldlM (fun current item => (f current item).result) start := by
  induction items generalizing start with
  | nil => rfl
  | cons item items ih =>
    rw [List.foldlM_cons, List.foldlM_cons, result_bind]
    simp only [ih]

theorem kept_result (row : Row) : row.kept.result = .ok (if row.hasData then some row else none) := by
  unfold Row.kept
  split <;> rfl

/-- The rows that are kept of those that are read are the ones with data. -/
theorem kept_of_read {α : Type} (read : α → Except Fault Row) (sources : List α) :
    (sources.mapM (fun source => do
      let row ← (read source : Logged Row)
      row.kept) >>= fun rows => pure (rows.filterMap id) : Logged (List Row)).result =
      (sources.mapM fun source => read source >>= fun row =>
        .ok (if row.hasData then some row else none)).map (List.filterMap id) := by
  rw [result_bind, result_mapM]
  have each (source : α) : (((read source : Logged Row) >>= fun row => row.kept).result) =
      read source >>= fun row => .ok (if row.hasData then some row else none) := by
    rw [result_bind]
    simp only [kept_result]
    rfl
  simp only [each]
  cases sources.mapM fun source => read source >>= fun row =>
    .ok (if row.hasData then some row else none) <;> rfl

/-- Up to the first fault rows are read like any list. -/
theorem mapRows_result {α : Type} (f : Row → Except Fault α) (rows : List Row) :
    (Cursor.mapRows f rows).1 = rows.mapM f := by
  induction rows with
  | nil => rfl
  | cons row rows ih =>
    rw [List.mapM_cons, Cursor.mapRows, ← ih]
    cases f row with
    | error fault => rfl
    | ok value =>
      cases found : (Cursor.mapRows f rows).1 <;>
        simp [Except.map, bind, Except.bind, found, pure, Except.pure]

/-- The text of rows as JSON is made of the texts of the rows. -/
theorem json_result (layout : Layout) (cursor : Cursor) : (layout.write .json cursor).text.result =
    (cursor.left.mapM layout.row).map fun writtens => Layout.jsonRows (writtens.map layout.jsonRow) := by
  have read : (cursor.readRows fun row => (layout.row row).map layout.jsonRow).1 =
      (cursor.left.mapM layout.row).map (List.map layout.jsonRow) :=
    (mapRows_result _ _).trans (mapM_map _ _ _)
  simp only [Layout.write, Layout.writeRows, read]
  cases cursor.left.mapM layout.row <;> rfl

/-- The place of a key leads to the value of the first entry with the key. -/
theorem place_of_key {α β : Type} [BEq α] (entries : List (α × β)) (key : α) :
    ((entries.map (·.1)).idxOf? key).bind ((entries.map (·.2))[·]?) =
      (entries.find? (·.1 == key)).map (·.2) := by
  induction entries with
  | nil => rfl
  | cons entry entries ih =>
    rw [List.map_cons, List.map_cons, List.idxOf?_cons, List.find?_cons]
    by_cases same : (entry.1 == key) = true
    · simp [same]
    · simp only [same, Bool.false_eq_true, ↓reduceIte]
      rw [← ih]
      cases List.idxOf? key (entries.map (·.1)) <;> simp

/-! ### Sending -/

private theorem serialize_undefined (engine : Engine) (column : Column) :
    ∃ wire, column.serialize engine Cell.undefined = .ok wire := by
  refine ⟨if column.kind = .number then .null else .absent, ?_⟩
  cases kind : column.kind <;>
    simp [Column.serialize, kind, Engine.readValue, DriverValue.toCell, Column.serializeRead, bind,
      Except.bind]

private theorem plain_sent (plain : Plain layout) (selected : layout.isSelected column = true) :
    layout.plain column cell = sent layout (column, cell) := by
  unfold Layout.plain sent
  cases cell.isUndefined with
  | true => simp
  | false =>
    rw [plain.unformatted, selected]
    have round (text : Text) : layout.round column text = .ok text := by
      simp [Layout.round, plain.unrounded]
    cases column.serialize layout.table.engine cell with
    | error fault => rfl
    | ok wire => cases wire <;> simp [bind, Except.bind, round, Except.map]

/-- The disguises of a row have their seed as soon as it is known what is sent of it. -/
theorem seed_total
    (each : ∀ field ∈ cellsOf layout.table.columns row, ∃ wire, sent layout field = .ok wire) :
    ∃ seed, layout.seed row = .ok seed := by
  have values : ∃ values, layout.table.keyValues false row = .ok values := by
    refine mapM_total fun field member => ?_
    obtain ⟨among, primary⟩ := List.mem_filter.mp member
    have written : ∃ wire, field.1.serialize layout.table.engine field.2 = .ok wire := by
      cases missing : field.2.isUndefined with
      | true =>
        have same : field.2 = .undefined := by
          cases found : field.2 <;> simp_all [Cell.isUndefined]
        rw [same]
        exact serialize_undefined _ _
      | false =>
        have each := each field among
        simpa [sent, key_selected primary, missing] using each
    obtain ⟨wire, written⟩ := written
    have text : ∃ text, layout.table.keyText field.1 field.2 = .ok text := by
      unfold Table.keyText
      rw [written]
      cases wire <;> exact ⟨_, rfl⟩
    obtain ⟨text, found⟩ := text
    exact ⟨_, bind_eq_ok.mpr ⟨text, found, rfl⟩⟩
  obtain ⟨values, found⟩ := values
  exact ⟨_, map_eq_ok.mpr ⟨values, found, rfl⟩⟩

/-- A row is written as soon as it is known what is sent of it. -/
theorem row_total (plain : Plain layout)
    (each : ∀ field ∈ cellsOf layout.table.columns row, ∃ wire, sent layout field = .ok wire) :
    ∃ written, layout.row row = .ok written := by
  obtain ⟨seed, seeded⟩ := seed_total each
  have total : ∀ field ∈ writtenCells layout row,
      ∃ shown, layout.field seed field.1 field.2 = .ok shown := by
    intro field member
    obtain ⟨among, selected⟩ := List.mem_filter.mp member
    obtain ⟨wire, found⟩ := each field among
    exact ⟨_, bind_eq_ok.mpr ⟨wire, (plain_sent plain selected).trans found, rfl⟩⟩
  obtain ⟨fields, written⟩ := mapM_total total
  exact ⟨_, bind_eq_ok.mpr ⟨seed, seeded, bind_eq_ok.mpr ⟨fields, written, rfl⟩⟩⟩

/-- What is written of a row is what is sent of its selected fields, in disguise. -/
theorem row_fields (plain : Plain layout) {written : WrittenRow} (shown : layout.row row = .ok written) :
    ∃ seed, List.Forall₂ (fun field shown => ∃ wire, sent layout field = .ok wire ∧
      shown = ⟨field.1, wire, hide layout seed field.1 wire⟩) (writtenCells layout row) written.fields := by
  obtain ⟨seed, -, shown⟩ := bind_eq_ok.mp shown
  obtain ⟨fields, found, same⟩ := bind_eq_ok.mp shown
  cases same
  refine ⟨seed, ?_⟩
  have selected : ∀ field ∈ writtenCells layout row, layout.isSelected field.1 = true :=
    fun field member => (List.mem_filter.mp member).2
  have both := (List.forall₂_and_left _ _).mpr ⟨selected, mapM_eq_ok_iff.mp found⟩
  refine both.imp fun field shown pair => ?_
  obtain ⟨wire, serialized, same⟩ := bind_eq_ok.mp pair.2
  cases same
  refine ⟨wire, (plain_sent plain pair.1).symm.trans serialized, ?_⟩
  cases wire <;> rfl

/-! ### Receiving -/

theorem carried_eq_ok {field : Column × Cell} {both : Wire × Cell} :
    carried layout field = .ok both ↔
      sent layout field = .ok both.1 ∧ received field.1 both.1 = .ok both.2 := by
  obtain ⟨wire, cell⟩ := both
  simp only [carried, bind_eq_ok, Except.ok.injEq, Prod.mk.injEq]
  constructor
  · rintro ⟨_, found, _, read, rfl, rfl⟩
    exact ⟨found, read⟩
  · rintro ⟨found, read⟩
    exact ⟨_, found, _, read, rfl, rfl⟩

/-- A cell is received exactly where something was sent. -/
theorem received_undefined (read : received column wire = .ok cell) :
    cell.isUndefined = (wire == .absent) := by
  cases wire with
  | text text =>
    have defined := deserialize_defined read
    cases cell <;> simp_all [Cell.isUndefined]
  | null =>
    cases read
    rfl
  | absent =>
    cases read
    rfl

/-- A row that is received has data exactly if something was sent of it. -/
theorem received_data {fields : List (Column × Cell)} {cells : List (Wire × Cell)}
    (all : List.Forall₂ (fun field both => carried layout field = .ok both) fields cells) :
    Row.hasData (cells.map (·.2)) = cells.any (·.1 != .absent) := by
  induction all with
  | nil => rfl
  | cons head _ ih =>
    have same := received_undefined (carried_eq_ok.mp head).2
    simp only [Row.hasData, List.map_cons, List.any_cons, same] at ih ⊢
    rw [ih]
    rfl

/-- A value in disguise that is found again passes its codec as it was sent. -/
theorem readWire_hidden {media : Media} {text shown : Text} (plain : Plain layout)
    (reversible : Reversible layout.table)
    (visible : ∀ hasher, layout.table.hasher = some hasher → ∀ value seed, value ≠ [] →
      hasher.encode value seed ≠ [])
    (found : media.decode shown = .ok (layout.disguise seed column text)) :
    layout.table.readWire column media shown = column.deserialize (.text text) := by
  have hashed : layout.isHashed column = layout.table.isHashed column := by
    simp [Layout.isHashed, uncovered plain.unaggregated]
  unfold Table.readWire
  rw [found]
  unfold Layout.disguise
  cases given : layout.table.hasher with
  | none => rfl
  | some hasher =>
    by_cases disguised : (!text.isEmpty && layout.isHashed column) = true
    · have some : text ≠ [] := by
        rintro rfl
        cases disguised
      have shown : hasher.encode text (column.name ++ ' ' :: seed) ≠ [] := visible hasher given _ _ some
      have read : hasher.decode (hasher.encode text (column.name ++ ' ' :: seed)) = text :=
        reversible hasher given _ _
      have own : layout.table.isHashed column = true := by
        rw [← hashed]
        exact (Bool.and_eq_true_iff.mp disguised).2
      simp [disguised, bind, Except.bind, shown, own, read]
    · rw [hashed] at disguised
      simp [hashed, disguised, bind, Except.bind]

end TableGate.RowTransport
