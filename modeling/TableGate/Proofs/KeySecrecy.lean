import Mathlib.Data.List.Forall2
import TableGate.Proofs.RowTransport

/-! Disguised keys are hidden. Two rows that differ only in disguised fields, and there only in
values that the hasher takes to the same text, are written alike in every format: the seed, the
fields, the places of a number, the quotes and the row id depend on such a value through its
disguise alone. -/
namespace TableGate.KeySecrecy
open RowIdentity RowTransport

/-- Two results are alike if both are the same fault, or values that are related. -/
inductive Alike {α β : Type} (R : α → β → Prop) : Except Fault α → Except Fault β → Prop
  | fault (fault : Fault) : Alike R (.error fault) (.error fault)
  | value {first : α} {second : β} (related : R first second) : Alike R (.ok first) (.ok second)

/-- What the disguises of a row vary by. Without a seed nothing of the row is written. -/
def seedOf (layout : Layout) (row : Row) : Text :=
  match layout.seed row with
  | .ok seed => seed
  | .error _ => []

/-- Two cells of one field that an answer can't tell apart, under the seeds of their rows. -/
inductive Veiled (layout : Layout) (firstSeed secondSeed : Text) :
    Column × Cell → Column × Cell → Prop
  /-- Of a field without a disguise both rows have the same cell. -/
  | shown (column : Column) (cell : Cell) (plain : layout.isHashed column = false) :
    Veiled layout firstSeed secondSeed (column, cell) (column, cell)
  /-- Both rows have the same cell, of which no value is written that a disguise could change. -/
  | missing (column : Column) (cell : Cell)
    (nothing : ∀ text, column.serialize layout.table.engine cell = .ok (.text text) → text = []) :
    Veiled layout firstSeed secondSeed (column, cell) (column, cell)
  /-- The values of a disguised field become the same text. -/
  | hidden (column : Column) (firstCell secondCell : Cell) (firstText secondText : Text)
    (hasher : IdHasher) (given : layout.table.hasher = some hasher)
    (hashed : layout.isHashed column = true)
    (first : column.serialize layout.table.engine firstCell = .ok (.text firstText))
    (second : column.serialize layout.table.engine secondCell = .ok (.text secondText))
    (firstSome : firstText ≠ []) (secondSome : secondText ≠ [])
    (same : hasher.encode firstText (column.name ++ ' ' :: firstSeed) =
      hasher.encode secondText (column.name ++ ' ' :: secondSeed)) :
    Veiled layout firstSeed secondSeed (column, firstCell) (column, secondCell)

/-- Rows that agree but for disguised values that become the same text. -/
def Indistinct (layout : Layout) (first second : Row) : Prop :=
  List.Forall₂ (Veiled layout (seedOf layout first) (seedOf layout second))
    (cellsOf layout.table.columns first) (cellsOf layout.table.columns second)

/-- Written values of one field that show the same. What the codecs yield may differ only where
it is disguised. -/
structure Twins (layout : Layout) (first second : WrittenField) : Prop where
  column : first.column = second.column
  shown : first.shown = second.shown
  plain : first.plain = second.plain ∨
    layout.isHashed first.column = true ∧
      ∃ one other, first.plain = .text one ∧ second.plain = .text other

/-- Written rows whose fields show the same, with the same row id. -/
structure TwinRows (layout : Layout) (first second : WrittenRow) : Prop where
  fields : List.Forall₂ (Twins layout) first.fields second.fields
  id : first.id = second.id

variable {α β γ δ : Type} {R : α → β → Prop} {S : γ → δ → Prop} {layout : Layout}
  {firstSeed secondSeed : Text}

/-! ### Results that are alike -/

namespace Alike

theorem bind {first : Except Fault α} {second : Except Fault β} {f : α → Except Fault γ}
    {g : β → Except Fault δ} (alike : Alike R first second)
    (next : ∀ one other, R one other → Alike S (f one) (g other)) :
    Alike S (first >>= f) (second >>= g) := by
  cases alike with
  | fault fault => exact .fault fault
  | value related => exact next _ _ related

theorem map {first : Except Fault α} {second : Except Fault β} {f : α → γ} {g : β → δ}
    (alike : Alike R first second) (next : ∀ one other, R one other → S (f one) (g other)) :
    Alike S (first.map f) (second.map g) := by
  cases alike with
  | fault fault => exact .fault fault
  | value related => exact .value (next _ _ related)

theorem mapM {f : α → Except Fault γ} {g : β → Except Fault δ} {items : List α} {others : List β}
    (paired : List.Forall₂ R items others)
    (each : ∀ item other, R item other → Alike S (f item) (g other)) :
    Alike (List.Forall₂ S) (items.mapM f) (others.mapM g) := by
  induction paired with
  | nil => exact .value .nil
  | cons head _ ih =>
    simp only [List.mapM_cons]
    exact (each _ _ head).bind fun _ _ first => ih.bind fun _ _ rest => .value (.cons first rest)

theorem refl {Q : α → α → Prop} (reflexive : ∀ value, Q value value) (result : Except Fault α) :
    Alike Q result result :=
  match result with
  | .error cause => .fault cause
  | .ok one => .value (reflexive one)

/-- Alike results with the values that they are. -/
theorem known {first : Except Fault α} {second : Except Fault β} (alike : Alike R first second) :
    Alike (fun one other => first = .ok one ∧ second = .ok other) first second := by
  cases alike with
  | fault fault => exact .fault fault
  | value => exact .value ⟨rfl, rfl⟩

theorem eq {first second : Except Fault α} (alike : Alike Eq first second) : first = second := by
  cases alike with
  | fault fault => rfl
  | value same => rw [same]

end Alike

/-! ### Fields -/

private theorem hashed_number {column : Column} (hashed : layout.isHashed column = true) :
    column.kind = .number := by
  simp only [Layout.isHashed, Table.isHashed, Bool.and_eq_true, beq_iff_eq] at hashed
  exact hashed.1.1.2

/-- A disguised value is neither rounded nor written by the formatter. -/
private theorem plain_hashed {column : Column} {cell : Cell}
    (hashed : layout.isHashed column = true) (present : cell.isUndefined = false) :
    layout.plain column cell = column.serialize layout.table.engine cell := by
  have number := hashed_number hashed
  have unrounded (text : Text) : layout.round column text = .ok text := by
    unfold Layout.round
    split
    · simp [hashed]
    · rfl
  have codec (format : DateTime → Text) :
      column.serializeLocal layout.table.engine format cell =
        column.serialize layout.table.engine cell := by
    simp [Column.serializeLocal, number]
  unfold Layout.plain
  rw [present]
  cases layout.format <;>
    cases serialized : column.serialize layout.table.engine cell with
    | error fault => simp [codec, serialized, bind, Except.bind]
    | ok wire => cases wire <;> simp [codec, serialized, bind, Except.bind, unrounded, Except.map]

/-- The same cell twice is written alike if its value has the same disguise under both seeds. -/
private theorem field_same {column : Column} {cell : Cell}
    (same : ∀ text, layout.plain column cell = .ok (.text text) →
      layout.disguise firstSeed column text = layout.disguise secondSeed column text) :
    Alike (Twins layout) (layout.field firstSeed column cell)
      (layout.field secondSeed column cell) := by
  unfold Layout.field
  cases found : layout.plain column cell with
  | error fault => exact .fault fault
  | ok wire =>
    cases wire with
    | text text => exact .value ⟨rfl, congrArg Wire.text (same text found), .inl rfl⟩
    | null => exact .value ⟨rfl, rfl, .inl rfl⟩
    | absent => exact .value ⟨rfl, rfl, .inl rfl⟩

/-- Fields of cells that can't be told apart are written alike. -/
theorem field_alike {first second : Column × Cell}
    (veiled : Veiled layout firstSeed secondSeed first second) :
    Alike (Twins layout) (layout.field firstSeed first.1 first.2)
      (layout.field secondSeed second.1 second.2) := by
  have undisguised {column : Column} (plain : layout.isHashed column = false) (text : Text) :
      layout.disguise firstSeed column text = layout.disguise secondSeed column text := by
    unfold Layout.disguise
    split <;> simp [plain]
  cases veiled with
  | shown column cell plain => exact field_same fun text _ => undisguised plain text
  | missing column cell nothing =>
    refine field_same fun text written => ?_
    cases hashed : layout.isHashed column with
    | false => exact undisguised hashed text
    | true =>
      cases missing : cell.isUndefined with
      | true => simp [Layout.plain, missing] at written
      | false =>
        rw [plain_hashed hashed missing] at written
        obtain rfl := nothing text written
        unfold Layout.disguise
        split <;> rfl
  | hidden column firstCell secondCell firstText secondText hasher given hashed first second
      firstSome secondSome same =>
    have present {cell : Cell} {text : Text}
        (written : column.serialize layout.table.engine cell = .ok (.text text)) :
        cell.isUndefined = false := by
      cases cell with
      | undefined =>
        simp [Column.serialize, hashed_number hashed, Engine.readValue, DriverValue.toCell,
          Column.serializeRead, bind, Except.bind] at written
      | _ => rfl
    have encoded {seed text : Text} (some : text ≠ []) : layout.disguise seed column text =
        hasher.encode text (column.name ++ ' ' :: seed) := by
      simp [Layout.disguise, given, hashed, some]
    simp only [Layout.field, plain_hashed hashed (present first), first,
      plain_hashed hashed (present second), second, bind, Except.bind, encoded firstSome,
      encoded secondSome]
    exact .value ⟨rfl, congrArg Wire.text same, .inr ⟨hashed, firstText, secondText, rfl, rfl⟩⟩

/-! ### Rows -/

/-- The key of a row is read, or not, whatever its disguised values are. -/
private theorem keyText_alike {first second : Column × Cell}
    (veiled : Veiled layout firstSeed secondSeed first second) :
    Alike (fun _ _ => True) (layout.table.keyText first.1 first.2)
      (layout.table.keyText second.1 second.2) := by
  cases veiled with
  | shown | missing => exact .refl (fun _ => trivial) _
  | hidden column firstCell secondCell firstText secondText hasher given hashed first second =>
    simp only [Table.keyText, first, second, bind, Except.bind]
    exact .value trivial

private theorem same_column {first second : Column × Cell}
    (veiled : Veiled layout firstSeed secondSeed first second) : first.1 = second.1 := by
  cases veiled <;> rfl

private theorem filter_twins {first second : List WrittenField}
    (twins : List.Forall₂ (Twins layout) first second) :
    List.Forall₂ (Twins layout) (first.filter (·.column.isPrimaryKey))
      (second.filter (·.column.isPrimaryKey)) :=
  List.rel_filter (fun {_ _} twin => by simp [twin.column]) twins

private theorem seed_alike {first second : Row} (indistinct : Indistinct layout first second) :
    Alike (fun _ _ => True) (layout.seed first) (layout.seed second) := by
  have keys := List.rel_filter (p := fun key => key.1.isPrimaryKey)
    (q := fun key => key.1.isPrimaryKey)
    (fun {_ _} veiled => by simp [same_column veiled]) indistinct
  have values : Alike (List.Forall₂ fun _ _ => True) (layout.table.keyValues false first)
      (layout.table.keyValues false second) :=
    Alike.mapM keys fun _ _ veiled => (keyText_alike veiled).bind fun _ _ _ => .value trivial
  exact values.map fun _ _ _ => trivial

/-- What is made of the fields is the same if it is the same of fields that show the same. -/
private theorem map_twins {f : WrittenField → γ} {first second : List WrittenField}
    (same : ∀ one other, Twins layout one other → f one = f other)
    (twins : List.Forall₂ (Twins layout) first second) : first.map f = second.map f := by
  induction twins with
  | nil => rfl
  | cons head _ ih => simp [same _ _ head, ih]

/-- Rows that can't be told apart are written with the same values and the same row id. -/
theorem row_alike {first second : Row} (indistinct : Indistinct layout first second) :
    Alike (TwinRows layout) (layout.row first) (layout.row second) := by
  refine (seed_alike indistinct).known.bind fun firstSeed secondSeed seeds => ?_
  have firstOwn : seedOf layout first = firstSeed := by simp [seedOf, seeds.1]
  have secondOwn : seedOf layout second = secondSeed := by simp [seedOf, seeds.2]
  rw [Indistinct, firstOwn, secondOwn] at indistinct
  have selected := List.rel_filter (p := fun pair => layout.isSelected pair.1)
    (q := fun pair => layout.isSelected pair.1)
    (fun {_ _} veiled => by simp [same_column veiled]) indistinct
  refine (Alike.mapM selected fun _ _ veiled => field_alike veiled).bind fun one other twins => ?_
  have keys : (one.filter (·.column.isPrimaryKey)).map Layout.keyValue =
      (other.filter (·.column.isPrimaryKey)).map Layout.keyValue :=
    map_twins (fun _ _ twin => by rw [Layout.keyValue, Layout.keyValue, twin.shown])
      (filter_twins twins)
  exact .value ⟨twins, congrArg layout.table.settings.joinId keys⟩

/-! ### Writers -/

section Writers
variable {first second : WrittenRow}

private theorem json_same (twins : TwinRows layout first second) :
    layout.jsonRow first = layout.jsonRow second := by
  have entry (one other : WrittenField) (twin : Twins layout one other) :
      layout.jsonEntry one = layout.jsonEntry other := by
    have value : layout.jsonValue one = layout.jsonValue other := by
      obtain ⟨column, shown, plain | ⟨hashed, oneText, otherText, onePlain, otherPlain⟩⟩ := twin
      · rw [Layout.jsonValue, Layout.jsonValue, plain, shown, column]
      · -- a disguised value stands in quotes, whether it looks like a number or not
        have quoted (text : Text) : layout.isBare one.column text = false := by
          simp [Layout.isBare, hashed, hashed_number hashed]
        rw [Layout.jsonValue, Layout.jsonValue, onePlain, otherPlain, shown]
        simp only [← column, quoted]
        cases other.shown <;> rfl
    rw [Layout.jsonEntry, Layout.jsonEntry, value, twin.column]
  simp only [Layout.jsonRow, twins.id, List.flatMap_def, map_twins entry twins.fields]

private theorem csv_same (twins : TwinRows layout first second) :
    Layout.csvRow first = Layout.csvRow second := by
  have values := map_twins (f := fun field => Media.csv.encode field.shown)
    (fun _ _ twin => by rw [twin.shown]) twins.fields
  rw [Layout.csvRow, Layout.csvRow, twins.id, values]

private theorem form_same (twins : TwinRows layout first second) :
    layout.formRow first = layout.formRow second := by
  have parts := map_twins (f := Layout.part)
    (fun _ _ twin => by rw [Layout.part, Layout.part, twin.column, twin.shown]) twins.fields
  simp only [Layout.formRow, twins.id, List.flatMap_def, parts]

private theorem url_same (twins : TwinRows layout first second) :
    layout.urlRow first = layout.urlRow second := by
  have parameters := map_twins (f := Layout.parameter?)
    (fun _ _ twin => by rw [Layout.parameter?, Layout.parameter?, twin.column, twin.shown])
    twins.fields
  have found (fields : List WrittenField) :
      fields.filterMap Layout.parameter? = (fields.map Layout.parameter?).filterMap id := by
    rw [List.filterMap_map]
    rfl
  simp only [Layout.urlRow, twins.id, found, parameters]

/-- Each column takes its value from the front of the fields. -/
private theorem fill_same {fields others : List WrittenField}
    (twins : List.Forall₂ (Twins layout) fields others) (template : Text) (columns : List Column) :
    layout.fillFields template columns fields = layout.fillFields template columns others := by
  induction columns generalizing template fields others with
  | nil => rfl
  | cons column columns ih =>
    have value : Layout.fillField template column fields.head? =
        Layout.fillField template column others.head? := by
      cases twins with
      | nil => rfl
      | cons head _ => simp [Layout.fillField, head.shown]
    have rest : List.Forall₂ (Twins layout) fields.tail others.tail := by
      cases twins with
      | nil => exact .nil
      | cons _ rest => exact rest
    simp only [Layout.fillFields, value, ih rest, ih twins]

private theorem html_same (twins : TwinRows layout first second) (template : Text) :
    layout.htmlRow template first = layout.htmlRow template second := by
  simp only [Layout.htmlRow, twins.id, fill_same twins.fields]

end Writers

/-! ### Answers -/

section Answers
variable {first second : Cursor}

private theorem rows_same {write : WrittenRow → Text} {finish : List Text → Logged Text}
    (same : ∀ one other, TwinRows layout one other → write one = write other)
    (indistinct : List.Forall₂ (Indistinct layout) first.left second.left) :
    (layout.writeRows first write finish).text = (layout.writeRows second write finish).text := by
  have texts : Alike (List.Forall₂ Eq) (first.left.mapM fun row => (layout.row row).map write)
      (second.left.mapM fun row => (layout.row row).map write) :=
    Alike.mapM indistinct fun _ _ pair => (row_alike pair).map same
  rw [List.forall₂_eq_eq_eq] at texts
  simp only [Layout.writeRows, Cursor.readRows, mapRows_result, texts.eq]

private theorem one_form_same (indistinct : List.Forall₂ (Indistinct layout) first.left second.left) :
    (layout.writeForm first).text = (layout.writeForm second).text := by
  cases left : first.left with
  | nil =>
    rw [left] at indistinct
    have none := List.forall₂_nil_left_iff.mp indistinct
    simp [Layout.writeForm, Cursor.isAtEnd, left, none]
  | cons row rows =>
    rw [left] at indistinct
    obtain ⟨other, others, pair, rest, right⟩ := List.forall₂_cons_left_iff.mp indistinct
    have ended : others.isEmpty = rows.isEmpty := by cases rest <;> rfl
    have written := row_alike pair
    simp only [Layout.writeForm, Cursor.isAtEnd, Cursor.current, Cursor.left_advance, left, right,
      List.headD_cons, List.drop_succ_cons, List.drop_zero, List.isEmpty_cons, Bool.false_eq_true,
      ↓reduceIte, ended]
    cases found : layout.row row <;> cases shown : layout.row other <;> rw [found, shown] at written
    · cases written
      rfl
    · cases written
    · cases written
    · cases written with
      | value twins => simp only [form_same twins]

end Answers

/-- **Disguised keys are hidden.** In every media type and with every template, rows that agree
but for disguised values that become the same text are written to the same text, with the same
warnings, or fail with the same fault. -/
theorem disguised_keys_are_hidden (layout : Layout) (first second : Cursor)
    (indistinct : List.Forall₂ (Indistinct layout) first.left second.left) :
    (∀ media, (layout.write media first).text = (layout.write media second).text) ∧
      ∀ template, (layout.writeHtml template first).text = (layout.writeHtml template second).text := by
  refine ⟨fun media => ?_, fun template => ?_⟩
  · cases media with
    | json => exact rows_same (fun _ _ => json_same) indistinct
    | csv => exact rows_same (fun _ _ => csv_same) indistinct
    | formData => exact one_form_same indistinct
    | urlEncoded => exact rows_same (fun _ _ => url_same) indistinct
    | html => rfl
  · exact rows_same (fun _ _ twins => html_same twins template) indistinct

/-- Orders whose numbers are disguised by their first digit, and rounded elsewhere. -/
def sealedOrders : Table where
  engine := .sqlite
  options := { tableName := "orders", numberDecimals := some 2 }
  hasher := some { encode := fun value _ => 'H' :: value.take 1, decode := List.tail }
  columns := [
    { name := "id", kind := .number, sqlType := "INTEGER", isPrimaryKey := true },
    { name := "owner", kind := .number, sqlType := "INTEGER", isForeignKey := true },
    { name := "parent", kind := .number, sqlType := "INTEGER", isForeignKey := true },
    { name := "total", kind := .number, sqlType := "REAL" }]

/-- Two orders of different owners are written alike, with their totals in the clear. -/
theorem orders_written_alike :
    let layout : Layout := { table := sealedOrders }
    let first : Cursor := { rows := [[.int 10, .int 31, .null, .int 5]] }
    let second : Cursor := { rows := [[.int 17, .int 34, .null, .int 5]] }
    List.Forall₂ (Indistinct layout) first.left second.left ∧
      (layout.write .json first).text = (layout.write .json second).text ∧
      (layout.write .json first).text.result = .ok
        "[\r\n\x7b\"_id_\":\"H1\",\"id\":\"H1\",\"owner\":\"H3\",\"parent\":null,\"total\":5.00\x7d\r\n]" := by
  intro layout first second
  have indistinct : List.Forall₂ (Indistinct layout) first.left second.left := by
    refine .cons ?_ .nil
    exact .cons (.hidden _ _ _ "10" "17" _ rfl rfl rfl rfl (by simp) (by simp) rfl)
      (.cons (.hidden _ _ _ "31" "34" _ rfl rfl rfl rfl (by simp) (by simp) rfl)
        (.cons (.missing _ _ (by rintro _ ⟨⟩)) (.cons (.shown _ _ rfl) .nil)))
  exact ⟨indistinct, (disguised_keys_are_hidden layout first second indistinct).1 .json,
    by decide +kernel⟩

end TableGate.KeySecrecy
