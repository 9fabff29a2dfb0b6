import TableGate.Proofs.RowTransport

/-! Fields that are not selected do not leak. Of such a field no writer reads a cell: neither the values
nor the seed of their disguises nor the row id depend on it, and a template only loses its tag. Two
results that agree in the selected fields and in the keys are therefore written alike. -/
namespace TableGate.UnselectedFields
open RowTransport

/-- The cell at a place of a row; beyond its end all cells are undefined. -/
def cellAt (row : Row) (place : Nat) : Cell := (row[place]?).getD .undefined

/-- Rows with the same cell of every field that is selected or belongs to the primary key. -/
def Agree (layout : Layout) (first second : Row) : Prop :=
  ∀ place column, layout.table.columns[place]? = some column →
    layout.isSelected column = true ∨ column.isPrimaryKey = true →
      cellAt first place = cellAt second place

/-- The same text with the same records or the same fault, and as many rows left to be read. -/
structure SameOutcome (first second : Written) : Prop where
  text : first.text = second.text
  left : first.cursor.left.length = second.cursor.left.length

variable {layout : Layout} {first second : Row}

/-! ### Rows -/

/-- Fields of a kind have the same cells in both rows if the rows agree in them. -/
private theorem cells_same {visible : Column → Bool} {columns : List Column}
    (agree : ∀ (place : Nat) column, columns[place]? = some column → visible column = true →
      cellAt first place = cellAt second place) :
    (cellsOf columns first).filter (fun field => visible field.1) =
      (cellsOf columns second).filter (fun field => visible field.1) := by
  induction columns generalizing first second with
  | nil => rfl
  | cons column columns ih =>
    have step (row : Row) : cellsOf (column :: columns) row =
        (column, cellAt row 0) :: cellsOf columns row.tail := by
      cases row <;> rfl
    have rest : (cellsOf columns first.tail).filter (fun field => visible field.1) =
        (cellsOf columns second.tail).filter (fun field => visible field.1) := by
      refine ih fun place other stands shown => ?_
      rw [cellAt, cellAt, List.getElem?_tail, List.getElem?_tail]
      exact agree (place + 1) other stands shown
    rw [step, step, List.filter_cons, List.filter_cons, rest]
    by_cases shown : visible column = true
    · rw [if_pos shown, if_pos shown, agree 0 column rfl shown]
    · rw [if_neg shown, if_neg shown]

/-- Rows that agree have the same key values, hence the same seed, and the same values. -/
theorem row_same (agree : Agree layout first second) : layout.row first = layout.row second := by
  have keys : (cellsOf layout.table.columns first).filter (·.1.isPrimaryKey) =
      (cellsOf layout.table.columns second).filter (·.1.isPrimaryKey) :=
    cells_same fun place column stands primary => agree place column stands (.inr primary)
  have cells : (cellsOf layout.table.columns first).filter (fun field => layout.isSelected field.1) =
      (cellsOf layout.table.columns second).filter (fun field => layout.isSelected field.1) :=
    cells_same fun place column stands selected => agree place column stands (.inl selected)
  have seed : layout.seed first = layout.seed second := by
    rw [Layout.seed, Layout.seed, Table.keyValues, Table.keyValues, keys]
  simp only [Layout.row, seed, cells]

/-! ### Answers -/

section Answers

variable {one other : Cursor}

/-- What is read of one row after the other is the same, and it ends at the same row. -/
private theorem mapRows_same {α : Type} {f : Row → Except Fault α} {rows others : List Row}
    (same : List.Forall₂ (fun row other => f row = f other) rows others) :
    Cursor.mapRows f rows = Cursor.mapRows f others := by
  induction same with
  | nil => rfl
  | cons head _ ih => rw [Cursor.mapRows, Cursor.mapRows, head, ih]

private theorem advanced_same (count : Nat) (same : one.left.length = other.left.length) :
    (one.advance count).left.length = (other.advance count).left.length := by
  rw [Cursor.left_advance, Cursor.left_advance, List.length_drop, List.length_drop, same]

private theorem rows_same (write : WrittenRow → Text) (finish : List Text → Logged Text)
    (agree : List.Forall₂ (Agree layout) one.left other.left) :
    SameOutcome (layout.writeRows one write finish) (layout.writeRows other write finish) := by
  have rows : Cursor.mapRows (fun row => (layout.row row).map write) one.left =
      Cursor.mapRows (fun row => (layout.row row).map write) other.left :=
    mapRows_same (agree.imp fun _ _ pair => by rw [row_same pair])
  constructor
  · simp only [Layout.writeRows, Cursor.readRows, rows]
  · simp only [Layout.writeRows, Cursor.readRows, rows]
    exact advanced_same _ agree.length_eq

private theorem form_same (agree : List.Forall₂ (Agree layout) one.left other.left) :
    SameOutcome (layout.writeForm one) (layout.writeForm other) := by
  have rest := advanced_same 1 agree.length_eq
  have ended : (one.advance 1).isAtEnd = (other.advance 1).isAtEnd := by
    rw [Cursor.isAtEnd, Cursor.isAtEnd, Bool.eq_iff_iff, List.isEmpty_iff_length_eq_zero,
      List.isEmpty_iff_length_eq_zero, rest]
  cases left : one.left with
  | nil =>
    rw [left] at agree
    have none := List.forall₂_nil_left_iff.mp agree
    simp only [Layout.writeForm, Cursor.isAtEnd, left, none, List.isEmpty_nil, ↓reduceIte]
    exact ⟨rfl, by rw [left, none]⟩
  | cons row rows =>
    have length := agree.length_eq
    rw [left] at agree
    obtain ⟨partner, others, pair, -, right⟩ := List.forall₂_cons_left_iff.mp agree
    have written := row_same pair
    have started : one.isAtEnd = false := by rw [Cursor.isAtEnd, left, List.isEmpty_cons]
    have startedOther : other.isAtEnd = false := by rw [Cursor.isAtEnd, right, List.isEmpty_cons]
    simp only [Layout.writeForm, started, startedOther, Cursor.current, left, right,
      Bool.false_eq_true, ↓reduceIte, List.headD_cons, written]
    cases layout.row partner with
    | error fault => exact ⟨rfl, length⟩
    | ok shown => exact ⟨by simp only [ended], rest⟩

end Answers

/-- **Unselected fields do not leak.** In every media type and with every template, two results whose
rows agree in the selected fields and in the keys have the same outcome, whatever the disguise, the
formatter, the functions and the places of numbers. -/
theorem unselected_fields_do_not_leak (layout : Layout) (first second : Cursor)
    (agree : List.Forall₂ (Agree layout) first.left second.left) :
    (∀ media, SameOutcome (layout.write media first) (layout.write media second)) ∧
      ∀ template, SameOutcome (layout.writeHtml template first) (layout.writeHtml template second) := by
  refine ⟨fun media => ?_, fun template => rows_same _ _ agree⟩
  cases media with
  | json => exact rows_same _ _ agree
  | csv => exact rows_same _ _ agree
  | formData => exact form_same agree
  | urlEncoded => exact rows_same _ _ agree
  | html => exact ⟨rfl, agree.length_eq⟩

/-- People with disguised numbers, of whom the names are selected but not the birthdays. -/
def namesOnly : Layout where
  table :=
    { engine := .sqlite
      options := { tableName := "people" }
      hasher := some { encode := fun value seed => 'H' :: value ++ '~' :: seed, decode := List.tail }
      columns := [
        { name := "id", kind := .number, sqlType := "INTEGER", isPrimaryKey := true },
        { name := "name", kind := .string, sqlType := "TEXT" },
        { name := "born", kind := .dateTime, sqlType := "DATETIME" }] }
  select := some ⟨["name"]⟩

/-- A name that holds the tag of the birthdays brings none back, not even the fault of one that is no
date. -/
theorem tag_in_name_shows_no_birthday :
    let first : Cursor := { rows := [[.int 7, .text "Eve ###born###", .text "unknown"]] }
    let second : Cursor := { rows := [[.int 7, .text "Eve ###born###", .null]] }
    List.Forall₂ (Agree namesOnly) first.left second.left ∧
      SameOutcome (namesOnly.writeHtml "###name###: ###born###" first)
        (namesOnly.writeHtml "###name###: ###born###" second) ∧
      (namesOnly.writeHtml "###name###: ###born###" first).text.result = .ok "Eve : \r\n" := by
  intro first second
  have agree : List.Forall₂ (Agree namesOnly) first.left second.left := by
    refine .cons (fun place column stands visible => ?_) .nil
    match place with
    | 0 => rfl
    | 1 => rfl
    | 2 =>
      cases stands
      exact absurd visible (by decide)
    | _ + 3 => cases stands
  exact ⟨agree, (unselected_fields_do_not_leak namesOnly first second agree).2 _, by decide +kernel⟩

end TableGate.UnselectedFields
