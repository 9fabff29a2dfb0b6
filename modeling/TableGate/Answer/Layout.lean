import TableGate.Number.Numeral
import TableGate.Outcome
import TableGate.Table.Clauses

/-! The values of a row as they are written. Every format shares the choice of the fields,
the rounding of numbers, the disguise of keys and the row id; they differ only in how they
write the values. -/

namespace TableGate

/-- How rows are written: the table's fields, those selected, the functions applied to
them, and the formatter of points in time. -/
structure Layout where
  table : Table
  select : Option Select := none
  aggregate : Option Aggregate := none
  format : Option (DateTime → Text) := none

/-- A field's value as it is written: what its codec yields, and what is shown of it. -/
structure WrittenField where
  column : Column
  plain : Wire
  shown : Wire

/-- A row as it is written. -/
structure WrittenRow where
  fields : List WrittenField
  id : Text

namespace Layout

/-- Whether a field is written. -/
def isSelected (layout : Layout) (column : Column) : Bool :=
  TableGate.isSelected layout.select column

/-- Whether a field's values are disguised. Values of functions are not. -/
def isHashed (layout : Layout) (column : Column) : Bool :=
  layout.table.isHashed column &&
    !((layout.aggregate.map (·.covers column)).getD false)

/-- The finite number that a text writes. -/
def numberOf? (text : Text) : Option Binary64 := (Binary64.ofText? text).filter Binary64.isFinite

/-- The number of places that a number can be written with. -/
def placesLimit : Nat := Nat.pow 2 31

/-- A number with the configured number of places; keys are left as they are. -/
def round (layout : Layout) (column : Column) (text : Text) : Except Fault Text :=
  match layout.table.options.numberDecimals, numberOf? text with
  | some places, some number =>
    if column.kind != .number || column.isPrimaryKey || layout.isHashed column then .ok text
    else if placesLimit ≤ places then .error (.conversion (.tooManyPlaces places))
    else .ok (number.fixed places)
  | _, _ => .ok text

/-- The wire value of a cell. -/
def plain (layout : Layout) (column : Column) (cell : Cell) : Except Fault Wire :=
  if cell.isUndefined then .ok .absent
  else do
    let wire ← match layout.format with
      | some format => column.serializeLocal layout.table.engine format cell
      | none => column.serialize layout.table.engine cell
    match wire with
    | .text text => (layout.round column text).map .text
    | wire => .ok wire

/-- A text in its disguise, if the field has one. -/
def disguise (layout : Layout) (seed : Text) (column : Column) (text : Text) : Text :=
  match layout.table.hasher with
  | some hasher =>
    if !text.isEmpty && layout.isHashed column then
      hasher.encode text (column.name ++ ' ' :: seed)
    else text
  | none => text

/-- What disguises of a row vary by: the values of its key. -/
def seed (layout : Layout) (row : Row) : Except Fault Text :=
  (layout.table.keyValues false row).map (Text.join " ")

/-- The value of one field. -/
def field (layout : Layout) (seed : Text) (column : Column) (cell : Cell) :
    Except Fault WrittenField := do
  let plain ← layout.plain column cell
  let shown := match plain with
    | .text text => Wire.text (layout.disguise seed column text)
    | wire => wire
  .ok ⟨column, plain, shown⟩

/-- The key value of a written field. -/
def keyValue (field : WrittenField) : Text :=
  match field.shown with
  | .text text => text
  | _ => []

/-- A row: the selected fields, and the row id of the key values as they are shown. -/
def row (layout : Layout) (row : Row) : Except Fault WrittenRow := do
  let seed ← layout.seed row
  let cells := (cellsOf layout.table.columns row).filter fun (column, _) =>
    layout.isSelected column
  let fields ← cells.mapM fun (column, cell) => layout.field seed column cell
  let keys := fields.filter (·.column.isPrimaryKey)
  .ok ⟨fields, layout.table.settings.joinId (keys.map keyValue)⟩

end Layout
end TableGate
