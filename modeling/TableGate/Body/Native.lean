import TableGate.Table.Wire

/-! Rows from native data, which are taken as they are: an object by the names of the
fields, and any other sequence as the cells themselves. -/

namespace TableGate.Body

/-- The entry of a field in an object. -/
def cellOf? (entries : List (Text × Cell)) (name : Text) : Option Cell :=
  (entries.find? (·.1 == name)).map (·.2)

/-- The row of an object. -/
def rowOfEntries (table : Table) (entries : List (Text × Cell)) : Row :=
  table.columns.map fun column => (cellOf? entries column.name).getD .undefined

/-- The row of an item of a list. -/
def rowOfItem (table : Table) : Cell → Except Fault Row
  | .dict entries => .ok (rowOfEntries table entries)
  | .list cells => .ok cells
  | .text text => .ok (text.map fun c => .text [c])
  | .bytes bytes => .ok (bytes.map fun b => .int b.toNat)
  | .null => .error (.notIterable "NoneType")
  | .undefined => .error (.notIterable "_Undefined")
  | .bool _ => .error (.notIterable "bool")
  | .int _ => .error (.notIterable "int")
  | .float _ => .error (.notIterable "float")
  | .dateTime _ => .error (.notIterable "datetime.datetime")

/-- The rows of a list. -/
def rowsOfItems (table : Table) (items : List Cell) : Except Fault (List Row) :=
  items.mapM (rowOfItem table)

end TableGate.Body
