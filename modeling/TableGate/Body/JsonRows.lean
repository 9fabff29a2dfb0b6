import TableGate.Json.Reader
import TableGate.Json.Writer
import TableGate.Table.Wire

/-! Rows from a JSON body: one object, or an array of objects. Texts pass through the
codecs; numbers and booleans are taken as they are, and a nested value becomes its own
JSON text. -/

namespace TableGate.Body

/-- The cell of a field's JSON value. -/
def cellOfJson (table : Table) (column : Column) : Json → Except Fault Cell
  | .null => .ok .null
  | .bool value => .ok (.bool value)
  | .int value => .ok (.int value)
  | .float value => .ok (.float value)
  | .text value => table.readWire column .json value
  | nested => nested.write.map .text

/-- The row of a JSON value, which must be an object. -/
def rowOfJson (table : Table) : Json → Except Fault Row
  | .object entries =>
    table.columns.mapM fun column =>
      match Json.lookup? entries column.name with
      | some value => cellOfJson table column value
      | none => .ok .undefined
  | other => .error (.value (.rowNotObject other.kindName))

/-- The rows of a JSON value. -/
def rowsOfJson (table : Table) (json : Json) : Logged (List Row) := do
  let objects := match json with
    | .array items => items
    | other => [other]
  let rows ← objects.mapM fun object => do
    let row ← rowOfJson table object
    row.kept
  return rows.filterMap id

/-- The rows of a JSON body. -/
def rowsOfJsonText (table : Table) (text : Text) : Logged (List Row) := do
  let json ← Json.parse text
  rowsOfJson table json

end TableGate.Body
