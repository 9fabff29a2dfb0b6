import TableGate.Log
import TableGate.Table

/-! Cells of rows that come from a body. A value on the wire passes through the media
type, then, for numeric keys, through the disguise, then through the codec of its field. -/

namespace TableGate

namespace Table

/-- The cell that a field's text on the wire stands for. -/
def readWire (table : Table) (column : Column) (media : Media) (wire : Text) :
    Except Fault Cell := do
  let plain ← media.decode wire
  let plain := match table.hasher with
    | some hasher => if !plain.isEmpty && table.isHashed column then hasher.decode plain else plain
    | none => plain
  column.deserialize (.text plain)

/-- A row without any value. -/
def emptyRow (table : Table) : Row := table.columns.map fun _ => .undefined

end Table

/-- A row that says something about some field. -/
def Row.hasData (row : Row) : Bool := row.any (!·.isUndefined)

/-- A row that was read, or a warning if it says nothing. -/
def Row.kept (row : Row) : Logged (Option Row) :=
  if row.hasData then pure (some row)
  else do
    Logged.warn "Empty row skipped"
    return none

end TableGate
