import TableGate.Column.Codec
import TableGate.Config.Settings
import TableGate.Config.TableOptions
import TableGate.Query

/-! A table as it is served: its fields in column order, with the engine, the options and
the settings. Rows are lists of cells in the order of the fields; cells beyond the end of a
short row are undefined. -/

namespace TableGate

/-- A reversible disguise for numeric keys. A seed may vary what a value becomes. -/
structure IdHasher where
  encode : (value seed : Text) → Text
  decode : Text → Text

/-- The fields, each with its cell of a row. -/
def cellsOf : List Column → Row → List (Column × Cell)
  | [], _ => []
  | column :: columns, [] => (column, .undefined) :: cellsOf columns []
  | column :: columns, cell :: row => (column, cell) :: cellsOf columns row

/-- A table and what is configured for it. -/
structure Table where
  engine : Engine
  options : TableOptions
  settings : Settings := .standard
  hasher : Option IdHasher := none
  columns : List Column := []

namespace Table

/-- The position of a field; of fields with the same name the last one counts. -/
def indexOf? (table : Table) (name : Text) : Option Nat :=
  ((table.columns.zipIdx.filter fun (column, _) => column.name == name).getLast?).map (·.2)

/-- The field with a name. -/
def find? (table : Table) (name : Text) : Option Column :=
  (table.columns.filter fun column => column.name == name).getLast?

/-- The primary key fields in column order. -/
def keys (table : Table) : List Column := table.columns.filter (·.isPrimaryKey)

/-- Numeric keys are disguised where there is a hasher. -/
def isHashed (table : Table) (column : Column) : Bool :=
  table.hasher.isSome && column.kind == .number && (column.isPrimaryKey || column.isForeignKey)

/-- The wire text of a cell of the primary key, empty where there is none. -/
def keyText (table : Table) (column : Column) (cell : Cell) : Except Fault Text := do
  match ← column.serialize table.engine cell with
  | .text text => .ok text
  | _ => .ok []

/-- A key value, disguised if it is a number. -/
def disguise (table : Table) (column : Column) (value : Text) : Text :=
  match table.hasher with
  | some hasher =>
    if !value.isEmpty && column.kind == .number then hasher.encode value [] else value
  | none => value

/-- The values of a row's primary key, empty where they are missing. -/
def keyValues (table : Table) (hash : Bool) (row : Row) : Except Fault (List Text) :=
  ((cellsOf table.columns row).filter (·.1.isPrimaryKey)).mapM fun (column, cell) => do
    let value ← table.keyText column cell
    .ok (if hash then table.disguise column value else value)

/-- The row id of a row. -/
def rowId (table : Table) (hash : Bool) (row : Row) : Except Fault Text :=
  (table.keyValues hash row).map table.settings.joinId

/-- The table's name and its fields, each followed by a separator. -/
def describe (table : Table) (separator : Text) : Text :=
  table.options.tableName ++ ':' :: separator ++
    table.columns.flatMap fun column => column.describe ++ separator

end Table
end TableGate
