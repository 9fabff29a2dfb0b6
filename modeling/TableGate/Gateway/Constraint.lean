import TableGate.Table

/-! The constraints that a row must meet before it is written. Keys and fields that are
not null must not be null, keys may be required, automatic keys may be refused, and texts
may be too long, which is a failure or only a warning. -/

namespace TableGate

/-- What is wrong with a cell of a row. -/
inductive CellProblem where
  | null
  | missingKey
  | automatic
  | oversized (length maximum : Nat) (fails : Bool)
  deriving DecidableEq, Repr

namespace CellProblem

/-- Whether a row with the problem can be written all the same. -/
def isWarning : CellProblem → Bool
  | oversized _ _ fails => !fails
  | _ => false

def message (field : Text) : CellProblem → Text
  | null => "Field '" ++ field ++ "' is not allowed to be NULL"
  | missingKey => "Primary key '" ++ field ++ "' is not autoinc and missing from the data"
  | automatic => "Autoinc field '" ++ field ++ "' can't be updated"
  | oversized length maximum fails =>
    "Field '" ++ field ++ "' length (" ++ Text.ofNat length ++ ") exceeds maximum (" ++
      Text.ofNat maximum ++ ")" ++
      (if fails then " and can't be set" else " and might truncate or fail")

end CellProblem

namespace Cell

/-- The number of characters of a cell's text; missing values have none. -/
def textLength : Cell → Except Fault Nat
  | null | undefined => .ok 0
  | cell => cell.toText.map (·.length)

end Cell

namespace Table

/-- The problem of a cell, if it has one. -/
def cellProblem (table : Table) (requireKey : Bool) (column : Column) (cell : Cell) :
    Except Fault (Option CellProblem) := do
  let isNull := match cell with
    | .null => true
    | _ => false
  if isNull && (column.isNotNull || column.isPrimaryKey) then .ok (some .null)
  else if cell.isUndefined && requireKey && column.isPrimaryKey && !column.isAutoIncrement then
    .ok (some .missingKey)
  else if !cell.isUndefined && table.options.failOnUpdateOnAutoIncrement && column.isAutoIncrement
  then .ok (some .automatic)
  else if column.kind == .string && 0 < column.maxLength then do
    let length ← cell.textLength
    .ok (if column.maxLength < length then
      some (.oversized length column.maxLength table.options.failOnOversizedValues) else none)
  else .ok none

/-- The problems of a row, each with the field's name. -/
def rowProblems (table : Table) (requireKey : Bool) (row : Row) :
    Except Fault (List (Text × CellProblem)) := do
  let problems ← (cellsOf table.columns row).mapM fun (column, cell) =>
    (table.cellProblem requireKey column cell).map fun problem =>
      problem.map (column.name, ·)
  .ok (problems.filterMap id)

/-- Refuses a row at the first violation among its cells. -/
def validateCells (table : Table) (requireKey : Bool) : List (Column × Cell) → Except Fault Unit
  | [] => .ok ()
  | (column, cell) :: cells => do
    match ← table.cellProblem requireKey column cell with
    | some problem =>
      if problem.isWarning then table.validateCells requireKey cells
      else .error (.violation { message := problem.message column.name, field := column.name })
    | none => table.validateCells requireKey cells

/-- Refuses a row that violates a constraint. -/
def validate (table : Table) (requireKey : Bool) (row : Row) : Except Fault Unit :=
  table.validateCells requireKey (cellsOf table.columns row)

end Table
end TableGate
