import TableGate.Table.Clauses

/-! Statements on a table. Rows are located by the row id: its parts, decoded by the codecs
of the key fields, must give every key field a value, so that no statement reaches more
rows than one key names. -/

namespace TableGate.Table

/-- The condition on one key field. -/
def keyCondition (table : Table) (id : Text) (column : Column) (part : Text) :
    Except Fault Text := do
  let part := match table.hasher with
    | some hasher => if column.kind == .number then hasher.decode part else part
    | none => part
  let cell ← column.deserialize (.text part)
  if cell.isEmpty then .error (.value (.idPartEmpty id column.name))
  else do
    let literal ← column.literal table.engine cell
    .ok (column.quoted table.engine ++ '=' :: literal)

/-- The condition that locates the row of an id. -/
def idCondition (table : Table) (id : Text) : Except Fault Text := do
  let parts := table.settings.splitId id
  if parts.length ≠ table.keys.length then
    .error (.value (.idNotKey id table.options.tableName))
  else do
    let conditions ← (table.keys.zip parts).mapM fun (column, part) =>
      table.keyCondition id column part
    .ok ('(' :: Text.join " AND " conditions ++ ")")

/-- The projection of a query without an aggregate. -/
def plainProjection (table : Table) (select : Option Select) : Text :=
  Text.join "," (table.columns.map fun column =>
    let quoted := column.quoted table.engine
    if isSelected select column then quoted
    else table.engine.stringLiteral [] ++ " as " ++ quoted)

/-- An aggregate that is there and is not empty. -/
def activeAggregate? (query : Query) : Option Aggregate := query.aggregate.filter (!·.isEmpty)

/-- The projection of a query. -/
def projection (table : Table) (query : Query) : Except Fault Text :=
  match activeAggregate? query with
  | some aggregate => aggregate.projection table query.select
  | none => .ok (table.plainProjection query.select)

/-- An optional fragment, empty if it is missing. -/
def fragment {α : Type} (part : Option α) (print : α → Except Fault Text) : Except Fault Text :=
  match part with
  | some part => print part
  | none => .ok []

/-- The fragments of a SELECT statement; an empty id locates no row. -/
def selectFragments (table : Table) (id : Text) (query : Query) : Except Fault SelectFragments := do
  (query.select.map (·.validate table)).getD (.ok ())
  let columns ← table.projection query
  let order ← fragment (query.order.filter (!·.isEmpty)) (Order.sql table)
  let limit ← fragment (query.limit.filter (!·.isEmpty)) Limit.sql
  let filter ← fragment (Filter.ofOption? query.filter) (Filter.sql table)
  let groupBy ← fragment (activeAggregate? query) (Aggregate.groupBy table · query.select)
  let located ← if id.isEmpty then .ok [] else table.idCondition id
  let condition := Text.join " AND " ([located, filter].filter (!·.isEmpty))
  .ok ⟨table.engine.quoteTable table.options.tableName, columns, condition, order, limit, groupBy⟩

/-- A SELECT statement. -/
def selectSql (table : Table) (id : Text) (query : Query) : Except Fault Text := do
  let fragments ← table.selectFragments id query
  table.engine.select fragments

/-- An INSERT statement of the cells that are defined. -/
def insertSql (table : Table) (row : Row) : Except Fault Text := do
  let cells := (cellsOf table.columns row).filter fun (_, cell) => !cell.isUndefined
  let values ← cells.mapM fun (column, cell) => column.literal table.engine cell
  let columns := cells.map fun (column, _) => column.quoted table.engine
  .ok ("INSERT INTO " ++ table.engine.quoteTable table.options.tableName ++
    " (" ++ Text.join "," columns ++ ") VALUES (" ++ Text.join "," values ++ ");")

/-- An UPDATE statement of the row of an id: the cells that are defined, keys aside. -/
def updateSql (table : Table) (id : Text) (row : Row) : Except Fault Text := do
  let cells := (cellsOf table.columns row).filter fun (column, cell) =>
    !column.isPrimaryKey && !cell.isUndefined
  let assignments ← cells.mapM fun (column, cell) => do
    let literal ← column.literal table.engine cell
    .ok (column.quoted table.engine ++ '=' :: literal)
  if assignments.isEmpty then .error (.value (.nothingToUpdate id))
  else do
    let condition ← table.idCondition id
    .ok ("UPDATE " ++ table.engine.quoteTable table.options.tableName ++
      " SET " ++ Text.join "," assignments ++ " WHERE " ++ condition ++ ";")

/-- A DELETE statement of the row of an id. -/
def deleteSql (table : Table) (id : Text) : Except Fault Text := do
  let condition ← table.idCondition id
  .ok ("DELETE FROM " ++ table.engine.quoteTable table.options.tableName ++
    " WHERE " ++ condition ++ ";")

end TableGate.Table
