import TableGate.Table

/-! The clauses of statements on a table. Every name in them is the name of one of the
table's fields, and every value is a literal of its field. -/

namespace TableGate

namespace Table

/-- The field that a clause names. -/
def field (table : Table) (clause : Clause) (name : Text) : Except Fault Column :=
  match table.find? name with
  | some column => .ok column
  | none => .error (.unknownField name clause)

end Table

namespace Filter

/-- A filter as a condition, with a pair of brackets around every node. -/
def sql (table : Table) : Filter → Except Fault Text
  | empty => .ok []
  | compare name op value => do
    let column ← table.field .filter name
    let cell ← column.deserialize (.text value)
    if cell.isEmpty then .error (.value (.emptyInFilter value name))
    else do
      let literal ← column.literal table.engine cell
      .ok ('(' :: column.quoted table.engine ++ op.sql ++ literal ++ ")")
  | not inner => do
    let inner ← sql table inner
    .ok ("(NOT " ++ inner ++ ")")
  | join left op right => do
    let left ← sql table left
    let right ← sql table right
    .ok ('(' :: left ++ op.sql ++ right ++ ")")

end Filter

namespace Order

/-- The list of an ORDER BY clause. -/
def sql (table : Table) (order : Order) : Except Fault Text := do
  let keys ← order.keys.mapM fun key => do
    let column ← table.field .order key.field
    .ok (column.quoted table.engine ++ (if key.descending then " DESC" else " ASC"))
  .ok (Text.join "," keys)

end Order

namespace Select

/-- A field is returned if it is named, if no field is named, or if it is a key. -/
def selects (select : Select) (column : Column) : Bool :=
  select.isEmpty || column.isPrimaryKey || select.columns.contains column.name

/-- Every name is that of a field. -/
def validate (table : Table) (select : Select) : Except Fault Unit :=
  select.columns.forM fun name => (table.field .select name).map fun _ => ()

end Select

/-- Whether an optional selection returns a field. -/
def isSelected (select : Option Select) (column : Column) : Bool :=
  (select.map (·.selects column)).getD true

namespace Aggregate

/-- Whether a function is applied to a field. -/
def covers (aggregate : Aggregate) (column : Column) : Bool := aggregate.fields.contains column.name

/-- The function that is applied to a field; the first one if there are several. -/
def functionOf? (aggregate : Aggregate) (column : Column) : Option AggregateFunction :=
  (aggregate.calls.find? (·.2 == column.name)).map (·.1)

/-- Every argument is the name of a field. -/
def validate (table : Table) (aggregate : Aggregate) : Except Fault Unit :=
  aggregate.fields.forM fun name => (table.field .aggregate name).map fun _ => ()

/-- The list of a GROUP BY clause: the selected fields without a function. -/
def groupBy (table : Table) (aggregate : Aggregate) (select : Option Select) :
    Except Fault Text := do
  aggregate.validate table
  let columns := table.columns.filter fun column =>
    isSelected select column && !aggregate.covers column
  .ok (Text.join "," (columns.map (·.quoted table.engine)))

/-- One item of the projection: a constant for a field that is not selected, a function of
a field under its own name, or the field. -/
def item (table : Table) (aggregate : Aggregate) (select : Option Select) (column : Column) :
    Text :=
  let quoted := column.quoted table.engine
  if !isSelected select column then
    "min(" ++ table.engine.stringLiteral [] ++ ") as " ++ quoted
  else
    match aggregate.functionOf? column with
    | some f => f.word ++ '(' :: quoted ++ ") as " ++ quoted
    | none => quoted

/-- The projection, with one item for each field. -/
def projection (table : Table) (aggregate : Aggregate) (select : Option Select) :
    Except Fault Text := do
  aggregate.validate table
  .ok (Text.join "," (table.columns.map (aggregate.item table select)))

end Aggregate
end TableGate
