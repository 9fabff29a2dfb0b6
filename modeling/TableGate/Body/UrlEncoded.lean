import TableGate.Table.Wire

/-! A row from the parameters of a form in a URL: `field=value` pairs with ampersands
between them. Parameters that name no field are passed over, and of several values of a
field the last one counts. -/

namespace TableGate.Body.UrlEncoded

/-- A plus sign stands for a blank. -/
def withoutPlus (text : Text) : Text := Text.replaceChar '+' "%20" text

/-- A row with the value of a parameter. -/
def setParameter (table : Table) (row : Row) (parameter : Text) : Except Fault Row :=
  match Text.splitOn '=' parameter with
  | [key, value] => do
    let name ← Media.decode .urlEncoded (withoutPlus key)
    match table.indexOf? name, table.find? name with
    | some index, some column =>
      if value == "null" then .ok (row.set index .null)
      else do
        let cell ← table.readWire column .urlEncoded (withoutPlus value)
        .ok (row.set index cell)
    | _, _ => .ok row
  | _ => .ok row

/-- The row of a body, if it has any value. -/
def rows (table : Table) (text : Text) : Logged (List Row) := do
  let parameters := Text.splitOn '&' (Text.strip text)
  let row ← Logged.lift (parameters.foldlM (setParameter table) table.emptyRow)
  let row ← Row.kept row
  return row.toList

end TableGate.Body.UrlEncoded
