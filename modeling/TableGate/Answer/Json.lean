import TableGate.Answer.Layout

/-! Rows as JSON: an array with one object for each row, on a line of its own. Booleans
and numbers are written without quotes; values that are not there are left out. -/

namespace TableGate.Layout

/-- Whether a field's value is written without quotes. -/
def isBare (layout : Layout) (column : Column) (text : Text) : Bool :=
  column.kind == .boolean ||
    (column.kind == .number && !layout.isHashed column && (numberOf? text).isSome)

/-- The value of a field. -/
def jsonValue (layout : Layout) (field : WrittenField) : Option Text :=
  match field.plain, field.shown with
  | .text plain, .text shown =>
    some (if layout.isBare field.column plain then Text.jsonInside shown else Text.jsonString shown)
  | .null, _ => some "null"
  | _, _ => none

/-- The entry of a field, with the comma in front of it. -/
def jsonEntry (layout : Layout) (field : WrittenField) : Text :=
  match layout.jsonValue field with
  | some value => ',' :: Text.jsonString field.column.name ++ ':' :: value
  | none => []

/-- A row as an object. -/
def jsonRow (layout : Layout) (written : WrittenRow) : Text :=
  '\x7b' :: Text.jsonString layout.table.settings.idField ++ ':' :: Text.jsonString written.id ++
    written.fields.flatMap layout.jsonEntry ++ "\x7d"

/-- Rows as an array. -/
def jsonRows (rows : List Text) : Text := "[\r\n" ++ Text.join ",\r\n" rows ++ "\r\n]"

end TableGate.Layout
