import TableGate.Answer.Layout

/-! Rows as comma separated values, under a line with the names of the fields. -/

namespace TableGate.Layout

/-- The line with the names. -/
def csvHeader (layout : Layout) : Text :=
  let columns := layout.table.columns.filter layout.isSelected
  Text.join "," ((layout.table.settings.idField :: columns.map (·.name)).map fun name =>
    Media.csv.encode (.text name))

/-- A row as a line. -/
def csvRow (written : WrittenRow) : Text :=
  Text.join "," (Media.csv.encode (.text written.id) ::
    written.fields.map fun field => Media.csv.encode field.shown)

/-- The lines of a table. -/
def csvRows (layout : Layout) (rows : List Text) : Text :=
  Text.join "\r\n" (layout.csvHeader :: rows)

end TableGate.Layout
