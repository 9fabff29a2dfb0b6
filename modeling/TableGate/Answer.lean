import TableGate.Answer.Csv
import TableGate.Answer.Form
import TableGate.Answer.Html
import TableGate.Answer.Json
import TableGate.Cursor
import TableGate.Log

/-! The rows of a result as the text of an answer. Writing reads the rows from the cursor,
so that what is written once is not written again. -/

namespace TableGate

/-- A text, or the fault of writing it, with the cursor behind the rows that were read. -/
structure Written where
  text : Logged Text
  cursor : Cursor

namespace Layout

/-- All rows that are left, each written on its own. -/
def writeRows (layout : Layout) (cursor : Cursor) (write : WrittenRow → Text)
    (finish : List Text → Logged Text) : Written :=
  let (rows, cursor) := cursor.readRows fun row => (layout.row row).map write
  ⟨Logged.lift rows >>= finish, cursor⟩

/-- The current row as a multipart form, which can hold no other. -/
def writeForm (layout : Layout) (cursor : Cursor) : Written :=
  if cursor.isAtEnd then ⟨pure [], cursor⟩
  else
    match layout.row cursor.current with
    | .error fault => ⟨Logged.lift (.error fault), cursor⟩
    | .ok written =>
      let rest := cursor.advance 1
      let text : Logged Text := do
        unless rest.isAtEnd do
          Logged.warn ("Content type " ++ Media.formData.name ++
            " has no multirow form, only the first row was written")
        return layout.formRow written
      ⟨text, rest⟩

/-- The parameters of every row on a line of its own. -/
def urlRows (rows : List Text) : Logged Text := do
  if 1 < rows.length then
    Logged.warn ("Content type " ++ Media.urlEncoded.name ++
      " does not officially support multiline content")
  return rows.flatMap (· ++ "\r\n")

/-- The rows that are left in a media type; HTML needs a template. -/
def write (layout : Layout) (media : Media) (cursor : Cursor) : Written :=
  match media with
  | .json => layout.writeRows cursor layout.jsonRow fun rows => pure (jsonRows rows)
  | .csv => layout.writeRows cursor csvRow fun rows => pure (layout.csvRows rows)
  | .formData => layout.writeForm cursor
  | .urlEncoded => layout.writeRows cursor layout.urlRow urlRows
  | .html =>
    let text : Logged Text := do
      Logged.reportError
        ("Content type " ++ Media.html.name ++ " can't be written as a string, use write_html")
      return []
    ⟨text, cursor⟩

/-- The rows that are left in the markup of a template. -/
def writeHtml (layout : Layout) (template : Text) (cursor : Cursor) : Written :=
  layout.writeRows cursor (layout.htmlRow template) fun rows => pure rows.flatten

/-- The current cell of a field. -/
def currentCell (layout : Layout) (name : Text) (cursor : Cursor) : Cell :=
  match layout.table.indexOf? name with
  | some index => (cursor.current[index]?).getD .undefined
  | none => .undefined

/-- The wire value of the current cell of a field. -/
def currentWire (layout : Layout) (name : Text) (cursor : Cursor) : Except Fault Wire :=
  match layout.table.find? name with
  | some column =>
    if cursor.isAtEnd then .ok .absent
    else column.serialize layout.table.engine (layout.currentCell name cursor)
  | none => .ok .absent

end Layout
end TableGate
