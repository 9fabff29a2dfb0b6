import TableGate.Body.Csv
import TableGate.Body.JsonRows
import TableGate.Body.Multipart
import TableGate.Body.Native
import TableGate.Body.UrlEncoded

/-! Request bodies and the rows in them. Native data is taken as it is, whatever the media
type; bytes are read as UTF-8, except those of a multipart form, which may be files. -/

namespace TableGate

/-- A request body. -/
inductive Body where
  | text (text : Text)
  | bytes (bytes : List UInt8)
  | object (entries : List (Text × Cell))
  | items (items : List Cell)

namespace Body

/-- The rows of a text. -/
def rowsOfText (table : Table) (media : Media) (boundary source : Text) : Logged (List Row) :=
  match media with
  | .json => rowsOfJsonText table source
  | .csv => Csv.rows table source
  | .formData => Multipart.rows table boundary (Text.utf8 source)
  | .urlEncoded | .html => UrlEncoded.rows table source

/-- The rows of bytes. -/
def rowsOfBytes (table : Table) (media : Media) (boundary : Text) (source : List UInt8) :
    Logged (List Row) := do
  match media with
  | .formData => Multipart.rows table boundary source
  | media =>
    let source ← Text.ofUtf8 source
    rowsOfText table media boundary source

/-- Refuses media types that can't be read. -/
def ifInput (media : Media) (rows : Logged (List Row)) : Logged (List Row) := do
  if media.isInput then rows
  else
    Logged.reportError
      ("Content type " ++ media.name ++ " can't be used as an input content type")
    return []

/-- The rows of a body. -/
def rows (table : Table) (media : Media) (boundary : Text) : Body → Logged (List Row)
  | object entries => pure [rowOfEntries table entries]
  | items cells => Logged.lift (rowsOfItems table cells)
  | text source => ifInput media (rowsOfText table media boundary source)
  | bytes source => ifInput media (rowsOfBytes table media boundary source)

end Body
end TableGate
