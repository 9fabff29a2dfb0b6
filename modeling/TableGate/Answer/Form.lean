import TableGate.Answer.Layout

/-! One row as a form, either in the parts of a multipart body or in the parameters of a
URL. -/

namespace TableGate.Layout

/-- The line between the parts of a form. -/
def partBoundary : Text := "---------SqlRestMultipartBoundary35424568"

/-- A part with a text, or without any content. -/
def textPart (name : Text) (content : Option Text) : Text :=
  partBoundary ++ "\r\nContent-Disposition: form-data; name=\"" ++ name ++ "\"\r\n\r\n" ++
    ((content.map fun content => content ++ ("\r\n" : Text)).getD [])

/-- A part with a file in base64. -/
def filePart (name content : Text) : Text :=
  partBoundary ++ "\r\nContent-Disposition: form-data; name=\"" ++ name ++ "\"; filename=\"" ++ name
    ++ "\"\r\nContent-Type: application/octet-stream\r\nContent-Transfer-Encoding: BASE64\r\n\r\n"
    ++ content ++ "\r\n"

/-- The part of a field; values that are not there have none. -/
def part (field : WrittenField) : Text :=
  match field.shown with
  | .text content =>
    if field.column.kind == .blob then filePart field.column.name content
    else textPart field.column.name (some content)
  | .null => textPart field.column.name none
  | .absent => []

/-- A row as a multipart form. -/
def formRow (layout : Layout) (written : WrittenRow) : Text :=
  textPart layout.table.settings.idField (some written.id) ++ written.fields.flatMap part ++
    partBoundary ++ "--\r\n"

/-- The parameter of a field, if its value is there. -/
def parameter? (field : WrittenField) : Option Text :=
  match field.shown with
  | .absent => none
  | wire => some (Text.percentEncode field.column.name ++ '=' :: Media.urlEncoded.encode wire)

/-- A row as the parameters of a URL. -/
def urlRow (layout : Layout) (written : WrittenRow) : Text :=
  Text.join "&" ((Text.percentEncode layout.table.settings.idField ++ '=' ::
    Text.percentEncode written.id) :: written.fields.filterMap parameter?)

end TableGate.Layout
