import TableGate.Answer.Layout

/-! Rows in the markup of a template. Tags in the template stand for the values of fields;
the tag of the row id is set aside as a placeholder until the fields are filled in. -/

namespace TableGate.Layout

/-- The tag of a name. -/
def htmlTag (name : Text) : Text := "###" ++ name ++ "###"

/-- What stands for the row id while fields are filled in. -/
def idPlaceholder : Text := "###sqlrest_temporary_row_id###"

/-- A template with the tags of one field filled in. -/
def fillField (template : Text) (column : Column) (field : Option WrittenField) : Text :=
  let value := (field.map fun field => Media.html.encode field.shown).getD []
  Text.replace (htmlTag column.name) value template

/-- A template with the tags of all fields filled in. The fields of a row are those
selected, in the order of the table. -/
def fillFields (layout : Layout) : Text → List Column → List WrittenField → Text
  | template, [], _ => template
  | template, column :: columns, fields =>
    if layout.isSelected column then
      layout.fillFields (fillField template column fields.head?) columns fields.tail
    else layout.fillFields (fillField template column none) columns fields

/-- A row in the markup of a template. -/
def htmlRow (layout : Layout) (template : Text) (written : WrittenRow) : Text :=
  let started := Text.replace (htmlTag layout.table.settings.idField) idPlaceholder template
  let filled := layout.fillFields started layout.table.columns written.fields
  Text.replace idPlaceholder (Text.markup written.id) filled ++ "\r\n"

end TableGate.Layout
