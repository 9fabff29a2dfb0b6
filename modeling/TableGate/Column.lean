import TableGate.Media
import TableGate.Sql.Dialect

/-! The fields of a table. A field's kind selects how cells become values on the wire; its
native type and constraints come from the database. -/

namespace TableGate

/-- The meaning of a field's values. -/
inductive Kind where
  | string | boolean | number | blob | dateTime
  deriving DecidableEq, Repr

namespace Kind

def name : Kind → Text
  | string => "string"
  | boolean => "boolean"
  | number => "number"
  | blob => "blob"
  | dateTime => "datetime"

end Kind

/-- A field of a table: one column. A `maxLength` of zero sets no bound. -/
structure Column where
  name : Text
  kind : Kind
  sqlType : Text
  maxLength : Nat := 0
  isPrimaryKey : Bool := false
  isForeignKey : Bool := false
  isAutoIncrement : Bool := false
  isNotNull : Bool := false
  deriving DecidableEq, Repr

namespace Column

/-- The constraints in words. -/
def constraintText (column : Column) : Text :=
  let flags : List (Bool × Text) :=
    [(column.isPrimaryKey, "PK"), (column.isForeignKey, "FK"),
     (column.isAutoIncrement, "AUTOINC"), (column.isNotNull, "NOTNUL")]
  let words := (flags.filter (·.1)).map (·.2)
  if words.isEmpty then [] else '\x7b' :: Text.join " " words ++ "\x7d"

/-- The native type with its length and the constraints. -/
def typeText (column : Column) : Text :=
  column.sqlType ++
    (if 0 < column.maxLength then '(' :: Text.ofNat column.maxLength ++ ")" else []) ++
    column.constraintText

/-- The first characters of a text; a negative count leaves out that many at the end. -/
def takeInt (count : Int) (text : Text) : Text :=
  text.take (if count < 0 then (text.length + count).toNat else count.toNat)

/-- A compact description of the field, cut or filled up to a width if one is given. -/
def describe (column : Column) (width : Int := 0) : Text :=
  let type := column.typeText
  if 0 < width then
    let room : Int := width - 3 - type.length
    let name :=
      if room < column.name.length then takeInt (room - 2) column.name ++ ".." else column.name
    '[' :: Text.padRight (width - 2).toNat (name ++ ':' :: type) ++ "]"
  else '[' :: column.kind.name ++ ':' :: column.name ++ ':' :: type ++ "]"

/-- The quoted column name. -/
def quoted (engine : Engine) (column : Column) : Text := engine.quoteColumn column.name

/-- A cell as a literal for the column. -/
def literal (engine : Engine) (column : Column) (cell : Cell) : Except Fault Text :=
  engine.literal cell column.sqlType

end Column
end TableGate
