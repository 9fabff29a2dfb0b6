import TableGate.Text.Percent

/-! Settings that all tables share: the name of the row id, how it is joined from the key
values of a row, and the names of the query parameters. -/

namespace TableGate

/-- Settings of an application. The separator of row ids is no percent sign. -/
structure Settings where
  idField : Text := "_id_"
  idSeparator : Char := '_'
  filterParam : Text := "sqlfilter"
  orderParam : Text := "sqlorder"
  limitParam : Text := "sqllimit"
  aggregateParam : Text := "sqlaggregate"
  selectParam : Text := "sqlselect"
  separator_ne_percent : idSeparator ≠ '%' := by decide
  deriving DecidableEq, Repr

namespace Settings

/-- The settings where nothing is configured. -/
def standard : Settings := {}

/-- The escape of the separator inside a key value. -/
def escapedSeparator (settings : Settings) : Text :=
  '%' :: Text.hex settings.idSeparator.toNat

/-- A key value as a part of a row id. -/
def idPart (settings : Settings) (value : Text) : Text :=
  Text.replaceChar settings.idSeparator settings.escapedSeparator (Text.percentEncode value)

/-- The row id of key values. -/
def joinId (settings : Settings) (values : List Text) : Text :=
  Text.join [settings.idSeparator] (values.map settings.idPart)

/-- The key values of a row id. -/
def splitId (settings : Settings) (id : Text) : List Text :=
  (Text.splitOn settings.idSeparator id).map Text.percentDecode

end Settings
end TableGate
