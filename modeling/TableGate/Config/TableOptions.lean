import TableGate.Text.Basic

/-! Options of one table: its name, which of its fields are served, and how strictly rows
are checked. -/

namespace TableGate

/-- Options of a table's interface. -/
structure TableOptions where
  tableName : Text
  failOnOversizedValues : Bool := false
  failOnUpdateOnAutoIncrement : Bool := false
  failOnInsertWithoutKey : Bool := false
  failOnAnyInvalidRows : Bool := true
  useDatesAsString : Bool := false
  includeFields : List Text := []
  excludeFieldPrefix : Text := []
  excludeFields : List Text := []
  debugOnError : Bool := false
  numberDecimals : Option Nat := none
  deriving DecidableEq, Repr

namespace TableOptions

/-- A field is served unless its prefix or its name is excluded, or only other fields are
included. -/
def includes (options : TableOptions) (field : Text) : Bool :=
  !(!options.excludeFieldPrefix.isEmpty && options.excludeFieldPrefix.isPrefixOf field) &&
  !options.excludeFields.contains field &&
  (options.includeFields.isEmpty || options.includeFields.contains field)

end TableOptions
end TableGate
