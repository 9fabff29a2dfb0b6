import TableGate.Text.Blank

/-! Selections: the names of the fields to return, separated by commas. -/

namespace TableGate
open Text

/-- The names of the fields to return; all fields if there are none. -/
structure Select where
  columns : List Text := []
  deriving DecidableEq, Repr

namespace Select

def isEmpty (select : Select) : Bool := select.columns.isEmpty

/-- The selection that a text writes; blank names are passed over. -/
def parse (text : Text) : Select :=
  ⟨((splitOn ',' text).map strip).filter fun name => !name.isEmpty⟩

end Select
end TableGate
