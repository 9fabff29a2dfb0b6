import TableGate.Calendar.Iso
import TableGate.Number.Integer
import TableGate.Number.Shortest
import TableGate.Text.Shown

/-! Cells, the values that columns hold. Null is an explicit missing value of the database;
an undefined cell was never supplied and is left out of statements and of written rows. -/

namespace TableGate

/-- A value of a column, or native data that stands for one. -/
inductive Cell where
  | null
  | undefined
  | bool (value : Bool)
  | int (value : Int)
  | float (value : Binary64)
  | text (value : Text)
  | bytes (value : List UInt8)
  | dateTime (value : DateTime)
  | list (items : List Cell)
  | dict (entries : List (Text × Cell))
  deriving Repr

/-- Cells in the order of the table's fields. -/
abbrev Row := List Cell

namespace Cell

def isUndefined : Cell → Bool
  | undefined => true
  | _ => false

/-- Null and the empty text count as no value in conditions. -/
def isEmpty : Cell → Bool
  | null => true
  | text value => value.isEmpty
  | _ => false

mutual

/-- A cell as it is shown inside a list or an object. -/
def shown : Cell → Except Fault Text
  | null => .ok "None"
  | undefined => .ok "UNDEFINED"
  | bool true => .ok "True"
  | bool false => .ok "False"
  | int value => Integer.text value
  | float value => .ok value.text
  | text value => .ok (Text.shown value)
  | bytes value => .ok (Text.shownBytes value)
  | dateTime value => .ok value.shown
  | list items => do
    let items ← shownItems items
    .ok ('[' :: Text.join ", " items ++ "]")
  | dict entries => do
    let entries ← shownEntries entries
    .ok ('\x7b' :: Text.join ", " entries ++ "\x7d")

/-- The cells of a list as they are shown. -/
def shownItems : List Cell → Except Fault (List Text)
  | [] => .ok []
  | item :: items => do
    let head ← shown item
    let tail ← shownItems items
    .ok (head :: tail)

/-- The entries of an object as they are shown. -/
def shownEntries : List (Text × Cell) → Except Fault (List Text)
  | [] => .ok []
  | (key, value) :: entries => do
    let head ← shown value
    let tail ← shownEntries entries
    .ok ((Text.shown key ++ ": " ++ head) :: tail)

end

/-- A cell as a text: texts as they are, points in time with a blank between date and
time, all else as it is shown inside larger values. -/
def toText : Cell → Except Fault Text
  | text value => .ok value
  | dateTime value => .ok (value.iso ' ')
  | cell => cell.shown

end Cell
end TableGate
