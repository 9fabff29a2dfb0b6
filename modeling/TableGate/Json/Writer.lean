import TableGate.Json
import TableGate.Number.Integer
import TableGate.Number.Shortest
import TableGate.Text.JsonString

/-! JSON texts of values, with a blank after every comma and colon. Numbers that are not
finite are written as the words that the reader takes for them. -/

namespace TableGate.Json

/-- A floating point number: the shortest digits that read back. -/
def floatText : Binary64 → Text
  | .nan => "NaN"
  | .infinite false => "Infinity"
  | .infinite true => "-Infinity"
  | value => value.text

mutual

/-- A value as a JSON text. -/
def write : Json → Except Fault Text
  | null => .ok "null"
  | bool true => .ok "true"
  | bool false => .ok "false"
  | int value => Integer.text value
  | float value => .ok (floatText value)
  | text value => .ok (Text.jsonString value)
  | array items => do
    let items ← writeItems items
    .ok ('[' :: Text.join ", " items ++ "]")
  | object entries => do
    let entries ← writeEntries entries
    .ok ('\x7b' :: Text.join ", " entries ++ "\x7d")

/-- The items of an array. -/
def writeItems : List Json → Except Fault (List Text)
  | [] => .ok []
  | item :: items => do
    let head ← write item
    let tail ← writeItems items
    .ok (head :: tail)

/-- The entries of an object. -/
def writeEntries : List (Text × Json) → Except Fault (List Text)
  | [] => .ok []
  | (key, value) :: entries => do
    let head ← write value
    let tail ← writeEntries entries
    .ok ((Text.jsonString key ++ ": " ++ head) :: tail)

end

end TableGate.Json
