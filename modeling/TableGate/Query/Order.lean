import TableGate.Fault
import TableGate.Text.Blank
import TableGate.Text.Case
import TableGate.Text.Word

/-! Orderings: `field[ ASC|DESC|+|-],…`, the direction in any case. -/

namespace TableGate
open Text

/-- A field to order by. -/
structure OrderKey where
  field : Text
  descending : Bool
  deriving DecidableEq, Repr

namespace OrderKey

/-- The directions as they are written, and whether they are descending. -/
def directions : List (Text × Bool) := [("asc", false), ("desc", true), ("+", false), ("-", true)]

/-- What follows the field: a direction and blanks, or blanks alone. -/
def direction? (text : Text) : Option Bool :=
  let afterBlank := match text with
    | c :: rest => if isBlank c then rest else text
    | [] => []
  let written := directions.findSome? fun (word, descending) =>
    match dropKeyword? word afterBlank with
    | some rest => if rest.all isBlank then some descending else none
    | none => none
  written <|> (if text.all isBlank then some false else none)

/-- The key that one token of an ordering writes. -/
def parse? (token : Text) : Option OrderKey :=
  let text := token.dropWhile isBlank
  let field := text.takeWhile isWord
  if field.isEmpty then none
  else (direction? (text.dropWhile isWord)).map fun descending => ⟨field, descending⟩

end OrderKey

/-- The fields to order by, the first one foremost. -/
structure Order where
  keys : List OrderKey := []
  deriving DecidableEq, Repr

namespace Order

def isEmpty (order : Order) : Bool := order.keys.isEmpty

/-- The ordering that a text writes. -/
def parse (text : Text) : Except Fault Order :=
  if text.isEmpty then .ok {}
  else do
    let keys ← (splitOn ',' text).mapM fun token =>
      match OrderKey.parse? token with
      | some key => .ok key
      | none => .error (.query (.invalidOrder token))
    .ok ⟨keys⟩

end Order
end TableGate
