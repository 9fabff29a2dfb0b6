import TableGate.Calendar.Iso
import TableGate.Json
import TableGate.Number.Integer
import TableGate.Number.Shortest
import TableGate.Text.Shown

/-! Values of a configuration document. Dictionaries carry an identity, because a document
can name one dictionary in several places, and a default that is filled in at one of them
is there for all of them. -/

namespace TableGate

/-- A value of a configuration document. -/
inductive ConfigValue where
  | null
  | bool (value : Bool)
  | int (value : Int)
  | float (value : Binary64)
  | text (value : Text)
  | bytes (value : List UInt8)
  | date (value : DateTime)
  | dateTime (value : DateTime)
  | list (items : List ConfigValue)
  | set (items : List ConfigValue)
  | dict (identity : Nat) (entries : List (ConfigValue × ConfigValue))

namespace ConfigValue

/-- Empty values and zeros stand for a part of a configuration that is not there. -/
def isFalsy : ConfigValue → Bool
  | null => true
  | bool value => !value
  | int value => value == 0
  | float value => value.isZero
  | text value => value.isEmpty
  | bytes value => value.isEmpty
  | date _ | dateTime _ => false
  | list items => items.isEmpty
  | set items => items.isEmpty
  | dict _ entries => entries.isEmpty

/-- The integer that a value counts as where keys are compared. -/
def integer? : ConfigValue → Option Int
  | bool value => some (if value then 1 else 0)
  | int value => some value
  | float value => value.toInt?
  | _ => none

/-- Whether two values are the same key of a dictionary. Numbers are compared by value
whatever their type; collections are no keys. -/
def isSameKey : ConfigValue → ConfigValue → Bool
  | null, null => true
  | text a, text b => a == b
  | bytes a, bytes b => a == b
  | date a, date b => a == b
  | dateTime a, dateTime b => a == b
  | a, b =>
    match integer? a, integer? b with
    | some a, some b => a == b
    | none, none =>
      match a, b with
      | float a, float b => a != .nan && a == b
      | _, _ => false
    | _, _ => false

/-- Entries with a key set: in its place if it is there, else at the end. -/
def setEntry (key value : ConfigValue) :
    List (ConfigValue × ConfigValue) → List (ConfigValue × ConfigValue)
  | [] => [(key, value)]
  | (k, v) :: rest =>
    if isSameKey k key then (k, value) :: rest else (k, v) :: setEntry key value rest

/-- The value of a key that is a text. -/
def lookup? (name : Text) (entries : List (ConfigValue × ConfigValue)) : Option ConfigValue :=
  (entries.find? fun (key, _) => isSameKey key (text name)).map (·.2)

/-- A key as a part of a location. -/
def keyText : ConfigValue → Text
  | null => "None"
  | bool value => if value then "1" else "0"
  | int value => Text.ofInt value
  | float value => value.text
  | text value => value
  | bytes value => Text.shownBytes value
  | date value =>
    "datetime.date(" ++ Text.join ", " ([value.year, value.month, value.day].map Text.ofNat) ++ ")"
  | dateTime value => value.shown
  | list _ | set _ | dict _ _ => []

mutual

/-- The configuration value of a JSON value. -/
def ofJson : Json → ConfigValue
  | .null => null
  | .bool value => bool value
  | .int value => int value
  | .float value => float value
  | .text value => text value
  | .array items => list (ofJsonItems items)
  | .object entries => dict 0 (ofJsonEntries entries)

def ofJsonItems : List Json → List ConfigValue
  | [] => []
  | item :: items => ofJson item :: ofJsonItems items

def ofJsonEntries : List (Text × Json) → List (ConfigValue × ConfigValue)
  | [] => []
  | (key, value) :: entries => (text key, ofJson value) :: ofJsonEntries entries

end

end ConfigValue
end TableGate
