import TableGate.Column
import TableGate.Text.Base64

/-! The codecs of the kinds of fields. Serializing turns a cell of the database into its
value on the wire; deserializing turns a wire value into the cell that statements print.

Strings pass through, booleans read a few words as false and all others as true, numbers
are read as floating point numbers, bytes travel in base64, and points in time as ISO
texts. -/

namespace TableGate

namespace Cell

/-- Whether a cell counts as true where nothing is known of its type. -/
def isTruthy : Cell → Bool
  | null | undefined => false
  | bool value => value
  | int value => value != 0
  | float value => !value.isZero
  | text value => !value.isEmpty
  | bytes value => !value.isEmpty
  | dateTime _ => true
  | list items => !items.isEmpty
  | dict entries => !entries.isEmpty

end Cell

namespace Column

/-- A run of zeros, up to one line break at its end. -/
def isZeros (text : Text) : Bool :=
  text.head? == some '0' &&
    (let rest := text.dropWhile (· == '0'); rest.isEmpty || rest == ['\n'])

/-- The wire text of a boolean. -/
def booleanText (cell : Cell) : Except Fault Text := do
  let text ← if cell.isTruthy then cell.toText else .ok []
  .ok (if text.isEmpty || text.map Char.toLower == "false" || isZeros text then "false" else "true")

/-- The wire text of a number: integral floating point numbers without a fraction. -/
def numberText : Cell → Except Fault Text
  | .float value =>
    match value.toInt? with
    | some n => Integer.text n
    | none => .ok value.text
  | .bool value => .ok (if value then "1" else "0")
  | cell => cell.toText

/-- The wire value of a cell that the driver's conventions have been removed from. -/
def serializeRead (column : Column) (cell : Cell) : Except Fault Wire :=
  match column.kind, cell with
  | .number, .null | .number, .undefined => .ok .null
  | _, .null => .ok .null
  | _, .undefined => .ok .absent
  | .string, cell => cell.toText.map .text
  | .boolean, cell => (booleanText cell).map .text
  | .number, .text [] => .ok .null
  | .number, cell => (numberText cell).map .text
  | .blob, .bytes bytes => .ok (.text (Text.base64 bytes))
  | .blob, cell => cell.toText.map .text
  | .dateTime, .dateTime d => .ok (.text d.isoMillis)
  | .dateTime, cell => cell.toText.map .text

/-- The wire value of a cell of the database. -/
def serialize (engine : Engine) (column : Column) (value : DriverValue) : Except Fault Wire :=
  match column.kind, value with
  | .string, .cell (.text text) => .ok (.text text)
  | _, value => do
    let cell ← engine.readValue value column.sqlType
    column.serializeRead cell

/-- Every value is read before it is sent, but for a text that a field of strings passes on. -/
theorem serialize_unpassed {engine : Engine} {column : Column} {value : DriverValue}
    (unpassed : column.kind = .string → ∀ text, value ≠ .cell (.text text)) :
    column.serialize engine value = engine.readValue value column.sqlType >>= column.serializeRead :=
  serialize.eq_2 engine column value fun text kind passed => unpassed kind text passed

/-- But for fields of strings, what is sent of a value is what is sent of the cell that is read of it. -/
theorem serialize_of_read {engine : Engine} {column : Column} {value : DriverValue} {cell : Cell}
    (kind : column.kind ≠ .string) (read : engine.readValue value column.sqlType = .ok cell) :
    column.serialize engine value = column.serializeRead cell := by
  rw [serialize_unpassed fun string => absurd string kind, read]
  rfl

/-- The wire value of a cell, with points in time written by a formatter. -/
def serializeLocal (engine : Engine) (format : DateTime → Text) (column : Column)
    (value : DriverValue) : Except Fault Wire :=
  if column.kind != .dateTime then column.serialize engine value
  else do
    match ← engine.readValue value column.sqlType with
    | .dateTime d => .ok (.text (format d))
    | cell => column.serialize engine cell

/-- The finite number that a cell stands for. -/
def readNumber (column : Column) (cell : Cell) : Except Fault Binary64 :=
  let number : Except Fault (Option Binary64) :=
    match cell with
    | .int value =>
      match Binary64.ofInt? value with
      | some number => .ok (some number)
      | none => .error .overflow
    | cell => .ok (cell.number?.filter Binary64.isFinite)
  number.bind fun number =>
    match number with
    | some number => .ok number
    | none => do
      let value ← cell.toText
      .error (.value (.fieldNotNumber column.name value))

/-- The bytes that a cell stands for. -/
def readBlob (column : Column) (cell : Cell) : Except Fault (List UInt8) :=
  match cell with
  | .bytes bytes => .ok bytes
  | cell => do
    let text ← cell.toText
    if text.all (·.toNat < 128) then
      match Text.ofBase64? text with
      | some bytes => .ok bytes
      | none => .error (.value (.fieldNotBase64 column.name))
    else .error (.conversion .notAscii)

/-- The cell that a wire value stands for. -/
def deserialize (column : Column) (value : Cell) : Except Fault Cell :=
  match column.kind, value with
  | .string, value => .ok value
  | _, .undefined => .ok .undefined
  | .boolean, .null => .ok (.bool false)
  | .boolean, .bool value => .ok (.bool value)
  | .boolean, value => do
    let text ← value.toText
    .ok (.bool !(Cell.isFalseText text))
  | .number, .null | .number, .text [] => .ok .null
  | .number, value => (column.readNumber value).map .float
  | .blob, .null => .ok (.bytes [])
  | .blob, value => (column.readBlob value).map .bytes
  | .dateTime, .null => .ok .null
  | .dateTime, .dateTime d => .ok (.dateTime d)
  | .dateTime, value => do
    let text ← value.toText
    let d ← DateTime.parse text
    .ok (.dateTime d)

end Column
end TableGate
