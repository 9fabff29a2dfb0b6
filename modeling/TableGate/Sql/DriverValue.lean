import TableGate.Calendar.IsoParser
import TableGate.Sql.Literal

/-! Values as a database driver delivers them, converted to cells: the word `NULL` is null,
dates that come as texts are parsed, numbers of boolean columns become booleans, and the
bytes of a bit column become a text of bits. -/

namespace TableGate

/-- A value as a driver delivers it: a cell, or bytes that the driver still holds, in a
buffer of its own or as a view of one. -/
inductive DriverValue where
  | cell (cell : Cell)
  | buffer (bytes : List UInt8)
  | view (bytes : List UInt8)

instance : Coe Cell DriverValue := ⟨.cell⟩

namespace DriverValue

/-- The bytes of a buffer or a view are copied, a cell is the cell itself. -/
def toCell : DriverValue → Cell
  | cell value => value
  | buffer bytes | view bytes => .bytes bytes

end DriverValue

namespace Engine

/-- The bits of a byte, the highest first. -/
def bitsOfByte (b : UInt8) : Text :=
  (List.range 8).map fun i => if b.toNat.testBit (7 - i) then '1' else '0'

/-- A value of a boolean column that is not a text. -/
def readBoolean : Cell → Except Fault Cell
  | .bool value => .ok (.bool value)
  | .int value => .ok (.bool (value != 0))
  | .float value => .ok (.bool !value.isZero)
  | cell => do
    let isFalse ← cell.isFalse
    .ok (.bool !isFalse)

/-- A driver's value as a cell of a column. The bits of a view are not looked at. -/
def readValue (engine : Engine) (value : DriverValue) (sqlType : Text) : Except Fault Cell :=
  match value.toCell with
  | .null => .ok .null
  | .undefined => .ok .undefined
  | .text text =>
    if text == "NULL" then .ok .null
    else if engine.typeClass sqlType == .date && !text.isEmpty then
      (DateTime.parse text).map .dateTime
    else .ok (.text text)
  | cell =>
    if engine.typeClass sqlType != .boolean then .ok cell
    else
      match engine, value, cell with
      | mariadb, .view _, _ => .ok (.bool true)
      | mariadb, _, .bytes bytes => .ok (.text (bytes.flatMap bitsOfByte))
      | _, _, cell => readBoolean cell

end Engine
end TableGate
