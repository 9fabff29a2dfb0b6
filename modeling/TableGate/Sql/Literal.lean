import TableGate.Cell
import TableGate.Number.Numeral
import TableGate.Sql.Engine

/-! Cells as SQL literals. The class of the column decides between numbers, byte strings,
booleans and points in time; everything else is a string literal. An undefined cell prints
as a bare word that no engine accepts, so that it never becomes a value by accident. -/

namespace TableGate

namespace Cell

/-- The number that a cell other than an integer stands for. -/
def number? : Cell → Option Binary64
  | bool value => Binary64.ofInt? (if value then 1 else 0)
  | float value => some value
  | text value => Binary64.ofText? value
  | bytes value => Binary64.ofBytes? value
  | _ => none

/-- A finite number as SQL writes it: integers without a fraction. -/
def finiteText (number : Binary64) : Except Fault Text :=
  match number.toInt? with
  | some n => Integer.text n
  | none => .ok number.text

/-- A cell as a number of SQL. -/
def numberText : Cell → Except Fault Text
  | bool true => .ok "1"
  | bool false => .ok "0"
  | int value => Integer.text value
  | cell =>
    match cell.number? with
    | some number =>
      if number.isFinite then finiteText number
      else do
        let value ← cell.toText
        .error (.value (.notFinite value))
    | none => do
      let value ← cell.toText
      .error (.value (.notNumber value))

/-- The words for false, in any case. No letter beyond ASCII has a lower case among their
letters. -/
def isFalseText (text : Text) : Bool :=
  text.isEmpty || text.map Char.toLower == "false" || text == "0"

/-- Null, false and the words for false. -/
def isFalse : Cell → Except Fault Bool
  | null => .ok true
  | bool value => .ok !value
  | cell => do
    let text ← cell.toText
    .ok (isFalseText text)

end Cell

namespace Engine

/-- A string literal with the quotes inside it written twice. -/
def quoteShared (text : Text) : Text := '\'' :: Text.replaceChar '\'' "''" text ++ "'"

/-- A character inside a string literal with backslash escapes. -/
def backslashChar (c : Char) : Text :=
  if c = '\\' then "\\\\"
  else if c = '"' then "\\\""
  else if c = '\r' then "\\r"
  else if c = '\n' then "\\n"
  else if c = '\t' then "\\t"
  else [c]

/-- A string literal. -/
def stringLiteral : Engine → Text → Text
  | mariadb, text => '"' :: text.flatMap backslashChar ++ "\""
  | _, text => quoteShared text

/-- A literal of bytes. -/
def blobLiteral : Engine → List UInt8 → Text
  | sqlite, bytes => "X'" ++ Text.hexOfBytes bytes ++ "'"
  | postgresql, bytes => "'\\x" ++ Text.hexOfBytes bytes ++ "'"
  | mariadb, bytes => "x'" ++ Text.hexOfBytes bytes ++ "'"
  | mssql, bytes => "0x" ++ Text.hexOfBytes bytes

/-- A bit string for a value that is not false. -/
def bitLiteral (cell : Cell) : Except Fault Text := do
  let value ← cell.toText
  let text := value.map Char.toLower
  if text == "true" then .ok "b'1'"
  else if text.all fun c => c == '0' || c == '1' then .ok ("b'" ++ text ++ "'")
  else .error (.value (.notBits value))

/-- A boolean literal. -/
def booleanLiteral (engine : Engine) (cell : Cell) : Except Fault Text := do
  let isFalse ← cell.isFalse
  match engine with
  | postgresql => .ok (if isFalse then "false" else "true")
  | mariadb => if isFalse then .ok "b'0'" else bitLiteral cell
  | _ => .ok (if isFalse then "0" else "1")

/-- A literal of a point in time. MariaDB and SQL Server take no offset. -/
def dateTimeLiteral : Engine → DateTime → Text
  | mariadb, d => '"' :: d.millisText ' ' ++ "\""
  | mssql, d => '\'' :: d.millisText 'T' ++ "'"
  | _, d => '\'' :: d.isoMillis ++ "'"

/-- A cell as a string literal. -/
def textLiteral (engine : Engine) : Cell → Except Fault Text
  | .bool value => .ok (engine.stringLiteral (if value then "true" else "false"))
  | cell => do
    let text ← cell.toText
    .ok (engine.stringLiteral text)

/-- A cell as a literal for a column of a native type. -/
def literal (engine : Engine) (cell : Cell) (sqlType : Text) : Except Fault Text :=
  match cell with
  | .null => .ok "NULL"
  | .undefined => .ok "UNDEFINED"
  | cell =>
    match engine.typeClass sqlType, cell with
    | .number, cell => cell.numberText
    | .blob, .bytes bytes => .ok (engine.blobLiteral bytes)
    | .blob, cell => do
      let text ← cell.toText
      .ok (engine.stringLiteral text)
    | .boolean, cell => engine.booleanLiteral cell
    | .date, .dateTime d => .ok (engine.dateTimeLiteral d)
    | _, cell => engine.textLiteral cell

end Engine
end TableGate
