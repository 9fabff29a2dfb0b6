import TableGate.Sql.DriverValue
import TableGate.Sql.SelectStatement

/-! The rules of one engine, or those that all engines share. The shared rules know no
native types and no way to quote a name. -/

namespace TableGate

namespace Engine

/-- A SELECT statement. -/
def select : Engine → SelectFragments → Except Fault Text
  | mssql, fragments => fragments.withTop
  | _, fragments => .ok fragments.withLimit

end Engine

/-- The rules of an engine, or the shared ones alone. -/
inductive Dialect where
  | shared
  | engine (engine : Engine)
  deriving DecidableEq, Repr

namespace Dialect

def quoteTable : Dialect → Text → Except Fault Text
  | shared, _ => .error .noQuoting
  | engine e, name => .ok (e.quoteTable name)

def quoteColumn : Dialect → Text → Except Fault Text
  | shared, _ => .error .noQuoting
  | engine e, name => .ok (e.quoteColumn name)

def stringLiteral : Dialect → Text → Text
  | shared, text => Engine.quoteShared text
  | engine e, text => e.stringLiteral text

def blobLiteral : Dialect → List UInt8 → Text
  | shared, bytes => Engine.sqlite.blobLiteral bytes
  | engine e, bytes => e.blobLiteral bytes

def booleanLiteral : Dialect → Cell → Except Fault Text
  | shared, cell => Engine.sqlite.booleanLiteral cell
  | engine e, cell => e.booleanLiteral cell

def dateTimeLiteral : Dialect → DateTime → Text
  | shared, d => Engine.sqlite.dateTimeLiteral d
  | engine e, d => e.dateTimeLiteral d

/-- A cell as a literal; the shared rules write every value as a string. -/
def literal : Dialect → Cell → Text → Except Fault Text
  | shared, .null, _ => .ok "NULL"
  | shared, .undefined, _ => .ok "UNDEFINED"
  | shared, cell, _ => Engine.sqlite.textLiteral cell
  | engine e, cell, sqlType => e.literal cell sqlType

/-- A driver's value as a cell; the shared rules only know the word for null. -/
def readValue : Dialect → DriverValue → Text → Except Fault Cell
  | shared, .cell (.text text), _ => .ok (if text == "NULL" then .null else .text text)
  | shared, value, _ => .ok value.toCell
  | engine e, value, sqlType => e.readValue value sqlType

def select : Dialect → SelectFragments → Except Fault Text
  | shared, fragments => .ok fragments.withLimit
  | engine e, fragments => e.select fragments

end Dialect
end TableGate
