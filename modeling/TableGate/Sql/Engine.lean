import TableGate.Fault
import TableGate.Text.Case

/-! The database engines: the names of their native column types, and how each quotes the
names of tables and columns. -/

namespace TableGate

/-- A supported database engine. -/
inductive Engine where
  | sqlite | postgresql | mariadb | mssql
  deriving DecidableEq, Repr

/-- What a native column type holds, as far as printing and reading tell types apart. -/
inductive TypeClass where
  | number | blob | date | boolean | other
  deriving DecidableEq, Repr

namespace Engine

def all : List Engine := [sqlite, postgresql, mariadb, mssql]

def name : Engine → Text
  | sqlite => "sqlite"
  | postgresql => "postgresql"
  | mariadb => "mariadb"
  | mssql => "mssql"

/-- The engine with a name. -/
def ofName (name : Text) : Except Fault Engine :=
  match all.find? fun engine => engine.name == name with
  | some engine => .ok engine
  | none => .error (.conversion (.notMember name "DatabaseEngine"))

/-- The message of a statement for an engine without a connection. -/
def notConnected (engine : Engine) : Text := engine.name ++ " database is not connected"

def numberTypes : Engine → List String
  | sqlite => ["INTEGER", "INT", "REAL", "FLOAT", "DOUBLE", "NUMERIC", "DECIMAL"]
  | postgresql => ["INTEGER", "SMALLINT", "BIGINT", "REAL", "DOUBLE PRECISION", "NUMERIC"]
  | mariadb => ["INT", "SMALLINT", "BIGINT", "FLOAT", "DOUBLE", "DECIMAL"]
  | mssql => ["INT", "SMALLINT", "BIGINT", "FLOAT", "REAL", "DECIMAL"]

def blobTypes : Engine → List String
  | sqlite => ["BLOB"]
  | postgresql => ["BYTEA"]
  | mariadb => ["LONGBLOB", "BLOB", "BINARY", "VARBINARY"]
  | mssql => ["BINARY", "VARBINARY", "IMAGE"]

def dateTypes : Engine → List String
  | sqlite => ["DATETIME", "DATE"]
  | postgresql => ["DATE", "TIMESTAMP", "TIMESTAMPTZ"]
  | mariadb => ["DATE", "DATETIME", "TIMESTAMP"]
  | mssql => ["DATE", "DATETIME", "DATETIME2", "TIMESTAMP"]

def booleanTypes : Engine → List String
  | sqlite => ["BOOLEAN"]
  | postgresql => ["BOOLEAN"]
  | mariadb => ["BIT"]
  | mssql => ["BIT"]

/-- The class of a column type, whose name may be in any case. -/
def typeClass (engine : Engine) (sqlType : Text) : TypeClass :=
  let name := String.ofList (Text.upper sqlType)
  if engine.numberTypes.contains name then .number
  else if engine.blobTypes.contains name then .blob
  else if engine.booleanTypes.contains name then .boolean
  else if engine.dateTypes.contains name then .date
  else .other

/-- A quoted table name. -/
def quoteTable : Engine → Text → Text
  | sqlite, name => '[' :: name ++ "]"
  | postgresql, name => '"' :: Text.lower name ++ "\""
  | mariadb, name => '`' :: name ++ "`"
  | mssql, name => '[' :: name ++ "]"

/-- A quoted column name. -/
def quoteColumn : Engine → Text → Text
  | sqlite, name => '"' :: name ++ "\""
  | postgresql, name => '"' :: name ++ "\""
  | mariadb, name => '`' :: name ++ "`"
  | mssql, name => '[' :: name ++ "]"

end Engine
end TableGate
