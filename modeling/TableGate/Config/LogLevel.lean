import TableGate.Text.Case

/-! The level of the log, which a variable of the environment names. -/

namespace TableGate

/-- How much is logged. -/
inductive LogLevel where
  | debug | info | warning | error | critical
  deriving DecidableEq, Repr

namespace LogLevel

/-- The levels in the order of their names. -/
def all : List LogLevel := [critical, debug, error, info, warning]

def name : LogLevel → Text
  | debug => "DEBUG"
  | info => "INFO"
  | warning => "WARNING"
  | error => "ERROR"
  | critical => "CRITICAL"

/-- The number of a level; records below it are not logged. -/
def number : LogLevel → Nat
  | debug => 10
  | info => 20
  | warning => 30
  | error => 40
  | critical => 50

/-- The level with a name in any spelling. -/
def ofName? (word : Text) : Option LogLevel := all.find? fun level => level.name == Text.upper word

/-- The text that reports a name of no level. -/
def invalidName (word : Text) : Text :=
  "Warning: Invalid SQLREST_LOG_LEVEL '" ++ Text.upper word ++ "'. Valid levels: " ++
    Text.join ", " (all.map name) ++ ". Using INFO.\n"

/-- The level that the variable names, and what is printed if it names none. -/
def ofVariable (named : Option Text) : LogLevel × Text :=
  match named with
  | none => (info, [])
  | some word =>
    match ofName? word with
    | some level => (level, [])
    | none => (info, invalidName word)

end LogLevel
end TableGate
