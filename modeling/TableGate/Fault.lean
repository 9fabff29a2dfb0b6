import TableGate.Text.Shown

/-! The causes for which a request, a value or a configuration is refused. Each cause
carries what its message names; the wording is `Fault.message`. -/

namespace TableGate

/-- The part of a query that names a field. -/
inductive Clause where
  | filter | order | aggregate | select
  deriving DecidableEq, Repr

namespace Clause

/-- The clause as messages call it. -/
def name : Clause → Text
  | filter => "filter"
  | order => "order"
  | aggregate => "aggregate"
  | select => "select"

end Clause

/-- A query modifier that does not follow its grammar. -/
inductive QueryProblem where
  | invalidFilter (text : Text)
  | ambiguousFilter (text : Text)
  | invalidOrder (token : Text)
  | invalidLimit (text : Text)
  | invalidAggregate (token : Text)
  deriving DecidableEq, Repr

namespace QueryProblem

def message : QueryProblem → Text
  | invalidFilter text => "Invalid filter '" ++ text ++ "'"
  | ambiguousFilter text => "Ambiguous filter '" ++ text ++ "', group chained operations"
  | invalidOrder token => "Invalid order '" ++ token ++ "'"
  | invalidLimit text => "Invalid limit '" ++ text ++ "'"
  | invalidAggregate token => "Invalid aggregate '" ++ token ++ "'"

end QueryProblem

/-- A value that a column, a key or a statement can't take. -/
inductive ValueProblem where
  | invalidDate (text : Text)
  | fieldNotBase64 (field : Text)
  | fieldNotNumber (field value : Text)
  | notNumber (value : Text)
  | notFinite (value : Text)
  | notBits (value : Text)
  | pagedWithoutOrder
  | emptyInFilter (value field : Text)
  | idNotKey (id table : Text)
  | idPartEmpty (id field : Text)
  | nothingToUpdate (id : Text)
  | rowNotObject (kind : Text)
  deriving DecidableEq, Repr

namespace ValueProblem

def message : ValueProblem → Text
  | invalidDate text => "Invalid date '" ++ text ++ "'"
  | fieldNotBase64 field => "Field '" ++ field ++ "' value is not valid base64"
  | fieldNotNumber field value => "Field '" ++ field ++ "' value '" ++ value ++ "' is not a number"
  | notNumber value => "Value '" ++ value ++ "' is not a number"
  | notFinite value => "Value '" ++ value ++ "' is not a finite number"
  | notBits value => "Value '" ++ value ++ "' is not a bit string"
  | pagedWithoutOrder => "Paged limit without ORDER BY is not supported by SQL Server"
  | emptyInFilter value field =>
    "Invalid value '" ++ value ++ "' for field '" ++ field ++ "' in filter"
  | idNotKey id table => "Id '" ++ id ++ "' is not a valid key for table " ++ table
  | idPartEmpty id field => "Id '" ++ id ++ "' has an empty value for '" ++ field ++ "'"
  | nothingToUpdate id => "Row '" ++ id ++ "' has no values to update"
  | rowNotObject kind => "JSON row must be an object, got " ++ kind

end ValueProblem

/-- A row that violates a constraint of a field, and the status that reports it. -/
structure Violation where
  message : Text
  field : Text
  status : Int := 405
  deriving DecidableEq, Repr

/-- A table that can't be described. -/
inductive SchemaProblem where
  | tableNotFound (table : Text)
  | tableNotRecognized (table : Text)
  | keyExcluded (field : Text)
  deriving DecidableEq, Repr

namespace SchemaProblem

def message : SchemaProblem → Text
  | tableNotFound table => "Table " ++ table ++ " not found"
  | tableNotRecognized table => "Table " ++ table ++ " not recognized as a valid SQLite table"
  | keyExcluded field => "Primary key field " ++ field ++ " excluded in API configuration"

end SchemaProblem

/-- A part of a date or a time of day. -/
inductive DatePart where
  | year (value : Nat)
  | month | day | hour | minute | second
  /-- The offset of a zone, as durations are shown. -/
  | offset (duration : Text)
  deriving DecidableEq, Repr

namespace DatePart

def message : DatePart → Text
  | year value => "year " ++ Text.ofNat value ++ " is out of range"
  | month => "month must be in 1..12"
  | day => "day is out of range for month"
  | hour => "hour must be in 0..23"
  | minute => "minute must be in 0..59"
  | second => "second must be in 0..59"
  | offset duration =>
    "offset must be a timedelta strictly between -timedelta(hours=24) and timedelta(hours=24), not "
      ++ duration ++ "."

end DatePart

/-- A text that can't be converted at all. -/
inductive ConversionProblem where
  /-- More decimal digits than a conversion takes; the count is known when digits are read. -/
  | tooManyDigits (count : Option Nat)
  | notAscii
  /-- A word that is none of the members of an enumeration. -/
  | notMember (word enumeration : Text)
  /-- More places than a number can be written with. -/
  | tooManyPlaces (places : Nat)
  | configNotDictionary
  | apisNotDictionary
  /-- A text that is no integer in a base. -/
  | notInteger (base : Nat) (text : Text)
  | notNumber (text : Text)
  /-- A year, month or other part that no date or time of day has. -/
  | notDate (part : DatePart)
  deriving DecidableEq, Repr

namespace ConversionProblem

/-- The most decimal digits that a conversion takes. -/
def digitLimit : Nat := 4300

def message : ConversionProblem → Text
  | tooManyDigits none =>
    "Exceeds the limit (" ++ Text.ofNat digitLimit ++ " digits) for integer string conversion; use sys.set_int_max_str_digits() to increase the limit"
  | tooManyDigits (some count) =>
    "Exceeds the limit (" ++ Text.ofNat digitLimit ++ " digits) for integer string conversion: value has "
      ++ Text.ofNat count ++ " digits; use sys.set_int_max_str_digits() to increase the limit"
  | notAscii => "string argument should contain only ASCII characters"
  | notMember word enumeration => Text.shown word ++ " is not a valid " ++ enumeration
  | tooManyPlaces places =>
    if places < Nat.pow 2 63 then "precision too big" else "Too many decimal digits in format string"
  | configNotDictionary => "Config file must contain a YAML dictionary"
  | apisNotDictionary => "'apis' must be a dictionary of table configurations"
  | notInteger base text =>
    "invalid literal for int() with base " ++ Text.ofNat base ++ ": " ++ Text.shown text
  | notNumber text => "could not convert string to float: " ++ Text.shown text
  | notDate part => part.message

end ConversionProblem

/-- What a JSON reader expects or refuses at a position. -/
inductive JsonProblem where
  | byteOrderMark
  | value
  | extraData
  | propertyName
  | colon
  | comma
  | unterminatedString
  | controlCharacter
  | escape
  | unicodeEscape
  deriving DecidableEq, Repr

namespace JsonProblem

def message : JsonProblem → Text
  | byteOrderMark => "Unexpected UTF-8 BOM (decode using utf-8-sig)"
  | value => "Expecting value"
  | extraData => "Extra data"
  | propertyName => "Expecting property name enclosed in double quotes"
  | colon => "Expecting ':' delimiter"
  | comma => "Expecting ',' delimiter"
  | unterminatedString => "Unterminated string starting at"
  | controlCharacter => "Invalid control character at"
  | escape => "Invalid \\escape"
  | unicodeEscape => "Invalid \\uXXXX escape"

end JsonProblem

/-- Why a run of bytes is not UTF-8. -/
inductive Utf8Problem where
  | invalidStart
  | invalidContinuation
  | unexpectedEnd
  deriving DecidableEq, Repr

namespace Utf8Problem

def message : Utf8Problem → Text
  | invalidStart => "invalid start byte"
  | invalidContinuation => "invalid continuation byte"
  | unexpectedEnd => "unexpected end of data"

end Utf8Problem

/-- Why the value of an option does not fit. -/
inductive OptionCause where
  | missing
  | notText
  | notUnicode
  | emptyText
  | notBoolean
  | unreadableBoolean
  | notInteger
  | unreadableInteger
  | longInteger
  | fractional
  | notFinite
  | negative
  | notList
  /-- The value is not a dictionary that describes the named part of a configuration. -/
  | notDictionary (part : Text)
  | longSeparator (text : Text)
  | percentSeparator
  deriving DecidableEq, Repr

namespace OptionCause

/-- The word that stands for the cause. -/
def type : OptionCause → Text
  | missing => "missing"
  | notText => "string_type"
  | notUnicode => "string_unicode"
  | emptyText => "string_too_short"
  | notBoolean => "bool_type"
  | unreadableBoolean => "bool_parsing"
  | notInteger => "int_type"
  | unreadableInteger => "int_parsing"
  | longInteger => "int_parsing_size"
  | fractional => "int_from_float"
  | notFinite => "finite_number"
  | negative => "greater_than_equal"
  | notList => "list_type"
  | notDictionary _ => "model_type"
  | longSeparator _ => "value_error"
  | percentSeparator => "value_error"

def message : OptionCause → Text
  | missing => "Field required"
  | notText => "Input should be a valid string"
  | notUnicode => "Input should be a valid string, unable to parse raw data as a unicode string"
  | emptyText => "String should have at least 1 character"
  | notBoolean => "Input should be a valid boolean"
  | unreadableBoolean => "Input should be a valid boolean, unable to interpret input"
  | notInteger => "Input should be a valid integer"
  | unreadableInteger => "Input should be a valid integer, unable to parse string as an integer"
  | longInteger => "Unable to parse input string as an integer, exceeded maximum size"
  | fractional => "Input should be a valid integer, got a number with a fractional part"
  | notFinite => "Input should be a finite number"
  | negative => "Input should be greater than or equal to 0"
  | notList => "Input should be a valid list"
  | notDictionary part => "Input should be a valid dictionary or instance of " ++ part
  | longSeparator text =>
    "Value error, id_separator must be a single character, got '" ++ text ++ "'"
  | percentSeparator => "Value error, id_separator can't be '%'"

end OptionCause

/-- An option whose value does not fit, and where it stands. -/
structure OptionProblem where
  location : List Text
  cause : OptionCause
  deriving DecidableEq, Repr

/-- Why an operation fails. -/
inductive Fault where
  /-- A query modifier does not follow its grammar. -/
  | query (problem : QueryProblem)
  /-- A clause names a field that the table lacks. -/
  | unknownField (name : Text) (clause : Clause)
  /-- A value does not fit its place. -/
  | value (problem : ValueProblem)
  /-- A row violates a constraint. -/
  | violation (violation : Violation)
  /-- There is no connection to the database. -/
  | connection (message : Text)
  /-- The table can't be described. -/
  | schema (problem : SchemaProblem)
  /-- A text can't be converted. -/
  | conversion (problem : ConversionProblem)
  /-- A value that is not a sequence stands for a row. -/
  | notIterable (kind : Text)
  /-- An integer is beyond the largest float. -/
  | overflow
  /-- A text is not JSON from the position on. -/
  | json (problem : JsonProblem) (line column position : Nat)
  /-- Bytes are not UTF-8 in `first` to `last`. -/
  | utf8 (problem : Utf8Problem) (byte : UInt8) (first last : Nat)
  /-- No table of this name is configured. -/
  | unknownApi (name : Text) (available : List Text)
  /-- The shared rules have no way to quote a name. -/
  | noQuoting
  /-- Options do not fit. -/
  | options (problems : List OptionProblem)
  /-- A document is not YAML. -/
  | yaml
  /-- The configuration file at a path can't be used. -/
  | configFile (path : Text) (cause : Fault)
  /-- The database failed in a way of its own. -/
  | foreign (message : Text)
  deriving DecidableEq, Repr

namespace Fault

/-- The text that reports a fault. -/
def message : Fault → Text
  | query problem => problem.message
  | unknownField name clause => "Invalid field '" ++ name ++ "' in " ++ clause.name
  | value problem => problem.message
  | violation v => v.message
  | connection message => message
  | schema problem => problem.message
  | conversion problem => problem.message
  | notIterable kind => "'" ++ kind ++ "' object is not iterable"
  | overflow => "int too large to convert to float"
  | json problem line column position =>
    problem.message ++ ": line " ++ Text.ofNat line ++ " column " ++ Text.ofNat column
      ++ " (char " ++ Text.ofNat position ++ ")"
  | utf8 problem byte first last =>
    "'utf-8' codec can't decode " ++
      (if last = first then "byte 0x" ++ Text.hexOfByte byte ++ " in position " ++ Text.ofNat first
       else "bytes in position " ++ Text.ofNat first ++ "-" ++ Text.ofNat last)
      ++ ": " ++ problem.message
  | unknownApi name available =>
    "API '" ++ name ++ "' not found. Available: " ++ Text.join ", " available
  | noQuoting => ""
  | options _ => ""
  | yaml => ""
  | configFile path cause => "Failed to load config from " ++ path ++ ": " ++ cause.message
  | foreign message => message

/-- Faults of the request itself, which its sender can mend. -/
def isRequestFault : Fault → Bool
  | query _ | unknownField _ _ | value _ | violation _ | connection _ | schema _ => true
  | _ => false

end Fault
end TableGate
