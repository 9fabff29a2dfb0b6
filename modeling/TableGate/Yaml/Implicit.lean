import TableGate.Text.Basic

/-! The types of plain scalars, told by their spelling: booleans, numbers with optional
signs, underscores and bases, null, dates with optional times, and the two words that have
a meaning as keys. Every other plain scalar is a text. -/

namespace TableGate.Yaml

/-- The type of a scalar that is written without a tag. -/
inductive ScalarType where
  | string | bool | int | float | null | timestamp | merge | value
  deriving DecidableEq, Repr

namespace ScalarType

/-- What the tags of the standard types start with. -/
def tagBase : Text := "tag:yaml.org,2002:"

def tag (type : ScalarType) : Text :=
  tagBase ++ (match type with
    | string => "str"
    | bool => "bool"
    | int => "int"
    | float => "float"
    | null => "null"
    | timestamp => "timestamp"
    | merge => "merge"
    | value => "value")

/-- The words for true. -/
def trueWords : List Text :=
  ["yes", "Yes", "YES", "true", "True", "TRUE", "on", "On", "ON"]

/-- The words for false. -/
def falseWords : List Text :=
  ["no", "No", "NO", "false", "False", "FALSE", "off", "Off", "OFF"]

def nullWords : List Text := ["~", "null", "Null", "NULL", ""]

def infinityWords : List Text := [".inf", ".Inf", ".INF"]

def nanWords : List Text := [".nan", ".NaN", ".NAN"]

def isBinaryChar (c : Char) : Bool := c == '0' || c == '1' || c == '_'

def isOctalChar (c : Char) : Bool := ('0' ≤ c && c ≤ '7') || c == '_'

def isDecimalChar (c : Char) : Bool := c.isDigit || c == '_'

def isHexChar (c : Char) : Bool :=
  isDecimalChar c || ('a' ≤ c && c ≤ 'f') || ('A' ≤ c && c ≤ 'F')

/-- A text without its sign. -/
def unsigned : Text → Text
  | '-' :: rest => rest
  | '+' :: rest => rest
  | text => text

def isRun (kind : Char → Bool) (text : Text) : Bool := !text.isEmpty && text.all kind

/-- A number of minutes or seconds: at most two digits, the first of two below six. -/
def isSixtieth : Text → Bool
  | [c] => c.isDigit
  | [a, b] => '0' ≤ a && a ≤ '5' && b.isDigit
  | _ => false

/-- Digits and underscores, a digit first. -/
def isCount : Text → Bool
  | c :: rest => c.isDigit && rest.all isDecimalChar
  | [] => false

/-- Whether a text writes an integer. -/
def isInt (text : Text) : Bool :=
  match unsigned text with
  | '0' :: 'b' :: rest => isRun isBinaryChar rest
  | '0' :: 'x' :: rest => isRun isHexChar rest
  | ['0'] => true
  | '0' :: rest => isRun isOctalChar rest
  | c :: rest =>
    '1' ≤ c && c ≤ '9' &&
      (match Text.splitOn ':' rest with
        | head :: sixtieths => head.all isDecimalChar && sixtieths.all isSixtieth
        | [] => false)
  | [] => false

/-- Whether a text is empty or an exponent with a sign. -/
def isPower : Text → Bool
  | [] => true
  | c :: sign :: digits =>
    (c == 'e' || c == 'E') && (sign == '-' || sign == '+') && isRun Char.isDigit digits
  | _ => false

/-- Whether a text writes a number with a point. -/
def isFloat (text : Text) : Bool :=
  let number := unsigned text
  let whole := number.takeWhile (· ≠ '.')
  match number.dropWhile (· ≠ '.') with
  | [] => false
  | _ :: rest =>
    let places := rest.takeWhile isDecimalChar
    let power := rest.dropWhile isDecimalChar
    if infinityWords.contains number then true
    else if nanWords.contains text then true
    else if whole.isEmpty then
      number == text && isCount places && isPower power
    else
      match Text.splitOn ':' whole with
      | [whole] => isCount whole && isPower power
      | head :: sixtieths => isCount head && sixtieths.all isSixtieth && power.isEmpty
      | [] => false

/-- The text behind one or two digits. -/
def dropDigits? : Text → Option Text
  | a :: b :: rest => if a.isDigit then some (if b.isDigit then rest else b :: rest) else none
  | [a] => if a.isDigit then some [] else none
  | [] => none

/-- The text behind exactly so many digits. -/
def dropExactly? : Nat → Text → Option Text
  | 0, text => some text
  | n + 1, c :: rest => if c.isDigit then dropExactly? n rest else none
  | _ + 1, [] => none

/-- The text behind a character. -/
def dropChar? (c : Char) : Text → Option Text
  | d :: rest => if d = c then some rest else none
  | [] => none

/-- Whether a text is a zone behind a time of day, or nothing. -/
def isZone (text : Text) : Bool :=
  match text.dropWhile fun c => c == ' ' || c == '\t' with
  | [] => text.isEmpty
  | ['Z'] => true
  | c :: rest =>
    (c == '-' || c == '+') &&
      (match dropDigits? rest with
        | some [] => true
        | some rest => ((dropChar? ':' rest).bind (dropExactly? 2)) == some []
        | none => false)

/-- Whether a text is a time of day behind a date. -/
def isClock (text : Text) : Bool :=
  let start : Option Text :=
    match text with
    | c :: rest =>
      if c == 'T' || c == 't' then some rest
      else if c == ' ' || c == '\t' then
        some (rest.dropWhile fun c => c == ' ' || c == '\t')
      else none
    | [] => none
  let zone : Option Text := do
    let rest ← start.bind dropDigits?
    let rest ← (dropChar? ':' rest).bind (dropExactly? 2)
    let rest ← (dropChar? ':' rest).bind (dropExactly? 2)
    some ((dropChar? '.' rest).elim rest (·.dropWhile Char.isDigit))
  (zone.map isZone).getD false

/-- Whether a text writes a date, or a date with a time. A date alone has two digits for
the month and the day. -/
def isTimestamp (text : Text) : Bool :=
  let date : Option Text := do
    let rest ← dropExactly? 4 text
    let rest ← (dropChar? '-' rest).bind (dropExactly? 2)
    (dropChar? '-' rest).bind (dropExactly? 2)
  let dateTime : Option Text := do
    let rest ← dropExactly? 4 text
    let rest ← (dropChar? '-' rest).bind dropDigits?
    (dropChar? '-' rest).bind dropDigits?
  date == some [] || (dateTime.map isClock).getD false

/-- The type of a plain scalar. -/
def ofPlain (text : Text) : ScalarType :=
  if trueWords.contains text || falseWords.contains text then .bool
  else if isFloat text then .float
  else if isInt text then .int
  else if text == ['<', '<'] then .merge
  else if nullWords.contains text then .null
  else if isTimestamp text then .timestamp
  else if text == ['='] then .value
  else .string

end ScalarType
end TableGate.Yaml
