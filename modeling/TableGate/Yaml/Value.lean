import TableGate.Config.Value
import TableGate.Number.Numeral
import TableGate.Text.Base64
import TableGate.Text.Case
import TableGate.Yaml.Node

/-! The values of YAML nodes. Tags other than the standard ones have no value. A merge key
brings the entries of other mappings in front of a mapping's own, which win over them. -/

namespace TableGate.Yaml

open ScalarType (tagBase unsigned)

/-- The number that digits of a base write. -/
def ofBase? (base : Nat) (digits : Text) : Option Nat :=
  if digits.isEmpty then none
  else
    digits.foldlM (fun n c => do
      let d ← Text.hexValue? c
      if d < base then some (base * n + d) else none) 0

/-- Numbers with colons between them count sixtieths. -/
def sixtieths (numbers : List Nat) : Nat := numbers.foldl (fun n part => 60 * n + part) 0

/-- A text without its underscores. -/
def withoutUnderscores (text : Text) : Text := text.filter (· ≠ '_')

/-- The natural number that a text without a sign writes. -/
def natural (text : Text) : Except Fault Nat :=
  let ofBase (base : Nat) (digits : Text) : Except Fault Nat :=
    match ofBase? base digits with
    | some n => .ok n
    | none => .error (.conversion (.notInteger base digits))
  let decimal (digits : Text) : Except Fault Nat :=
    if digits.isEmpty || !digits.all Char.isDigit then
      .error (.conversion (.notInteger 10 digits))
    else Integer.ofDigits digits
  match text with
  | '0' :: 'b' :: digits => ofBase 2 digits
  | '0' :: 'x' :: digits => ofBase 16 digits
  | ['0'] => .ok 0
  | '0' :: rest => ofBase 8 ('0' :: rest)
  | text =>
    match Text.splitOn ':' text with
    | [digits] => decimal digits
    | parts => (parts.mapM decimal).map sixtieths

/-- The integer that a scalar writes. -/
def integer (text : Text) : Except Fault ConfigValue :=
  let text := withoutUnderscores text
  (natural (unsigned text)).map fun n =>
    .int (if text.head? == some '-' then -(n : Int) else n)

/-- A floating point number with its sign turned. -/
def negate : Binary64 → Binary64
  | .nan => .nan
  | .infinite negative => .infinite !negative
  | .finite negative mantissa exponent => .finite (!negative) mantissa exponent

/-- The floating point number that a scalar writes. -/
def float (text : Text) : Except Fault ConfigValue :=
  let text := Text.lower (withoutUnderscores text)
  let number := unsigned text
  let magnitude : Except Fault Binary64 :=
    if number = (".inf" : String).toList then .ok (.infinite false)
    else if number = (".nan" : String).toList then .ok .nan
    else
      let parts := Text.splitOn ':' number
      let last := parts.getLast?.getD []
      match Binary64.ofText? last with
      | none => .error (.conversion (.notNumber last))
      | some seconds =>
        match parts.dropLast with
        | [] => .ok seconds
        | minutes =>
          let places := ((last.dropWhile (· ≠ '.')).drop 1).length
          let whole := sixtieths (minutes.map Text.digitsValue)
          let digits := Text.digitsValue (last.filter (· ≠ '.'))
          let scale := Nat.pow 10 places
          .ok (.ofRatio false (60 * whole * scale + digits) scale)
  magnitude.map fun magnitude =>
    .float (if text.head? == some '-' then negate magnitude else magnitude)

/-- The digits at the front of a text as a number, and the rest. -/
def count (text : Text) : Nat × Text :=
  (Text.digitsValue (text.takeWhile Char.isDigit), text.dropWhile Char.isDigit)

/-- The first part of a date that is out of range. -/
def dateProblem? (year month day : Nat) : Option DatePart :=
  if year = 0 then some (.year year)
  else if month = 0 ∨ 12 < month then some .month
  else if day = 0 ∨ daysInMonth year month < day then some .day
  else none

/-- The first part of a time of day that is out of range. -/
def clockProblem? (hour minute second : Nat) : Option DatePart :=
  if 23 < hour then some .hour
  else if 59 < minute then some .minute
  else if 59 < second then some .second
  else none

/-- The offset of a zone in microseconds. -/
def zoneOffset (text : Text) : Option Int :=
  match text.dropWhile fun c => c == ' ' || c == '\t' with
  | [] => none
  | c :: rest =>
    if c == 'Z' then some 0
    else
      let (hours, rest) := count rest
      let (minutes, _) := count (rest.drop 1)
      let micros : Int := (60 * hours + minutes) * 60000000
      some (if c == '-' then -micros else micros)

/-- The microseconds of a fraction of a second; further digits are left out. -/
def microsOf (digits : Text) : Nat :=
  let digits := digits.take 6
  Text.digitsValue digits * Nat.pow 10 (6 - digits.length)

/-- The date that a scalar writes, with a time of day if it has one. -/
def timestamp (text : Text) : Except Fault ConfigValue :=
  let (year, rest) := count text
  let (month, rest) := count (rest.drop 1)
  let (day, rest) := count (rest.drop 1)
  let refuse (part : DatePart) : Except Fault ConfigValue := .error (.conversion (.notDate part))
  let valid (date : Option DateTime) (wrap : DateTime → ConfigValue) : Except Fault ConfigValue :=
    match date with
    | some date => .ok (wrap date)
    | none => .error .yaml
  if rest.isEmpty then
    match dateProblem? year month day with
    | some part => refuse part
    | none => valid (DateTime.ofParts? year month day 0 0 0 0 none) .date
  else
    let (hour, rest) := count ((rest.drop 1).dropWhile fun c => c == ' ' || c == '\t')
    let (minute, rest) := count (rest.drop 1)
    let (second, rest) := count (rest.drop 1)
    let (fraction, rest) : Text × Text :=
      match rest with
      | '.' :: rest => (rest.takeWhile Char.isDigit, rest.dropWhile Char.isDigit)
      | rest => ([], rest)
    let offset := zoneOffset rest
    if !isOffset offset then refuse (.offset (DateTime.shownDuration (offset.getD 0)))
    else
      match dateProblem? year month day, clockProblem? hour minute second with
      | some part, _ | none, some part => refuse part
      | none, none =>
        valid (DateTime.ofParts? year month day hour minute second (microsOf fraction) offset)
          .dateTime

/-- The bytes that a scalar writes in base64; other characters are passed over. -/
def binary (text : Text) : Except Fault ConfigValue :=
  let isDigit (c : Char) : Bool := c.isAlphanum || c == '+' || c == '/' || c == '='
  if !text.all (·.toNat < 128) then .error .yaml
  else
    match Text.ofBase64? (text.filter isDigit) with
    | some bytes => .ok (.bytes bytes)
    | none => .error .yaml

/-- The boolean that a scalar writes. -/
def boolean (text : Text) : Except Fault ConfigValue :=
  let word := Text.lower text
  if ScalarType.trueWords.contains word then .ok (.bool true)
  else if ScalarType.falseWords.contains word then .ok (.bool false)
  else .error .yaml

/-- The value of a scalar with a tag. -/
def scalarValue (tag text : Text) : Except Fault ConfigValue :=
  if tag = ScalarType.string.tag then .ok (.text text)
  else if tag = ScalarType.null.tag then .ok .null
  else if tag = ScalarType.bool.tag then boolean text
  else if tag = ScalarType.int.tag then integer text
  else if tag = ScalarType.float.tag then float text
  else if tag = ScalarType.timestamp.tag then
    if ScalarType.isTimestamp text then timestamp text else .error .yaml
  else if tag = tagBase ++ ("binary" : String) then binary text
  else .error .yaml

/-- Whether a node is the key of a merge. -/
def isMergeKey : Node → Bool
  | .scalar tag _ => tag == ScalarType.merge.tag
  | _ => false

/-- The entries that are merged, then a mapping's own. -/
structure Entries where
  merged : List (ConfigValue × ConfigValue) := []
  own : List (ConfigValue × ConfigValue) := []

namespace Entries

/-- One value for each key; a later entry wins, in the place of the first. -/
def distinct (entries : Entries) : List (ConfigValue × ConfigValue) :=
  (entries.merged ++ entries.own).foldl
    (fun kept (key, value) => ConfigValue.setEntry key value kept) []

end Entries

/-- The tag of mappings whose entries only have keys. -/
def setTag : Text := tagBase ++ ("set" : String)

/-- The tags of sequences of pairs. -/
def pairTags : List Text := [tagBase ++ ("omap" : String), tagBase ++ ("pairs" : String)]

mutual

/-- The value of a node. -/
def value : Node → Except Fault ConfigValue
  | .scalar tag text => scalarValue tag text
  | .sequence tag items => do
    let values ← itemValues items
    if tag = Node.sequenceTag then .ok (.list values)
    else if pairTags.contains tag then do
      let pairs ← values.mapM fun value =>
        match value with
        | .dict _ [(key, value)] => Except.ok (ConfigValue.list [key, value])
        | _ => .error Fault.yaml
      .ok (.list pairs)
    else .error .yaml
  | .mapping tag identity entries => do
    let entries ← entryValues entries
    if tag = Node.mappingTag then .ok (.dict identity entries.distinct)
    else if tag = setTag then .ok (.set (entries.distinct.map (·.1)))
    else .error .yaml

/-- The values of the items of a sequence. -/
def itemValues : List Node → Except Fault (List ConfigValue)
  | [] => .ok []
  | item :: items => do
    let head ← value item
    let tail ← itemValues items
    .ok (head :: tail)

/-- The entries of a mapping. -/
def entryValues : List (Node × Node) → Except Fault Entries
  | [] => .ok {}
  | (key, content) :: entries => do
    if isMergeKey key then
      let merged ← mergedEntries content
      let rest ← entryValues entries
      .ok { rest with merged := merged ++ rest.merged }
    else
      let key ← keyValue key
      let content ← value content
      let rest ← entryValues entries
      .ok { rest with own := (key, content) :: rest.own }

/-- The value of a key, which must not be a collection. -/
def keyValue (node : Node) : Except Fault ConfigValue :=
  match node with
  | .scalar tag text =>
    if tag = ScalarType.value.tag then .ok (.text text) else scalarValue tag text
  | _ => .error .yaml

/-- The entries of a mapping, or of several, of which the first ones win. -/
def mergedEntries : Node → Except Fault (List (ConfigValue × ConfigValue))
  | .mapping _ _ entries => (entryValues entries).map (·.distinct)
  | .sequence _ items => mergedItems items
  | .scalar _ _ => .error .yaml

/-- The entries of several mappings, those of the last one first. -/
def mergedItems : List Node → Except Fault (List (ConfigValue × ConfigValue))
  | [] => .ok []
  | .mapping _ _ entries :: items => do
    let first ← entryValues entries
    let others ← mergedItems items
    .ok (others ++ first.distinct)
  | _ :: _ => .error .yaml

end

/-- Every line break of any system as one character. -/
def normalBreaks : Text → Text
  | '\r' :: '\n' :: rest => '\n' :: normalBreaks rest
  | '\r' :: rest => '\n' :: normalBreaks rest
  | c :: rest => c :: normalBreaks rest
  | [] => []

/-- The value of a document; an empty one is null. -/
def parse (text : Text) : Except Fault ConfigValue :=
  match (tokens? (normalBreaks text)).bind Node.ofTokens? with
  | some (some node) => value node
  | some none => .ok .null
  | none => .error .yaml

end TableGate.Yaml
