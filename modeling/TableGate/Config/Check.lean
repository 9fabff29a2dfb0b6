import TableGate.Config.Settings
import TableGate.Config.TableOptions
import TableGate.Config.Value
import TableGate.Text.Blank
import TableGate.Text.Utf8

/-! Checking options. A check goes on after a problem with a stand-in for the option's
value, so that all problems of a configuration are reported together, in the order of the
options. Texts and numbers are accepted for booleans and integers where their meaning is
clear. -/

namespace TableGate

/-- A checked value, and the problems that were found on the way to it. -/
structure Checked (α : Type) where
  value : α
  problems : List OptionProblem := []

namespace Checked

instance : Monad Checked where
  pure value := ⟨value, []⟩
  bind checked next :=
    let later := next checked.value
    ⟨later.value, checked.problems ++ later.problems⟩

/-- The value if there are no problems. -/
def result {α : Type} (checked : Checked α) : Except Fault α :=
  if checked.problems.isEmpty then .ok checked.value else .error (.options checked.problems)

end Checked

namespace ConfigValue

/-- A value as a text; bytes are read as UTF-8. -/
def readText : ConfigValue → Except OptionCause Text
  | text value => .ok value
  | bytes value =>
    match Text.ofUtf8 value with
    | .ok value => .ok value
    | .error _ => .error .notUnicode
  | _ => .error .notText

/-- A text with at least one character. -/
def readName (value : ConfigValue) : Except OptionCause Text :=
  match readText value with
  | .ok [] => .error .emptyText
  | result => result

/-- The separator of row ids. -/
def readSeparator (value : ConfigValue) : Except OptionCause { c : Char // c ≠ '%' } :=
  match readText value with
  | .ok [c] => if h : c ≠ '%' then .ok ⟨c, h⟩ else .error .percentSeparator
  | .ok separator => .error (.longSeparator separator)
  | .error cause => .error cause

/-- Words that stand for true. -/
def trueWords : List Text := ["1", "on", "t", "true", "y", "yes"]

/-- Words that stand for false. -/
def falseWords : List Text := ["0", "f", "false", "n", "no", "off"]

/-- The boolean that a word stands for. -/
def booleanOfWord (word : Text) : Except OptionCause Bool :=
  let word := word.map Char.toLower
  if trueWords.contains word then .ok true
  else if falseWords.contains word then .ok false
  else .error .unreadableBoolean

/-- Integers of a machine word are below this bound and at least its negative. -/
def wordBound : Nat := Nat.pow 2 63

/-- The boolean that a number stands for. -/
def booleanOfInt (value : Int) : Except OptionCause Bool :=
  if value < -wordBound ∨ wordBound ≤ value then .error .notBoolean
  else if value = 0 then .ok false
  else if value = 1 then .ok true
  else .error .unreadableBoolean

/-- A value as a boolean. -/
def readBoolean : ConfigValue → Except OptionCause Bool
  | bool value => .ok value
  | text value => booleanOfWord value
  | bytes value =>
    match Text.ofUtf8 value with
    | .ok value => booleanOfWord value
    | .error _ => .error .unreadableBoolean
  | int value => booleanOfInt value
  | float value =>
    match value.toInt? with
    | some value => booleanOfInt value
    | none => .error .notBoolean
  | _ => .error .notBoolean

/-- A blank around a numeral; the separators of information are none. -/
def isPadding (c : Char) : Bool := Text.isBlank c && !(28 ≤ c.toNat && c.toNat ≤ 31)

/-- Digits without the zeros in front of them, up to the last character before a point or
the end; underscores may stand among the zeros. -/
def dropLeadingZeros : Text → Option Text
  | '0' :: rest =>
    let last := ((rest.takeWhile fun c => c == '0' || c == '_').getLast?).getD '0'
    match rest.dropWhile fun c => c == '0' || c == '_' with
    | [] => some [last]
    | '.' :: after => some (last :: '.' :: after)
    | c :: after => if '1' ≤ c ∧ c ≤ '9' then some (c :: after) else none
  | c :: rest => if c = '-' ∨ '1' ≤ c ∧ c ≤ '9' then some (c :: rest) else none
  | [] => none

/-- A text without a point that only zeros follow. -/
def dropZeroFraction (value : Text) : Text :=
  match Text.cutAt '.' value with
  | (whole, some places) => if places.all (· == '0') then whole else value
  | (_, none) => value

/-- A text without single underscores inside. -/
def dropUnderscores (value : Text) : Text :=
  if value.head? == some '_' || value.getLast? == some '_' || Text.hasInfix ['_', '_'] value then
    value
  else value.filter (· ≠ '_')

/-- The integer of a sign and digits without needless zeros. -/
def plainInteger? (value : Text) : Option (Except OptionCause Int) :=
  let (negative, digits) : Bool × Text := match value with
    | '-' :: digits => (true, digits)
    | digits => (false, digits)
  if digits.isEmpty || !digits.all Char.isDigit || (digits.head? == some '0' && digits.length ≠ 1)
  then none
  else if ConversionProblem.digitLimit < digits.length then some (.error .longInteger)
  else
    let n : Int := Text.digitsValue digits
    some (.ok (if negative then -n else n))

/-- The integer that a text writes: digits with an optional sign, with blanks around them,
with zeros in front and underscores inside, or with a fraction of zeros. -/
def integerOfText (value : Text) : Except OptionCause Int :=
  let value := Text.trim isPadding value
  let cleaned : Option Text :=
    (dropLeadingZeros (if value.head? == some '+' then value.tail else value)).map fun value =>
      dropUnderscores (dropZeroFraction value)
  ((plainInteger? value).or (cleaned.bind plainInteger?)).getD (.error .unreadableInteger)

/-- The integer that a floating point number is. -/
def integerOfFloat (value : Binary64) : Except OptionCause Int :=
  if !value.isFinite then .error .notFinite
  else
    match value.toInt? with
    | none => .error .fractional
    | some n => if -wordBound < n ∧ n < wordBound then .ok n else .error .longInteger

/-- A value as an integer. -/
def readInteger : ConfigValue → Except OptionCause Int
  | bool value => .ok (if value then 1 else 0)
  | int value => .ok value
  | text value => integerOfText value
  | bytes value =>
    match Text.ofUtf8 value with
    | .ok value => integerOfText value
    | .error _ => .error .unreadableInteger
  | float value => integerOfFloat value
  | _ => .error .notInteger

/-- A value as a number of places, null for none. -/
def readPlaces : ConfigValue → Except OptionCause (Option Nat)
  | null => .ok none
  | value => do
    let n ← readInteger value
    if n < 0 then .error .negative else .ok (some n.toNat)

end ConfigValue

/-- The entries of a dictionary of options, and where it stands. -/
structure OptionSource where
  location : List Text
  entries : List (ConfigValue × ConfigValue)

namespace OptionSource

/-- A value that was read, or a stand-in with the problem. -/
def checked {α : Type} (location : List Text) (standIn : α) :
    Except OptionCause α → Checked α
  | .ok value => ⟨value, []⟩
  | .error cause => ⟨standIn, [⟨location, cause⟩]⟩

/-- The value of an option, or its default if it is not there. -/
def option {α : Type} (source : OptionSource) (name : Text) (default : α)
    (read : ConfigValue → Except OptionCause α) : Checked α :=
  match ConfigValue.lookup? name source.entries with
  | none => ⟨default, []⟩
  | some value => checked (source.location ++ [name]) default (read value)

/-- The value of an option that must be there. -/
def required (source : OptionSource) (name : Text)
    (read : ConfigValue → Except OptionCause Text) : Checked Text :=
  match ConfigValue.lookup? name source.entries with
  | none => ⟨[], [⟨source.location ++ [name], .missing⟩]⟩
  | some value => checked (source.location ++ [name]) [] (read value)

/-- The texts of a list option. -/
def texts (source : OptionSource) (name : Text) : Checked (List Text) :=
  let location := source.location ++ [name]
  match ConfigValue.lookup? name source.entries with
  | none => ⟨[], []⟩
  | some (.list items) | some (.set items) =>
    items.zipIdx.mapM fun (item, i) => checked (location ++ [Text.ofNat i]) [] item.readText
  | some _ => ⟨[], [⟨location, .notList⟩]⟩

/-- The settings that options describe. -/
def settings (source : OptionSource) : Checked Settings := do
  let plain := Settings.standard
  let idField ← source.option "id_field" plain.idField ConfigValue.readName
  let ⟨idSeparator, separator_ne_percent⟩ ←
    source.option "id_separator" ⟨plain.idSeparator, plain.separator_ne_percent⟩ ConfigValue.readSeparator
  let filterParam ← source.option "filter_param" plain.filterParam ConfigValue.readText
  let orderParam ← source.option "order_param" plain.orderParam ConfigValue.readText
  let limitParam ← source.option "limit_param" plain.limitParam ConfigValue.readText
  let aggregateParam ← source.option "aggregate_param" plain.aggregateParam ConfigValue.readText
  let selectParam ← source.option "select_param" plain.selectParam ConfigValue.readText
  return ⟨idField, idSeparator, filterParam, orderParam, limitParam, aggregateParam, selectParam,
    separator_ne_percent⟩

/-- The options of a table that options describe. -/
def tableOptions (source : OptionSource) : Checked TableOptions := do
  let tableName ← source.required "table_name" ConfigValue.readName
  let flag (name : Text) (default : Bool) := source.option name default ConfigValue.readBoolean
  let failOnOversizedValues ← flag "fail_on_oversized_values" false
  let failOnUpdateOnAutoIncrement ← flag "fail_on_update_on_autoinc" false
  let failOnInsertWithoutKey ← flag "fail_on_insert_without_key" false
  let failOnAnyInvalidRows ← flag "fail_on_any_invalid_rows" true
  let useDatesAsString ← flag "use_dates_as_string" false
  let includeFields ← source.texts "include_fields"
  let excludeFieldPrefix ← source.option "exclude_field_prefix" [] ConfigValue.readText
  let excludeFields ← source.texts "exclude_fields"
  let debugOnError ← flag "debug_on_error" false
  let numberDecimals ← source.option "number_decimals" none ConfigValue.readPlaces
  return ⟨tableName, failOnOversizedValues, failOnUpdateOnAutoIncrement, failOnInsertWithoutKey,
    failOnAnyInvalidRows, useDatesAsString, includeFields, excludeFieldPrefix, excludeFields,
    debugOnError, numberDecimals⟩

end OptionSource

/-- The settings that a dictionary describes. -/
def Settings.ofOptions (entries : List (ConfigValue × ConfigValue)) : Except Fault Settings :=
  (OptionSource.settings ⟨[], entries⟩).result

/-- The options of a table that a dictionary describes. -/
def TableOptions.ofOptions (entries : List (ConfigValue × ConfigValue)) :
    Except Fault TableOptions :=
  (OptionSource.tableOptions ⟨[], entries⟩).result

end TableGate
