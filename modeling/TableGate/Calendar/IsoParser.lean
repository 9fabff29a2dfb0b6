import TableGate.Calendar.DateTime
import TableGate.Fault
import TableGate.Text.Blank

/-! Reading ISO 8601 texts: calendar dates and week dates with or without hyphens, then any
one character, then a time with or without colons, a fraction of a second and an offset.
One stray ASCII character before an offset is passed over. -/

namespace TableGate.DateTime
open Text

/-- The number that the first `count` characters write, and what follows them. -/
def number? (count : Nat) (text : Text) : Option (Nat × Text) :=
  let digits := text.take count
  if digits.length = count ∧ digits.all Char.isDigit then
    some (digits.foldl (fun n c => 10 * n + (c.toNat - 48)) 0, text.drop count)
  else none

/-- A hyphen, where the date is written with hyphens. -/
def hyphen? (hyphens : Bool) (text : Text) : Option Text :=
  if hyphens then
    match text with
    | '-' :: rest => some rest
    | _ => none
  else some text

/-- The date that a text writes, all of it. -/
def date? (text : Text) : Option (Nat × Nat × Nat) := do
  let (year, rest) ← number? 4 text
  let hyphens := rest.head? == some '-'
  let rest := if hyphens then rest.drop 1 else rest
  match rest with
  | 'W' :: rest =>
    let (week, rest) ← number? 2 rest
    if rest.isEmpty then dateOfWeek? year week 1
    else
      let rest ← hyphen? hyphens rest
      let (day, _) ← number? 1 rest
      dateOfWeek? year week day
  | rest =>
    let (month, rest) ← number? 2 rest
    let rest ← hyphen? hyphens rest
    let (day, rest) ← number? 2 rest
    if rest.isEmpty then some (year, month, day) else none

/-- The length of the date at the front of a text, told from its first characters. -/
def dateLength (text : Text) : Option Nat :=
  let isDigitAt (i : Nat) : Bool := (text[i]?.map Char.isDigit).getD false
  if text.length = 7 then some 7
  else if text[4]? = some '-' then
    if text[5]? = some 'W' then
      if text.length < 8 then none
      else if text[8]? = some '-' then
        if text.length = 9 then none
        else if isDigitAt 10 then some 8
        else some 10
      else some 8
    else some 10
  else if text[4]? = some 'W' then
    let digitsEnd := 7 + ((text.drop 7).takeWhile Char.isDigit).length
    if digitsEnd < 9 then some digitsEnd
    else if digitsEnd % 2 = 0 then some 7
    else some 8
  else some 8

/-- A time of day or an offset as it is read, and whether a character was left over. -/
structure Clock where
  hour : Nat
  minute : Nat := 0
  second : Nat := 0
  micro : Nat := 0
  stray : Bool
  deriving DecidableEq, Repr

/-- The microseconds that a fraction writes, of which six digits count, and whether a
character is left over in front of `next`. -/
def fraction? (next : Char) (text : Text) : Option (Nat × Bool) := do
  let count := min 6 text.length
  let (value, rest) ← number? count text
  let left := (rest.dropWhile Char.isDigit).head?.getD next
  some (value * Nat.pow 10 (6 - count), left != '\x00')

/-- What follows a field of a time: nothing, the next field, or a fraction. -/
inductive AfterField where
  | done (stray : Bool)
  | field (rest : Text)
  | fraction (rest : Text)

/-- Decides what follows a field; `next` stands behind the text, and fields are separated
by colons if `colons` is set. -/
def afterField? (colons : Bool) (next : Char) : Text → Option AfterField
  | [] => some (.done (next != '\x00'))
  | [c] => if c.toNat < 128 then some (.done (c != '\x00')) else none
  | c :: rest =>
    if colons && c == ':' then some (.field rest)
    else if c == '.' || c == ',' then some (.fraction rest)
    else if colons then none
    else some (.field (c :: rest))

/-- The time that a text writes. -/
def clock? (next : Char) (text : Text) : Option Clock := do
  let (hour, rest) ← number? 2 text
  let colons := rest.head?.getD next == ':'
  match ← afterField? colons next rest with
  | .done stray => some { hour, stray }
  | .fraction rest =>
    let (micro, stray) ← fraction? next rest
    some { hour, micro, stray }
  | .field rest =>
    let (minute, rest) ← number? 2 rest
    match ← afterField? colons next rest with
    | .done stray => some { hour, minute, stray }
    | .fraction rest =>
      let (micro, stray) ← fraction? next rest
      some { hour, minute, micro, stray }
    | .field rest =>
      let (second, rest) ← number? 2 rest
      match ← afterField? colons next rest with
      | .done stray => some { hour, minute, second, stray }
      | .fraction rest | .field rest =>
        let (micro, stray) ← fraction? next rest
        some { hour, minute, second, micro, stray }

/-- A character that starts an offset. -/
def startsOffset (c : Char) : Bool := c == '+' || c == '-' || c == 'Z'

/-- An offset in microseconds; less than a second counts as none. -/
def offset? (text : Text) : Option Int :=
  match text with
  | 'Z' :: rest => if rest.isEmpty || rest.head? == some '\x00' then some 0 else none
  | sign :: rest => do
    let clock ← clock? '\x00' rest
    if clock.stray then none
    else
      let seconds := 3600 * clock.hour + 60 * clock.minute + clock.second
      let micros : Int := if seconds = 0 then 0 else 1000000 * seconds + clock.micro
      some (if sign = '-' then -micros else micros)
  | [] => none

/-- The time of day and the offset that a text writes. -/
def time? (text : Text) : Option (Clock × Option Int) := do
  let before := text.takeWhile fun c => !startsOffset c
  match text.dropWhile fun c => !startsOffset c with
  | [] =>
    let clock ← clock? '\x00' before
    if clock.stray then none else some (clock, none)
  | sign :: rest =>
    let clock ← clock? sign before
    let offset ← offset? (sign :: rest)
    some (clock, some offset)

/-- The point in time that an ISO text writes. -/
def ofIso? (text : Text) : Option DateTime := do
  let length ← dateLength text
  let (year, month, day) ← date? (text.take length)
  match text.drop length with
  | [] => ofParts? year month day 0 0 0 0 none
  | _ :: rest =>
    let (clock, offset) ← time? rest
    ofParts? year month day clock.hour clock.minute clock.second clock.micro offset

/-- Reads a date or a date with a time; blanks around it and a final `Z` in either case
are allowed. -/
def parse (value : Text) : Except Fault DateTime :=
  let text := strip value
  let text := match text.getLast? with
    | some c => if c == 'Z' || c == 'z' then text.dropLast ++ "+00:00" else text
    | none => text
  match ofIso? text with
  | some d => .ok d
  | none => .error (.value (.invalidDate value))

end TableGate.DateTime
