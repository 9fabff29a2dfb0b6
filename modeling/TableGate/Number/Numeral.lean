import TableGate.Number.Binary64
import TableGate.Text.Blank
import TableGate.Text.Digit

/-! Reading decimal numbers. A numeral has a sign, digits with an optional point, and an
optional power of ten; it may be surrounded by blanks, may use the digits of any script
and single underscores between digits, and may be one of the words for infinity and for
no number. The value is the nearest floating point number. -/

namespace TableGate

/-- The decimal `± digits * 10 ^ exponent`. -/
structure Numeral where
  negative : Bool
  digits : Nat
  exponent : Int
  deriving DecidableEq, Repr

namespace Numeral
open Text

/-- The nearest floating point number. Decimals far beyond the range on either side are
decided by their number of digits. -/
def toBinary64 (numeral : Numeral) : Binary64 :=
  if numeral.digits = 0 then .zero numeral.negative
  else
    let size := (ofNat numeral.digits).length + numeral.exponent
    if 400 < size then .infinite numeral.negative
    else if size < -400 then .zero numeral.negative
    else
      let (up, down) := powRatio 10 numeral.exponent
      .ofRatio numeral.negative (numeral.digits * up) down

/-- The sign at the front of a text, and the rest. -/
def sign : Text → Bool × Text
  | '-' :: rest => (true, rest)
  | '+' :: rest => (false, rest)
  | text => (false, text)

/-- The power of ten that ends a numeral; none is the zeroth power. -/
def power? : Text → Option Int
  | [] => some 0
  | c :: rest =>
    if c = 'e' ∨ c = 'E' then
      let (negative, digits) := sign rest
      if !digits.isEmpty && digits.all Char.isDigit then
        let n : Int := digitsValue digits
        some (if negative then -n else n)
      else none
    else none

/-- The digits before and behind the point, and the rest. -/
def places (text : Text) : Text × Text × Text :=
  let whole := text.takeWhile Char.isDigit
  match text.dropWhile Char.isDigit with
  | '.' :: rest => (whole, rest.takeWhile Char.isDigit, rest.dropWhile Char.isDigit)
  | rest => (whole, [], rest)

/-- The decimal that a text without a sign writes. -/
def unsigned? (negative : Bool) (text : Text) : Option Numeral :=
  let (whole, fraction, rest) := places text
  if whole.isEmpty && fraction.isEmpty then none
  else (power? rest).map fun power =>
    ⟨negative, digitsValue (whole ++ fraction), power - fraction.length⟩

/-- A text with ASCII digits and blanks in place of those of other scripts; other
characters beyond ASCII write no number. -/
def toAscii? (text : Text) : Option Text :=
  text.mapM fun c =>
    if c.toNat < 128 then some c
    else if isBlank c then some ' '
    else (digitValue? c).map fun value => Char.ofNat (48 + value)

/-- An ASCII blank. -/
def isPadding (c : Char) : Bool := c == ' ' || (9 ≤ c.toNat && c.toNat ≤ 13)

/-- A text without its underscores, each of which must stand between two digits;
`afterDigit` tells whether the character before is one. -/
def dropUnderscores? (afterDigit : Bool) : Text → Option Text
  | [] => some []
  | '_' :: rest =>
    if afterDigit && (rest.head?.map Char.isDigit).getD false then dropUnderscores? false rest
    else none
  | c :: rest => (dropUnderscores? c.isDigit rest).map (c :: ·)

/-- The number that an ASCII text without blanks around it writes. -/
def ofAscii? (text : Text) : Option Binary64 := do
  let plain ← dropUnderscores? false text
  let (negative, rest) := sign plain
  let word := rest.map Char.toLower
  if word == "inf" || word == "infinity" then some (.infinite negative)
  else if word == "nan" then some .nan
  else (unsigned? negative rest).map toBinary64

end Numeral

namespace Binary64

/-- The number that a text writes. -/
def ofText? (text : Text) : Option Binary64 := do
  let ascii ← Numeral.toAscii? text
  Numeral.ofAscii? (Text.trim Numeral.isPadding ascii)

/-- The number that ASCII bytes write. -/
def ofBytes? (bytes : List UInt8) : Option Binary64 :=
  if bytes.all (· < 128) then
    Numeral.ofAscii? (Text.trim Numeral.isPadding (bytes.map fun b => Char.ofNat b.toNat))
  else none

end Binary64
end TableGate
