import TableGate.Number.Binary64
import TableGate.Text.Basic

/-! Decimal texts of floating point numbers: the fewest digits that read back as the same
number, and of those the nearest ones; and a fixed number of places, a half to the even
digit. -/

namespace TableGate.Binary64

/-- The greatest `p` with `10 ^ p` at most the quotient. -/
def decimalExponent (num den : Nat) : Int :=
  let low := ((num.log2 : Int) - den.log2 - 1) * 30103 / 100000 - 1
  let reached (p : Int) : Bool :=
    let (up, down) := powRatio 10 p
    den * up ≤ num * down
  low + ([low + 1, low + 2, low + 3].filter reached).length

/-- The decimals of `count` digits next to a number: the number itself lies between the
two, which are `10 ^ exponent` apart. -/
structure Neighbours where
  lower : Nat
  exponent : Int

/-- A number as a quotient. -/
def ratio (mantissa : Nat) (exponent : Int) : Nat × Nat :=
  let (up, down) := powRatio 2 exponent
  (mantissa * up, down)

/-- The neighbours of a quotient with `count` digits, whose first digit counts
`10 ^ lead`. -/
def neighbours (num den : Nat) (lead : Int) (count : Nat) : Neighbours :=
  let exponent := lead - count + 1
  let (up, down) := powRatio 10 exponent
  ⟨num * down / (den * up), exponent⟩

/-- Whether a decimal reads back as the number, which is `mantissa * 2 ^ exponent`: it lies
between the midpoints to the next numbers, and at a midpoint the even mantissa wins. -/
def readsBack (mantissa : Nat) (exponent : Int) (digits : Nat) (power : Int) : Bool :=
  let (up2, down2) := powRatio 2 (exponent - 2)
  let (up10, down10) := powRatio 10 power
  let decimal := digits * up10 * down2
  let scale := up2 * down10
  let low := if mantissa = halfMantissa ∧ minExponent < exponent then 4 * mantissa - 1 else 4 * mantissa - 2
  let high := 4 * mantissa + 2
  if mantissa % 2 = 0 then low * scale ≤ decimal && decimal ≤ high * scale
  else low * scale < decimal && decimal < high * scale

/-- The nearest decimal of `count` digits that reads back, if there is one. -/
def decimalWith? (mantissa : Nat) (exponent : Int) (lead : Int) (count : Nat) :
    Option (Nat × Int) :=
  let (num, den) := ratio mantissa exponent
  let ⟨lower, power⟩ := neighbours num den lead count
  let (up, down) := powRatio 10 power
  let reads := readsBack mantissa exponent
  match reads lower power, reads (lower + 1) power with
  | true, true =>
    let twice := 2 * num * down
    let middle := (2 * lower + 1) * den * up
    if twice < middle ∨ (twice = middle ∧ lower % 2 = 0) then some (lower, power)
    else some (lower + 1, power)
  | true, false => some (lower, power)
  | false, true => some (lower + 1, power)
  | false, false => none

/-- The shortest decimal that reads back as a positive number: its digits, and the power
of ten that the last of them counts. -/
def shortest (mantissa : Nat) (exponent : Int) : Nat × Int :=
  let (num, den) := ratio mantissa exponent
  let lead := decimalExponent num den
  ((List.range' 1 17).findSome? (decimalWith? mantissa exponent lead)).getD (num / den, 0)

/-- Digits with the decimal point behind the first `point` of them, filled up with zeros,
and at least one digit on both sides of it. -/
def positional (digits : Text) (point : Int) : Text :=
  if point ≤ 0 then "0." ++ List.replicate (-point).toNat '0' ++ digits
  else if digits.length ≤ point.toNat then
    digits ++ List.replicate (point.toNat - digits.length) '0' ++ ".0"
  else digits.take point.toNat ++ '.' :: digits.drop point.toNat

/-- Digits with the decimal point behind the first of them and a power of ten of at least
two digits. -/
def scientific (digits : Text) (power : Int) : Text :=
  let tail := digits.drop 1
  digits.take 1 ++ (if tail.isEmpty then [] else '.' :: tail) ++
    'e' :: (if power < 0 then '-' else '+') :: Text.ofNatPadded 2 power.natAbs

/-- The text of a magnitude: positional from 10^-4 up to 10^16, scientific beyond. -/
def magnitudeText (mantissa : Nat) (exponent : Int) : Text :=
  if mantissa = 0 then "0.0"
  else
    let (number, power) := shortest mantissa exponent
    let all := Text.ofNat number
    let digits := (all.reverse.dropWhile (· == '0')).reverse
    let point := all.length + power
    if -4 < point ∧ point ≤ 16 then positional digits point else scientific digits (point - 1)

/-- The text that reads back as the same number. -/
def text : Binary64 → Text
  | nan => "nan"
  | infinite negative => if negative then "-inf" else "inf"
  | finite negative mantissa exponent =>
    (if negative then ['-'] else []) ++ magnitudeText mantissa exponent

/-- The text with a fixed number of places. -/
def fixed (places : Nat) : Binary64 → Text
  | finite negative mantissa exponent =>
    let (num, den) := ratio mantissa exponent
    let all := Text.ofNatPadded (places + 1) (roundDiv (num * Nat.pow 10 places) den)
    let whole := all.take (all.length - places)
    (if negative then ['-'] else []) ++ whole ++
      (if places = 0 then [] else '.' :: all.drop (all.length - places))
  | number => number.text

end TableGate.Binary64
