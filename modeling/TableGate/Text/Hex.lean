import TableGate.Text.Basic

/-! Hexadecimal digits. Bytes are written with two lower case digits, percent escapes with
two capitals, and both read back in either case. -/

namespace TableGate.Text

/-- The digit of a number below sixteen. -/
def hexDigit (n : Nat) : Char := Char.ofNat (if n < 10 then 48 + n else 87 + n)

/-- The value of a digit in either case. -/
def hexValue? (c : Char) : Option Nat :=
  if '0' ≤ c ∧ c ≤ '9' then some (c.toNat - 48)
  else if 'a' ≤ c ∧ c ≤ 'f' then some (c.toNat - 87)
  else if 'A' ≤ c ∧ c ≤ 'F' then some (c.toNat - 55)
  else none

/-- The digits of a number. -/
def hex (n : Nat) : Text := Nat.toDigits 16 n

/-- The digits of a number with leading zeros up to a width. -/
def hexPadded (width n : Nat) : Text :=
  let digits := hex n
  List.replicate (width - digits.length) '0' ++ digits

/-- A byte as two digits. -/
def hexOfByte (b : UInt8) : Text := [hexDigit (b.toNat / 16), hexDigit (b.toNat % 16)]

/-- Bytes as two digits each. -/
def hexOfBytes (bytes : List UInt8) : Text := bytes.flatMap hexOfByte

/-- The byte that two digits write. -/
def byteOfHex? (high low : Char) : Option UInt8 :=
  match hexValue? high, hexValue? low with
  | some h, some l => some (UInt8.ofNat (16 * h + l))
  | _, _ => none

/-- The bytes that pairs of digits write. -/
def bytesOfHex? : Text → Option (List UInt8)
  | [] => some []
  | high :: low :: rest =>
    match byteOfHex? high low with
    | some b => (bytesOfHex? rest).map (b :: ·)
    | none => none
  | [_] => none

theorem hexValue?_hexDigit : ∀ n < 16, hexValue? (hexDigit n) = some n := by decide

theorem byteOfHex?_hexOfByte (b : UInt8) :
    byteOfHex? (hexDigit (b.toNat / 16)) (hexDigit (b.toNat % 16)) = some b := by
  have bound : b.toNat < 256 := b.toNat_lt
  rw [byteOfHex?, hexValue?_hexDigit _ (by omega), hexValue?_hexDigit _ (by omega)]
  have : 16 * (b.toNat / 16) + b.toNat % 16 = b.toNat := by omega
  simp [this]

/-- Reading the digits of bytes gives the bytes back. -/
theorem bytesOfHex?_hexOfBytes (bytes : List UInt8) :
    bytesOfHex? (hexOfBytes bytes) = some bytes := by
  induction bytes with
  | nil => rfl
  | cons b bytes ih =>
    have head := byteOfHex?_hexOfByte b
    simp only [hexOfBytes] at ih
    simp [hexOfBytes, hexOfByte, bytesOfHex?, head, ih]

end TableGate.Text
