import TableGate.Text.Basic

/-! Base64 with the standard alphabet and padding. Reading is strict: only characters of
the alphabet, and padding that completes the last group. Padding after a complete group
is passed over. -/

namespace TableGate.Text

/-- The character of six bits. -/
def sextetChar (n : Nat) : Char :=
  Char.ofNat (if n < 26 then 65 + n else if n < 52 then 71 + n else if n < 62 then n - 4
    else if n = 62 then 43 else 47)

/-- The six bits of a character. -/
def sextet? (c : Char) : Option Nat :=
  if 'A' ≤ c ∧ c ≤ 'Z' then some (c.toNat - 65)
  else if 'a' ≤ c ∧ c ≤ 'z' then some (c.toNat - 71)
  else if '0' ≤ c ∧ c ≤ '9' then some (c.toNat + 4)
  else if c = '+' then some 62
  else if c = '/' then some 63
  else none

/-- Bytes in base64, three bytes to a group of four characters. -/
def base64 : List UInt8 → Text
  | [] => []
  | [x] =>
    let n := x.toNat
    [sextetChar (n / 4), sextetChar (n % 4 * 16), '=', '=']
  | [x, y] =>
    let n := 256 * x.toNat + y.toNat
    [sextetChar (n / 1024), sextetChar (n / 16 % 64), sextetChar (n % 16 * 4), '=']
  | x :: y :: z :: rest =>
    let n := 65536 * x.toNat + 256 * y.toNat + z.toNat
    sextetChar (n / 262144) :: sextetChar (n / 4096 % 64) :: sextetChar (n / 64 % 64) ::
      sextetChar (n % 64) :: base64 rest

/-- The bytes that a base64 text writes. -/
def ofBase64? : Text → Option (List UInt8)
  | [] => some []
  | [a, b, '=', '='] => do
    let a ← sextet? a
    let b ← sextet? b
    some [UInt8.ofNat (4 * a + b / 16)]
  | [a, b, c, '='] => do
    let a ← sextet? a
    let b ← sextet? b
    let c ← sextet? c
    some [UInt8.ofNat (4 * a + b / 16), UInt8.ofNat (b % 16 * 16 + c / 4)]
  | a :: b :: c :: d :: rest => do
    let a ← sextet? a
    let b ← sextet? b
    let c ← sextet? c
    let d ← sextet? d
    let tail ← if rest.all (· == '=') then some [] else ofBase64? rest
    some (UInt8.ofNat (4 * a + b / 16) :: UInt8.ofNat (b % 16 * 16 + c / 4) ::
      UInt8.ofNat (c % 4 * 64 + d) :: tail)
  | _ => none

theorem sextet?_sextetChar : ∀ n < 64, sextet? (sextetChar n) = some n := by decide

theorem sextetChar_ne_padding : ∀ n < 64, sextetChar n ≠ '=' := by decide

end TableGate.Text
