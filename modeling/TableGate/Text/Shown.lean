import TableGate.Text.Hex
import TableGate.Text.Printable

/-! Texts and bytes as they are shown inside a larger value: between quotes, with
escapes for whatever is not printable. -/

namespace TableGate.Text

/-- Single quotes, unless the text has one and has no double quote. -/
def quoteFor (single double : Bool) : Char := if single && !double then '"' else '\''

/-- The escape of a control character or of a character that is not printable. -/
def escapeCode (n : Nat) : Text :=
  if n < 0x100 then "\\x" ++ hexPadded 2 n
  else if n < 0x10000 then "\\u" ++ hexPadded 4 n
  else "\\U" ++ hexPadded 8 n

private def shownChar (quote c : Char) : Text :=
  if c == quote || c == '\\' then ['\\', c]
  else if c == '\t' then "\\t"
  else if c == '\n' then "\\n"
  else if c == '\r' then "\\r"
  else if isPrintable c then [c]
  else escapeCode c.toNat

/-- A text between quotes. -/
def shown (text : Text) : Text :=
  let quote := quoteFor (text.contains '\'') (text.contains '"')
  quote :: text.flatMap (shownChar quote) ++ [quote]

private def shownByte (quote : Char) (b : UInt8) : Text :=
  if b < 128 then shownChar quote (Char.ofNat b.toNat) else escapeCode b.toNat

/-- Bytes between quotes and marked as bytes. -/
def shownBytes (bytes : List UInt8) : Text :=
  let quote := quoteFor (bytes.contains 39) (bytes.contains 34)
  'b' :: quote :: bytes.flatMap (shownByte quote) ++ [quote]

end TableGate.Text
