import TableGate.Text.Basic

/-! Blanks: the white space of every script, with the line and page breaks and the four
ASCII separators. -/

namespace TableGate.Text

/-- A white space character of any script. -/
def isBlank (c : Char) : Bool :=
  let n := c.toNat
  (9 ≤ n && n ≤ 13) || (28 ≤ n && n ≤ 32) || n == 0x85 || n == 0xA0 || n == 0x1680 ||
  (0x2000 ≤ n && n ≤ 0x200A) || n == 0x2028 || n == 0x2029 || n == 0x202F || n == 0x205F ||
  n == 0x3000

/-- A text without the blanks at its ends. -/
def strip (text : Text) : Text := trim isBlank text

end TableGate.Text
