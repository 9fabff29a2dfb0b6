import TableGate.Text.Hex

/-! JSON string literals. Quotes, backslashes and control characters are escaped, all
other characters stand for themselves. -/

namespace TableGate.Text

/-- A character inside a JSON string literal. -/
def jsonChar (c : Char) : Text :=
  if c = '"' then "\\\""
  else if c = '\\' then "\\\\"
  else if c = '\n' then "\\n"
  else if c = '\r' then "\\r"
  else if c = '\t' then "\\t"
  else if c.toNat = 8 then "\\b"
  else if c.toNat = 12 then "\\f"
  else if c.toNat < 32 then "\\u" ++ hexPadded 4 c.toNat
  else [c]

/-- The inside of a JSON string literal. -/
def jsonInside (text : Text) : Text := text.flatMap jsonChar

/-- A text as a JSON string literal. -/
def jsonString (text : Text) : Text := '"' :: jsonInside text ++ ['"']

end TableGate.Text
