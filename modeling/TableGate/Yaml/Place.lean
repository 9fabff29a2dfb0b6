import TableGate.Text.Basic

/-! Places in a YAML document, and the kinds of characters that reading tells apart. A
place knows its line and column, because indentation has a meaning. -/

namespace TableGate.Yaml

/-- The characters that end a line. -/
def isBreak (c : Char) : Bool := c == '\n' || c == '\x85' || c == '\u2028' || c == '\u2029'

/-- A blank or a tab. -/
def isSpace (c : Char) : Bool := c == ' ' || c == '\t'

/-- What can stand behind an indicator: a space or the end of a line or of the document,
which counts as a null character. -/
def isGap (c : Char) : Bool := isSpace c || isBreak c || c == '\x00'

/-- A character that a document may hold. -/
def isPrintable (c : Char) : Bool :=
  let n := c.toNat
  c == '\t' || c == '\n' || c == '\r' || (0x20 ≤ n && n ≤ 0x7E) || n == 0x85 ||
    (0xA0 ≤ n && n ≤ 0xD7FF) || (0xE000 ≤ n && n ≤ 0xFFFD) || 0x10000 ≤ n

/-- The text from some place on. -/
structure Place where
  rest : Text
  line : Nat := 0
  column : Nat := 0
  index : Nat := 0

namespace Place

/-- The character some steps ahead, a null character beyond the end. -/
def look (place : Place) (ahead : Nat := 0) : Char := (place.rest[ahead]?).getD '\x00'

/-- The place behind one character. -/
def step (place : Place) : Place :=
  match place.rest with
  | [] => place
  | c :: rest =>
    if isBreak c then ⟨rest, place.line + 1, 0, place.index + 1⟩
    else if c == '\uFEFF' then ⟨rest, place.line, place.column, place.index + 1⟩
    else ⟨rest, place.line, place.column + 1, place.index + 1⟩

/-- The place behind some characters. -/
def skip (place : Place) : Nat → Place
  | 0 => place
  | n + 1 => place.step.skip n

/-- The characters of a kind from a place on, and the place behind them. -/
def span (place : Place) (kind : Char → Bool) : Text × Place :=
  let run := place.rest.takeWhile kind
  (run, place.skip run.length)

/-- The place behind the characters of a kind. -/
def skipWhile (place : Place) (kind : Char → Bool) : Place := (place.span kind).2

/-- The line break at a place as a text: empty if there is none. -/
def lineBreak (place : Place) : Text × Place :=
  let c := place.look
  if c == '\n' || c == '\x85' then (['\n'], place.step)
  else if isBreak c then ([c], place.step)
  else ([], place)

/-- Whether three characters with a gap behind them stand at a place. -/
def isMark (place : Place) (mark : Char) : Bool :=
  place.rest.take 3 == List.replicate 3 mark && isGap (place.look 3)

/-- Whether the mark between documents stands at a place. -/
def isSeparator (place : Place) : Bool := place.isMark '-' || place.isMark '.'

end Place

/-- A line break inside a flowing text: one alone is a blank, of several the first one is
left out. -/
def foldBreaks (first more : Text) : Text :=
  (if first ≠ ['\n'] then first else if more.isEmpty then [' '] else []) ++ more

end TableGate.Yaml
