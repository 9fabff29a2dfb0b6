import TableGate.Text.Percent
import TableGate.Yaml.ScalarText

/-! The tokens of a YAML document. Indentation becomes tokens of its own, so that blocks
and flows are read alike. A key is recognized when its colon is met: until then the place
where a key may have started is kept, and the token that announces it is inserted there. -/

namespace TableGate.Yaml

/-- A token of a document. -/
inductive Token where
  | version (major : Nat)
  | tagHandle (handle leading : Text)
  | otherDirective
  | documentStart | documentEnd
  | blockSequence | blockMapping | blockEnd
  | flowSequence | flowSequenceEnd
  | flowMapping | flowMappingEnd
  | blockItem | flowItem
  | key | value
  | reference (name : Text)
  | anchor (name : Text)
  | tag (handle : Option Text) (suffix : Text)
  | scalar (text : Text) (isPlain : Bool)
  deriving DecidableEq

/-- A place where a key may have started. -/
structure KeyStart where
  token : Nat
  isRequired : Bool
  line : Nat
  column : Nat
  index : Nat

/-- The tokens read so far, and what decides how the next ones are read: the place, the
indentations of the open blocks, the number of open flows, and the starts of keys, at most
one for each flow. -/
structure Reading where
  place : Place
  tokens : List Token := []
  indent : Int := -1
  outer : List Int := []
  flows : Nat := 0
  allowsKey : Bool := true
  starts : List (Nat × KeyStart) := []

namespace Reading

def push (reading : Reading) (token : Token) : Reading :=
  { reading with tokens := reading.tokens ++ [token] }

/-- A token inserted in front of the others from some number on. -/
def insert (reading : Reading) (position : Nat) (token : Token) : Reading :=
  { reading with
    tokens := reading.tokens.take position ++ token :: reading.tokens.drop position }

/-- The place behind blanks, comments and line breaks. In blocks a key may start on a new
line. -/
def skipGaps : Nat → Reading → Reading
  | 0, reading => reading
  | fuel + 1, reading =>
    let place := reading.place
    let place := if place.index == 0 && place.look == '\uFEFF' then place.step else place
    let place := place.skipWhile (· == ' ')
    let place := if place.look == '#' then place.skipWhile (!isBreak ·) else place
    if isBreak place.look then
      skipGaps fuel
        { reading with
          place := place.lineBreak.2
          allowsKey := reading.allowsKey || reading.flows == 0 }
    else { reading with place }

/-- Forgets the starts of keys that are no longer on the line; one that must be a key is
an error. -/
def dropStale (reading : Reading) : Option Reading :=
  let isStale (start : KeyStart) : Bool :=
    start.line ≠ reading.place.line || 1024 < reading.place.index - start.index
  if reading.starts.any fun (_, start) => isStale start && start.isRequired then none
  else
    some { reading with starts := reading.starts.filter fun (_, start) => !isStale start }

/-- Closes the blocks that are indented further than a column. -/
def closeBlocks (column : Int) : List Int → Reading → Reading
  | [], reading => reading
  | above :: outer, reading =>
    if column < reading.indent then
      closeBlocks column outer { reading.push .blockEnd with indent := above, outer }
    else reading

/-- Closes the blocks that end before a column; flows pay no attention to indentation. -/
def unwind (column : Int) (reading : Reading) : Reading :=
  if reading.flows ≠ 0 then reading else closeBlocks column reading.outer reading

/-- Forgets the start of a key of the current flow; one that must be a key is an error. -/
def dropStart (reading : Reading) : Option Reading :=
  if reading.starts.any fun (flow, start) => flow == reading.flows && start.isRequired then none
  else
    some { reading with starts := reading.starts.filter fun (flow, _) => flow ≠ reading.flows }

/-- Keeps the place as the start of a key, where one is allowed. -/
def keepStart (reading : Reading) : Option Reading :=
  if reading.allowsKey then do
    let place := reading.place
    let start : KeyStart :=
      ⟨reading.tokens.length, reading.flows == 0 && reading.indent == place.column, place.line,
        place.column, place.index⟩
    let reading ← reading.dropStart
    some { reading with starts := (reading.flows, start) :: reading.starts }
  else some reading

/-- Opens a block at a column that is indented further than the current one. -/
def openBlock (column : Int) (position : Nat) (token : Token) (reading : Reading) : Reading :=
  if reading.flows == 0 && reading.indent < column then
    { reading.insert position token with
      outer := reading.indent :: reading.outer, indent := column }
  else reading

/-- Passes over some characters and adds a token. -/
def take (reading : Reading) (count : Nat) (token : Token) : Reading :=
  { reading.push token with place := reading.place.skip count }

def isNameChar (c : Char) : Bool := c.isAlphanum || c == '-' || c == '_'

/-- A name of an anchor. -/
def name (place : Place) : Option (Text × Place) :=
  let (name, next) := place.span isNameChar
  let c := next.look
  if name.isEmpty || !(isGap c || "?:,]\x7d%@\x60".contains c) then none else some (name, next)

def isTagChar (c : Char) : Bool := c.isAlphanum || "-;/?:@&=+$,_.!~*'()[]".contains c

/-- A tag without its handle; percent escapes stand for the bytes of characters. -/
def tagSuffix (place : Place) : Option (Text × Place) :=
  let (suffix, next) := place.span fun c => isTagChar c || c == '%'
  if suffix.isEmpty then none else some (Text.percentDecode suffix, next)

/-- A handle of a tag: a word between exclamation marks, or one mark alone. -/
def tagHandle (place : Place) : Option (Text × Place) :=
  if place.look ≠ '!' then none
  else
    let (word, next) := place.step.span isNameChar
    if next.look == '!' then some ('!' :: word ++ ['!'], next.step)
    else if word.isEmpty && next.look == ' ' then some (['!'], next)
    else none

/-- Whether a tag has a handle of its own: a second exclamation mark before a gap. -/
def hasHandle (place : Place) : Bool :=
  (place.step.rest.takeWhile fun c => !(c == ' ' || isBreak c)).contains '!'

/-- A tag. -/
def tagToken (place : Place) : Option (Token × Place) := do
  let (token, next) ←
    if place.look 1 == '<' then do
      let (suffix, next) ← tagSuffix (place.skip 2)
      if next.look == '>' then some (Token.tag none suffix, next.step) else none
    else if isGap (place.look 1) then some (Token.tag none ['!'], place.step)
    else if hasHandle place then do
      let (handle, next) ← tagHandle place
      let (suffix, next) ← tagSuffix next
      some (Token.tag (some handle) suffix, next)
    else do
      let (suffix, next) ← tagSuffix place.step
      some (Token.tag (some ['!']) suffix, next)
  let c := next.look
  if c == ' ' || isBreak c || c == '\x00' then some (token, next) else none

/-- The end of the line of a directive. -/
def directiveEnd (place : Place) : Option Place :=
  let place := place.skipWhile (· == ' ')
  let place := if place.look == '#' then place.skipWhile (!isBreak ·) else place
  if isBreak place.look then some place.lineBreak.2
  else if place.rest.isEmpty then some place
  else none

/-- The version in a directive. -/
def version (place : Place) : Option (Token × Place) :=
  let (major, next) := (place.skipWhile (· == ' ')).span Char.isDigit
  if major.isEmpty || next.look ≠ '.' then none
  else
    let (minor, next) := next.step.span Char.isDigit
    let c := next.look
    if minor.isEmpty || !(c == ' ' || isBreak c || c == '\x00') then none
    else some (.version (major.foldl (fun n c => 10 * n + (c.toNat - 48)) 0), next)

/-- The handle and what it stands for in a directive. -/
def handleDirective (place : Place) : Option (Token × Place) := do
  let (handle, next) ← tagHandle (place.skipWhile (· == ' '))
  if next.look ≠ ' ' then none
  else
    let (leading, next) ← tagSuffix (next.skipWhile (· == ' '))
    let c := next.look
    if c == ' ' || isBreak c || c == '\x00' then some (.tagHandle handle leading, next) else none

/-- A directive. -/
def directive (place : Place) : Option (Token × Place) := do
  let (name, next) := place.step.span isNameChar
  let c := next.look
  if name.isEmpty || !(c == ' ' || isBreak c || c == '\x00') then none
  else
    let (token, next) ←
      if name == ("YAML" : String).toList then version next
      else if name == ("TAG" : String).toList then handleDirective next
      else some (.otherDirective, next.skipWhile (!isBreak ·))
    let next ← directiveEnd next
    some (token, next)

/-- What opens or closes a document, at the start of a line. -/
def readDocumentToken (reading : Reading) (count : Nat) (token : Token) : Option Reading := do
  let reading ← (reading.unwind (-1)).dropStart
  some { reading.take count token with allowsKey := false }

/-- An item of a sequence. -/
def readItem (reading : Reading) : Option Reading := do
  if reading.flows == 0 && !reading.allowsKey then none
  else
    let reading := reading.openBlock reading.place.column reading.tokens.length .blockSequence
    let reading ← reading.dropStart
    some { reading.take 1 .blockItem with allowsKey := true }

/-- An indicator of a key. -/
def readKey (reading : Reading) : Option Reading := do
  if reading.flows == 0 && !reading.allowsKey then none
  else
    let reading := reading.openBlock reading.place.column reading.tokens.length .blockMapping
    let reading ← reading.dropStart
    some { reading.take 1 .key with allowsKey := reading.flows == 0 }

/-- An indicator of a value, which turns what started before it into a key. -/
def readValue (reading : Reading) : Option Reading := do
  match reading.starts.find? (·.1 == reading.flows) with
  | some (_, start) =>
    let reading :=
      { reading with starts := reading.starts.filter fun (flow, _) => flow ≠ reading.flows }
    let reading := (reading.insert start.token .key).openBlock start.column start.token .blockMapping
    some { reading.take 1 .value with allowsKey := false }
  | none =>
    if reading.flows == 0 && !reading.allowsKey then none
    else
      let reading := reading.openBlock reading.place.column reading.tokens.length .blockMapping
      let reading ← reading.dropStart
      some { reading.take 1 .value with allowsKey := reading.flows == 0 }

/-- A token that may be the start of a key. -/
def readContent (reading : Reading) (read : Place → Option (Token × Place)) : Option Reading := do
  let reading ← reading.keepStart
  let (token, place) ← read reading.place
  some { reading.push token with place, allowsKey := false }

/-- An opening bracket of a flow. -/
def openFlow (reading : Reading) (token : Token) : Option Reading := do
  let reading ← reading.keepStart
  some { reading.take 1 token with flows := reading.flows + 1, allowsKey := true }

/-- A closing bracket of a flow. -/
def closeFlow (reading : Reading) (token : Token) : Option Reading := do
  let reading ← reading.dropStart
  some { reading.take 1 token with flows := reading.flows - 1, allowsKey := false }

/-- Whether a plain scalar can start with a character. -/
def startsPlain (inFlow : Bool) (c next : Char) : Bool :=
  !(isGap c || "-?:,[]\x7b\x7d#&*!|>'\"%@\x60".contains c) ||
    (!isGap next && (c == '-' || (!inFlow && (c == '?' || c == ':'))))

/-- A plain scalar. A key may start behind it if a line ended there. -/
def readPlain (reading : Reading) : Option Reading := do
  let reading ← reading.keepStart
  let (text, place, isLineEnd) := plain (reading.flows ≠ 0) (reading.indent + 1) reading.place
  some { reading.push (.scalar text true) with place, allowsKey := isLineEnd }

/-- The token at the place of a character. -/
def readToken (reading : Reading) : Option Reading :=
  let place := reading.place
  let inFlow := reading.flows ≠ 0
  let c := place.look
  let next := place.look 1
  if c == '%' && place.column == 0 then do
    let reading ← (reading.unwind (-1)).dropStart
    let (token, place) ← directive reading.place
    some { reading.push token with place, allowsKey := false }
  else if place.column == 0 && place.isMark '-' then reading.readDocumentToken 3 .documentStart
  else if place.column == 0 && place.isMark '.' then reading.readDocumentToken 3 .documentEnd
  else if c == '[' then reading.openFlow .flowSequence
  else if c == '\x7b' then reading.openFlow .flowMapping
  else if c == ']' then reading.closeFlow .flowSequenceEnd
  else if c == '\x7d' then reading.closeFlow .flowMappingEnd
  else if c == ',' then do
    let reading ← reading.dropStart
    some { reading.take 1 .flowItem with allowsKey := true }
  else if c == '-' && isGap next then reading.readItem
  else if c == '?' && (inFlow || isGap next) then reading.readKey
  else if c == ':' && (inFlow || isGap next) then reading.readValue
  else if c == '*' then
    reading.readContent fun place => (name place.step).map fun (name, next) => (.reference name, next)
  else if c == '&' then
    reading.readContent fun place => (name place.step).map fun (name, next) => (.anchor name, next)
  else if c == '!' then reading.readContent tagToken
  else if (c == '|' || c == '>') && !inFlow then do
    let reading ← reading.dropStart
    let (text, place) ← block reading.indent reading.place
    some { reading.push (.scalar text false) with place, allowsKey := true }
  else if c == '\'' || c == '"' then
    reading.readContent fun place => (quoted place).map fun (text, next) => (.scalar text false, next)
  else if startsPlain inFlow c next then reading.readPlain
  else none

/-- The tokens from a place on; every token but the last ones takes a character. -/
def readAll : Nat → Reading → Option (List Token)
  | 0, _ => none
  | fuel + 1, reading => do
    let reading ← (reading.skipGaps (reading.place.rest.length + 1)).dropStale
    let reading := reading.unwind reading.place.column
    if reading.place.rest.isEmpty then do
      let reading ← (reading.unwind (-1)).dropStart
      some reading.tokens
    else do
      let reading ← reading.readToken
      readAll fuel reading

end Reading

/-- The tokens of a document. -/
def tokens? (text : Text) : Option (List Token) :=
  if text.all isPrintable then Reading.readAll (text.length + 1) { place := ⟨text, 0, 0, 0⟩ }
  else none

end TableGate.Yaml
