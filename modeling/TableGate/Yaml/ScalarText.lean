import TableGate.Text.Hex
import TableGate.Yaml.Place

/-! The texts of scalars: plain ones, ones in quotes, and blocks of indented lines. Every
reader returns the text with the place behind it, or nothing if the text is not well
formed. The number of characters left bounds the number of lines to read. -/

namespace TableGate.Yaml

/-- The part of a plain scalar up to a gap or an indicator. -/
def plainRun (inFlow : Bool) : Text → Text
  | [] => []
  | c :: rest =>
    let next := rest.headD '\x00'
    let isEnd := isGap c || (c == ':' && (isGap next || (inFlow && ",[]\x7b\x7d".contains next))) ||
      (inFlow && ",?[]\x7b\x7d".contains c)
    if isEnd then [] else c :: plainRun inFlow rest

/-- The further line breaks and blanks behind a line of a plain scalar; nothing if a mark
between documents follows. -/
def plainBreaks : Nat → Place → Option Text × Place
  | 0, place => (some [], place)
  | fuel + 1, place =>
    if place.look == ' ' then plainBreaks fuel place.step
    else if isBreak place.look then
      let (lineBreak, next) := place.lineBreak
      if next.isSeparator then (none, next)
      else
        let (more, last) := plainBreaks fuel next
        (more.map (lineBreak ++ ·), last)
    else (some [], place)

/-- What stands between two parts of a plain scalar, and whether a line ends there. -/
def plainSpaces (place : Place) : Text × Place × Bool :=
  let (blanks, next) := place.span (· == ' ')
  if isBreak next.look then
    let (first, next) := next.lineBreak
    if next.isSeparator then ([], next, true)
    else
      match plainBreaks (next.rest.length + 1) next with
      | (some more, last) => (foldBreaks first more, last, true)
      | (none, last) => ([], last, true)
  else (blanks, next, false)

/-- The rest of a plain scalar, with the spaces before it, the place behind it, and whether
a line ended there. -/
def plainFrom (inFlow : Bool) (indent : Int) : Nat → Text → Bool → Place → Text × Place × Bool
  | 0, _, ended, place => ([], place, ended)
  | fuel + 1, spaces, ended, place =>
    let run := plainRun inFlow place.rest
    if place.look == '#' || run.isEmpty then ([], place, ended)
    else
      let (next, last, isLineEnd) := plainSpaces (place.skip run.length)
      if next.isEmpty || last.look == '#' || (!inFlow && last.column < indent) then
        (spaces ++ run, last, isLineEnd)
      else
        let (more, last, isLineEnd) := plainFrom inFlow indent fuel next isLineEnd last
        (spaces ++ run ++ more, last, isLineEnd)

/-- A plain scalar, and whether a line ended behind it. -/
def plain (inFlow : Bool) (indent : Int) (place : Place) : Text × Place × Bool :=
  plainFrom inFlow indent (place.rest.length + 1) [] false place

/-- The characters behind a backslash that stand for one character. -/
def escapes : List (Char × Char) :=
  [('0', '\x00'), ('a', '\x07'), ('b', '\x08'), ('t', '\t'), ('\t', '\t'), ('n', '\n'),
   ('v', '\x0b'), ('f', '\x0c'), ('r', '\r'), ('e', '\x1b'), (' ', ' '), ('"', '"'),
   ('\\', '\\'), ('/', '/'), ('N', '\x85'), ('_', '\xa0'), ('L', '\u2028'), ('P', '\u2029')]

/-- The number of digits of an escape with a code point. -/
def escapeWidth? : Char → Option Nat
  | 'x' => some 2
  | 'u' => some 4
  | 'U' => some 8
  | _ => none

/-- The number that hexadecimal digits write. -/
def hexNumber? (digits : Text) : Option Nat :=
  digits.foldlM (fun n c => (Text.hexValue? c).map (16 * n + ·)) 0

/-- The character of a code point; one that is none is replaced. -/
def charOfCode (code : Nat) : Char := if code.isValidChar then Char.ofNat code else '\uFFFD'

/-- The line breaks between two lines in quotes, and the spaces around them. -/
def quotedBreaks : Nat → Place → Option (Text × Place)
  | 0, place => some ([], place)
  | fuel + 1, place =>
    if place.isSeparator then none
    else
      let next := place.skipWhile isSpace
      if isBreak next.look then do
        let (lineBreak, next) := next.lineBreak
        let (more, last) ← quotedBreaks fuel next
        some (lineBreak ++ more, last)
      else some ([], next)

/-- The rest of a scalar in quotes, up to the closing quote. -/
def quotedFrom (quote : Char) : Nat → Place → Option (Text × Place)
  | 0, _ => none
  | fuel + 1, place =>
    let c := place.look
    let go (text : Text) (next : Place) : Option (Text × Place) :=
      (quotedFrom quote fuel next).map fun (more, last) => (text ++ more, last)
    if place.rest.isEmpty then none
    else if c == quote then
      if quote == '\'' && place.look 1 == '\'' then go ['\''] (place.skip 2)
      else some ([], place.step)
    else if c == '\\' && quote == '"' then
      let escape := place.look 1
      match escapes.lookup escape, escapeWidth? escape with
      | some c, _ => go [c] (place.skip 2)
      | none, some width =>
        let digits := (place.rest.drop 2).take width
        if digits.length = width then
          match hexNumber? digits with
          | some code => if code < 0x110000 then go [charOfCode code] (place.skip (2 + width)) else none
          | none => none
        else none
      | none, none =>
        if isBreak escape then
          let next := place.step.lineBreak.2
          match quotedBreaks (next.rest.length + 1) next with
          | some (breaks, next) => go breaks next
          | none => none
        else none
    else if isSpace c || isBreak c then
      let (blanks, next) := place.span isSpace
      if isBreak next.look then
        let (first, next) := next.lineBreak
        match quotedBreaks (next.rest.length + 1) next with
        | some (more, next) => go (foldBreaks first more) next
        | none => none
      else go blanks next
    else
      let (run, next) := place.span fun c => !(isGap c || c == '\\' || c == '"' || c == '\'')
      if run.isEmpty then go [c] place.step else go run next

/-- A scalar in quotes, from its opening quote on. -/
def quoted (place : Place) : Option (Text × Place) :=
  quotedFrom place.look (place.rest.length + 1) place.step

/-- The line breaks at the end of a block. -/
inductive Chomping where
  | clip | strip | keep
  deriving DecidableEq

/-- What the line that starts a block says: the chomping, and the indentation if it is
given. -/
def blockHeader (place : Place) : Option (Chomping × Option Nat × Place) :=
  let chomping (place : Place) : Option Chomping :=
    if place.look == '+' then some .keep
    else if place.look == '-' then some .strip
    else none
  let increment (place : Place) : Option Nat :=
    let c := place.look
    if '0' ≤ c ∧ c ≤ '9' then some (c.toNat - 48) else none
  let header : Option Chomping × Option Nat × Place :=
    match chomping place, increment place with
    | some chomp, _ =>
      let place := place.step
      match increment place with
      | some n => (some chomp, some n, place.step)
      | none => (some chomp, none, place)
    | none, some n =>
      let place := place.step
      match chomping place with
      | some chomp => (some chomp, some n, place.step)
      | none => (none, some n, place)
    | none, none => (none, none, place)
  match header with
  | (chomp, increment, place) =>
    let c := place.look
    if increment == some 0 || !(c == ' ' || isBreak c || c == '\x00') then none
    else
      let place := place.skipWhile (· == ' ')
      let place := if place.look == '#' then place.skipWhile (!isBreak ·) else place
      if isBreak place.look then
        some (chomp.getD .clip, increment, place.lineBreak.2)
      else if place.rest.isEmpty then some (chomp.getD .clip, increment, place)
      else none

/-- The empty lines at the start of a block without a given indentation, and the widest
indentation among them and the first line. -/
def blockIndentation : Nat → Place → Text × Nat × Place
  | 0, place => ([], 0, place)
  | fuel + 1, place =>
    if place.look == ' ' then
      let next := place.step
      let (breaks, width, last) := blockIndentation fuel next
      (breaks, max next.column width, last)
    else if isBreak place.look then
      let (lineBreak, next) := place.lineBreak
      let (breaks, width, last) := blockIndentation fuel next
      (lineBreak ++ breaks, width, last)
    else ([], 0, place)

/-- The place behind the blanks of an indentation. -/
def skipIndentation (indent : Nat) : Nat → Place → Place
  | 0, place => place
  | fuel + 1, place =>
    if place.column < indent && place.look == ' ' then skipIndentation indent fuel place.step
    else place

/-- The empty lines between two lines of a block. -/
def blockBreaks (indent : Nat) : Nat → Place → Text × Place
  | 0, place => ([], place)
  | fuel + 1, place =>
    let place := skipIndentation indent indent place
    if isBreak place.look then
      let (lineBreak, next) := place.lineBreak
      let (more, last) := blockBreaks indent fuel next
      (lineBreak ++ more, last)
    else ([], place)

/-- The lines of a block from a place on, with the empty lines before it: the text, the
line break at its end, the empty lines behind it, and the place there. -/
def blockLines (folded : Bool) (indent : Nat) : Nat → Text → Place → Text × Text × Text × Place
  | 0, breaks, place => ([], [], breaks, place)
  | fuel + 1, breaks, place =>
    let startsWithSpace := isSpace place.look
    let (line, next) := place.span (!isBreak ·)
    let (lineBreak, next) := next.lineBreak
    let (more, next) := blockBreaks indent (next.rest.length + 1) next
    if next.column == indent && !next.rest.isEmpty then
      let joint :=
        if folded && lineBreak == ['\n'] && !startsWithSpace && !isSpace next.look then
          (if more.isEmpty then [' '] else [])
        else lineBreak
      let (text, last, after, place) := blockLines folded indent fuel more next
      (breaks ++ line ++ joint ++ text, last, after, place)
    else (breaks ++ line, lineBreak, more, next)

/-- A block of lines, from its indicator on. -/
def block (parentIndent : Int) (place : Place) : Option (Text × Place) := do
  let folded := place.look == '>'
  let (chomping, increment, place) ← blockHeader place.step
  let least := max 1 (parentIndent + 1).toNat
  let (indent, breaks, place) : Nat × Text × Place :=
    match increment with
    | none =>
      let (breaks, width, place) := blockIndentation (place.rest.length + 1) place
      (max least width, breaks, place)
    | some n =>
      let indent := least + n - 1
      let (breaks, place) := blockBreaks indent (place.rest.length + 1) place
      (indent, breaks, place)
  let (text, last, after, place) :=
    if place.column == indent && !place.rest.isEmpty then
      blockLines folded indent (place.rest.length + 1) breaks place
    else ([], [], breaks, place)
  some (match chomping with
    | .strip => (text, place)
    | .clip => (text ++ last, place)
    | .keep => (text ++ last ++ after, place))

end TableGate.Yaml
