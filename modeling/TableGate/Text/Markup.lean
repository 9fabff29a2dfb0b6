import TableGate.Fault
import TableGate.Text.Entity

/-! Text inside HTML. Writing replaces the five characters that have a meaning in markup
by references. Reading resolves every reference: numeric ones, named ones, and names that
run on into other text, of which the longest known start counts. -/

namespace TableGate.Text

/-- A character of HTML text or of a quoted attribute. -/
def markupChar (c : Char) : Text :=
  if c = '&' then "&amp;"
  else if c = '<' then "&lt;"
  else if c = '>' then "&gt;"
  else if c = '"' then "&quot;"
  else if c = '\'' then "&#039;"
  else [c]

/-- A text for HTML. -/
def markup (text : Text) : Text := text.flatMap markupChar

/-- The characters that numeric references to the range of old control codes mean. -/
def controlCodeTexts : List (Nat × Nat) :=
  [(0x80, 0x20AC), (0x82, 0x201A), (0x83, 0x0192), (0x84, 0x201E), (0x85, 0x2026), (0x86, 0x2020),
   (0x87, 0x2021), (0x88, 0x02C6), (0x89, 0x2030), (0x8A, 0x0160), (0x8B, 0x2039), (0x8C, 0x0152),
   (0x8E, 0x017D), (0x91, 0x2018), (0x92, 0x2019), (0x93, 0x201C), (0x94, 0x201D), (0x95, 0x2022),
   (0x96, 0x2013), (0x97, 0x2014), (0x98, 0x02DC), (0x99, 0x2122), (0x9A, 0x0161), (0x9B, 0x203A),
   (0x9C, 0x0153), (0x9E, 0x017E), (0x9F, 0x0178)]

/-- A code point that no reference may name: a control code or a permanently unassigned
code point. -/
def isForbiddenReference (n : Nat) : Bool :=
  (1 ≤ n && n ≤ 8) || n == 11 || (14 ≤ n && n ≤ 31) || n == 127 || (0xFDD0 ≤ n && n ≤ 0xFDEF) ||
  n % 0x10000 ≥ 0xFFFE

/-- The text of a numeric reference. -/
def numericReference (n : Nat) : Text :=
  if n = 0 then ['\ufffd']
  else if n = 13 then ['\r']
  else if 0x80 ≤ n && n ≤ 0x9F then [Char.ofNat ((controlCodeTexts.lookup n).getD n)]
  else if (0xD800 ≤ n && n ≤ 0xDFFF) || n > 0x10FFFF then ['\ufffd']
  else if isForbiddenReference n then []
  else [Char.ofNat n]

/-- The text of a known name. -/
def entity? (name : Text) : Option Text :=
  (entityTable.lookup (String.ofList name)).map String.toList

/-- The text of a reference that starts with a name: the longest known start of at least
two characters, followed by the rest of it. -/
def namedReference (name : Text) : Nat → Text
  | 0 => '&' :: name
  | length + 1 =>
    if length + 1 < 2 then '&' :: name
    else
      match entity? (name.take (length + 1)) with
      | some text => text ++ name.drop (length + 1)
      | none => namedReference name length

/-- A character of a reference's name. -/
def isReferenceChar (c : Char) : Bool :=
  !("\t\n\x0c <&#;".toList.contains c)

/-- The length of a run of characters together with a semicolon behind it. -/
def withSemicolon (run text : Text) : Nat :=
  run.length + (if (text.drop run.length).head? = some ';' then 1 else 0)

/-- The reference behind an ampersand, if there is one: the number of its characters and
its text. -/
def reference? (text : Text) : Option (Nat × Except Fault Text) :=
  match text with
  | '#' :: rest =>
    let digits := rest.takeWhile Char.isDigit
    if !digits.isEmpty then
      some (1 + withSemicolon digits rest,
        if digits.length > ConversionProblem.digitLimit then
          .error (.conversion (.tooManyDigits digits.length))
        else .ok (numericReference (digits.foldl (fun n c => 10 * n + (c.toNat - 48)) 0)))
    else
      match rest with
      | x :: rest =>
        let digits := rest.takeWhile fun c => (hexValue? c).isSome
        if (x = 'x' || x = 'X') && !digits.isEmpty then
          some (2 + withSemicolon digits rest,
            .ok (numericReference (digits.foldl (fun n c => 16 * n + (hexValue? c).getD 0) 0)))
        else none
      | [] => none
  | text =>
    let run := (text.takeWhile isReferenceChar).take 32
    if run.isEmpty then none
    else
      let name := text.take (withSemicolon run text)
      some (name.length, .ok (namedReference name name.length))

/-- Reads HTML text, passing over the characters of a reference already resolved. -/
def resolveReferences : Nat → Text → Except Fault Text
  | _, [] => .ok []
  | skipped + 1, _ :: rest => resolveReferences skipped rest
  | 0, c :: rest =>
    match if c = '&' then reference? rest else none with
    | some (size, text) => do
      let text ← text
      let tail ← resolveReferences size rest
      .ok (text ++ tail)
    | none => (resolveReferences 0 rest).map (c :: ·)

/-- The text that HTML text stands for. -/
def ofMarkup (text : Text) : Except Fault Text := resolveReferences 0 text

end TableGate.Text
