import TableGate.Text.Basic
import TableGate.Text.CaseTable

/-! Upper and lower case of whole texts. A letter may become several characters, and a
capital sigma becomes the final sigma exactly at the end of a word: after a letter with a
case and before none, looking through accents and the like. -/

namespace TableGate.Text

/-- The image of a character beyond ASCII: a sequence if there is one, else that of a run. -/
def imageIn (runs : List CaseRun) (sequences : List (Nat × List Nat)) (c : Char) : Text :=
  match sequences.lookup c.toNat with
  | some image => image.map Char.ofNat
  | none => [((runs.findSome? (·.image? c.toNat)).map Char.ofNat).getD c]

/-- The lower case of one character on its own. -/
def lowerChar (c : Char) : Text :=
  if c.toNat < 128 then [c.toLower] else imageIn lowerRuns lowerSequences c

/-- The capital form of one character. -/
def upperChar (c : Char) : Text :=
  if c.toNat < 128 then [c.toUpper] else imageIn upperRuns upperSequences c

/-- A letter with a case is the next character that a word does not look through. -/
def metCased (text : Text) : Bool :=
  match text.dropWhile fun c => inRanges caseIgnorableRanges c.toNat with
  | [] => false
  | c :: _ => inRanges casedRanges c.toNat

/-- The lower case of a text whose part before it, in reverse, is `before`. -/
def lowerAfter (before : Text) : Text → Text
  | [] => []
  | c :: rest =>
    (if c == 'Σ' then (if metCased before && !metCased rest then ['ς'] else ['σ'])
      else lowerChar c) ++ lowerAfter (c :: before) rest

/-- A text in lower case. -/
def lower (text : Text) : Text := lowerAfter [] text

/-- A text in capitals. -/
def upper (text : Text) : Text := text.flatMap upperChar

/-- Some character is an ASCII letter's other spelling when case is ignored: its other
case, and the few letters of other alphabets that fold to it. -/
def isLetter (letter c : Char) : Bool :=
  c == letter || c == letter.toUpper ||
  (letter == 'i' && (c == 'İ' || c == 'ı')) ||
  (letter == 's' && c == 'ſ') ||
  (letter == 'k' && c == '\u212a')

/-- The rest of a text that starts with a lower case ASCII keyword in any spelling. -/
def dropKeyword? : Text → Text → Option Text
  | [], text => some text
  | _ :: _, [] => none
  | letter :: keyword, c :: text => if isLetter letter c then dropKeyword? keyword text else none

end TableGate.Text
