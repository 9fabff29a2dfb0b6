import TableGate.Json
import TableGate.Number.Integer
import TableGate.Number.Numeral
import TableGate.Text.Hex

/-! Reading JSON texts. Every reader takes the rest of the text and returns what it read
with a shorter rest. Where reading stops, the number of characters left tells the position,
which becomes a line and a column only when the fault is reported. -/

namespace TableGate.Json
open Text (hexValue?)

/-- Where and why reading stops: with a problem and the number of characters left from its
position on, or with an integer of too many digits. -/
inductive Stop where
  | problem (problem : JsonProblem) (left : Nat)
  | tooManyDigits (count : Nat)

/-- A rest of a text after at least one character has been read. -/
abbrev Rest (text : Text) := { rest : Text // rest.length < text.length }

/-- A character between the tokens. -/
def isGap (c : Char) : Bool := c == ' ' || c == '\t' || c == '\n' || c == '\r'

/-- The text after the gap at its front. -/
def skipGap (text : Text) : Text := text.dropWhile isGap

theorem length_skipGap_le (text : Text) : (skipGap text).length ≤ text.length := by
  induction text with
  | nil => simp [skipGap]
  | cons c rest ih =>
    simp only [skipGap, List.dropWhile_cons]
    split
    · exact Nat.le_succ_of_le ih
    · simp

theorem length_lt_of_skipGap {source next : Text} {c : Char} (h : skipGap source = c :: next) :
    next.length < source.length := by
  have := length_skipGap_le source
  rw [h] at this
  exact this

/-- A rest of a rest is a rest. -/
def Rest.within {text later : Text} (h : later.length ≤ text.length) (rest : Rest later) :
    Rest text :=
  ⟨rest.1, Nat.lt_of_lt_of_le rest.2 h⟩

/-- The rest behind some characters, if there are any. -/
def Rest.behind? : (size : Nat) → (text : Text) → Option (Rest text)
  | size + 1, _ :: rest => some ⟨rest.drop size, by simp only [List.length_drop, List.length_cons]; omega⟩
  | _, _ => none

/-- The character behind a backslash, apart from Unicode escapes. -/
def escaped? : Char → Option Char
  | '"' => some '"'
  | '\\' => some '\\'
  | '/' => some '/'
  | 'b' => some '\x08'
  | 'f' => some '\x0c'
  | 'n' => some '\n'
  | 'r' => some '\r'
  | 't' => some '\t'
  | _ => none

/-- The number that four hexadecimal digits write. -/
def unit? (a b c d : Char) : Option Nat := do
  let a ← hexValue? a
  let b ← hexValue? b
  let c ← hexValue? c
  let d ← hexValue? d
  some (4096 * a + 256 * b + 16 * c + d)

/-- The code units and code points inside a string literal, up to its closing quote.
`literal` is the text from the opening quote on. -/
def units (literal : Text) : (text : Text) → Except Stop (List Nat × Rest text)
  | [] => .error (.problem .unterminatedString literal.length)
  | '"' :: rest => .ok ([], ⟨rest, by simp⟩)
  | '\\' :: [] => .error (.problem .unterminatedString literal.length)
  | '\\' :: 'u' :: a :: b :: c :: d :: next :: rest =>
    match unit? a b c d with
    | none => .error (.problem .unicodeEscape (rest.length + 6))
    | some unit =>
      (units literal (next :: rest)).map fun (tail, after) =>
        (unit :: tail, after.within (by simp only [List.length_cons]; omega))
  | '\\' :: 'u' :: rest => .error (.problem .unicodeEscape (rest.length + 1))
  | '\\' :: c :: rest =>
    match escaped? c with
    | none => .error (.problem .escape (rest.length + 2))
    | some c =>
      (units literal rest).map fun (tail, after) =>
        (c.toNat :: tail, after.within (by simp only [List.length_cons]; omega))
  | c :: rest =>
    if c.toNat < 32 then .error (.problem .controlCharacter (rest.length + 1))
    else
      (units literal rest).map fun (tail, after) =>
        (c.toNat :: tail, after.within (by simp only [List.length_cons]; omega))

def isHighSurrogate (unit : Nat) : Bool := 0xD800 ≤ unit && unit < 0xDC00

def isLowSurrogate (unit : Nat) : Bool := 0xDC00 ≤ unit && unit < 0xE000

/-- The text of code units and code points: a high surrogate with the low one behind it is
one character, and a surrogate that stands alone is replaced. -/
def textOfUnits : List Nat → Text
  | [] => []
  | high :: low :: rest =>
    if isHighSurrogate high && isLowSurrogate low then
      Char.ofNat (0x10000 + 0x400 * (high - 0xD800) + (low - 0xDC00)) :: textOfUnits rest
    else if isHighSurrogate high || isLowSurrogate high then
      '\uFFFD' :: textOfUnits (low :: rest)
    else Char.ofNat high :: textOfUnits (low :: rest)
  | [unit] =>
    [if isHighSurrogate unit || isLowSurrogate unit then '\uFFFD' else Char.ofNat unit]

/-- A string literal after its opening quote. -/
def string (text : Text) : Except Stop (Text × Rest text) :=
  (units ('"' :: text) text).map fun (units, rest) => (textOfUnits units, rest)

/-- The digits at the front of a text. -/
def digits (text : Text) : Text := text.takeWhile Char.isDigit

/-- The whole part of a number: a lone zero or digits that start with another one. -/
def whole : Text → Text
  | '0' :: _ => "0"
  | source => digits source

/-- The fraction at the front of a text, empty unless a digit follows the point. -/
def fraction : Text → Text
  | '.' :: rest => if (digits rest).isEmpty then [] else '.' :: digits rest
  | _ => []

/-- The sign at the front of an exponent. -/
def exponentSign : Text → Text
  | '-' :: _ => "-"
  | '+' :: _ => "+"
  | _ => []

/-- The exponent at the front of a text, empty unless it has a digit. -/
def exponent : Text → Text
  | c :: rest =>
    if c = 'e' ∨ c = 'E' then
      let sign := exponentSign rest
      let power := digits (rest.drop sign.length)
      if power.isEmpty then [] else c :: sign ++ power
    else []
  | [] => []

/-- The sign at the front of a number. -/
def minus : Text → Text
  | '-' :: _ => "-"
  | _ => []

/-- A number: the longest one at the front of a text. -/
def number (text : Text) : Except Stop (Json × Rest text) :=
  let sign := minus text
  let unsigned := text.drop sign.length
  let whole := whole unsigned
  let fraction := fraction (unsigned.drop whole.length)
  let exponent := exponent (unsigned.drop (whole.length + fraction.length))
  let size := sign.length + whole.length + fraction.length + exponent.length
  match if whole.isEmpty then none else Rest.behind? size text with
  | none => .error (.problem .value text.length)
  | some rest =>
    if fraction.isEmpty && exponent.isEmpty then
      match Integer.ofDigits whole with
      | .ok n => .ok (.int (if sign.isEmpty then n else -n), rest)
      | .error _ => .error (.tooManyDigits whole.length)
    else
      .ok (.float ((Binary64.ofText? (text.take size)).getD .nan), rest)

/-- The words that stand for values. -/
def words : List (Text × Json) :=
  [("null", .null), ("true", .bool true), ("false", .bool false), ("NaN", .float .nan),
   ("Infinity", .float (.infinite false)), ("-Infinity", .float (.infinite true))]

/-- The word at the front of a text, and its value. -/
def word? (text : Text) : Option (Text × Json) := words.find? fun (word, _) => word.isPrefixOf text

/-- A word or a number. -/
def scalar (text : Text) : Except Stop (Json × Rest text) :=
  match word? text with
  | some (word, value) =>
    match Rest.behind? word.length text with
    | some rest => .ok (value, rest)
    | none => .error (.problem .value text.length)
  | none => number text

mutual

/-- A value at the front of a text. -/
def value (source : Text) : Except Stop (Json × Rest source) :=
  match source with
  | '"' :: rest =>
    (string rest).map fun (content, after) => (.text content, after.within (by simp))
  | '[' :: rest =>
    match h : skipGap rest with
    | ']' :: after =>
      .ok (.array [], ⟨after, by have := length_lt_of_skipGap h; simp only [List.length_cons]; omega⟩)
    | _ =>
      (items (skipGap rest)).map fun (items, after) =>
        (.array items, after.within (Nat.le_succ_of_le (length_skipGap_le rest)))
  | '\x7b' :: rest =>
    match h : skipGap rest with
    | '\x7d' :: after =>
      .ok (.object [], ⟨after, by have := length_lt_of_skipGap h; simp only [List.length_cons]; omega⟩)
    | _ =>
      (entries (skipGap rest)).map fun (entries, after) =>
        (.object (distinctKeys entries), after.within (Nat.le_succ_of_le (length_skipGap_le rest)))
  | source => scalar source
termination_by (source.length, 0)
decreasing_by
  all_goals
    have := length_skipGap_le rest
    simp_wf
    omega

/-- The items of an array from one of them on, up to the closing bracket. -/
def items (source : Text) : Except Stop (List Json × Rest source) :=
  match value source with
  | .error stop => .error stop
  | .ok (item, ⟨rest, shorter⟩) =>
    match h : skipGap rest with
    | ']' :: after => .ok ([item], ⟨after, Nat.lt_trans (length_lt_of_skipGap h) shorter⟩)
    | ',' :: next =>
      have : (skipGap next).length < source.length :=
        Nat.lt_of_le_of_lt (length_skipGap_le next) (Nat.lt_trans (length_lt_of_skipGap h) shorter)
      (items (skipGap next)).map fun (more, after) =>
        (item :: more, after.within (Nat.le_of_lt this))
    | other => .error (.problem .comma other.length)
termination_by (source.length, 1)

/-- The entries of an object from one of them on, up to the closing bracket. -/
def entries (source : Text) : Except Stop (List (Text × Json) × Rest source) :=
  match source with
  | '"' :: start =>
    match string start with
    | .error stop => .error stop
    | .ok (key, ⟨rest, shorter⟩) =>
      match h : skipGap rest with
      | ':' :: next =>
        have colon : (skipGap next).length < ('"' :: start).length :=
          Nat.lt_succ_of_lt (Nat.lt_of_le_of_lt (length_skipGap_le next)
            (Nat.lt_trans (length_lt_of_skipGap h) shorter))
        match value (skipGap next) with
        | .error stop => .error stop
        | .ok (content, ⟨rest, shorter⟩) =>
          match h : skipGap rest with
          | '\x7d' :: after =>
            .ok ([(key, content)],
              ⟨after, Nat.lt_trans (length_lt_of_skipGap h) (Nat.lt_trans shorter colon)⟩)
          | ',' :: next =>
            have comma : (skipGap next).length < ('"' :: start).length :=
              Nat.lt_of_le_of_lt (length_skipGap_le next)
                (Nat.lt_trans (length_lt_of_skipGap h) (Nat.lt_trans shorter colon))
            (entries (skipGap next)).map fun (more, after) =>
              ((key, content) :: more, after.within (Nat.le_of_lt comma))
          | other => .error (.problem .comma other.length)
      | other => .error (.problem .colon other.length)
  | source => .error (.problem .propertyName source.length)
termination_by (source.length, 1)

end

/-- The fault of stopping in a text. -/
def Stop.fault (text : Text) : Stop → Fault
  | .problem cause left =>
    let position := text.length - left
    let before := text.take position
    let line := before.count '\n' + 1
    let column := (before.reverse.takeWhile (· ≠ '\n')).length + 1
    .json cause line column position
  | .tooManyDigits count => .conversion (.tooManyDigits count)

/-- The value of a text that holds one value and nothing else. -/
def document (text : Text) : Except Stop Json :=
  if text.head? == some '\uFEFF' then .error (.problem .byteOrderMark text.length)
  else do
    let (value, rest) ← value (skipGap text)
    match skipGap rest.1 with
    | [] => .ok value
    | rest => .error (.problem .extraData rest.length)

/-- The value of a JSON text. -/
def parse (text : Text) : Except Fault Json :=
  (document text).mapError (Stop.fault text)

end TableGate.Json
