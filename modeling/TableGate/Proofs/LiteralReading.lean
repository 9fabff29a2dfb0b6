import Mathlib.Data.List.Basic
import TableGate.Sql.Literal
import TableGate.Text.Hex

/-! String and blob literals are read back as they were. The reader takes a string literal off the
front of a text, knowing its mark and what stands for what inside it; it does not know how literals
are printed. What follows the literal is left as it is, so that no value ends its literal early. -/
namespace TableGate.LiteralReading
open Text

/-- How string literals are read: the mark around them, what a character behind a backslash stands
for (backslashes are characters like any other if there are no escapes), and whether two marks in
a row stand for one. -/
structure Unescaping where
  mark : Char
  escapes : List (Char × Char)
  doubles : Bool

/-- What stands for what in the string literals of an engine. MariaDB also reads two marks as one,
which its escapes make unnecessary: its literals are the same whether or not they are read so. -/
def unescaping (doubles : Bool) : Engine → Unescaping
  | .mariadb => {
      mark := '"'
      escapes := [('\\', '\\'), ('"', '"'), ('r', '\r'), ('n', '\n'), ('t', '\t')]
      doubles := doubles }
  | _ => {
      mark := '\''
      escapes := []
      doubles := true }

/-- A character in front of a value that has been read. -/
def put (c : Char) : Text × Text → Text × Text := Prod.map (c :: ·) id

namespace Unescaping

/-- Whether a character escapes the one behind it. -/
def guards (rule : Unescaping) (c : Char) : Bool := c == '\\' && !rule.escapes.isEmpty

/-- The value of a literal and what follows it, from behind its opening mark on. A literal that is
not closed or has an unknown escape has no value. -/
def readInside? (rule : Unescaping) : Text → Option (Text × Text)
  | [] => none
  | c :: rest =>
    if rule.guards c then
      match rest with
      | [] => none
      | escape :: rest =>
        match rule.escapes.lookup escape with
        | some own => (readInside? rule rest).map (put own)
        | none => none
    else if c = rule.mark then
      match rest with
      | [] => some ([], [])
      | next :: more =>
        if next = rule.mark ∧ rule.doubles then (readInside? rule more).map (put next)
        else some ([], next :: more)
    else (readInside? rule rest).map (put c)

/-- The value of a string literal at the front of a text, and what follows it. -/
def readString? (rule : Unescaping) : Text → Option (Text × Text)
  | [] => none
  | c :: rest => if c = rule.mark then rule.readInside? rest else none

end Unescaping

/-- What stands in front of the digits of a blob literal, and behind them. -/
def blobMarks : Engine → Text × Text
  | .sqlite => ("X'", "'")
  | .postgresql => ("'\\x", "'")
  | .mariadb => ("x'", "'")
  | .mssql => ("0x", [])

/-- The bytes of a blob literal. -/
def readBlob? (engine : Engine) (literal : Text) : Option (List UInt8) := do
  let behind ← literal.dropPrefix? (blobMarks engine).1
  let digits ← behind.dropSuffix? (blobMarks engine).2
  bytesOfHex? digits

variable {rule : Unescaping} {engine : Engine} {c : Char} {text rest : Text}

/-! ### One character of a literal -/

/-- A character is read back from what is written for it, whatever follows. -/
def Stands (rule : Unescaping) (written : Text) (c : Char) : Prop :=
  ∀ rest, rule.readInside? (written ++ rest) = (rule.readInside? rest).map (put c)

theorem stands_own (unguarded : rule.guards c = false) (inside : c ≠ rule.mark) :
    Stands rule [c] c := by
  intro rest
  rw [List.singleton_append]
  conv => lhs; unfold Unescaping.readInside?
  simp [unguarded, inside]

theorem stands_doubled (unguarded : rule.guards rule.mark = false) (doubles : rule.doubles = true) :
    Stands rule [rule.mark, rule.mark] rule.mark := by
  intro rest
  simp [Unescaping.readInside?, unguarded, doubles]

theorem stands_escaped {escape : Char} (guards : rule.guards '\\' = true)
    (known : rule.escapes.lookup escape = some c) : Stands rule ['\\', escape] c := by
  intro rest
  simp [Unescaping.readInside?, guards, known]

/-- The mark closes a literal unless another one follows. -/
theorem mark_closes (unguarded : rule.guards rule.mark = false) (ended : rest.head? ≠ some rule.mark) :
    rule.readInside? (rule.mark :: rest) = some ([], rest) := by
  cases rest with
  | nil => simp [Unescaping.readInside?, unguarded]
  | cons next more =>
    have apart : next ≠ rule.mark := by
      rintro rfl
      exact ended rfl
    simp [Unescaping.readInside?, unguarded, apart]

/-- A literal whose characters all stand for those of a text is read as that text. -/
theorem read_written {write : Char → Text} (unguarded : rule.guards rule.mark = false)
    (each : ∀ c ∈ text, Stands rule (write c) c) (ended : rest.head? ≠ some rule.mark) :
    rule.readString? (rule.mark :: (text.flatMap write ++ rule.mark :: rest)) = some (text, rest) := by
  simp only [Unescaping.readString?, if_true]
  induction text with
  | nil => exact mark_closes unguarded ended
  | cons c text ih =>
    obtain ⟨first, others⟩ := List.forall_mem_cons.mp each
    rw [List.flatMap_cons, List.append_assoc, first, ih others]
    rfl

/-! ### The literals of each engine -/

/-- The rule of the engines without escapes, and their literals. -/
private theorem quoting_engine (other : engine ≠ .mariadb) (doubles : Bool) (text : Text) :
    unescaping doubles engine = ⟨'\'', [], true⟩ ∧
      engine.stringLiteral text = '\'' :: (text.flatMap (fun c => if c = '\'' then "''" else [c]) ++ ['\'']) := by
  cases engine with
  | mariadb => exact absurd rfl other
  | _ => exact ⟨rfl, rfl⟩

theorem quote_stands (c : Char) : Stands ⟨'\'', [], true⟩ (if c = '\'' then "''" else [c]) c := by
  by_cases quote : c = '\''
  · subst quote
    exact stands_doubled rfl rfl
  · rw [if_neg quote]
    exact stands_own (by simp [Unescaping.guards]) quote

theorem backslash_stands (doubles : Bool) (c : Char) :
    Stands (unescaping doubles .mariadb) (Engine.backslashChar c) c := by
  unfold Engine.backslashChar
  by_cases backslash : c = '\\'
  · subst backslash
    exact stands_escaped rfl rfl
  by_cases quote : c = '"'
  · subst quote
    exact stands_escaped rfl rfl
  by_cases carriage : c = '\r'
  · subst carriage
    exact stands_escaped rfl rfl
  by_cases line : c = '\n'
  · subst line
    exact stands_escaped rfl rfl
  by_cases tab : c = '\t'
  · subst tab
    exact stands_escaped rfl rfl
  simp only [backslash, quote, carriage, line, tab, if_false]
  exact stands_own (by simp [Unescaping.guards, backslash]) quote

/-- The escapes of MariaDB are those of five replacements one after the other: backslashes are
replaced first, so that no escape is escaped again. -/
theorem replacements_escape (text : Text) :
    text.flatMap Engine.backslashChar =
      replaceChar '\t' "\\t" (replaceChar '\n' "\\n" (replaceChar '\r' "\\r"
        (replaceChar '"' "\\\"" (replaceChar '\\' "\\\\" text)))) := by
  simp only [replaceChar, List.flatMap_assoc]
  congr 1
  funext c
  unfold Engine.backslashChar
  by_cases backslash : c = '\\'
  · subst backslash
    rfl
  by_cases quote : c = '"'
  · subst quote
    rfl
  by_cases carriage : c = '\r'
  · subst carriage
    rfl
  by_cases line : c = '\n'
  · subst line
    rfl
  by_cases tab : c = '\t'
  · subst tab
    rfl
  simp [backslash, quote, carriage, line, tab]

theorem string_read (engine : Engine) (doubles : Bool) (text : Text)
    (ended : rest.head? ≠ some (unescaping doubles engine).mark) :
    (unescaping doubles engine).readString? (engine.stringLiteral text ++ rest) = some (text, rest) := by
  by_cases backslashes : engine = .mariadb
  · subst backslashes
    have each : ∀ c ∈ text, Stands (unescaping doubles .mariadb) (Engine.backslashChar c) c :=
      fun c _ => backslash_stands doubles c
    have read := read_written rfl each ended
    simpa [Engine.stringLiteral, unescaping] using read
  · obtain ⟨shared, printed⟩ := quoting_engine backslashes doubles text
    rw [shared] at ended ⊢
    have read := read_written rfl (fun c (_ : c ∈ text) => quote_stands c) ended
    simpa [printed] using read

theorem blob_read (engine : Engine) (bytes : List UInt8) :
    readBlob? engine (engine.blobLiteral bytes) = some bytes := by
  have marked : engine.blobLiteral bytes =
      (blobMarks engine).1 ++ (hexOfBytes bytes ++ (blobMarks engine).2) := by
    cases engine <;> simp [Engine.blobLiteral, blobMarks]
  have front := List.dropPrefix?_append_of_beq (hexOfBytes bytes ++ (blobMarks engine).2)
    (beq_self_eq_true (blobMarks engine).1)
  have back : (hexOfBytes bytes ++ (blobMarks engine).2).dropSuffix? (blobMarks engine).2 =
      some (hexOfBytes bytes) :=
    List.dropSuffix?_eq_some_iff.mpr ⟨_, rfl, beq_self_eq_true _⟩
  rw [readBlob?, marked, front]
  simp [back, bytesOfHex?_hexOfBytes]

/-- A string literal in front of a text that does not start with its mark is read as its value, and
nothing of the text behind it is; the digits of a blob literal are read as its bytes. -/
theorem literals_keep_their_value (engine : Engine) (doubles : Bool) :
    (∀ text rest, rest.head? ≠ some (unescaping doubles engine).mark →
      (unescaping doubles engine).readString? (engine.stringLiteral text ++ rest) = some (text, rest)) ∧
    ∀ bytes, readBlob? engine (engine.blobLiteral bytes) = some bytes := by
  constructor
  · intro text rest ended
    exact string_read engine doubles text ended
  · exact blob_read engine

/-- A value that ends with backslashes and quotes, in front of the next value of a list. -/
theorem backslashes_keep_their_value :
    ", 2".toList.head? ≠ some '"' ∧
      (unescaping true .mariadb).readString? "\"C:\\\\\\\"\\n\\\\\\\\\", 2" =
        some ("C:\\\"\n\\\\".toList, ", 2".toList) ∧
      readBlob? .mssql "0x00ff" = some [0, 255] :=
  have ended : ", 2".toList.head? ≠ some '"' := by decide
  have kept := literals_keep_their_value .mariadb true
  ⟨ended, kept.1 "C:\\\"\n\\\\" ", 2" ended, (literals_keep_their_value .mssql true).2 [0, 255]⟩

end TableGate.LiteralReading
