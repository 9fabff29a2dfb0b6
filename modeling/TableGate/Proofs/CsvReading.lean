import TableGate.Proofs.MediaReading
import TableGate.Proofs.TextFacts

/-! Lines of values. What is written of values as lines of a text is read as the same lines, and
each line as the same values, whatever quotes, commas and line breaks the values have. -/
namespace TableGate.CsvReading
open MediaReading Text

/-- A value of a line as it is read: quotes inside it are still written twice. -/
def asRead : Wire → Wire
  | .text text => .text (doubled text)
  | wire => wire

/-- Values as a line. -/
def line (wires : List Wire) : Text := join "," (wires.map Media.csv.encode)

/-- Whether a value is written in quotes. -/
def isQuoted : Wire → Bool
  | .text _ => true
  | _ => false

/-- A text that can stand in a line without quotes. -/
structure IsBare (text : Text) : Prop where
  some : text ≠ []
  word : text ≠ "null"
  plain : ∀ c ∈ text, c ≠ '"' ∧ c ≠ ',' ∧ c ≠ '\r' ∧ c ≠ '\n'

/-- An entry of a line: a value as it is written in answers, or a text without quotes. -/
inductive Entry where
  | encoded (wire : Wire)
  | bare (text : Text) (plain : IsBare text)

namespace Entry

/-- What stands in the line. -/
def text : Entry → Text
  | encoded wire => Media.csv.encode wire
  | bare text _ => text

/-- The value as it is read, like that of `CsvReading.asRead`. -/
def asRead : Entry → Wire
  | encoded wire => CsvReading.asRead wire
  | bare text _ => .text text

def isQuoted : Entry → Bool
  | encoded wire => CsvReading.isQuoted wire
  | bare _ _ => false

end Entry

/-- Entries as a line. -/
def entryLine (entries : List Entry) : Text := join "," (entries.map (·.text))

/-- A run of characters of line breaks. -/
def IsBreak (text : Text) : Prop := ∀ c ∈ text, c = '\r' ∨ c = '\n'

/-- A line behind the first one, with the line breaks in front of it. -/
structure Line where
  gap : Text
  some : gap ≠ []
  breaks : IsBreak gap
  entries : List Entry

/-- The line behind its line breaks. -/
def Line.text (line : Line) : Text := line.gap ++ entryLine line.entries

variable {wire : Wire} {wires : List Wire} {entry : Entry} {entries : List Entry} {text tail : Text}

/-! ### Values -/

private theorem encode_text (text : Text) :
    Media.csv.encode (.text text) = '"' :: (doubled text ++ ['"']) := rfl

private theorem line_entries (wires : List Wire) : line wires = entryLine (wires.map .encoded) := by
  simp [line, entryLine, Entry.text, Function.comp_def]

private theorem pieces_encode (wire : Wire) (plain : tail.head? ≠ some '"') :
    Body.Csv.pieces false false (Media.csv.encode wire ++ tail) =
      (Body.Csv.pieces false (isQuoted wire) tail).modifyHead fun (piece, ended) =>
        (Media.csv.encode wire ++ piece, ended) := by
  cases wire with
  | text text =>
    rw [encode_text, List.cons_append, List.append_assoc, List.singleton_append,
      Body.Csv.pieces.eq_4, pieces_doubled false text plain, List.modifyHead_modifyHead]
    simp [Function.comp_def, isQuoted]
  | null =>
    simp [Media.encode, Body.Csv.pieces, isQuoted, List.modifyHead_modifyHead, Function.comp_def]
  | absent =>
    cases found : Body.Csv.pieces false false tail <;> simp [Media.encode, isQuoted, found]

private theorem pieces_plain (plain : ∀ c ∈ text, c ≠ '"' ∧ c ≠ ',' ∧ c ≠ '\r' ∧ c ≠ '\n') :
    Body.Csv.pieces false false (text ++ tail) =
      (Body.Csv.pieces false false tail).modifyHead fun (piece, ended) => (text ++ piece, ended) := by
  induction text with
  | nil => cases found : Body.Csv.pieces false false tail <;> simp [found]
  | cons c text ih =>
    obtain ⟨⟨quote, comma, -⟩, rest⟩ := List.forall_mem_cons.mp plain
    rw [List.cons_append, Body.Csv.pieces.eq_5 _ _ _ _ quote, if_neg (by simpa using comma), ih rest,
      List.modifyHead_modifyHead]
    rfl

private theorem pieces_entry (entry : Entry) (plain : tail.head? ≠ some '"') :
    Body.Csv.pieces false false (entry.text ++ tail) =
      (Body.Csv.pieces false entry.isQuoted tail).modifyHead fun (piece, ended) =>
        (entry.text ++ piece, ended) := by
  cases entry with
  | encoded wire => exact pieces_encode wire plain
  | bare text bare => exact pieces_plain bare.plain

private theorem pieces_line (nonempty : entries ≠ []) : Body.Csv.pieces false false (entryLine entries) =
    entries.map fun entry => (entry.text, entry.isQuoted) := by
  induction entries with
  | nil => exact absurd rfl nonempty
  | cons entry entries ih =>
    cases entries with
    | nil =>
      have last := pieces_entry entry (by simp : ([] : Text).head? ≠ some '"')
      rw [List.append_nil] at last
      simpa [entryLine, join, Body.Csv.pieces] using last
    | cons next entries =>
      have written : entryLine (entry :: next :: entries) =
          entry.text ++ ',' :: entryLine (next :: entries) := by
        simp [entryLine, join]
      have comma := pieces_entry entry
        (by simp : (',' :: entryLine (next :: entries)).head? ≠ some '"')
      rw [written, comma, Body.Csv.pieces.eq_5 _ _ _ _ (by decide), ih (by simp)]
      simp

private theorem valueOfPiece_entry (entry : Entry) :
    Body.Csv.valueOfPiece (entry.text, entry.isQuoted) = entry.asRead := by
  cases entry with
  | encoded wire =>
    cases wire with
    | text text => simp [Entry.text, Entry.isQuoted, Entry.asRead, encode_text, isQuoted, asRead,
        Body.Csv.valueOfPiece]
    | null => rfl
    | absent => rfl
  | bare text bare =>
    have other : (text == ("null" : Text)) = false := by simpa using bare.word
    rw [Entry.text, Entry.isQuoted, Entry.asRead, Body.Csv.valueOfPiece.eq_3 _ bare.some, other,
      if_neg Bool.false_ne_true]

/-- A line is read as its values, unless it is empty. -/
theorem values_entries (some : entryLine entries ≠ []) :
    Body.Csv.values (entryLine entries) = entries.map (·.asRead) := by
  have nonempty : entries ≠ [] := by
    rintro rfl
    exact some rfl
  rw [Body.Csv.values, if_neg (by simpa using some), pieces_line nonempty, List.map_map]
  exact List.map_congr_left fun entry _ => valueOfPiece_entry entry

theorem line_ne_nil (text : Text) (wires : List Wire) : line (.text text :: wires) ≠ [] := by
  cases wires <;> simp [line, join, encode_text]

/-- A line that starts with a text is read as its values. -/
theorem values_line (text : Text) (wires : List Wire) :
    Body.Csv.values (line (.text text :: wires)) = (.text text :: wires).map asRead := by
  have some := line_ne_nil text wires
  rw [line_entries] at some ⊢
  rw [values_entries some, List.map_map]
  rfl

/-! ### Lines -/

private theorem lines_doubled (text : Text) (plain : tail.head? ≠ some '"') :
    Body.Csv.lines true (doubled text ++ '"' :: tail) =
      (Body.Csv.lines false tail).modifyHead (doubled text ++ '"' :: ·) := by
  induction text with
  | nil =>
    cases tail with
    | nil => rfl
    | cons c tail =>
      have other : c ≠ '"' := by simpa using plain
      exact Body.Csv.lines.eq_3 (c :: tail) fun _ same => other (List.cons.inj same).1
  | cons c text ih =>
    by_cases quote : c = '"'
    · subst quote
      rw [doubled_quote, List.cons_append, List.cons_append, Body.Csv.lines, ih, List.modifyHead_modifyHead]
      rfl
    · rw [doubled_cons quote, List.cons_append, Body.Csv.lines.eq_5 _ _ _ quote, Bool.not_true, Bool.false_and,
        if_neg Bool.false_ne_true, ih, List.modifyHead_modifyHead]
      rfl

private theorem lines_plain (plain : ∀ c ∈ text, c ≠ '"' ∧ c ≠ ',' ∧ c ≠ '\r' ∧ c ≠ '\n') :
    Body.Csv.lines false (text ++ tail) = (Body.Csv.lines false tail).modifyHead (text ++ ·) := by
  induction text with
  | nil => cases found : Body.Csv.lines false tail <;> simp [found]
  | cons c text ih =>
    obtain ⟨⟨quote, -, carriage, feed⟩, rest⟩ := List.forall_mem_cons.mp plain
    rw [List.cons_append, Body.Csv.lines.eq_5 _ _ _ quote, if_neg (by simp [carriage, feed]), ih rest,
      List.modifyHead_modifyHead]
    rfl

/-- No entry ends a line. -/
private theorem lines_entry (entry : Entry) (plain : tail.head? ≠ some '"') :
    Body.Csv.lines false (entry.text ++ tail) =
      (Body.Csv.lines false tail).modifyHead (entry.text ++ ·) := by
  match entry with
  | .encoded (.text text) =>
    rw [Entry.text, encode_text, List.cons_append, List.append_assoc, List.singleton_append,
      Body.Csv.lines.eq_4, lines_doubled text plain, List.modifyHead_modifyHead]
    simp [Function.comp_def]
  | .encoded .null => exact lines_plain (TextFacts.each_of_all (by decide))
  | .encoded .absent => exact lines_plain (List.forall_mem_nil _)
  | .bare text bare => exact lines_plain bare.plain

private theorem lines_line (entries : List Entry) (plain : tail.head? ≠ some '"') :
    Body.Csv.lines false (entryLine entries ++ tail) =
      (Body.Csv.lines false tail).modifyHead (entryLine entries ++ ·) := by
  induction entries with
  | nil => cases same : Body.Csv.lines false tail <;> simp [entryLine, join, same]
  | cons entry entries ih =>
    cases entries with
    | nil => exact lines_entry entry plain
    | cons next entries =>
      have written (rest : Text) : entryLine (entry :: next :: entries) ++ rest =
          entry.text ++ ',' :: (entryLine (next :: entries) ++ rest) := by
        simp [entryLine, join]
      rw [written, lines_entry entry (by simp), Body.Csv.lines.eq_5 _ _ _ (by decide),
        if_neg (by decide), ih, List.modifyHead_modifyHead, List.modifyHead_modifyHead]
      simp [Function.comp_def, written]

/-- Each character of a line break ends a line. -/
private theorem lines_break (breaks : IsBreak text) :
    Body.Csv.lines false (text ++ tail) =
      List.replicate text.length [] ++ Body.Csv.lines false tail := by
  induction text with
  | nil => rfl
  | cons c text ih =>
    obtain ⟨here, rest⟩ := List.forall_mem_cons.mp breaks
    have quote : c ≠ '"' := by rcases here with rfl | rfl <;> decide
    rw [List.cons_append, Body.Csv.lines.eq_5 _ _ _ quote, if_pos (by simpa using here), ih rest]
    rfl

private theorem head_break (breaks : IsBreak text) : text.head? ≠ some '"' := by
  cases text with
  | nil => simp
  | cons c text =>
    rcases breaks c (by simp) with rfl | rfl
    · simp
    · simp

private theorem head_behind (others : List Line) {ending : Text} (ends : IsBreak ending) :
    (others.flatMap (·.text) ++ ending).head? ≠ some '"' := by
  cases others with
  | nil => exact head_break ends
  | cons next others =>
    obtain ⟨gap, some, breaks, entries⟩ := next
    have start := head_break breaks
    rw [List.flatMap_cons, Line.text, List.append_assoc, List.append_assoc,
      List.head?_append_of_ne_nil _ some]
    exact start

/-- Behind a line follow, apart from empty ones, the lines that are written there. -/
private theorem lines_behind (others : List Line) {ending : Text} (ends : IsBreak ending) :
    ∃ rest, Body.Csv.lines false (others.flatMap (·.text) ++ ending) = [] :: rest ∧
      rest.filter (!·.isEmpty) = (others.map (entryLine ·.entries)).filter (!·.isEmpty) := by
  induction others with
  | nil =>
    have all : Body.Csv.lines false ending = [] :: List.replicate ending.length [] := by
      rw [← List.append_nil ending, lines_break ends, List.append_nil, ← List.replicate_succ,
        List.replicate_succ']
      rfl
    exact ⟨_, all, by simp⟩
  | cons next others ih =>
    obtain ⟨rest, found, kept⟩ := ih
    obtain ⟨gap, some, breaks, entries⟩ := next
    cases gap with
    | nil => exact absurd rfl some
    | cons c gap =>
      refine ⟨List.replicate gap.length [] ++ entryLine entries :: rest, ?_, ?_⟩
      · rw [List.flatMap_cons, Line.text, List.append_assoc, List.append_assoc, lines_break breaks,
          lines_line entries (head_behind others ends), found]
        simp [List.replicate_succ]
      · simp [List.filter_cons, kept]

/-- A text of lines is read as its first line and, without the empty ones, its other lines. -/
theorem lines_text (first : List Entry) (others : List Line) {ending : Text} (ends : IsBreak ending) :
    ∃ rest, Body.Csv.lines false (entryLine first ++ (others.flatMap (·.text) ++ ending)) =
        entryLine first :: rest ∧
      rest.filter (!·.isEmpty) = (others.map (entryLine ·.entries)).filter (!·.isEmpty) := by
  obtain ⟨rest, found, kept⟩ := lines_behind others ends
  refine ⟨rest, ?_, kept⟩
  rw [lines_line first (head_behind others ends), found]
  simp

/-- The lines of an answer are read as its first line and its other lines. -/
theorem lines_of_lines (first : List Wire) (others : List (List Wire))
    (some : ∀ wires ∈ others, line wires ≠ []) :
    (Body.Csv.lines false (join "\r\n" ((first :: others).map line))).headD [] = line first ∧
      (Body.Csv.lines false (join "\r\n" ((first :: others).map line))).tail.filter (!·.isEmpty) =
        others.map line := by
  let behind (wires : List Wire) : Line :=
    ⟨"\r\n", by decide, by simp [IsBreak], wires.map .encoded⟩
  have written : join "\r\n" ((first :: others).map line) =
      entryLine (first.map .encoded) ++ ((others.map behind).flatMap (·.text) ++ []) := by
    rw [List.map_cons, TextFacts.join_cons, List.flatMap_map, List.flatMap_map, line_entries,
      List.append_nil]
    simp [behind, Line.text, line_entries]
  obtain ⟨rest, found, kept⟩ := lines_text (first.map .encoded) (others.map behind)
    (by simp [IsBreak] : IsBreak [])
  have same : (others.map behind).map (entryLine ·.entries) = others.map line := by
    simp [behind, line_entries]
  have all : (others.map line).filter (!·.isEmpty) = others.map line :=
    List.filter_eq_self.mpr (by simpa using some)
  rw [written, found]
  exact ⟨(line_entries first).symm, by rw [List.tail_cons, kept, same, all]⟩

end TableGate.CsvReading
