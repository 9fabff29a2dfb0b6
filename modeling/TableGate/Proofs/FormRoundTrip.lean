import TableGate.Proofs.IdParts
import TableGate.Proofs.MultipartReading

/-! One row as a multipart form, and the row that is read of it. The text of a part ends where the
boundary stands, and what the reader finds between its head and its last line break is what was
written there; only that nothing can be told from null. -/
namespace TableGate.FormRoundTrip
open Fallible FormRows IdParts JsonRoundTrip Layout MultipartReading PatternSearch RowTransport Text TextFacts

/-- A text that the boundary doesn't occur in. -/
def Clear (text : Text) : Prop := ¬ partBoundary <:+: text

/-- The names of the fields are words, which tell them apart from each other and from what is read
of the name of the row id. -/
structure Named (table : Table) : Prop where
  distinct : (table.columns.map (·.name)).Nodup
  words : ∀ column ∈ table.columns, column.name ≠ [] ∧ ∀ c ∈ column.name, isWord c = true
  apart : ∀ column ∈ table.columns, column.name ≠ table.settings.idField.takeWhile (· ≠ '"')
  clear : Clear table.settings.idField

/-- A cell that a form can hold for a field: its text has no blank at its ends, and what is sent of it
doesn't have the boundary. -/
structure FormCell (engine : Engine) (column : Column) (cell : Cell) : Prop where
  held : FormHolds engine column cell
  trimmed : ∀ text, cell = .text text → strip text = text
  clear : ∀ text, wireOf cell = .text text → Clear text

/-- A cell as it comes back: no text and no bytes as null. -/
def reread : Cell → Cell
  | .text [] | .bytes [] => .null
  | cell => cell

variable {layout : Layout} {table : Table} {column : Column} {cell : Cell} {row : Row} {c x : Char}
  {text front rest name content part : Text} {settings : Settings} {values : List Text}

/-! ### The boundary -/

private theorem boundary_spelled : partBoundary = ['-', '-', '-', '-', '-', '-', '-', '-', '-', 'S', 'q', 'l',
    'R', 'e', 's', 't', 'M', 'u', 'l', 't', 'i', 'p', 'a', 'r', 't', 'B', 'o', 'u', 'n', 'd', 'a', 'r', 'y', '3',
    '5', '4', '2', '4', '5', '6', '8'] := String.toList_ofList

private theorem boundary_chars : ∀ d ∈ partBoundary, isUriSafe d = true ∧ d.toNat < 128 := by
  rw [boundary_spelled]
  exact each_of_all (by decide)

private theorem boundary_shape : partBoundary = '-' :: '-' :: partBoundary.tail.tail := by
  rw [boundary_spelled]
  rfl

private theorem boundary_apart : '"' ∉ partBoundary ∧ '\r' ∉ partBoundary ∧ '\n' ∉ partBoundary := by
  rw [boundary_spelled]
  decide

private theorem clear_around (apart : x ∉ partBoundary) :
    Clear (front ++ x :: rest) ↔ Clear front ∧ Clear rest := by
  rw [Clear, infix_around apart, not_or]
  rfl

private theorem clear_plain (plain : '-' ∉ text) : Clear text :=
  fun inside => plain (inside.subset (by rw [boundary_shape]; exact List.mem_cons_self))

/-- The boundary starts with several hyphens. -/
private theorem clear_single (single : ¬ (['-', '-'] : Text) <:+: text) : Clear text :=
  fun inside => single (List.IsInfix.trans ⟨[], partBoundary.tail.tail, boundary_shape.symm⟩ inside)

private theorem clear_cons (apart : x ∉ partBoundary) : Clear (x :: rest) ↔ Clear rest := by
  have both : Clear ([] ++ x :: rest) ↔ Clear [] ∧ Clear rest := clear_around apart
  rwa [List.nil_append, and_iff_right (clear_plain List.not_mem_nil)] at both

/-! ### The row id -/

private theorem hyphen_not_mem_escape (safe : isUriSafe settings.idSeparator = true) :
    '-' ∉ settings.escapedSeparator := by
  have digits : ∀ n < 16, '-' ≠ hexDigit n := by decide
  intro member
  rcases escapedSeparator_chars safe member with mark | ⟨n, small, same⟩
  · exact absurd mark (by decide)
  · exact digits n small same

/-- A character beyond those of URI components is written as escapes. -/
private theorem percentChar_escape (beyond : isUriSafe c = false) :
    ∃ piece, percentChar c = '%' :: piece ∧ ∀ d ∈ piece, d = '%' ∨ d ∈ escapeDigits := by
  obtain ⟨b, bytes, shape⟩ := List.exists_cons_of_ne_nil (utf8OfNat_ne_nil c)
  refine ⟨_, by rw [percentChar, beyond, if_neg Bool.false_ne_true, shape]; rfl, fun d member => ?_⟩
  have inside : d ∈ percentChar c := by
    rw [percentChar, beyond, if_neg Bool.false_ne_true, shape]
    exact List.mem_cons_of_mem _ member
  rcases percentChar_chars inside with ⟨-, safe⟩ | escape
  · rw [beyond] at safe
    cases safe
  · exact escape

private theorem partChar_safe (safe : isUriSafe c = true) (other : c ≠ settings.idSeparator) :
    partChar settings c = [c] := by
  rw [partChar, percentChar, if_pos safe, replaceChar, List.flatMap_singleton, if_neg other]

/-- A character of a key value stands for itself, or is written as escapes, which have no hyphen. -/
private theorem partChar_cases (settings : Settings) (c : Char) :
    partChar settings c = [c] ∨ ∃ piece, partChar settings c = '%' :: piece ∧ '-' ∉ piece := by
  cases safe : isUriSafe c with
  | true =>
    by_cases own : c = settings.idSeparator
    · subst own
      have escape := hyphen_not_mem_escape safe
      refine .inr ⟨hex settings.idSeparator.toNat, ?_, fun member => escape (List.mem_cons_of_mem _ member)⟩
      rw [partChar, percentChar, if_pos safe, replaceChar, List.flatMap_singleton, if_pos rfl]
      rfl
    · exact .inl (partChar_safe safe own)
  | false =>
    obtain ⟨piece, written, chars⟩ := percentChar_escape safe
    refine .inr ⟨replaceChar settings.idSeparator settings.escapedSeparator piece, ?_, fun member => ?_⟩
    · rw [partChar, written, replaceChar, List.flatMap_cons, if_neg settings.separator_ne_percent.symm]
      rfl
    · obtain ⟨d, among, inside⟩ := List.mem_flatMap.mp member
      split at inside
      · rename_i own
        rcases chars d among with mark | digit
        · exact settings.separator_ne_percent (own ▸ mark)
        · have digits : ∀ c ∈ escapeDigits, isUriSafe c = true := each_of_all (by decide)
          exact hyphen_not_mem_escape (own ▸ digits d digit) inside
      · have same : '-' = d := List.mem_singleton.mp inside
        subst same
        rcases chars _ among with mark | digit
        · exact absurd mark (by decide)
        · exact absurd digit (by decide)

/-- The characters of the boundary stand for themselves, and no escape is taken for one. -/
private theorem boundary_tells (plain : ∀ d ∈ partBoundary, partChar settings d = [d]) :
    Tells (partChar settings) '-' ('-' :: partBoundary.tail.tail) := by
  rw [boundary_shape] at plain
  constructor
  · intro c
    rcases partChar_cases settings c with own | ⟨piece, own, -⟩ <;> rw [own] <;> exact List.cons_ne_nil _ _
  · intro d member
    exact ⟨d, plain d member⟩
  · intro c d member same
    rw [plain d member] at same
    rcases partChar_cases settings c with own | ⟨piece, own, -⟩
    · rw [own] at same
      exact Option.some.inj same
    · rw [own] at same
      have mark : '%' = d := Option.some.inj same
      subst mark
      exact absurd member (by decide)
  · intro c b member same
    rw [plain '-' List.mem_cons_self, List.singleton_inj] at same
    subst same
    rcases partChar_cases settings c with own | ⟨piece, own, free⟩
    · rw [own] at member
      cases member
    · rw [own] at member
      exact free member

/-- The boundary is in a row id only if it is in a value, or the separator is one of its characters. -/
private theorem joinId_clear (apart : settings.idSeparator ∉ partBoundary)
    (clear : ∀ value ∈ values, Clear value) : Clear (settings.joinId values) := by
  intro inside
  have filled : partBoundary ≠ [] := by
    rw [boundary_shape]
    exact List.cons_ne_nil _ _
  obtain ⟨part, among, found⟩ := infix_of_join filled apart inside
  obtain ⟨value, own, rfl⟩ := List.mem_map.mp among
  refine clear value own ?_
  have plain : ∀ d ∈ partBoundary, partChar settings d = [d] := by
    intro d member
    refine partChar_safe (boundary_chars d member).1 ?_
    rintro rfl
    exact apart member
  have pieces : partBoundary.flatMap (partChar settings) = partBoundary := by
    rw [List.flatMap_congr plain, List.flatMap_singleton']
  rw [part_chars, ← pieces, boundary_shape] at found
  rw [boundary_shape]
  exact infix_of_pieces (boundary_tells plain) found

/-! ### Parts -/

/-- The head of a part with a text. -/
private def textHead (name : Text) : Text := opening ++ (name ++ ['"'])

/-- What stands in front of the name of a file. -/
private def fileMark : Text := "; filename="

/-- The lines that say what a file is and how it is sent. -/
private def typeLine : Text := "Content-Type: application/octet-stream"

private def encodingLine : Text := "Content-Transfer-Encoding: BASE64"

private theorem fileMark_chars : fileMark = [';', ' ', 'f', 'i', 'l', 'e', 'n', 'a', 'm', 'e', '='] :=
  String.toList_ofList

private theorem typeLine_chars : typeLine = ['C', 'o', 'n', 't', 'e', 'n', 't', '-', 'T', 'y', 'p', 'e', ':', ' ',
    'a', 'p', 'p', 'l', 'i', 'c', 'a', 't', 'i', 'o', 'n', '/', 'o', 'c', 't', 'e', 't', '-', 's', 't', 'r', 'e',
    'a', 'm'] := String.toList_ofList

private theorem encodingLine_chars : encodingLine = ['C', 'o', 'n', 't', 'e', 'n', 't', '-', 'T', 'r', 'a', 'n',
    's', 'f', 'e', 'r', '-', 'E', 'n', 'c', 'o', 'd', 'i', 'n', 'g', ':', ' ', 'B', 'A', 'S', 'E', '6', '4'] :=
  String.toList_ofList

/-- The first line of the head of a part with a file. -/
private def fileLine (name : Text) : Text :=
  opening ++ (name ++ '"' :: (fileMark ++ '"' :: (name ++ ['"'])))

private def fileHead (name : Text) : Text :=
  fileLine name ++ '\r' :: '\n' :: (typeLine ++ '\r' :: '\n' :: encodingLine)

/-- A part behind its boundary. -/
private def framed (head : Text) (content : Option Text) : Text :=
  head ++ (headEnd ++ (content.map fun content => content ++ ("\r\n" : Text)).getD [])

/-- The part of a field. -/
private def source (field : Column × Cell) : Option Text :=
  match wireOf field.2 with
  | .text content =>
    some (framed (if field.1.kind == .blob then fileHead field.1.name else textHead field.1.name)
      (some content))
  | .null => some (framed (textHead field.1.name) none)
  | .absent => none

private theorem textPart_framed (name : Text) (content : Option Text) :
    textPart name content = partBoundary ++ '\r' :: '\n' :: framed (textHead name) content := by
  have behind : ("\"\r\n\r\n" : Text) = '"' :: headEnd := by
    rw [headEnd_chars]
    exact String.toList_ofList
  rw [textPart, framed, textHead, opening_line, behind]
  simp only [List.append_assoc, List.cons_append, List.nil_append]

private theorem filePart_framed (name content : Text) :
    filePart name content = partBoundary ++ '\r' :: '\n' :: framed (fileHead name) (some content) := by
  have middle : ("\"; filename=\"" : Text) = '"' :: (fileMark ++ ['"']) := by
    rw [fileMark_chars]
    exact String.toList_ofList
  have behind : ("\"\r\nContent-Type: application/octet-stream\r\nContent-Transfer-Encoding: BASE64\r\n\r\n" :
      Text) = '"' :: '\r' :: '\n' :: (typeLine ++ '\r' :: '\n' :: (encodingLine ++ headEnd)) := by
    rw [typeLine_chars, encodingLine_chars, headEnd_chars]
    exact String.toList_ofList
  rw [filePart, framed, fileHead, fileLine, opening_line, middle, behind]
  simp only [List.append_assoc, List.cons_append, List.nil_append, Option.map_some, Option.getD_some]

private theorem part_source (field : Column × Cell) :
    Layout.part ⟨field.1, wireOf field.2, wireOf field.2⟩ =
      ((source field).map fun part => partBoundary ++ '\r' :: '\n' :: part).getD [] := by
  unfold Layout.part source
  cases wireOf field.2 with
  | absent => rfl
  | null => exact textPart_framed _ _
  | text content =>
    dsimp only
    split
    · exact filePart_framed _ _
    · exact textPart_framed _ _

/-! ### The ends of parts -/

private theorem textHead_clear (clear : Clear name) : Clear (textHead name) := by
  obtain ⟨shape, -, single⟩ := opening_plain
  rw [textHead, shape, List.append_assoc, List.cons_append, List.nil_append,
    clear_around boundary_apart.1, clear_around boundary_apart.1]
  exact ⟨clear_single single, clear, clear_plain List.not_mem_nil⟩

private theorem lines_clear : Clear typeLine ∧ Clear encodingLine := by
  rw [typeLine_chars, encodingLine_chars]
  exact ⟨clear_single (by decide), clear_single (by decide)⟩

private theorem fileHead_clear (clear : Clear name) : Clear (fileHead name) := by
  obtain ⟨shape, -, single⟩ := opening_plain
  obtain ⟨quote, line, feed⟩ := boundary_apart
  have mark : Clear fileMark := by
    rw [fileMark_chars]
    exact clear_plain (by decide)
  have whole : fileHead name = opening.dropLast ++ '"' :: (name ++ '"' :: (fileMark ++ '"' ::
      (name ++ '"' :: '\r' :: '\n' :: (typeLine ++ '\r' :: '\n' :: encodingLine)))) := by
    rw [fileHead, fileLine, shape]
    simp
  rw [whole, clear_around quote, clear_around quote, clear_around quote, clear_around quote,
    clear_cons line, clear_cons feed, clear_around line, clear_cons feed]
  exact ⟨clear_single single, clear, mark, clear, lines_clear⟩

/-- A part ends in a line break, and there is no boundary before that. -/
private theorem framed_end {head : Text} {content : Option Text} (clear : Clear head)
    (inside : ∀ text, content = some text → Clear text) :
    ∃ front, framed head content = front ++ ['\n'] ∧ ¬ partBoundary <:+: front := by
  obtain ⟨-, line, feed⟩ := boundary_apart
  cases content with
  | none =>
    refine ⟨head ++ '\r' :: '\n' :: '\r' :: [], by simp [framed, headEnd_chars], ?_⟩
    exact (clear_around line).mpr ⟨clear, clear_plain (by decide)⟩
  | some text =>
    refine ⟨head ++ '\r' :: '\n' :: '\r' :: '\n' :: (text ++ '\r' :: []), by simp [framed, headEnd_chars], ?_⟩
    refine (clear_around line).mpr ⟨clear, ?_⟩
    rw [clear_cons feed, clear_cons line, clear_cons feed, clear_around line]
    exact ⟨inside text rfl, clear_plain List.not_mem_nil⟩

/-- What is not a word character is not in the name of a field. -/
private theorem apart_of_word (word : ∀ c ∈ name, isWord c = true) (other : isWord c = false) : c ∉ name := by
  intro member
  rw [word c member] at other
  cases other

private theorem source_end {engine : Engine} (word : ∀ c ∈ column.name, isWord c = true)
    (formed : FormCell engine column cell) (given : source (column, cell) = some part) :
    ∃ front, part = front ++ ['\n'] ∧ ¬ partBoundary <:+: front := by
  have named : Clear column.name := clear_plain (apart_of_word word (by decide))
  unfold source at given
  cases sent : wireOf cell with
  | absent =>
    rw [sent] at given
    cases given
  | null =>
    rw [sent] at given
    cases given
    exact framed_end (textHead_clear named) nofun
  | text content =>
    rw [sent] at given
    cases given
    refine framed_end ?_ fun text same => ?_
    · split
      · exact fileHead_clear named
      · exact textHead_clear named
    · cases same
      exact formed.clear content sent

/-! ### Reading parts -/

private theorem textHead_read {place : Nat} (line : '\r' ∉ name) (filled : name ≠ [])
    (plain : '"' ∉ name) (placed : table.indexOf? name = some place) (own : table.find? name = some column)
    (read : Body.Multipart.cell table column false false
      (Body.Multipart.dropLineBreak (utf8 content)) = .ok cell) :
    Body.Multipart.setPart table row (utf8 (textHead name ++ (headEnd ++ content))) =
      pure (row.set place cell) := by
  have single : '\r' ∉ textHead name := by
    simp [textHead, opening_plain.2.1, line]
  have cut : cut? headEnd (textHead name ++ (headEnd ++ content)) = some (textHead name, content) := by
    rw [headEnd_chars]
    exact cut_apart single
  exact part_set false false cut (line_alone single)
    (disposition_named filled plain) placed own rfl read

/-- The further lines of a head with a file announce base64. -/
private theorem lines_transfer : Body.Multipart.transfer [typeLine, encodingLine] = .base64 := by
  have type : (("content-type:" : Text).isPrefixOf (lower typeLine) &&
      hasInfix "multipart/mixed" (lower typeLine)) = false := by
    rw [typeLine_chars]
    decide
  have encoding : (("content-type:" : Text).isPrefixOf (lower encodingLine) &&
      hasInfix "multipart/mixed" (lower encodingLine)) = false := by
    rw [encodingLine_chars]
    decide
  have base64 : (("content-transfer-encoding:" : Text).isPrefixOf (lower encodingLine) &&
      hasInfix "BASE64" (upper encodingLine)) = true := by
    rw [encodingLine_chars]
    decide
  simp only [Body.Multipart.transfer, type, encoding, base64, Bool.false_eq_true, ↓reduceIte]

set_option maxRecDepth 2000 in
private theorem lines_unended : ¬ headEnd <:+:
    '\r' :: '\n' :: (typeLine ++ '\r' :: '\n' :: encodingLine) ++ headEnd.dropLast := by
  rw [typeLine_chars, encodingLine_chars, headEnd_chars]
  decide

private theorem fileHead_read {place : Nat} (line : '\r' ∉ name) (filled : name ≠ [])
    (plain : '"' ∉ name) (placed : table.indexOf? name = some place) (own : table.find? name = some column)
    (read : Body.Multipart.cell table column true true
      (Body.Multipart.dropLineBreak (utf8 content)) = .ok cell) :
    Body.Multipart.setPart table row (utf8 (fileHead name ++ (headEnd ++ content))) =
      pure (row.set place cell) := by
  have mark : '\r' ∉ fileMark := by
    rw [fileMark_chars]
    decide
  have single : '\r' ∉ fileLine name := by
    simp [fileLine, opening_plain.2.1, line, mark]
  have cut : cut? headEnd (fileHead name ++ (headEnd ++ content)) = some (fileHead name, content) := by
    refine (cut_eq_some_iff headEnd_filled).mpr ⟨rfl, ?_⟩
    have unended := lines_unended
    rw [fileHead, List.append_assoc]
    rw [headEnd_chars] at unended ⊢
    exact (infix_behind single).not.mpr unended
  have split : splitOnText "\r\n" (fileHead name) = [fileLine name, typeLine, encodingLine] := by
    have type : '\r' ∉ typeLine := by
      rw [typeLine_chars]
      decide
    have encoding : '\r' ∉ encodingLine := by
      rw [encodingLine_chars]
      decide
    rw [fileHead, line_first single, line_first type, line_alone encoding]
  exact part_set true true cut split (disposition_named filled plain) placed own lines_transfer read

private theorem utf8_filled {c : Char} {text : Text} : (utf8 (c :: text)).isEmpty = false := by
  obtain ⟨b, bytes, shape⟩ := List.exists_cons_of_ne_nil (utf8OfNat_ne_nil c)
  rw [utf8, List.flatMap_cons, shape]
  rfl

/-- A text that is sent of a field of texts comes back, if it is one. -/
private theorem text_read (unhidden : table.hasher = none) (kind : column.kind = .string)
    (trimmed : strip text = text) :
    Body.Multipart.cell table column false false (utf8 text) = .ok (reread (.text text)) := by
  cases text with
  | nil => rfl
  | cons c text =>
    simp [Body.Multipart.cell, utf8_filled, ofUtf8_utf8, trimmed, Table.readWire, Media.decode, unhidden,
      Column.deserialize, kind, reread, bind, Except.bind]

/-- Bytes that are sent of a field of bytes come back, if there are some. -/
private theorem bytes_read (kind : column.kind = .blob) (bytes : List UInt8) :
    Body.Multipart.cell table column true true (utf8 (base64 bytes)) = .ok (reread (.bytes bytes)) := by
  cases shape : bytes with
  | nil => rfl
  | cons b rest =>
    rw [← shape]
    have trimmed : strip (base64 bytes) = base64 bytes := by
      have bare := strip_behind (fun c member => (Base64Reading.base64_plain bytes c member).1)
        (List.forall_mem_nil (isBlank · = true))
      rwa [List.append_nil] at bare
    have filled : (utf8 (base64 bytes)).isEmpty = false := by
      cases sent : base64 bytes with
      | nil =>
        have back := Base64Reading.ofBase64_base64 bytes
        rw [sent, shape] at back
        cases back
      | cons c text => exact utf8_filled
    have same : reread (.bytes bytes) = .bytes bytes := by
      rw [shape]
      rfl
    simp [Body.Multipart.cell, filled, ofUtf8_utf8, trimmed, BlobTransport.deserialize_base64 kind bytes,
      same, bind, Except.bind]

/-- The part of a field sets the field to its cell as it comes back. -/
private theorem source_set {engine : Engine} {place : Nat} (unhidden : table.hasher = none)
    (filled : column.name ≠ []) (word : ∀ c ∈ column.name, isWord c = true)
    (formed : FormCell engine column cell) (placed : table.indexOf? column.name = some place)
    (own : table.find? column.name = some column) (given : source (column, cell) = some part) :
    Body.Multipart.setPart table row (utf8 part) = pure (row.set place (reread cell)) := by
  have line := apart_of_word word (by decide : isWord '\r' = false)
  have plain := apart_of_word word (by decide : isWord '"' = false)
  have broken (content : Text) :
      Body.Multipart.dropLineBreak (utf8 (content ++ ("\r\n" : Text))) = utf8 content := by
    rw [utf8_append]
    exact lineBreak_dropped _
  cases cell with
  | undefined => cases given
  | null =>
    cases given
    exact textHead_read line filled plain placed own rfl
  | text text =>
    have kind : column.kind = .string := formed.held
    simp only [source, wireOf, kind] at given
    cases given
    refine textHead_read line filled plain placed own ?_
    rw [Option.map_some, Option.getD_some, broken]
    exact text_read unhidden kind (formed.trimmed text rfl)
  | bytes bytes =>
    have kind : column.kind = .blob := formed.held.1
    simp only [source, wireOf, kind] at given
    cases given
    refine fileHead_read line filled plain placed own ?_
    rw [Option.map_some, Option.getD_some, broken]
    exact bytes_read kind bytes
  | _ => cases formed.held

/-! ### Rows -/

/-- The parts of a row behind their boundaries: that of the row id, and those of the fields. -/
private def parts (table : Table) (id : Text) (row : Row) : List Text :=
  framed (textHead table.settings.idField) (some id) :: (cellsOf table.columns row).filterMap source

private def formText (parts : List Text) : Text :=
  parts.flatMap (fun part => partBoundary ++ '\r' :: '\n' :: part) ++ partBoundary ++ "--\r\n"

private theorem sources_written (fields : List (Column × Cell)) :
    (fields.map fun field => (⟨field.1, wireOf field.2, wireOf field.2⟩ : WrittenField)).flatMap
        Layout.part =
      (fields.filterMap source).flatMap fun part => partBoundary ++ '\r' :: '\n' :: part := by
  induction fields with
  | nil => rfl
  | cons field fields ih =>
    rw [List.map_cons, List.flatMap_cons, ih, part_source]
    cases given : source field with
    | none => rw [List.filterMap_cons_none given]; rfl
    | some part => rw [List.filterMap_cons_some given, List.flatMap_cons]; rfl

/-- The first row is written part by part, and its row id is made of what is sent of its keys. -/
private theorem form_written (free : Open layout) {cursor : Cursor} {others : List Row}
    (left : cursor.left = row :: others)
    (held : ∀ field ∈ cellsOf layout.table.columns row,
      FormHolds layout.table.engine field.1 field.2) :
    ∃ written, layout.row row = .ok written ∧
      written.fields = (cellsOf layout.table.columns row).map (fun field =>
        ⟨field.1, wireOf field.2, wireOf field.2⟩) ∧
      (layout.write .formData cursor).text.result = .ok (formText (parts layout.table written.id row)) := by
  obtain ⟨written, shown, fields⟩ := row_written free held
  have text : layout.formRow written = formText (parts layout.table written.id row) := by
    rw [Layout.formRow, fields, sources_written, textPart_framed, formText, parts, List.flatMap_cons]
  have started : cursor.isAtEnd = false := by
    rw [Cursor.isAtEnd, left]
    rfl
  have first : cursor.current = row := by
    rw [Cursor.current, left]
    rfl
  refine ⟨written, shown, fields, ?_⟩
  rw [← text]
  simp only [Layout.write, Layout.writeForm, started, first, shown, Bool.false_eq_true, ↓reduceIte]
  split <;> rfl

/-- Of a row whose cells don't have the boundary the row id doesn't have it either, or the separator is
one of its characters. -/
private theorem id_clear {written : WrittenRow} (shown : layout.row row = .ok written)
    (fields : written.fields = (cellsOf layout.table.columns row).map fun field =>
      ⟨field.1, wireOf field.2, wireOf field.2⟩)
    (clear : ∀ field ∈ cellsOf layout.table.columns row,
      ∀ text, wireOf field.2 = .text text → Clear text)
    (apart : layout.table.settings.idSeparator ∉ partBoundary) : Clear written.id := by
  obtain ⟨seed, -, shown⟩ := bind_eq_ok.mp shown
  obtain ⟨others, -, same⟩ := bind_eq_ok.mp shown
  cases same
  subst fields
  refine joinId_clear apart fun value member => ?_
  obtain ⟨written, key, rfl⟩ := List.mem_map.mp member
  obtain ⟨field, among, rfl⟩ := List.mem_map.mp (List.mem_filter.mp key).1
  unfold keyValue
  cases sent : wireOf field.2 with
  | text text => exact clear field among text sent
  | _ => exact clear_plain List.not_mem_nil

/-- A field of a row has a word as its name. -/
private theorem words_of_row (names : Named table) {field : Column × Cell}
    (member : field ∈ cellsOf table.columns row) :
    field.1.name ≠ [] ∧ ∀ c ∈ field.1.name, isWord c = true := by
  refine names.words field.1 ?_
  rw [← RowIdentity.cellsOf_columns table.columns row]
  exact List.mem_map_of_mem member

/-- The reader finds each part behind its boundary, for it ends in the first line break that the
boundary stands behind. -/
private theorem parts_end (names : Named table) {id : Text} (idClear : Clear id)
    (formed : ∀ field ∈ cellsOf table.columns row, FormCell table.engine field.1 field.2) :
    ∀ part ∈ parts table id row, ∃ front, part = front ++ ['\n'] ∧ ¬ partBoundary <:+: front := by
  refine List.forall_mem_cons.mpr ⟨?_, fun part member => ?_⟩
  · refine framed_end (textHead_clear names.clear) fun text same => ?_
    cases same
    exact idClear
  · obtain ⟨field, among, given⟩ := List.mem_filterMap.mp member
    exact source_end (words_of_row names among).2 (formed field among) given

/-- A cell without a part is undefined, and so it stays. -/
private theorem unsent_undefined {engine : Engine} (formed : FormCell engine column cell)
    (none : source (column, cell) = none) : reread cell = .undefined := by
  have held : FormHolds engine column cell := formed.held
  cases cell with
  | undefined => rfl
  | null => cases none
  | text text => cases none
  | bytes bytes => cases none
  | _ => cases held

/-- Part by part, the empty row becomes the row that is read back. -/
private theorem sources_read (names : Named table) (unhidden : table.hasher = none)
    (formed : ∀ field ∈ cellsOf table.columns row, FormCell table.engine field.1 field.2) :
    ((cellsOf table.columns row).filterMap source).foldlM
      (fun row part => Body.Multipart.setPart table row (utf8 part)) table.emptyRow =
        pure ((completed table row).map reread) := by
  refine row_filled names.distinct ?_ ?_
  · rintro ⟨column, cell⟩ member place placed own part given row'
    obtain ⟨filled, word⟩ := words_of_row names member
    exact source_set unhidden filled word (formed (column, cell) member) placed own given
  · rintro ⟨column, cell⟩ member none
    exact unsent_undefined (formed (column, cell) member) none

/-- The parts of a row are read as the row. -/
private theorem form_read (names : Named table) (unhidden : table.hasher = none) {id : Text}
    (idClear : Clear id)
    (formed : ∀ field ∈ cellsOf table.columns row, FormCell table.engine field.1 field.2) :
    (Body.Multipart.rows table partBoundary (utf8 (formText (parts table id row)))).result =
      (Row.kept ((completed table row).map reread)).result.map Option.toList := by
  have nonempty : utf8 partBoundary ≠ [] := by
    rw [boundary_shape, utf8, List.flatMap_cons]
    exact List.append_ne_nil_of_left_ne_nil (utf8OfNat_ne_nil '-') _
  have cut : Body.Multipart.parts? (utf8 partBoundary) nonempty (utf8 (formText (parts table id row))) =
      some ((parts table id row).map utf8) :=
    form_parts nonempty (fun d member => (boundary_chars d member).2) boundary_apart.2.2
      (parts_end names idClear formed)
  -- The row id comes first, and no field has its name.
  have first : (Body.Multipart.setPart table table.emptyRow
      (utf8 (framed (textHead table.settings.idField) (some id)))).result = .ok table.emptyRow := by
    rw [framed, textHead, Option.map_some, Option.getD_some, List.append_assoc, List.append_assoc]
    exact unnamed_part_skipped names.apart (id ++ ("\r\n" : Text))
  have filled : (((parts table id row).map utf8).foldlM (Body.Multipart.setPart table)
      table.emptyRow).result = .ok ((completed table row).map reread) := by
    have others : (((cellsOf table.columns row).filterMap source).map utf8).foldlM
        (Body.Multipart.setPart table) table.emptyRow = pure ((completed table row).map reread) := by
      rw [List.foldlM_map, sources_read names unhidden formed]
    rw [parts, List.map_cons, List.foldlM_cons, result_bind, first]
    exact congrArg Logged.result others
  unfold Body.Multipart.rows
  simp only [dif_neg nonempty, cut, result_bind, filled]
  rfl

private theorem row_returned (free : Open layout) (names : Named layout.table) {cursor : Cursor}
    {others : List Row} (left : cursor.left = row :: others)
    (formed : ∀ field ∈ cellsOf layout.table.columns row,
      FormCell layout.table.engine field.1 field.2)
    (separated : layout.table.settings.idSeparator ∈ partBoundary →
      ∀ written, layout.row row = .ok written → Clear written.id)
    (some : Row.hasData (completed layout.table row) = true) :
    ∃ text, (layout.write .formData cursor).text.result = .ok text ∧
      (Body.rows layout.table .formData partBoundary (.text text)).result =
        .ok [(completed layout.table row).map reread] := by
  obtain ⟨written, shown, fields, text⟩ :=
    form_written free left fun field member => (formed field member).held
  have idClear : Clear written.id := by
    by_cases apart : layout.table.settings.idSeparator ∈ partBoundary
    · exact separated apart written shown
    · exact id_clear shown fields (fun field member => (formed field member).clear) apart
  have kept : Row.hasData ((completed layout.table row).map reread) = true := by
    have same (cell : Cell) : (reread cell).isUndefined = cell.isUndefined := by
      unfold reread
      split <;> rfl
    simpa [Row.hasData, List.any_map, Function.comp_def, same] using some
  have read := form_read names free.unhidden idClear formed
  rw [kept_result, if_pos kept] at read
  exact ⟨_, text, read⟩

/-- Files with a name. -/
def uploads : Layout :=
  { table :=
      { engine := .sqlite
        options := { tableName := "uploads" }
        columns :=
          [{ name := "s", kind := .string, sqlType := "TEXT", isPrimaryKey := true },
           { name := "x", kind := .blob, sqlType := "BLOB" },
           { name := "n", kind := .number, sqlType := "INTEGER" },
           { name := "t", kind := .string, sqlType := "TEXT" }] } }

private theorem uploads_open : Open uploads := ⟨⟨rfl, rfl, by rintro _ ⟨⟩⟩, rfl, fun _ => rfl⟩

private theorem uploads_named : Named uploads.table := by
  refine ⟨by decide, fun column member => ?_, by decide, clear_plain (by decide)⟩
  simp only [uploads, List.mem_cons, List.not_mem_nil, or_false] at member
  rcases member with rfl | rfl | rfl | rfl <;> exact ⟨List.cons_ne_nil _ _, each_of_all (by decide)⟩

private theorem uploads_separated : uploads.table.settings.idSeparator ∉ partBoundary := by
  rw [boundary_spelled]
  decide

private theorem blob_type : Engine.typeClass .sqlite "BLOB" ≠ .boolean := by
  decide +kernel

private theorem nothing_formed (engine : Engine) (column : Column) {cell : Cell}
    (nothing : cell = .null ∨ cell = .undefined) : FormCell engine column cell := by
  rcases nothing with rfl | rfl <;>
    exact ⟨trivial, fun _ same => absurd same (by simp), fun _ same => absurd same (by simp [wireOf])⟩

private theorem text_formed {engine : Engine} (kind : column.kind = .string) (trimmed : strip text = text)
    (clear : Clear text) : FormCell engine column (.text text) := by
  refine ⟨kind, fun other same => ?_, fun other same => ?_⟩
  · cases same
    exact trimmed
  · cases same
    exact clear

private theorem bytes_formed {engine : Engine} {bytes : List UInt8} (kind : column.kind = .blob)
    (type : engine.typeClass column.sqlType ≠ .boolean) (clear : Clear (base64 bytes)) :
    FormCell engine column (.bytes bytes) := by
  refine ⟨⟨kind, type⟩, fun other same => absurd same (by simp), fun other same => ?_⟩
  cases same
  exact clear

end TableGate.FormRoundTrip
