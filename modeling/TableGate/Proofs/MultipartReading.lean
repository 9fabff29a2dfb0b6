import Mathlib.Data.List.TakeWhile
import TableGate.Body.Multipart
import TableGate.Proofs.PatternSearch
import TableGate.Proofs.TextFacts
import TableGate.Proofs.FormRows

/-! How the parts of a form are read. A form is cut at its boundary into the parts that were put
between, a part is cut into the lines of its head and its content, and the first of the lines says
which field the content is for. -/
namespace TableGate.MultipartReading
open Body.Multipart FormRows PatternSearch Text TextFacts

/-- What stands in front of the name of a field. -/
def opening : Text := "Content-Disposition: form-data; name=\""

/-- What stands between the head of a part and its content. -/
def headEnd : Text := "\r\n\r\n"

private theorem opening_chars : opening = ['C', 'o', 'n', 't', 'e', 'n', 't', '-', 'D', 'i', 's', 'p', 'o',
    's', 'i', 't', 'i', 'o', 'n', ':', ' ', 'f', 'o', 'r', 'm', '-', 'd', 'a', 't', 'a', ';', ' ', 'n', 'a', 'm',
    'e', '=', '"'] := String.toList_ofList

theorem headEnd_chars : headEnd = ['\r', '\n', '\r', '\n'] := String.toList_ofList

theorem headEnd_filled : headEnd ≠ [] := by
  rw [headEnd_chars]
  exact List.cons_ne_nil _ _

theorem lineBreak_filled : ("\r\n" : Text) ≠ [] := List.cons_ne_nil _ _

/-- The opening of a part on a line of its own. -/
theorem opening_line : ("\r\nContent-Disposition: form-data; name=\"" : Text) = '\r' :: '\n' :: opening := by
  rw [opening_chars]
  exact String.toList_ofList

/-- The opening ends in a quote, has no line break and no two hyphens in a row. -/
theorem opening_plain : opening = opening.dropLast ++ ['"'] ∧ '\r' ∉ opening ∧
    ¬ (['-', '-'] : Text) <:+: opening.dropLast := by
  rw [opening_chars]
  exact ⟨rfl, by decide, by decide⟩

variable {table : Table} {column : Column} {row : Row} {head content part name rest text boundary : Text}
  {parts : List Text} {pattern : Text}

/-! ### Parts -/

theorem utf8_append (front rest : Text) : utf8 (front ++ rest) = utf8 front ++ utf8 rest :=
  List.flatMap_append

section Parts

variable {delimiter front : List UInt8} {nonempty : delimiter ≠ []}

/-- Two hyphens behind a delimiter end the form. -/
theorem parts_ended (more : List UInt8) : partsAfter delimiter nonempty (45 :: 45 :: more) = [] := by
  rw [partsAfter, if_pos (by rfl)]

/-- A part behind a delimiter ends in the line break in front of the next one, if it has no delimiter
before that. -/
theorem part_behind (apart : 10 ∉ delimiter) (absent : ¬ delimiter <:+: front) (rest : List UInt8) :
    partsAfter delimiter nonempty (13 :: 10 :: (front ++ 10 :: (delimiter ++ rest))) =
      (front ++ [10]) :: partsAfter delimiter nonempty rest := by
  have cut : cut? delimiter (front ++ 10 :: (delimiter ++ rest)) = some (front ++ [10], rest) :=
    cut_behind apart absent
  rw [partsAfter, if_neg (by simp)]
  split
  · rename_i found
    rw [List.drop_succ_cons, List.drop_succ_cons, List.drop_zero, cut] at found
    cases found
    rfl
  · rename_i found
    rw [List.drop_succ_cons, List.drop_succ_cons, List.drop_zero, cut] at found
    cases found

/-- The last part of a form that isn't ended goes on to its end. -/
theorem part_unended (absent : ¬ delimiter <:+: front) :
    partsAfter delimiter nonempty (13 :: 10 :: front) = [front] := by
  rw [partsAfter, if_neg (by simp)]
  split
  · rename_i found
    rw [List.drop_succ_cons, List.drop_succ_cons, List.drop_zero, cut_eq_none_iff.mpr absent] at found
    cases found
  · rfl

/-- Between the delimiters of a form are its parts, if each of them ends in a line break and has no
delimiter before that. -/
theorem parts_framed (nonempty : delimiter ≠ []) (apart : 10 ∉ delimiter)
    {parts : List (List UInt8)} (more : List UInt8)
    (each : ∀ part ∈ parts, ∃ front, part = front ++ [10] ∧ ¬ delimiter <:+: front) :
    partsAfter delimiter nonempty
      (parts.flatMap (fun part => 13 :: 10 :: (part ++ delimiter)) ++ 45 :: 45 :: more) = parts := by
  induction parts with
  | nil => exact parts_ended more
  | cons part parts ih =>
    obtain ⟨⟨front, rfl, absent⟩, others⟩ := List.forall_mem_cons.mp each
    have shape : ((front ++ [10]) :: parts).flatMap (fun part => 13 :: 10 :: (part ++ delimiter)) ++
        45 :: 45 :: more = 13 :: 10 :: (front ++ 10 :: (delimiter ++
          (parts.flatMap (fun part => 13 :: 10 :: (part ++ delimiter)) ++ 45 :: 45 :: more))) := by
      simp
    rw [shape, part_behind apart absent, ih others]

end Parts

/-- A mark in front of every piece and behind the last one is a mark in front of all, and one behind every
piece. -/
theorem marks_shifted {α β : Type} (mark : List α) (piece : β → List α) (items : List β) :
    items.flatMap (fun item => mark ++ piece item) ++ mark =
      mark ++ items.flatMap fun item => piece item ++ mark := by
  induction items with
  | nil => simp
  | cons item items ih => simp [ih]

/-- A form with an ASCII boundary is cut into its parts. -/
theorem form_parts (nonempty : utf8 boundary ≠ []) (ascii : ∀ d ∈ boundary, d.toNat < 128)
    (line : '\n' ∉ boundary)
    (each : ∀ part ∈ parts, ∃ front, part = front ++ ['\n'] ∧ ¬ boundary <:+: front) :
    parts? (utf8 boundary) nonempty
      (utf8 (parts.flatMap (fun part => boundary ++ '\r' :: '\n' :: part) ++ boundary ++ "--\r\n")) =
      some (parts.map utf8) := by
  have apart : 10 ∉ utf8 boundary := mt (mem_of_utf8 (c := '\n') (by decide)) line
  have bytes : utf8 (parts.flatMap (fun part => boundary ++ '\r' :: '\n' :: part) ++ boundary ++ "--\r\n") =
      utf8 boundary ++ ((parts.map utf8).flatMap (fun part => 13 :: 10 :: (part ++ utf8 boundary)) ++
        45 :: 45 :: [13, 10]) := by
    rw [marks_shifted, utf8_append, utf8_append, List.append_assoc, List.flatMap_map]
    congr 2
    rw [utf8, List.flatMap_assoc]
    refine List.flatMap_congr fun part _ => ?_
    rw [← utf8_append]
    rfl
  have ends : ∀ part ∈ parts.map utf8, ∃ front, part = front ++ [10] ∧ ¬ utf8 boundary <:+: front := by
    intro bytes member
    obtain ⟨part, among, rfl⟩ := List.mem_map.mp member
    obtain ⟨front, rfl, absent⟩ := each part among
    exact ⟨utf8 front, utf8_append front ['\n'], mt (infix_of_utf8 ascii) absent⟩
  rw [parts?, bytes, cut_start nonempty, Option.map_some]
  exact congrArg some (parts_framed nonempty apart [13, 10] ends)

/-! ### Heads -/

/-- A text without a line break is one line. -/
theorem line_alone (line : '\r' ∉ text) : splitOnText "\r\n" text = [text] := pieces_alone line

/-- The first line ends at the first line break. -/
theorem line_first (line : '\r' ∉ text) :
    splitOnText "\r\n" (text ++ '\r' :: '\n' :: rest) = text :: splitOnText "\r\n" rest := pieces_first line

/-- The first line says the name of a field behind its opening, up to a quote. -/
theorem disposition_opening (rest : Text) :
    disposition? (opening ++ rest) =
      match rest.dropWhile (· ≠ '"') with
      | '"' :: tail =>
        if (rest.takeWhile (· ≠ '"')).isEmpty then none
        else some ⟨rest.takeWhile (· ≠ '"'), (dropKeyword? "; filename=" tail).isSome⟩
      | _ => none := by
  rfl

theorem disposition_named {tail : Text} (filled : name ≠ []) (plain : '"' ∉ name) :
    disposition? (opening ++ (name ++ '"' :: tail)) =
      some ⟨name, (dropKeyword? "; filename=" tail).isSome⟩ := by
  have each : ∀ c ∈ name, decide (c ≠ '"') = true := by
    intro c member
    rw [decide_eq_true_eq]
    rintro rfl
    exact plain member
  rw [disposition_opening, List.dropWhile_append_of_pos each, List.takeWhile_append_of_pos each]
  simp [filled]

private theorem takeWhile_quote (text tail : Text) :
    (text ++ '"' :: tail).takeWhile (· ≠ '"') = text.takeWhile (· ≠ '"') := by
  induction text with
  | nil => simp
  | cons c text ih => simp only [List.cons_append, List.takeWhile_cons, ih]

/-- A line that is cut off somewhere names the field of the whole line or none. -/
private theorem disposition_cut {tail more : Text} {disposition : Disposition}
    (split : name ++ '"' :: tail = rest ++ more)
    (declared : disposition? (opening ++ rest) = some disposition) :
    disposition.field = name.takeWhile (· ≠ '"') := by
  rw [disposition_opening] at declared
  split at declared
  · rename_i behind found
    split at declared
    · cases declared
    · cases declared
      have shape : rest = rest.takeWhile (· ≠ '"') ++ '"' :: behind := by
        rw [← found, List.takeWhile_append_dropWhile]
      have whole := congrArg (List.takeWhile (· ≠ '"')) split
      rw [takeWhile_quote, shape, List.append_assoc, List.cons_append, takeWhile_quote] at whole
      rw [whole, List.takeWhile_idem]
  · cases declared

/-! ### Contents -/

theorem lineBreak_dropped (content : List UInt8) : dropLineBreak (content ++ [13, 10]) = content := by
  have ends : [13, 10].isSuffixOf (content ++ [13, 10]) = true :=
    List.isSuffixOf_iff_suffix.mpr (List.suffix_append _ _)
  rw [dropLineBreak, if_pos ends, ← List.singleton_append, ← List.append_assoc, List.dropLast_concat,
    List.dropLast_concat]

private theorem headEnd_bytes : ([13, 10, 13, 10] : List UInt8) = utf8 headEnd := by
  rw [headEnd_chars]
  rfl

private theorem part_cut (cut : cut? headEnd part = some (head, content)) :
    cut? [13, 10, 13, 10] (utf8 part) = some (utf8 head, utf8 content) := by
  have ascii : ∀ d ∈ headEnd, d.toNat < 128 := by
    rw [headEnd_chars]
    exact each_of_all (by decide)
  rw [headEnd_bytes, headEnd_chars, cut_utf8 (by rwa [← headEnd_chars]), ← headEnd_chars, cut]
  rfl

private theorem lifted_ok {α : Type} (value : α) :
    (liftM (Except.ok value : Except Fault α) : Logged α) = pure value := rfl

section Bytes

variable {bytes behind : List UInt8}

/-- A part whose first line names no field is passed over. -/
theorem bytes_skipped (cut : cut? [13, 10, 13, 10] bytes = some (utf8 head, behind))
    (unplaced : ∀ disposition, disposition? ((splitOnText "\r\n" head).headD []) = some disposition →
      table.indexOf? disposition.field = none) :
    (setPart table row bytes).result = .ok row := by
  unfold setPart
  rw [cut]
  simp only [ofUtf8_utf8, lifted_ok, pure_bind]
  cases declared : disposition? ((splitOnText "\r\n" head).headD []) with
  | none => rfl
  | some disposition =>
    simp only [unplaced disposition declared]
    rfl

/-- A part whose further lines announce a mixed one is passed over. -/
theorem bytes_mixed (cut : cut? [13, 10, 13, 10] bytes = some (utf8 head, behind))
    (mixed : transfer (splitOnText "\r\n" head).tail = .mixed) :
    (setPart table row bytes).result = .ok row := by
  unfold setPart
  rw [cut]
  simp only [ofUtf8_utf8, lifted_ok, pure_bind, mixed]
  split
  · rfl
  · split <;> rfl

/-- A part sets its field to the cell of its content. -/
theorem bytes_set (isFile isBase64 : Bool) {place : Nat} {cell : Cell} {lines : List Text} {first : Text}
    (cut : cut? [13, 10, 13, 10] bytes = some (utf8 head, behind))
    (split : splitOnText "\r\n" head = first :: lines)
    (declared : disposition? first = some ⟨name, isFile⟩)
    (found : table.indexOf? name = some place) (own : table.find? name = some column)
    (sent : transfer lines = if isBase64 then .base64 else .plain)
    (read : Body.Multipart.cell table column isFile isBase64 (dropLineBreak behind) = .ok cell) :
    setPart table row bytes = pure (row.set place cell) := by
  unfold setPart
  rw [cut]
  simp only [ofUtf8_utf8, lifted_ok, pure_bind, split, List.headD_cons, List.tail_cons, declared, found,
    own, sent]
  cases isBase64 <;> simp only [read, lifted_ok, pure_bind, Bool.false_eq_true, ↓reduceIte]

end Bytes

theorem part_skipped (cut : cut? headEnd part = some (head, content))
    (unplaced : ∀ disposition, disposition? ((splitOnText "\r\n" head).headD []) = some disposition →
      table.indexOf? disposition.field = none) :
    (setPart table row (utf8 part)).result = .ok row :=
  bytes_skipped (part_cut cut) unplaced

theorem part_set (isFile isBase64 : Bool) {place : Nat} {cell : Cell} {lines : List Text} {first : Text}
    (cut : cut? headEnd part = some (head, content)) (split : splitOnText "\r\n" head = first :: lines)
    (declared : disposition? first = some ⟨name, isFile⟩)
    (found : table.indexOf? name = some place) (own : table.find? name = some column)
    (sent : transfer lines = if isBase64 then .base64 else .plain)
    (read : Body.Multipart.cell table column isFile isBase64 (dropLineBreak (utf8 content)) = .ok cell) :
    setPart table row (utf8 part) = pure (row.set place cell) :=
  bytes_set isFile isBase64 (part_cut cut) split declared found own sent read

/-- The head of a part goes on from its opening, if the part does. -/
private theorem opening_kept {first more : Text} (split : opening ++ rest = first ++ '\r' :: more) :
    ∃ name, first = opening ++ name ∧ rest = name ++ '\r' :: more := by
  rcases List.append_eq_append_iff.mp split with ⟨name, same, tail⟩ | ⟨tail, same, behind⟩
  · exact ⟨name, same, tail⟩
  · cases tail with
    | nil => exact ⟨[], by rw [same]; simp, by rw [← List.nil_append ('\r' :: more), behind]; simp⟩
    | cons c tail =>
      have first := (List.cons.inj behind).1
      have inside : '\r' ∈ opening := by
        rw [same, first]
        simp
      exact absurd inside opening_plain.2.1

/-- A part with the opening of a field that the table doesn't have is passed over, whatever line breaks
the name has. -/
theorem unnamed_part_skipped
    (unnamed : ∀ column ∈ table.columns, column.name ≠ name.takeWhile (· ≠ '"')) (content : Text) :
    (setPart table row (utf8 (opening ++ (name ++ '"' :: (headEnd ++ content))))).result = .ok row := by
  have occurs : headEnd <:+: opening ++ (name ++ '"' :: (headEnd ++ content)) :=
    ⟨opening ++ (name ++ ['"']), content, by simp⟩
  cases cut : cut? headEnd (opening ++ (name ++ '"' :: (headEnd ++ content))) with
  | none => exact absurd occurs (cut_eq_none_iff.mp cut)
  | some sides =>
    obtain ⟨head, behind⟩ := sides
    have whole := ((cut_eq_some_iff headEnd_filled).mp cut).1
    refine part_skipped cut fun disposition declared => ?_
    have line : ∃ more, opening ++ (name ++ '"' :: (headEnd ++ content)) =
        (splitOnText "\r\n" head).headD [] ++ '\r' :: more := by
      rw [pieces_of_cut lineBreak_filled, whole]
      cases broken : cut? ("\r\n" : Text) head with
      | none => exact ⟨_, rfl⟩
      | some lines =>
        obtain ⟨first, others⟩ := lines
        rw [((cut_eq_some_iff lineBreak_filled).mp broken).1]
        exact ⟨_, List.append_assoc _ _ _⟩
    obtain ⟨more, split⟩ := line
    obtain ⟨named, same, tail⟩ := opening_kept split
    rw [same] at declared
    have field := disposition_cut tail declared
    exact (place_missing fun column member => by rw [field]; exact unnamed column member).1

end TableGate.MultipartReading
