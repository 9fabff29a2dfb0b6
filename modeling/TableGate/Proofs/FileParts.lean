import TableGate.Proofs.MultipartReading

/-! Files in a multipart form are cut out byte by byte. A form is read from one delimiter to the next, so
that a content may hold anything but the delimiter; of several files for one field the last one counts, and
files for no field are passed over. -/
namespace TableGate.FileParts
open Body.Multipart FormRows MultipartReading PatternSearch RowTransport Text TextFacts

/-- A file for a field. -/
structure FilePart where
  field : Text
  file : Text
  content : List UInt8
  named : field ≠ []
  unquoted : '"' ∉ field
  line : ∀ c ∈ field ++ file, c ≠ '\r' ∧ c ≠ '\n'
  filled : content ≠ []

/-- The line in front of the content. -/
def FilePart.header (part : FilePart) : Text :=
  opening ++ (part.field ++ ("\"; filename=\"" ++ (part.file ++ "\"")))

/-- What stands in front of a part. -/
def delimiter (boundary : Text) : List UInt8 := 45 :: 45 :: utf8 boundary

/-- A part between the line breaks behind two delimiters. -/
def FilePart.bytes (part : FilePart) : List UInt8 :=
  utf8 part.header ++ ([13, 10, 13, 10] ++ (part.content ++ [13, 10]))

/-- Parts behind their delimiters. The form may be ended by a further one with two hyphens. -/
def fileForm (boundary : Text) (parts : List FilePart) (isEnded : Bool) : List UInt8 :=
  parts.flatMap (fun part => delimiter boundary ++ 13 :: 10 :: part.bytes) ++
    if isEnded then delimiter boundary ++ [45, 45, 13, 10] else []

/-- A part that the delimiter isn't in. -/
structure Clear (boundary : Text) (part : FilePart) : Prop where
  header : ¬ delimiter boundary <:+: utf8 part.header
  content : ¬ delimiter boundary <:+: part.content

/-- The content of the last part for a name. -/
def contentOf (parts : List FilePart) (name : Text) : Cell :=
  match (parts.filter (·.field == name)).getLast? with
  | some part => .bytes part.content
  | none => .undefined

/-- Each field with the content that was sent for it. Of fields with one name the last one gets it. -/
def fileRow (table : Table) (parts : List FilePart) : Row :=
  table.columns.zipIdx.map fun field =>
    if table.indexOf? field.1.name = some field.2 then contentOf parts field.1.name else .undefined

/-- Whether a part is for a field. -/
def isNamed (table : Table) (part : FilePart) : Bool := table.columns.any (·.name == part.field)

variable {table : Table} {boundary : Text} {part : FilePart} {parts : List FilePart} {isEnded : Bool}
  {row : Row} {name : Text}

/-! ### Parts -/

private theorem header_line (part : FilePart) : '\r' ∉ part.header := by
  have field : '\r' ∉ part.field := fun member => (part.line _ (List.mem_append_left _ member)).1 rfl
  have file : '\r' ∉ part.file := fun member => (part.line _ (List.mem_append_right _ member)).1 rfl
  have middle : '\r' ∉ ("\"; filename=\"" : Text) := by decide
  have quote : '\r' ∉ ("\"" : Text) := by decide
  simp only [FilePart.header, List.mem_append, opening_plain.2.1, field, file, middle, quote, or_self,
    not_false_eq_true]

/-- A part sets the field that its name leads to. -/
private theorem part_read (row : Row) (part : FilePart) :
    (setPart table row part.bytes).result =
      .ok (match table.indexOf? part.field with
        | some place => row.set place (.bytes part.content)
        | none => row) := by
  have line := header_line part
  have cut : cut? [13, 10, 13, 10] part.bytes = some (utf8 part.header, part.content ++ [13, 10]) :=
    cut_apart fun member => line (mem_of_utf8 (c := '\r') (by decide) member)
  have declared : disposition? part.header = some ⟨part.field, true⟩ :=
    disposition_named part.named part.unquoted
  cases found : table.indexOf? part.field with
  | none =>
    refine bytes_skipped cut fun disposition given => ?_
    rw [line_alone line, List.headD_cons, declared] at given
    cases given
    exact found
  | some place =>
    obtain ⟨column, -, -, own⟩ := placed_named found
    have read : Body.Multipart.cell table column true false (dropLineBreak (part.content ++ [13, 10])) =
        .ok (.bytes part.content) := by
      rw [lineBreak_dropped, Body.Multipart.cell, if_neg (by simpa using part.filled)]
      rfl
    rw [bytes_set true false cut (line_alone line) declared found own rfl read]
    rfl

private theorem contentOf_snoc (parts : List FilePart) (part : FilePart) (name : Text) :
    contentOf (parts ++ [part]) name =
      if part.field = name then .bytes part.content else contentOf parts name := by
  by_cases own : part.field = name <;> simp [contentOf, own]

/-- A further part takes the place of those before it. -/
private theorem fileRow_snoc (table : Table) (parts : List FilePart) (part : FilePart) :
    (match table.indexOf? part.field with
      | some place => (fileRow table parts).set place (.bytes part.content)
      | none => fileRow table parts) = fileRow table (parts ++ [part]) := by
  cases found : table.indexOf? part.field with
  | none =>
    refine List.map_congr_left fun field member => ?_
    have other : part.field ≠ field.1.name := by
      intro own
      obtain ⟨place, leads⟩ := named_placed (List.fst_mem_of_mem_zipIdx member)
      rw [← own, found] at leads
      cases leads
    rw [contentOf_snoc, if_neg other]
  | some place =>
    obtain ⟨column, stands, named, -⟩ := placed_named found
    refine List.ext_getElem (by simp [fileRow]) fun j bound _ => ?_
    have inside : j < table.columns.length := by simpa [fileRow] using bound
    have cell (parts : List FilePart) (bound : j < (fileRow table parts).length) :
        (fileRow table parts)[j] = if table.indexOf? table.columns[j].name = some j then
          contentOf parts table.columns[j].name else .undefined := by
      simp [fileRow]
    rw [List.getElem_set, cell, cell, contentOf_snoc]
    by_cases here : place = j
    · subst here
      have own : table.columns[place].name = part.field := by
        rw [(List.getElem?_eq_some_iff.mp stands).2, named]
      rw [if_pos rfl, own, if_pos found, if_pos rfl]
    · rw [if_neg here]
      by_cases own : part.field = table.columns[j].name
      · rw [← own, found, if_neg (by simpa using here), if_neg (by simpa using here)]
      · rw [if_neg own]

/-- A row that is filled from the parts has the content of the last part for each field. -/
private theorem row_of_parts (table : Table) (parts : List FilePart) :
    ((parts.map (·.bytes)).foldlM (setPart table) table.emptyRow).result = .ok (fileRow table parts) := by
  rw [result_foldlM]
  induction parts using List.reverseRecOn with
  | nil =>
    have empty : fileRow table [] = table.emptyRow := by
      simp [fileRow, contentOf, Table.emptyRow, List.map_const']
    rw [empty]
    rfl
  | append_singleton parts part ih =>
    have last : (setPart table (fileRow table parts) part.bytes).result =
        .ok (fileRow table (parts ++ [part])) := by
      rw [part_read, fileRow_snoc]
    rw [List.map_append, List.foldlM_append, ih]
    change (setPart table (fileRow table parts) part.bytes).result >>= pure = _
    rw [last]
    rfl

private theorem contentOf_defined (parts : List FilePart) (name : Text) :
    (contentOf parts name).isUndefined = false ↔ ∃ part ∈ parts, part.field = name := by
  unfold contentOf
  cases last : (parts.filter (·.field == name)).getLast? with
  | none =>
    rw [List.getLast?_eq_none_iff, List.filter_eq_nil_iff] at last
    simpa [Cell.isUndefined] using last
  | some part =>
    obtain ⟨member, named⟩ := List.mem_filter.mp (List.mem_of_getLast? last)
    exact iff_of_true rfl ⟨part, member, eq_of_beq named⟩

/-- The row has data if some part is for a field. -/
private theorem row_data (table : Table) (parts : List FilePart) :
    (fileRow table parts).hasData = parts.any (isNamed table) := by
  rw [Bool.eq_iff_iff, Row.hasData, List.any_eq_true, List.any_eq_true]
  constructor
  · rintro ⟨cell, member, defined⟩
    obtain ⟨field, among, rfl⟩ := List.mem_map.mp member
    split at defined
    · obtain ⟨part, sent, own⟩ := (contentOf_defined _ _).mp (by simpa using defined)
      exact ⟨part, sent, List.any_eq_true.mpr
        ⟨field.1, List.fst_mem_of_mem_zipIdx among, beq_iff_eq.mpr own.symm⟩⟩
    · cases defined
  · rintro ⟨part, sent, named⟩
    obtain ⟨column, member, own⟩ := List.any_eq_true.mp named
    obtain ⟨place, found⟩ := named_placed member
    obtain ⟨other, stands, same, -⟩ := placed_named found
    refine ⟨_, List.mem_map.mpr ⟨(other, place), List.mk_mem_zipIdx_iff_getElem?.mpr stands, rfl⟩, ?_⟩
    have defined := (contentOf_defined parts column.name).mpr ⟨part, sent, (eq_of_beq own).symm⟩
    rw [same, if_pos found, defined]
    rfl

/-- Where names tell the fields apart, each of them gets its content. -/
private theorem distinct_row (distinct : (table.columns.map (·.name)).Nodup) (parts : List FilePart) :
    fileRow table parts = table.columns.map fun column => contentOf parts column.name := by
  refine List.ext_getElem (by simp [fileRow]) fun j bound inside => ?_
  rw [List.length_map] at inside
  have stands : table.columns = table.columns.take j ++ table.columns[j] :: table.columns.drop (j + 1) := by
    rw [← List.drop_eq_getElem_cons inside, List.take_append_drop]
  have here := (place_found distinct stands).1
  rw [List.length_take_of_le inside.le] at here
  simp [fileRow, here]

/-! ### Forms -/

theorem first_delimiter (other : ∃ c ∈ boundary, c ≠ '-') (rest : List UInt8) :
    cut? (utf8 boundary) (delimiter boundary ++ rest) = some ([45, 45], rest) := by
  have differs : ∃ b ∈ utf8 boundary, b ≠ 45 := by
    by_contra! same
    have hyphens : utf8 boundary = utf8 (List.replicate (utf8 boundary).length '-') := by
      have written (count : Nat) : utf8 (List.replicate count '-') = List.replicate count 45 := by
        rw [utf8, List.flatMap_replicate]
        exact List.flatten_replicate_singleton
      rw [written]
      exact List.eq_replicate_iff.mpr ⟨rfl, same⟩
    have read := congrArg ofUtf8 hyphens
    rw [ofUtf8_utf8, ofUtf8_utf8] at read
    obtain ⟨c, member, apart⟩ := other
    rw [Except.ok.inj read] at member
    exact apart (List.eq_of_mem_replicate member)
  exact cut_repeated differs 2

theorem delimiter_line (line : '\r' ∉ boundary ∧ '\n' ∉ boundary) :
    13 ∉ delimiter boundary ∧ 10 ∉ delimiter boundary := by
  have carriage : 13 ∉ utf8 boundary := mt (mem_of_utf8 (c := '\r') (by decide)) line.1
  have feed : 10 ∉ utf8 boundary := mt (mem_of_utf8 (c := '\n') (by decide)) line.2
  simp [delimiter, carriage, feed]

theorem delimiter_filled : delimiter boundary ≠ [] := List.cons_ne_nil _ _

/-- A part ends in a line break, and there is no delimiter before that. -/
private theorem part_end (line : '\r' ∉ boundary ∧ '\n' ∉ boundary) (clear : Clear boundary part) :
    ∃ front, part.bytes = front ++ [10] ∧ ¬ delimiter boundary <:+: front := by
  obtain ⟨carriage, feed⟩ := delimiter_line line
  refine ⟨utf8 part.header ++ 13 :: ([] ++ 10 :: ([] ++ 13 :: ([] ++ 10 :: (part.content ++ 13 :: [])))),
    by simp [FilePart.bytes], ?_⟩
  rw [infix_around carriage, infix_around feed, infix_around carriage, infix_around feed,
    infix_around carriage]
  simp [clear.header, clear.content, delimiter_filled]

/-- Behind the first delimiter the form is read part by part. -/
private theorem parts_read (line : '\r' ∉ boundary ∧ '\n' ∉ boundary) {nonempty : delimiter boundary ≠ []}
    (own : Clear boundary part) (clear : ∀ part ∈ parts, Clear boundary part) :
    partsAfter (delimiter boundary) nonempty (13 :: 10 :: (part.bytes ++ fileForm boundary parts isEnded)) =
      (part :: parts).map (·.bytes) := by
  have feed := (delimiter_line line).2
  induction parts generalizing part with
  | nil =>
    obtain ⟨front, shape, absent⟩ := part_end line own
    cases isEnded with
    | false =>
      have whole : ¬ delimiter boundary <:+: front ++ [10] := by
        rw [infix_around feed]
        simp [absent, delimiter_filled]
      have bytes : part.bytes ++ fileForm boundary [] false = front ++ [10] := by
        rw [shape]
        exact List.append_nil _
      rw [bytes, part_unended whole, List.map_singleton, shape]
    | true =>
      have bytes : part.bytes ++ fileForm boundary [] true =
          front ++ 10 :: (delimiter boundary ++ [45, 45, 13, 10]) := by
        simp [shape, fileForm]
      rw [bytes, part_behind feed absent, parts_ended, List.map_singleton, shape]
  | cons next parts ih =>
    obtain ⟨here, others⟩ := List.forall_mem_cons.mp clear
    obtain ⟨front, shape, absent⟩ := part_end line own
    have bytes : part.bytes ++ fileForm boundary (next :: parts) isEnded = front ++ 10 ::
        (delimiter boundary ++ 13 :: 10 :: (next.bytes ++ fileForm boundary parts isEnded)) := by
      simp [shape, fileForm]
    rw [bytes, part_behind feed absent, ih here others, List.map_cons (a := part), shape]

/-- A form is read from its first delimiter on. -/
theorem form_start (other : ∃ c ∈ boundary, c ≠ '-') (nonempty : utf8 boundary ≠ []) (rest : List UInt8) :
    parts? (utf8 boundary) nonempty (delimiter boundary ++ rest) =
      some (partsAfter (delimiter boundary) delimiter_filled rest) := by
  rw [parts?, first_delimiter other]
  rfl

private theorem parts_of_form (line : '\r' ∉ boundary ∧ '\n' ∉ boundary) (other : ∃ c ∈ boundary, c ≠ '-')
    (clear : ∀ part ∈ parts, Clear boundary part) (nonempty : utf8 boundary ≠ []) :
    parts? (utf8 boundary) nonempty (fileForm boundary parts isEnded) =
      if parts = [] ∧ isEnded = false then none else some (parts.map (·.bytes)) := by
  cases parts with
  | cons part parts =>
    obtain ⟨own, others⟩ := List.forall_mem_cons.mp clear
    have bytes : fileForm boundary (part :: parts) isEnded = delimiter boundary ++
        13 :: 10 :: (part.bytes ++ fileForm boundary parts isEnded) := by
      simp [fileForm]
    rw [bytes, form_start other, parts_read line own others, if_neg (by simp)]
  | nil =>
    cases isEnded with
    | false =>
      have none : parts? (utf8 boundary) nonempty [] = none := by simp [parts?, cut?, nonempty]
      exact none
    | true => exact (form_start other nonempty _).trans (by rw [parts_ended]; rfl)

theorem boundary_filled (other : ∃ c ∈ boundary, c ≠ '-') : utf8 boundary ≠ [] := by
  obtain ⟨c, member, -⟩ := other
  intro empty
  exact utf8OfNat_ne_nil c (List.flatMap_eq_nil_iff.mp empty c member)

/-- The row of a form with files. -/
private theorem form_row (line : '\r' ∉ boundary ∧ '\n' ∉ boundary) (other : ∃ c ∈ boundary, c ≠ '-')
    (clear : ∀ part ∈ parts, Clear boundary part) :
    (Body.rows table .formData boundary (.bytes (fileForm boundary parts isEnded))).result =
      .ok (if parts.any (isNamed table) then [fileRow table parts] else []) := by
  have nonempty := boundary_filled other
  have lifted : (Body.rows table .formData boundary (.bytes (fileForm boundary parts isEnded))).result =
      (Body.Multipart.rows table boundary (fileForm boundary parts isEnded)).result := rfl
  rw [lifted, Body.Multipart.rows, dif_neg nonempty, parts_of_form line other clear]
  by_cases empty : parts = [] ∧ isEnded = false
  · rw [if_pos empty, empty.1]
    rfl
  · rw [if_neg empty]
    dsimp only
    rw [result_bind, row_of_parts]
    change (do let row ← (fileRow table parts).kept; return row.toList : Logged (List Row)).result = _
    rw [result_bind, kept_result, row_data]
    split <;> rfl

/-- **Files are cut out byte by byte.** If the delimiter is in no part, a form with files gives a row with
the content of the last file for each field, or no row if no file is for a field. Only where fields share a
name does the last of them alone get the content. -/
theorem files_are_read (table : Table) (boundary : Text) (parts : List FilePart) (isEnded : Bool)
    (line : '\r' ∉ boundary ∧ '\n' ∉ boundary) (other : ∃ c ∈ boundary, c ≠ '-')
    (clear : ∀ part ∈ parts, Clear boundary part) :
    (Body.rows table .formData boundary (.bytes (fileForm boundary parts isEnded))).result =
        .ok (if parts.any (isNamed table) then [fileRow table parts] else []) ∧
      ((table.columns.map (·.name)).Nodup →
        fileRow table parts = table.columns.map fun column => contentOf parts column.name) :=
  ⟨form_row line other clear, fun distinct => distinct_row distinct parts⟩

/-- Albums with a title and a cover. -/
def albums : Table where
  engine := .sqlite
  options := { tableName := "albums" }
  columns := [
    { name := "title", kind := .string, sqlType := "TEXT" },
    { name := "cover", kind := .blob, sqlType := "BLOB" }]

/-- Two covers, of which the second one has hyphens, an empty line and a line break at its end, and a file
for no field. -/
def covers : List FilePart := [
  ⟨"cover", "old.png", [1], by decide, by decide, each_of_all (by decide), by decide⟩,
  ⟨"size", "size.txt", [49], by decide, by decide, each_of_all (by decide), by decide⟩,
  ⟨"cover", "new \"1\".png", [45, 45, 13, 10, 13, 10, 0, 255, 13, 10], by decide, by decide,
    each_of_all (by decide), by decide⟩]

/-- The second cover is read as it is, also from a form that isn't ended. -/
theorem last_cover_is_read :
    (Body.rows albums .formData "-x-" (.bytes (fileForm "-x-" covers false))).result =
        .ok [[.undefined, .bytes [45, 45, 13, 10, 13, 10, 0, 255, 13, 10]]] ∧
      fileRow albums covers = albums.columns.map fun column => contentOf covers column.name := by
  have clear : ∀ part ∈ covers, Clear "-x-" part := by
    simp only [covers, List.forall_mem_cons, List.not_mem_nil, false_implies, implies_true, and_true]
    exact ⟨⟨by decide +kernel, by decide +kernel⟩, ⟨by decide +kernel, by decide +kernel⟩,
      ⟨by decide +kernel, by decide +kernel⟩⟩
  obtain ⟨rows, each⟩ := files_are_read albums "-x-" covers false (by decide) ⟨'x', by decide, by decide⟩ clear
  exact ⟨rows, each (by decide)⟩

/-- A table with two fields of one name. -/
def twins : Table where
  engine := .sqlite
  options := { tableName := "twins" }
  columns := [
    { name := "photo", kind := .blob, sqlType := "BLOB" },
    { name := "photo", kind := .blob, sqlType := "BLOB" }]

/-- Not every field with the name of a file gets the content: the first one of two is left out. -/
theorem first_twin_stays_undefined :
    ¬ ∀ (table : Table) (boundary : Text) (parts : List FilePart) (isEnded : Bool),
      ('\r' ∉ boundary ∧ '\n' ∉ boundary) → (∃ c ∈ boundary, c ≠ '-') →
        (∀ part ∈ parts, Clear boundary part) →
          (Body.rows table .formData boundary (.bytes (fileForm boundary parts isEnded))).result =
            .ok (if parts.any (isNamed table) then
              [table.columns.map fun column => contentOf parts column.name] else []) := by
  intro claimed
  let photo : FilePart := ⟨"photo", "me.jpg", [1], by decide, by decide, each_of_all (by decide), by decide⟩
  have clear : ∀ part ∈ [photo], Clear "B" part :=
    List.forall_mem_singleton.mpr ⟨by decide +kernel, by decide +kernel⟩
  have other : ∃ c ∈ ("B" : Text), c ≠ '-' := ⟨'B', by decide, by decide⟩
  have both := claimed twins "B" [photo] true (by decide) other clear
  rw [form_row (by decide) other clear] at both
  have cells : [[Cell.undefined, .bytes [1]]] = [[Cell.bytes [1], .bytes [1]]] := Except.ok.inj both
  cases cells

end TableGate.FileParts
