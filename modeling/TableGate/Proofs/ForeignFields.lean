import TableGate.Proofs.FileParts
import TableGate.Proofs.UrlRoundTrip

/-! Forms with fields that the table doesn't have. A row is filled parameter by parameter, or block by
block, and one that is for no field leaves the row as it is; so it doesn't matter how many of them are sent
and where they stand. -/
namespace TableGate.ForeignFields
open Body.Multipart Body.UrlEncoded FileParts FormRows MultipartReading PatternSearch RowTransport Text

/-- A list with further items of a kind put between its own ones, before or after them. -/
inductive Inserted {α : Type} (Extra : α → Prop) : List α → List α → Prop where
  | nil : Inserted Extra [] []
  | own (item : α) {items merged : List α} (rest : Inserted Extra items merged) :
      Inserted Extra (item :: items) (item :: merged)
  | extra (item : α) (kind : Extra item) {items merged : List α} (rest : Inserted Extra items merged) :
      Inserted Extra items (item :: merged)

/-- A body that has some bytes, or is a text with these. -/
def Carries (bytes : List UInt8) : Body → Prop
  | .bytes source => source = bytes
  | .text source => utf8 source = bytes
  | _ => False

/-- A character of a parameter's name or value. -/
def IsParameterChar (c : Char) : Prop := isBlank c = false ∧ c ≠ '&' ∧ c ≠ '='

instance : DecidablePred IsParameterChar := fun c =>
  inferInstanceAs (Decidable (isBlank c = false ∧ c ≠ '&' ∧ c ≠ '='))

/-- A name and a value, as they stand in a form in a URL. -/
structure Parameter where
  key : Text
  value : Text
  keyChars : ∀ c ∈ key, IsParameterChar c := by decide
  valueChars : ∀ c ∈ value, IsParameterChar c := by decide

def Parameter.text (parameter : Parameter) : Text := parameter.key ++ '=' :: parameter.value

/-- Parameters with ampersands between them. -/
def urlForm (parameters : List Parameter) : Text := join "&" (parameters.map (·.text))

/-- A name that no field has. -/
def IsForeign (table : Table) (name : Text) : Prop := ∀ column ∈ table.columns, column.name ≠ name

/-- A parameter whose name, as it is decoded, no field has. -/
def ForeignParameter (table : Table) (parameter : Parameter) : Prop :=
  ∃ name, Media.decode .urlEncoded (withoutPlus parameter.key) = .ok name ∧ IsForeign table name

/-- Blocks between delimiters, each on lines of its own. Whatever follows the two hyphens behind the last
delimiter doesn't count. -/
def framed (boundary : Text) (blocks : List (List UInt8)) (rest : List UInt8) : List UInt8 :=
  blocks.flatMap (fun block => delimiter boundary ++ 13 :: 10 :: (block ++ [13, 10])) ++
    (delimiter boundary ++ 45 :: 45 :: rest)

/-- A line that announces a block of several parts. -/
def IsMixed (line : Text) : Prop :=
  ("content-type:" : Text) <+: lower line ∧ ("multipart/mixed" : Text) <:+: lower line

/-- The lines of a head that says no field for its content, or a content that can't be read. -/
inductive ForeignHead (table : Table) : List Text → Prop where
  | undeclared (first : Text) (others : List Text) (other : disposition? first = none) :
      ForeignHead table (first :: others)
  | unnamed (first : Text) (others : List Text) (disposition : Disposition)
      (declared : disposition? first = some disposition) (foreign : IsForeign table disposition.field) :
      ForeignHead table (first :: others)
  | mixed (first : Text) (others : List Text) (line : Text) (among : line ∈ others) (mixed : IsMixed line) :
      ForeignHead table (first :: others)

/-- A block that has no head even with the line break behind it, or that has a foreign one. -/
inductive ForeignBlock (table : Table) (block : List UInt8) : Prop where
  | headless (absent : ¬ [13, 10, 13, 10] <:+: block ++ [13, 10])
  | headed (head : Text) (content : List UInt8)
      (cut : cut? [13, 10, 13, 10] (block ++ [13, 10]) = some (utf8 head, content))
      (foreign : ForeignHead table (splitOnText "\r\n" head))

/-- A boundary on one line that is no row of hyphens. -/
structure Boundary where
  text : Text
  line : '\r' ∉ text ∧ '\n' ∉ text
  other : ∃ c ∈ text, c ≠ '-'

variable {table : Table} {row : Row} {boundary : Text} {body : Body} {block : List UInt8}

/-! ### Items that leave the row as it is -/

/-- A run over items is the same with further ones that it passes over. -/
private theorem run_inserted {α σ : Type} {Extra : α → Prop} {step : σ → α → Except Fault σ}
    (passed : ∀ item, Extra item → ∀ state, step state item = .ok state) {items merged : List α}
    (inserted : Inserted Extra items merged) (start : σ) :
    merged.foldlM step start = items.foldlM step start := by
  induction inserted generalizing start with
  | nil => rfl
  | own item _ ih =>
    rw [List.foldlM_cons, List.foldlM_cons]
    exact congrArg (step start item >>= ·) (funext ih)
  | extra item kind _ ih =>
    rw [List.foldlM_cons, passed item kind]
    exact ih start

private theorem Inserted.among {α : Type} {Extra : α → Prop} {items merged : List α} {item : α}
    (inserted : Inserted Extra items merged) (member : item ∈ items) : item ∈ merged := by
  induction inserted with
  | nil => cases member
  | own first _ ih =>
    rcases List.mem_cons.mp member with rfl | later
    · exact List.mem_cons_self
    · exact List.mem_cons_of_mem _ (ih later)
  | extra first _ _ ih => exact List.mem_cons_of_mem _ (ih member)

/-- The rows of a form are those of the row that it fills. -/
private theorem rows_of_run {first second : Logged Row} (same : first.result = second.result) :
    (first >>= fun row => row.kept >>= fun kept => pure kept.toList : Logged (List Row)).result =
      (second >>= fun row => row.kept >>= fun kept => pure kept.toList).result := by
  rw [result_bind, result_bind, same]

/-! ### Parameters -/

/-- The rows of a form in a URL, whether it is sent as a text or as bytes. -/
private theorem url_body {text : Text} (carries : Carries (utf8 text) body) :
    (Body.rows table .urlEncoded boundary body).result = (Body.UrlEncoded.rows table text).result := by
  cases body with
  | text source =>
    have back := congrArg ofUtf8 (carries : utf8 source = utf8 text)
    rw [ofUtf8_utf8, ofUtf8_utf8] at back
    cases back
    rfl
  | bytes source =>
    cases (carries : source = utf8 text)
    have read : Body.rows table .urlEncoded boundary (.bytes (utf8 text)) =
        Logged.lift (ofUtf8 (utf8 text)) >>= Body.rowsOfText table .urlEncoded boundary := rfl
    rw [read, ofUtf8_utf8, Logged.lift_ok_bind]
    rfl
  | object entries => cases carries
  | items cells => cases carries

private theorem parameter_chars {parameter : Parameter} {c : Char} (member : c ∈ parameter.text) :
    isBlank c = false ∧ c ≠ '&' := by
  rcases List.mem_append.mp member with key | rest
  · obtain ⟨blank, mark, -⟩ := parameter.keyChars c key
    exact ⟨blank, mark⟩
  · rcases List.mem_cons.mp rest with rfl | value
    · decide
    · obtain ⟨blank, mark, -⟩ := parameter.valueChars c value
      exact ⟨blank, mark⟩

/-- A form in a URL is read parameter by parameter. -/
private theorem url_rows (table : Table) (parameters : List Parameter) :
    Body.UrlEncoded.rows table (urlForm parameters) =
      Logged.lift (parameters.foldlM (fun row parameter => setParameter table row parameter.text) table.emptyRow) >>=
        fun row => row.kept >>= fun kept => pure kept.toList := by
  have parts : ∀ text ∈ parameters.map (·.text), ∀ c ∈ text, isBlank c = false ∧ c ≠ '&' := by
    intro text among c member
    obtain ⟨parameter, -, rfl⟩ := List.mem_map.mp among
    exact parameter_chars member
  have nothing : ∀ c ∈ ([] : Text), isBlank c = true := nofun
  rw [← List.append_nil (urlForm parameters), urlForm, UrlRoundTrip.rows_of_parameters parts nothing,
    List.foldlM_map]

/-- A foreign parameter leaves the row as it is. -/
private theorem parameter_passed {parameter : Parameter} (foreign : ForeignParameter table parameter) (row : Row) :
    setParameter table row parameter.text = .ok row := by
  obtain ⟨name, decoded, unnamed⟩ := foreign
  have key : '=' ∉ parameter.key := fun member => (parameter.keyChars _ member).2.2 rfl
  have value : '=' ∉ parameter.value := fun member => (parameter.valueChars _ member).2.2 rfl
  exact UrlRoundTrip.parameter_unnamed key value decoded unnamed

/-! ### Blocks -/

private theorem transfer_mixed {lines : List Text} {line : Text} (among : line ∈ lines) (mixed : IsMixed line) :
    transfer lines = .mixed := by
  have announced : (("content-type:" : Text).isPrefixOf (lower line) &&
      hasInfix "multipart/mixed" (lower line)) = true :=
    Bool.and_eq_true_iff.mpr ⟨List.isPrefixOf_iff_prefix.mpr mixed.1, hasInfix_iff.mpr mixed.2⟩
  induction lines with
  | nil => cases among
  | cons first lines ih =>
    rcases List.mem_cons.mp among with rfl | later
    · rw [transfer, if_pos announced]
    · rw [transfer, ih later]
      split <;> rfl

/-- A foreign block leaves the row as it is. -/
private theorem block_passed (foreign : ForeignBlock table block) (row : Row) :
    (setPart table row (block ++ [13, 10])).result = .ok row := by
  cases foreign with
  | headless absent =>
    rw [setPart, cut_eq_none_iff.mpr absent]
    rfl
  | headed head content cut foreign =>
    generalize lines : splitOnText "\r\n" head = pieces at foreign
    cases foreign with
    | undeclared first others other =>
      refine bytes_skipped cut fun disposition declared => ?_
      rw [lines, List.headD_cons, other] at declared
      cases declared
    | unnamed first others disposition own foreign =>
      refine bytes_skipped cut fun disposition declared => ?_
      rw [lines, List.headD_cons, own] at declared
      cases declared
      exact (place_missing foreign).1
    | mixed first others line among mixed =>
      refine bytes_mixed cut ?_
      rw [lines]
      exact transfer_mixed among mixed

private theorem block_end (boundary : Boundary) (absent : ¬ delimiter boundary.text <:+: block) :
    ∃ front, block ++ [13, 10] = front ++ [10] ∧ ¬ delimiter boundary.text <:+: front := by
  refine ⟨block ++ 13 :: [], by simp, ?_⟩
  rw [infix_around (delimiter_line boundary.line).1]
  simp [absent, delimiter_filled]

/-- The rows of a form in parts, whether it is sent as a text or as bytes. -/
private theorem form_body {bytes : List UInt8} (carries : Carries bytes body) :
    (Body.rows table .formData boundary body).result = (Body.Multipart.rows table boundary bytes).result := by
  cases body with
  | text source =>
    cases (carries : utf8 source = bytes)
    rfl
  | bytes source =>
    cases (carries : source = bytes)
    rfl
  | object entries => cases carries
  | items cells => cases carries

/-- A form with a boundary is read block by block. -/
private theorem framed_rows (boundary : Boundary) {blocks : List (List UInt8)}
    (clear : ∀ block ∈ blocks, ¬ delimiter boundary.text <:+: block) (rest : List UInt8) :
    Body.Multipart.rows table boundary.text (framed boundary.text blocks rest) =
      blocks.foldlM (fun row block => setPart table row (block ++ [13, 10])) table.emptyRow >>=
        fun row => row.kept >>= fun kept => pure kept.toList := by
  have nonempty := boundary_filled boundary.other
  have bytes : framed boundary.text blocks rest = delimiter boundary.text ++
      ((blocks.map (· ++ [13, 10])).flatMap (fun part => 13 :: 10 :: (part ++ delimiter boundary.text)) ++
        45 :: 45 :: rest) := by
    rw [framed, ← List.append_assoc, marks_shifted, List.append_assoc, List.flatMap_map]
    simp only [List.cons_append]
  have ends : ∀ part ∈ blocks.map (· ++ [13, 10]),
      ∃ front, part = front ++ [10] ∧ ¬ delimiter boundary.text <:+: front := by
    intro part member
    obtain ⟨block, among, rfl⟩ := List.mem_map.mp member
    exact block_end boundary (clear block among)
  rw [Body.Multipart.rows, dif_neg nonempty, bytes, form_start boundary.other,
    parts_framed delimiter_filled (delimiter_line boundary.line).2 rest ends]
  simp only [List.foldlM_map]

/-- **Fields that a table doesn't have don't count.** Whatever parameters or blocks for no field are put into
a form, in a URL or in parts, it gives the rows that it gives without them, or the same fault. -/
theorem foreign_fields_ignored (table : Table) :
    (∀ (parameters merged : List Parameter) (boundary : Text) (plain more : Body),
      Inserted (ForeignParameter table) parameters merged →
      Carries (utf8 (urlForm parameters)) plain → Carries (utf8 (urlForm merged)) more →
      (Body.rows table .urlEncoded boundary more).result =
        (Body.rows table .urlEncoded boundary plain).result) ∧
    ∀ (boundary : Boundary) (blocks merged : List (List UInt8)) (rest : List UInt8) (plain more : Body),
      Inserted (ForeignBlock table) blocks merged →
      (∀ block ∈ merged, ¬ delimiter boundary.text <:+: block) →
      Carries (framed boundary.text blocks rest) plain → Carries (framed boundary.text merged rest) more →
      (Body.rows table .formData boundary.text more).result =
        (Body.rows table .formData boundary.text plain).result := by
  constructor
  · intro parameters merged boundary plain more inserted first second
    rw [url_body first, url_body second, url_rows, url_rows]
    apply rows_of_run
    exact run_inserted (fun parameter foreign row => parameter_passed foreign row) inserted table.emptyRow
  · intro boundary blocks merged rest plain more inserted clear first second
    have own : ∀ block ∈ blocks, ¬ delimiter boundary.text <:+: block :=
      fun block member => clear block (inserted.among member)
    rw [form_body first, form_body second, framed_rows boundary own, framed_rows boundary clear]
    apply rows_of_run
    rw [result_foldlM, result_foldlM]
    exact run_inserted (fun block foreign row => block_passed foreign row) inserted table.emptyRow

/-- The title of an album. -/
def titleBlock : List UInt8 := utf8 "Content-Disposition: form-data; name=\"title\"\r\n\r\nHelp!"

/-- The head of a length, which albums don't have. -/
def lengthHead : Text := "Content-Disposition: form-data; name=\"length\""

def lengthBlock : List UInt8 := utf8 lengthHead ++ [13, 10, 13, 10, 51, 52]

/-- The head of a title in several parts. -/
def mixedHead : Text := "Content-Disposition: form-data; name=\"title\"\r\nContent-Type: Multipart/Mixed"

def mixedBlock : List UInt8 := utf8 mixedHead ++ [13, 10, 13, 10]

private theorem unnamed_in_albums : IsForeign albums "length" ∧ IsForeign albums "year" := by
  unfold IsForeign
  decide

private theorem length_foreign : ForeignBlock albums lengthBlock := by
  have single : 13 ∉ utf8 lengthHead := mt (mem_of_utf8 (c := '\r') (by decide)) (by decide)
  have cut : cut? [13, 10, 13, 10] (lengthBlock ++ [13, 10]) = some (utf8 lengthHead, [51, 52, 13, 10]) := by
    rw [lengthBlock, List.append_assoc]
    exact cut_apart single
  exact .headed lengthHead _ cut (.unnamed _ [] ⟨"length", false⟩ rfl unnamed_in_albums.1)

private theorem mixed_foreign : ForeignBlock albums mixedBlock := by
  have single : ¬ [13, 10, 13, 10] <:+: utf8 mixedHead ++ [13, 10, 13] := cut_eq_none_iff.mp rfl
  have cut : cut? [13, 10, 13, 10] (mixedBlock ++ [13, 10]) = some (utf8 mixedHead, [13, 10]) := by
    rw [mixedBlock, List.append_assoc]
    exact (cut_eq_some_iff (List.cons_ne_nil _ _)).mpr ⟨rfl, single⟩
  refine .headed mixedHead _ cut ?_
  exact .mixed _ ["Content-Type: Multipart/Mixed"] _ List.mem_cons_self ⟨by decide +kernel, by decide +kernel⟩

private theorem blocks_clear :
    ∀ block ∈ [[33], lengthBlock, titleBlock, mixedBlock], ¬ delimiter "B" <:+: block := by
  simp only [List.forall_mem_cons]
  exact ⟨cut_eq_none_iff.mp rfl, cut_eq_none_iff.mp rfl, cut_eq_none_iff.mp rfl, cut_eq_none_iff.mp rfl, nofun⟩

/-- A title gives the same row among parameters, or blocks, for no field as it gives alone. -/
theorem title_alone_counts :
    (Body.rows albums .urlEncoded [] (.text "length=34&title=Help%21&year=")).result =
        .ok [[.text "Help!", .undefined]] ∧
      (Body.rows albums .formData "B"
        (.bytes (framed "B" [[33], lengthBlock, titleBlock, mixedBlock] [13, 10]))).result =
        .ok [[.text "Help!", .undefined]] := by
  let title : Parameter := { key := "title", value := "Help%21" }
  let length : Parameter := { key := "length", value := "34" }
  let year : Parameter := { key := "year", value := "" }
  let boundary : Boundary := ⟨"B", by decide, 'B', by decide, by decide⟩
  obtain ⟨noLength, noYear⟩ := unnamed_in_albums
  have parameters : Inserted (ForeignParameter albums) [title] [length, title, year] :=
    .extra length ⟨"length", rfl, noLength⟩ (.own title (.extra year ⟨"year", rfl, noYear⟩ .nil))
  have blocks : Inserted (ForeignBlock albums) [titleBlock] [[33], lengthBlock, titleBlock, mixedBlock] :=
    .extra _ (.headless (by decide)) (.extra _ length_foreign (.own _ (.extra _ mixed_foreign .nil)))
  obtain ⟨urls, forms⟩ := foreign_fields_ignored albums
  have url : (Body.rows albums .urlEncoded [] (.bytes (utf8 "title=Help%21"))).result =
      .ok [[.text "Help!", .undefined]] := by
    rfl
  have form : (Body.rows albums .formData "B" (.bytes (framed "B" [titleBlock] [13, 10]))).result =
      .ok [[.text "Help!", .undefined]] := by
    have carries : Carries (framed "B" [titleBlock] [13, 10]) (.bytes (framed "B" [titleBlock] [13, 10])) := rfl
    have alone : ∀ block ∈ [titleBlock], ¬ delimiter boundary.text <:+: block :=
      fun block member => blocks_clear block (blocks.among member)
    rw [form_body carries, framed_rows boundary alone]
    rfl
  constructor
  · rw [← url]
    exact urls [title] [length, title, year] [] _ _ parameters rfl rfl
  · rw [← form]
    exact forms boundary _ _ [13, 10] _ _ blocks blocks_clear rfl rfl

end TableGate.ForeignFields
