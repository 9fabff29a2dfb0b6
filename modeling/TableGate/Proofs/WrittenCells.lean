import TableGate.Proofs.SelectClosure
import TableGate.Proofs.SqlText
import TableGate.Proofs.WrittenNumbers

/-! INSERT and UPDATE say what the row says. The statements are read back by a reader of the engine's
quotes and brackets: the lists of columns and values have the length of the defined cells and hold
them in field order, whatever the cells contain, so that no value comes to stand in the column of
another one. -/
namespace TableGate.WrittenCells
open BracketBalance Fallible KeyCondition LiteralContainment SelectClosure SqlText TextFacts WrittenNumbers
open NumberText (cell_spelled number_chars)

/-! ### What a row says -/

/-- The fields that have a cell in a row, the undefined ones left out. -/
def given (table : Table) (row : Row) : List (Column × Cell) :=
  (table.columns.zip row).filter fun field => !field.2.isUndefined

/-- Those among them that an update changes. -/
def changed (table : Table) (row : Row) : List (Column × Cell) :=
  (given table row).filter fun field => !field.1.isPrimaryKey

/-- The literals of some fields, in their order. -/
def Literals (table : Table) (fields : List (Column × Cell)) (literals : List Text) : Prop :=
  List.Forall₂ (fun field literal => field.1.literal table.engine field.2 = .ok literal) fields literals

/-! ### What a statement says -/

/-- An INSERT statement as it is read. -/
structure Insertion where
  table : Text
  columns : List Text
  values : List Text

/-- Reads `INSERT INTO table (columns) VALUES (values);`. -/
def readInsert (engine : Engine) (text : Text) : Option Insertion := do
  let sentence ← sentence? engine text
  match cut engine ' ' sentence with
  | [insert, into, table, columns, word, values] =>
    if insert = "INSERT" ∧ into = "INTO" ∧ word = "VALUES" then
      let columns ← unbracket? columns
      let values ← unbracket? values
      some ⟨table, items engine columns, items engine values⟩
    else none
  | _ => none

/-- An UPDATE statement as it is read. -/
structure Change where
  table : Text
  assignments : List (Text × Text)
  condition : Text

/-- Reads `column=value`. -/
def readAssignment (engine : Engine) (text : Text) : Option (Text × Text) :=
  match cut engine '=' text with
  | [column, value] => some (column, value)
  | _ => none

/-- Reads `UPDATE table SET assignments WHERE condition;`. -/
def readUpdate (engine : Engine) (text : Text) : Option Change := do
  let sentence ← sentence? engine text
  match cut engine ' ' sentence with
  | [update, table, set, assignments, word, condition] =>
    if update = "UPDATE" ∧ set = "SET" ∧ word = "WHERE" then
      let assignments ← (items engine assignments).mapM (readAssignment engine)
      some ⟨table, assignments, condition⟩
    else none
  | _ => none

/-- A statement that ends outside quotes with its only semicolon there, and that shows no word for
an undefined cell. -/
structure Finished (engine : Engine) (text : Text) : Prop where
  closed : behind engine .outside text = .outside
  last : text.getLast? = some ';'
  single : (bare engine text).count ';' = 1
  defined : ¬ "UNDEFINED".toList <:+: bare engine text

/-- What statements show in front of their end: no semicolon, and no letter that the word for an
undefined cell has alone. -/
def Quiet (c : Char) : Prop := c ≠ ';' ∧ c ≠ 'F'

instance : DecidablePred Quiet := fun c => inferInstanceAs (Decidable (c ≠ ';' ∧ c ≠ 'F'))

/-- What the literals of defined cells show. -/
def Spelled (c : Char) : Prop := isBare c = true ∧ c ≠ 'F'

instance : DecidablePred Spelled := fun c => inferInstanceAs (Decidable (isBare c = true ∧ c ≠ 'F'))

variable {table : Table} {engine : Engine} {column : Column} {cell : Cell} {row : Row}
  {id text literal condition sqlType : Text} {fields : List (Column × Cell)} {literals : List Text}

/-! ### Fields -/

private theorem undefined_left_out (columns : List Column) :
    (cellsOf columns []).filter (fun field => !field.2.isUndefined) = [] := by
  induction columns with
  | nil => rfl
  | cons column columns ih => exact ih

/-- Fields beyond the end of a row are left out like undefined cells. -/
theorem defined_cells (table : Table) (row : Row) :
    (cellsOf table.columns row).filter (fun field => !field.2.isUndefined) = given table row := by
  unfold given
  generalize table.columns = columns
  induction columns generalizing row with
  | nil => rfl
  | cons column columns ih =>
    cases row with
    | nil => exact undefined_left_out (column :: columns)
    | cons cell row => simp only [cellsOf, List.zip_cons_cons, List.filter_cons, ih]

theorem assigned_cells (table : Table) (row : Row) :
    (cellsOf table.columns row).filter (fun field => !field.1.isPrimaryKey && !field.2.isUndefined) =
      changed table row := by
  rw [changed, ← defined_cells, List.filter_filter]

private theorem given_known {field : Column × Cell} (member : field ∈ given table row) :
    field.1 ∈ table.columns ∧ field.2.isUndefined = false := by
  obtain ⟨listed, defined⟩ := List.mem_filter.mp member
  exact ⟨(List.of_mem_zip listed).1, by simpa using defined⟩

/-! ### Literals -/

/-- How the literal of a value starts: it is not empty, and in front of its quotes it does not have
the letter. -/
private structure Front (literal : Text) : Prop where
  filled : literal ≠ []
  apart : 'F' ∉ literal.takeWhile isBare

private theorem front_quote {mark : Char} (quote : isBare mark = false) (body : Text) :
    Front (mark :: body) := ⟨List.cons_ne_nil mark body, by simp [quote]⟩

private theorem front_word (filled : literal ≠ []) (free : 'F' ∉ literal) : Front literal :=
  ⟨filled, fun member => free ((List.takeWhile_prefix isBare).subset member)⟩

private theorem front_string (engine : Engine) (text : Text) : Front (engine.stringLiteral text) := by
  cases engine with
  | mariadb => exact front_quote (by decide) _
  | _ => exact front_quote (by decide) _

private theorem front_date_time (engine : Engine) (d : DateTime) : Front (engine.dateTimeLiteral d) := by
  cases engine with
  | mariadb => exact front_quote (by decide) _
  | _ => exact front_quote (by decide) _

private theorem front_blob (engine : Engine) (bytes : List UInt8) : Front (engine.blobLiteral bytes) := by
  cases engine with
  | sqlite => exact ⟨List.cons_ne_nil _ _, by simp [Engine.blobLiteral, isBare]⟩
  | postgresql => exact front_quote (by decide) _
  | mariadb => exact ⟨List.cons_ne_nil _ _, by simp [Engine.blobLiteral, isBare]⟩
  | mssql =>
    refine front_word (by simp [Engine.blobLiteral]) ?_
    have digit : ∀ n < 16, Text.hexDigit n ≠ 'F' := by decide
    intro member
    simp only [Engine.blobLiteral, Text.hexOfBytes, List.mem_append, List.mem_flatMap] at member
    rcases member with front | ⟨byte, -, written⟩
    · exact absurd front (by decide)
    · have bound : byte.toNat < 256 := byte.toNat_lt
      simp only [Text.hexOfByte, List.mem_cons, List.not_mem_nil, or_false] at written
      rcases written with same | same
      · exact digit _ (by omega) same.symm
      · exact digit _ (by omega) same.symm

private theorem front_boolean (printed : engine.booleanLiteral cell = .ok literal) : Front literal := by
  have bits (text : Text) : Front (['b'] ++ '\'' :: text) :=
    ⟨List.cons_ne_nil _ _, by simp [isBare]⟩
  have words : ∀ word ∈ ["false".toList, "true".toList, "0".toList, "1".toList], Front word := by
    have checked : ∀ word ∈ ["false".toList, "true".toList, "0".toList, "1".toList],
        word ≠ [] ∧ 'F' ∉ word := by
      decide
    exact fun word member => front_word (checked word member).1 (checked word member).2
  obtain ⟨isFalse, -, printed⟩ := bind_eq_ok.mp printed
  cases engine with
  | mariadb =>
    cases isFalse with
    | true =>
      cases printed
      exact bits _
    | false =>
      obtain ⟨value, -, printed⟩ := bind_eq_ok.mp printed
      dsimp only at printed
      split at printed
      · cases printed
        exact bits _
      · split at printed
        · cases printed
          exact bits _
        · cases printed
  | _ =>
    cases printed
    apply words
    cases isFalse <;> simp

private theorem front_text (printed : engine.textLiteral cell = .ok literal) : Front literal := by
  unfold Engine.textLiteral at printed
  split at printed
  · cases printed
    exact front_string engine _
  · obtain ⟨shown, -, written⟩ := bind_eq_ok.mp printed
    cases written
    exact front_string engine shown

/-- A number as it is written has digits. -/
private theorem number_filled (number : JsonGrammar.IsNumber literal) : literal ≠ [] := by
  obtain ⟨minus, whole, fraction, power, rfl, -, digits, -, -⟩ := number
  have filled : whole ≠ [] := digits.1.1
  simp [filled]

private theorem front_number (printed : cell.numberText = .ok literal) : Front literal := by
  have spelled := cell_spelled printed
  refine front_word ?_ fun member => ?_
  · unfold Cell.numberText at printed
    split at printed
    · cases printed
      exact List.cons_ne_nil _ _
    · cases printed
      exact List.cons_ne_nil _ _
    · exact number_filled (integer_number printed)
    · split at printed
      · split at printed
        · unfold Cell.finiteText at printed
          split at printed
          · exact number_filled (integer_number printed)
          · cases printed
            exact number_filled (float_number (by assumption))
        · obtain ⟨_, -, written⟩ := bind_eq_ok.mp printed
          cases written
      · obtain ⟨_, -, written⟩ := bind_eq_ok.mp printed
        cases written
  · rcases number_chars spelled member with digit | sign
    · exact absurd digit (by decide)
    · exact absurd sign (by decide)

private theorem front_present (present : cell ≠ .null ∧ cell ≠ .undefined)
    (printed : engine.literal cell sqlType = .ok literal) : Front literal := by
  unfold Engine.literal at printed
  split at printed
  · exact absurd rfl present.1
  · exact absurd rfl present.2
  · split at printed
    · exact front_number printed
    · cases printed
      exact front_blob engine _
    · obtain ⟨shown, -, written⟩ := bind_eq_ok.mp printed
      cases written
      exact front_string engine shown
    · exact front_boolean printed
    · cases printed
      exact front_date_time engine _
    · exact front_text printed

/-- The literal of a defined cell is not empty, and it shows neither blanks nor the word for an
undefined cell. -/
theorem defined_shows (defined : cell.isUndefined = false)
    (printed : engine.literal cell sqlType = .ok literal) :
    literal ≠ [] ∧ Shows engine Spelled literal := by
  have present : cell ≠ .undefined := by
    rintro rfl
    cases defined
  by_cases null : cell = .null
  · subst null
    cases printed
    exact ⟨List.cons_ne_nil _ _, shows_plain (by decide) (by decide) (each_of_all (by decide))⟩
  · have front := front_present ⟨null, present⟩ printed
    have form := present_form ⟨null, present⟩ printed
    have shows := literal_shows form
    refine ⟨front.filled, shows.level, fun c member => ⟨shows.each c member, ?_⟩⟩
    rintro rfl
    rw [(literal_read form).2] at member
    exact front.apart member

private theorem spelled_quiet {c : Char} (spelled : Spelled c) : Quiet c := by
  refine ⟨?_, spelled.2⟩
  rintro rfl
  exact absurd spelled.1 (by decide)

private theorem spelled_apart {mark : Char} (apart : isBare mark = false) : ¬ Spelled mark := by
  intro spelled
  exact Bool.false_ne_true (apart.symm.trans spelled.1)

private theorem literals_show (defined : ∀ field ∈ fields, field.2.isUndefined = false)
    (printed : Literals table fields literals) :
    ∀ literal ∈ literals, literal ≠ [] ∧ Shows table.engine Spelled literal := by
  intro literal member
  obtain ⟨field, listed, written⟩ := (partners printed).2 literal member
  exact defined_shows (defined field listed) written

private theorem columns_show (words : WordNames table) (row : Row) :
    ∀ piece ∈ (given table row).map (·.1.quoted table.engine),
      piece ≠ [] ∧ Shows table.engine (fun _ => False) piece := by
  refine List.forall_mem_map.mpr fun field member => ⟨column_filled field.1.name, ?_⟩
  exact column_shows (words.columns field.1 (given_known member).1)

/-! ### Statements -/

/-- A text that shows nothing but quiet characters is a finished statement with a semicolon behind it. -/
theorem finished_sentence (shows : Shows engine Quiet text) : Finished engine (text ++ [';']) where
  closed := behind_separator shows.level.closed (by simp) (by decide)
  last := by simp
  single := by
    have none : ';' ∉ bare engine text := fun member => (shows.each _ member).1 rfl
    rw [bare_trail shows.level.closed (by decide), List.count_append, List.count_eq_zero.mpr none]
    rfl
  defined := by
    intro word
    rw [bare_trail shows.level.closed (by decide)] at word
    have member : 'F' ∈ bare engine text ++ [';'] := word.subset (by decide)
    rcases List.mem_append.mp member with inside | last
    · exact (shows.each _ inside).2 rfl
    · exact absurd last (by decide)

/-- A word of the language, which is written in capitals, is a part of its own. -/
private theorem keyword_part {word : Text} (capitals : word.all (fun c => c.isUpper && c != 'F') = true) :
    Shows engine Quiet word ∧ Piece engine ' ' word := by
  have apart : ∀ mark ∈ ' ' :: ';' :: '(' :: ')' :: quoteMarks, mark.isUpper = false :=
    each_of_all (by decide)
  have each : ∀ c ∈ word, c.isUpper = true ∧ c ≠ 'F' := by
    intro c member
    simpa using List.all_eq_true.mp capitals c member
  have other {mark : Char} (known : mark ∈ ' ' :: ';' :: '(' :: ')' :: quoteMarks) : ∀ c ∈ word, c ≠ mark := by
    rintro c member rfl
    exact absurd (each c member).1 (by simp [apart c known])
  have plain : Plain word := fun c member marked => other (by simp [marked]) c member rfl
  have free : Free word := by
    intro c member
    simp [Filter.depthStep, other (by simp : '(' ∈ _) c member, other (by simp : ')' ∈ _) c member]
  have shows : Shows engine (fun c => Quiet c ∧ c ≠ ' ') word := shows_plain plain free fun c member =>
    ⟨⟨other (by simp) c member, (each c member).2⟩, other (by simp) c member⟩
  exact ⟨shows.mono fun _ => And.left, shows.piece fun apart => apart.2 rfl⟩

private theorem table_part (words : WordNames table) :
    Shows table.engine Quiet (table.engine.quoteTable table.options.tableName) ∧
      Piece table.engine ' ' (table.engine.quoteTable table.options.tableName) := by
  have shows : Shows table.engine (fun _ => False) (table.engine.quoteTable table.options.tableName) :=
    table_shows words.whole
  exact ⟨shows.mono fun _ => False.elim, shows.piece id⟩

/-- A list in brackets. -/
private theorem list_part {separator : Text} {pieces : List Text} (apart : Separator separator)
    (quiet : ∀ c ∈ separator, Quiet c) (each : ∀ piece ∈ pieces, Shows engine Quiet piece) :
    Shows engine Quiet ('(' :: Text.join separator pieces ++ [')']) ∧
      Piece engine ' ' ('(' :: Text.join separator pieces ++ [')']) := by
  have inside : Shows engine Quiet (Text.join separator pieces) :=
    shows_join apart quiet each
  exact ⟨shows_enclosed inside (by decide), piece_enclosed inside.level (by decide)⟩

/-- The parts of a statement between blanks. -/
private theorem sentence_parts {parts : List Text} (filled : parts ≠ [])
    (each : ∀ part ∈ parts, Shows engine Quiet part ∧ Piece engine ' ' part) :
    Finished engine (Text.join " " parts ++ [';']) ∧
      sentence? engine (Text.join " " parts ++ [';']) = some (Text.join " " parts) ∧
      cut engine ' ' (Text.join " " parts) = parts := by
  have shows : Shows engine Quiet (Text.join " " parts) :=
    shows_join (by decide) (each_of_all (by decide)) fun part member =>
      (each part member).1
  exact ⟨finished_sentence shows, sentence_eq shows (by decide),
    cut_join (by decide) filled fun part member => (each part member).2⟩

private theorem insert_read (words : WordNames table) (printed : table.insertSql row = .ok text) :
    ∃ literals, Literals table (given table row) literals ∧ Finished table.engine text ∧
      readInsert table.engine text = some ⟨table.engine.quoteTable table.options.tableName,
        (given table row).map (·.1.quoted table.engine), literals⟩ := by
  unfold Table.insertSql at printed
  rw [defined_cells] at printed
  obtain ⟨literals, written, same⟩ := bind_eq_ok.mp printed
  have written : Literals table (given table row) literals := mapM_eq_ok_iff.mp written
  have columns := columns_show words row
  have values := literals_show (fun field member => (given_known member).2) written
  have comma : ∀ c ∈ [','], Quiet c := each_of_all (by decide)
  have apart : Separator [','] := by decide
  have first := list_part apart comma fun piece member =>
    (columns piece member).2.mono fun _ => False.elim
  have second := list_part apart comma fun literal member =>
    (values literal member).2.mono fun _ => spelled_quiet
  have column_items := items_join fun piece member =>
    ⟨(columns piece member).2.piece id, (columns piece member).1⟩
  have value_items := items_join fun literal member =>
    ⟨(values literal member).2.piece (spelled_apart (by decide)), (values literal member).1⟩
  generalize (given table row).map (·.1.quoted table.engine) = names at *
  let parts : List Text := ["INSERT", "INTO", table.engine.quoteTable table.options.tableName,
    '(' :: Text.join "," names ++ [')'], "VALUES", '(' :: Text.join "," literals ++ [')']]
  have joined : text = Text.join " " parts ++ [';'] := by
    rw [← Except.ok.inj same]
    simp [parts, Text.join]
  have each : ∀ part ∈ parts, Shows table.engine Quiet part ∧ Piece table.engine ' ' part := by
    simp only [parts, List.forall_mem_cons, List.not_mem_nil, false_imp_iff, implies_true, and_true]
    exact ⟨keyword_part rfl, keyword_part rfl, table_part words, first, keyword_part rfl, second⟩
  obtain ⟨finished, sentence, whole⟩ := sentence_parts (by simp [parts]) each
  subst joined
  refine ⟨literals, written, finished, ?_⟩
  simp only [readInsert, sentence, Option.bind_eq_bind, Option.bind_some, whole, parts, and_self, ↓reduceIte,
    unbracket_enclosed, column_items, value_items]

/-! ### Assignments -/

/-- What a comparison or an assignment shows. -/
private def Compared (c : Char) : Prop := c = '=' ∨ Spelled c

private theorem compared_quiet {c : Char} (compared : Compared c) : Quiet c := by
  rcases compared with rfl | spelled
  · decide
  · exact spelled_quiet spelled

private theorem comparison_shows (words : WordNames table) (member : column ∈ table.columns)
    (shows : Shows table.engine Spelled literal) :
    Shows table.engine Compared (comparison table column literal) := by
  have name : Shows table.engine Compared (column.quoted table.engine) :=
    column_shows (words.columns column member)
  exact shows_append name (by decide) (List.forall_mem_singleton.mpr (.inl rfl)) (shows.mono fun _ => .inr)

private theorem comparisons_show (words : WordNames table) {columns : List Column}
    (known : ∀ column ∈ columns, column ∈ table.columns)
    (values : ∀ literal ∈ literals, Shows table.engine Spelled literal) :
    ∀ compared ∈ List.zipWith (comparison table) columns literals,
      compared ≠ [] ∧ Shows table.engine Compared compared := by
  intro compared member
  obtain ⟨column, keyed, literal, listed, rfl⟩ := comparison_mem member
  refine ⟨by simp [comparison], ?_⟩
  exact comparison_shows words (known column keyed) (values literal listed)

private theorem comma_apart : ¬ Compared ',' := by
  rintro (equal | spelled)
  · cases equal
  · exact spelled_apart (by decide) spelled

/-- The list of assignments, which is in no brackets. -/
private theorem assignments_part {assignments : List Text}
    (each : ∀ assignment ∈ assignments, assignment ≠ [] ∧ Shows engine Compared assignment) :
    Shows engine Quiet (Text.join "," assignments) ∧ Piece engine ' ' (Text.join "," assignments) := by
  have shows : Shows engine (fun c => c = ',' ∨ Compared c) (Text.join "," assignments) :=
    shows_join (by decide) (List.forall_mem_singleton.mpr (.inl rfl)) fun assignment member =>
        (each assignment member).2.mono fun _ => .inr
  refine ⟨shows.mono ?_, shows.piece ?_⟩
  · rintro c (rfl | compared)
    · decide
    · exact compared_quiet compared
  · rintro (comma | equal | spelled)
    · cases comma
    · cases equal
    · exact spelled_apart (by decide) spelled

/-- An assignment is read as the column and the value that it was printed of. -/
private theorem assignment_read (words : WordNames table) (member : column ∈ table.columns)
    (shows : Shows table.engine Spelled literal) :
    readAssignment table.engine (comparison table column literal) =
      some (column.quoted table.engine, literal) := by
  have name : Shows table.engine (fun _ => False) (column.quoted table.engine) :=
    column_shows (words.columns column member)
  have parted : cut table.engine '=' (Text.join ['='] [column.quoted table.engine, literal]) =
      [column.quoted table.engine, literal] := by
    apply cut_join (by decide) (List.cons_ne_nil _ _)
    simp only [List.forall_mem_cons, List.not_mem_nil, false_imp_iff, implies_true, and_true]
    exact ⟨name.piece id, shows.piece (spelled_apart (by decide))⟩
  have joined : comparison table column literal =
      Text.join ['='] [column.quoted table.engine, literal] := by
    simp [comparison, Text.join]
  rw [readAssignment, joined, parted]

private theorem assignments_read (words : WordNames table) {columns : List Column}
    (known : ∀ column ∈ columns, column ∈ table.columns)
    (values : ∀ literal ∈ literals, Shows table.engine Spelled literal) :
    (List.zipWith (comparison table) columns literals).mapM (readAssignment table.engine) =
      some ((columns.map (·.quoted table.engine)).zip literals) := by
  induction columns generalizing literals with
  | nil => rfl
  | cons column columns ih =>
    cases literals with
    | nil => rfl
    | cons literal literals =>
      obtain ⟨first, others⟩ := List.forall_mem_cons.mp known
      obtain ⟨value, rest⟩ := List.forall_mem_cons.mp values
      simp [assignment_read words first value, ih others rest]

/-- Assignments are printed of the literals of their fields. -/
private theorem assignments_eq {assignments : List Text}
    (printed : fields.mapM (fun field => field.1.literal table.engine field.2 >>= fun literal =>
      .ok (comparison table field.1 literal)) = .ok assignments) :
    ∃ literals, Literals table fields literals ∧
      assignments = List.zipWith (comparison table) (fields.map (·.1)) literals := by
  have each := mapM_eq_ok_iff.mp printed
  clear printed
  induction each with
  | nil => exact ⟨[], .nil, rfl⟩
  | cons head _ ih =>
    obtain ⟨literal, written, same⟩ := bind_eq_ok.mp head
    cases same
    obtain ⟨literals, others, rfl⟩ := ih
    exact ⟨literal :: literals, .cons written others, rfl⟩

private theorem stands_shows {part : Text} (stands : Stands table column part literal) :
    Shows table.engine Spelled literal := by
  obtain ⟨cell, decoded, -, written⟩ := stands
  have defined : cell.isUndefined = false := by
    cases cell with
    | undefined => exact absurd rfl (deserialize_defined decoded)
    | _ => rfl
  exact (defined_shows defined written).2

/-- The condition on a key. -/
private theorem condition_part (words : WordNames table) (located : table.idCondition id = .ok condition) :
    Shows table.engine Quiet condition ∧ Piece table.engine ' ' condition := by
  obtain ⟨-, literals, stands, rfl⟩ := id_condition_eq_ok.mp located
  have known : ∀ column ∈ table.keys, column ∈ table.columns := fun _ member =>
    (List.mem_filter.mp member).1
  have values : ∀ literal ∈ literals, Shows table.engine Spelled literal := by
    intro literal member
    obtain ⟨key, -, own⟩ := (partners stands).2 literal member
    exact stands_shows own
  have between : ∀ c ∈ " AND ".toList, Quiet c := each_of_all (by decide)
  exact list_part (by decide) between fun compared member =>
    (comparisons_show words known values compared member).2.mono fun _ => compared_quiet

private theorem update_read (words : WordNames table) (printed : table.updateSql id row = .ok text) :
    ∃ literals condition, Literals table (changed table row) literals ∧
      table.idCondition id = .ok condition ∧ Finished table.engine text ∧
      readUpdate table.engine text = some ⟨table.engine.quoteTable table.options.tableName,
        ((changed table row).map (·.1.quoted table.engine)).zip literals, condition⟩ := by
  unfold Table.updateSql at printed
  rw [assigned_cells] at printed
  obtain ⟨assignments, assigned, printed⟩ := bind_eq_ok.mp printed
  split at printed
  · cases printed
  · obtain ⟨condition, located, same⟩ := bind_eq_ok.mp printed
    obtain ⟨literals, written, rfl⟩ := assignments_eq assigned
    have known : ∀ column ∈ (changed table row).map (·.1), column ∈ table.columns :=
      List.forall_mem_map.mpr fun field member => (given_known (List.mem_of_mem_filter member)).1
    have values : ∀ literal ∈ literals, Shows table.engine Spelled literal := fun literal member =>
      (literals_show (fun field member => (given_known (List.mem_of_mem_filter member)).2) written
        literal member).2
    have compared := comparisons_show words known values
    have read := assignments_read words known values
    rw [List.map_map] at read
    have listed := items_join fun assignment member =>
      ⟨(compared assignment member).2.piece comma_apart, (compared assignment member).1⟩
    have listing := assignments_part compared
    generalize List.zipWith (comparison table) ((changed table row).map (·.1)) literals = list at *
    let parts : List Text := ["UPDATE", table.engine.quoteTable table.options.tableName, "SET",
      Text.join "," list, "WHERE", condition]
    have joined : text = Text.join " " parts ++ [';'] := by
      rw [← Except.ok.inj same]
      simp [parts, Text.join]
    have each : ∀ part ∈ parts, Shows table.engine Quiet part ∧ Piece table.engine ' ' part := by
      simp only [parts, List.forall_mem_cons, List.not_mem_nil, false_imp_iff, implies_true, and_true]
      exact ⟨keyword_part rfl, table_part words, keyword_part rfl, listing, keyword_part rfl,
        condition_part words located⟩
    obtain ⟨finished, sentence, whole⟩ := sentence_parts (by simp [parts]) each
    subst joined
    refine ⟨literals, condition, written, located, finished, ?_⟩
    simp only [readUpdate, sentence, Option.bind_eq_bind, Option.bind_some, whole, parts, and_self,
      ↓reduceIte, listed, read]
    rfl

/-- Whatever the cells of a row contain and however long it is, its INSERT statement names the fields
with a defined cell and their literals, and its UPDATE statement assigns the literals of those that
are no keys to their fields, each at its place; both end at their only semicolon outside quotes, and
neither has the word for an undefined cell there. -/
theorem statements_say_the_row (words : WordNames table) (row : Row) :
    (∀ text, table.insertSql row = .ok text → ∃ literals, Literals table (given table row) literals ∧
      Finished table.engine text ∧
      readInsert table.engine text = some ⟨table.engine.quoteTable table.options.tableName,
        (given table row).map (·.1.quoted table.engine), literals⟩) ∧
    (∀ id text, table.updateSql id row = .ok text → ∃ literals condition,
      Literals table (changed table row) literals ∧ table.idCondition id = .ok condition ∧
      Finished table.engine text ∧
      readUpdate table.engine text = some ⟨table.engine.quoteTable table.options.tableName,
        ((changed table row).map (·.1.quoted table.engine)).zip literals, condition⟩) :=
  ⟨fun _ => insert_read words, fun _ _ => update_read words⟩

/-- A table of notes in MariaDB. -/
def orderNotes : Table where
  engine := .mariadb
  options := { tableName := "order_notes" }
  columns := [
    { name := "id", kind := .number, sqlType := "INT", isPrimaryKey := true },
    { name := "note", kind := .string, sqlType := "TEXT" },
    { name := "sent", kind := .dateTime, sqlType := "DATETIME" }]

/-- A row that is shorter than its table, with a text of marks that statements are made of. -/
def markedRow : Row := [.int 7, .text "a\", (b); -- UNDEFINED"]

theorem marked_row_said :
    ∃ inserted updated, orderNotes.insertSql markedRow = .ok inserted ∧
      orderNotes.updateSql "7" markedRow = .ok updated ∧
      (∃ literals, Literals orderNotes (given orderNotes markedRow) literals ∧
        Finished .mariadb inserted ∧
        readInsert .mariadb inserted = some ⟨"`order_notes`", ["`id`", "`note`"], literals⟩) ∧
      (∃ literals condition, Literals orderNotes (changed orderNotes markedRow) literals ∧
        orderNotes.idCondition "7" = .ok condition ∧ Finished .mariadb updated ∧
        readUpdate .mariadb updated =
          some ⟨"`order_notes`", ["`note`".toList].zip literals, condition⟩) :=
  have words : WordNames orderNotes := by decide +kernel
  have inserted : orderNotes.insertSql markedRow =
      .ok "INSERT INTO `order_notes` (`id`,`note`) VALUES (7,\"a\\\", (b); -- UNDEFINED\");" := by
    decide +kernel
  have updated : orderNotes.updateSql "7" markedRow =
      .ok "UPDATE `order_notes` SET `note`=\"a\\\", (b); -- UNDEFINED\" WHERE (`id`=7);" := by
    decide +kernel
  have said := statements_say_the_row words markedRow
  ⟨_, _, inserted, updated, said.1 _ inserted, said.2 "7" _ updated⟩

end TableGate.WrittenCells
