import TableGate.Proofs.ColumnParts

/-! Columns whose names are quoted and may have any characters. Names of word characters are read as they are,
but where other characters follow the first word of a name, the name may be read as this word and the next
one as its type: a column that no table has. All other columns are passed over. -/
namespace TableGate.ColumnNames
open BracketBalance ColumnParts CreateTable TableStatements Text TextFacts

/-- A column with a quoted name and maybe a default text. -/
structure Quoted where
  name : Text
  unquoted : '"' ∉ name := by decide
  gap : Gap := .space
  type : Word
  standard : Option (Gap × Text) := none

namespace Quoted

/-- The default text, whatever it says. -/
def standardText (column : Quoted) : Text :=
  match column.standard with
  | none => []
  | some (gap, text) => gap.text ++ ("DEFAULT '" ++ (text ++ ['\'']))

def text (column : Quoted) : Text :=
  '"' :: (column.name ++ '"' :: (column.gap.text ++ (column.type.text ++ column.standardText)))

end Quoted

/-- A name of word characters. -/
def IsWhole (name : Text) : Prop := name ≠ [] ∧ ∀ c ∈ name, isWord c = true

instance : DecidablePred IsWhole := fun name =>
  inferInstanceAs (Decidable (name ≠ [] ∧ ∀ c ∈ name, isWord c = true))

/-- A name starts with a word and goes on, maybe behind a mark, with blanks and a second one. -/
inductive Misread : Text → Text → Prop where
  | intro (first : Word) (closing : Text) (gap : Gap) (c : Char) (rest : Text) (closes : closing ∈ closings)
      (word : isWord c = true) : Misread (first.text ++ (closing ++ (gap.text ++ c :: rest))) first.text

/-- The names and types of the served columns whose names are whole. -/
def wholeColumns (options : TableOptions) (quoted : List Quoted) : List (Text × Text) :=
  (quoted.filter fun column => decide (IsWhole column.name) && options.includes column.name).map fun column =>
    (column.name, upper column.type.text)

variable {options : TableOptions} {quoted : List Quoted} {parts : List Part} {column : Quoted}
  {name sqlType rest front behind run : Text} {x : Char}

/-- A run without a character stands in front of its first place. -/
private theorem run_within (apart : x ∉ run) (same : run ++ rest = front ++ x :: behind) :
    ∃ more, front = run ++ more ∧ rest = more ++ x :: behind := by
  rcases List.append_eq_append_iff.mp same with ⟨more, rfl, shape⟩ | ⟨more, rfl, shape⟩
  · exact ⟨more, rfl, shape⟩
  · cases more with
    | nil => exact ⟨[], by simp, by simpa using shape.symm⟩
    | cons c more =>
      cases shape
      simp at apart

/-! ### Reading a quoted column -/

private theorem standard_stops (column : Quoted) : Stops isWord column.standardText := by
  unfold Quoted.standardText
  split
  · exact nofun
  · exact gap_stops _

/-- The text of a column behind its first quote. -/
private def inner (column : Quoted) : Text :=
  column.name ++ '"' :: (column.gap.text ++ (column.type.text ++ column.standardText))

/-- In front of a quoted name no other mark is read, and no name. -/
private theorem headed_inner (headed : Headed column.text name sqlType rest) :
    ∃ (first : Word) (closing : Text) (gap : Gap) (type : Word), name = first.text ∧ sqlType = type.text ∧
      closing ∈ closings ∧ Stops isWord rest ∧
      first.text ++ (closing ++ (gap.text ++ (type.text ++ rest))) = inner column := by
  have whole : column.text = '"' :: inner column := rfl
  generalize column.text = text at headed whole
  cases headed with
  | intro opening closing first gap type rest opens closes stops =>
    simp only [openings, List.mem_cons, List.not_mem_nil, or_false] at opens
    rcases opens with rfl | rfl | rfl | rfl
    · obtain ⟨c, others, shape⟩ := List.exists_cons_of_ne_nil first.filled
      rw [shape] at whole
      obtain ⟨rfl, -⟩ := List.cons.inj whole
      exact absurd (by simp [shape]) (not_mem_of_class (c := '"') first.chars (by decide))
    · exact ⟨first, closing, gap, type, rfl, rfl, closes, stops, List.cons_injective whole⟩
    · cases whole
    · cases whole

/-- Behind the blanks of a whole name its type is read. -/
private theorem type_read {gap other : Gap} {type read : Word} {tail : Text} (stops : Stops isWord rest)
    (ends : Stops isWord tail) (same : gap.text ++ (read.text ++ rest) = other.text ++ (type.text ++ tail)) :
    read.text = type.text := by
  have passed := congrArg (List.dropWhile isBlank) same
  rw [dropWhile_run gap.blank (stops_append read.filled (word_stops read)),
    dropWhile_run other.blank (stops_append type.filled (word_stops type))] at passed
  have taken := congrArg (List.takeWhile isWord) passed
  rwa [takeWhile_run read.chars stops, takeWhile_run type.chars ends] at taken

/-- What is read of a column: its name and its type, or a word of its name with the next one. -/
private theorem headed_cases (headed : Headed column.text name sqlType rest) :
    (IsWhole column.name ∧ name = column.name ∧ sqlType = column.type.text) ∨
      Misread column.name name := by
  obtain ⟨first, closing, gap, type, rfl, rfl, closes, stops, shape⟩ := headed_inner headed
  obtain ⟨more, named, behind⟩ := run_within (not_mem_of_class first.chars (by decide)) shape
  by_cases closed : closing = ['"']
  · subst closed
    cases more with
    | nil =>
      rw [List.append_nil] at named
      rw [named]
      refine .inl ⟨⟨first.filled, first.chars⟩, rfl, ?_⟩
      exact type_read stops (standard_stops column) (List.cons_injective behind)
    | cons c more =>
      obtain ⟨rfl, -⟩ := List.cons.inj behind
      exact absurd (by simp [named]) column.unquoted
  · have apart : '"' ∉ closing := by
      simp only [closings, List.mem_cons, List.not_mem_nil, or_false] at closes
      rcases closes with rfl | rfl | rfl | rfl
      · decide
      · exact absurd rfl closed
      · decide
      · decide
    obtain ⟨more, rfl, unclosed⟩ := run_within apart behind
    obtain ⟨more, rfl, unspaced⟩ := run_within (not_mem_of_class gap.blank (by decide)) unclosed
    obtain ⟨more, rfl, -⟩ := run_within (not_mem_of_class type.chars (by decide)) unspaced
    obtain ⟨c, others, split⟩ := List.exists_cons_of_ne_nil type.filled
    have word : isWord c = true := type.chars c (by simp [split])
    rw [named, split]
    exact .inr (.intro first closing gap c (others ++ more) closes word)

private theorem headed_of_whole (whole : IsWhole column.name) :
    Headed column.text column.name column.type.text column.standardText :=
  .intro "\"" "\"" ⟨column.name, whole.1, whole.2⟩ column.gap column.type column.standardText (by decide)
    (by decide) (standard_stops column)

private theorem headed_of_misread (misread : Misread column.name name) :
    ∃ sqlType rest, Headed column.text name sqlType rest := by
  have whole : column.text =
      '"' :: (column.name ++ '"' :: (column.gap.text ++ (column.type.text ++ column.standardText))) := rfl
  rw [whole]
  generalize column.gap.text ++ (column.type.text ++ column.standardText) = behind
  generalize column.name = own at misread
  cases misread with
  | intro first closing gap c rest closes word =>
    obtain ⟨split, chars, stops⟩ := run_shape isWord (c :: rest ++ '"' :: behind)
    have filled : (c :: rest ++ '"' :: behind).takeWhile isWord ≠ [] := by simp [word]
    have read := Headed.intro "\"" closing first gap ⟨_, filled, chars⟩ _ (by decide) closes stops
    rw [← split] at read
    have same : "\"" ++ (first.text ++ (closing ++ (gap.text ++ (c :: rest ++ '"' :: behind)))) =
        '"' :: (first.text ++ (closing ++ (gap.text ++ c :: rest)) ++ '"' :: behind) := by
      simp
    exact ⟨_, _, same ▸ read⟩

/-! ### Parts and fields -/

private theorem text_starts (column : Quoted) : Stops isBlank column.text ∧ column.text ≠ [] :=
  ⟨stops_cons (by decide), List.cons_ne_nil _ _⟩

private theorem text_stripped (column : Quoted) : strip column.text = column.text := by
  have shape : column.text =
      ('"' :: (column.name ++ '"' :: column.gap.text)) ++ (column.type.text ++ column.standardText) := by
    simp [Quoted.text]
  refine strip_self (text_starts column).1 ?_
  rw [shape, List.reverse_append, List.reverse_append, List.append_assoc]
  unfold Quoted.standardText
  split
  · rw [List.reverse_nil, List.nil_append]
    exact stops_append (by simp [column.type.filled]) (word_ends column.type)
  · simp only [List.reverse_append, List.append_assoc]
    exact stops_cons (by decide)

/-- Where a part of a quoted column is read, it is a column exactly where its name is whole or misread. -/
private theorem part_named {read : Part} (parsed : part (strip column.text) = .ok read) :
    (∀ definition, read = .column definition →
      (IsWhole column.name ∧ definition.name = column.name ∧
        definition.sqlType = upper column.type.text) ∨ Misread column.name definition.name) ∧
    ∀ name, (IsWhole column.name ∧ name = column.name) ∨ Misread column.name name →
      ∃ definition, read = .column definition ∧ definition.name = name := by
  have unconstrained : isConstraint column.text = false := constraint_of_quote (by decide) _
  rw [text_stripped] at parsed
  constructor
  · rintro definition rfl
    obtain ⟨-, name, sqlType, rest, headed, -, rfl⟩ := part_iff.mp parsed
    rcases headed_cases headed with ⟨whole, rfl, rfl⟩ | misread
    · exact .inl ⟨whole, rfl, rfl⟩
    · exact .inr misread
  · intro name either
    obtain ⟨sqlType, rest, headed⟩ : ∃ sqlType rest, Headed column.text name sqlType rest := by
      rcases either with ⟨whole, rfl⟩ | misread
      · exact ⟨_, _, headed_of_whole whole⟩
      · exact headed_of_misread misread
    by_cases short : (lengthOf rest).length ≤ ConversionProblem.digitLimit
    · rw [part_iff.mpr ⟨unconstrained, name, sqlType, rest, headed, short, rfl⟩] at parsed
      cases parsed
      exact ⟨_, rfl, rfl⟩
    · rw [part_long unconstrained headed (Nat.lt_of_not_le short)] at parsed
      cases parsed

/-- The fields that are served are the included ones. -/
private theorem served_fields {fields kept : List Column}
    (given : served options fields = .ok kept) :
    kept = fields.filter fun field => options.includes field.name := by
  induction fields generalizing kept with
  | nil =>
    cases given
    rfl
  | cons field fields ih =>
    rw [served] at given
    split_ifs at given with included key
    · obtain ⟨others, later, ⟨⟩⟩ := Fallible.bind_eq_ok.mp given
      rw [List.filter_cons, if_pos included, ih later]
    · rw [List.filter_cons, if_neg included, ih given]

/-- What is read of each column. -/
private abbrev Parsed (quoted : List Quoted) (parts : List Part) : Prop :=
  List.Forall₂ (fun column read => part (strip column.text) = .ok read) quoted parts

/-- The fields of a table are the definitions that are served. -/
private theorem fields_read {table : Identifier} {pieces : List Text} {fields : List Column}
    (padded : List.Forall₂ Padded (quoted.map Quoted.text) pieces)
    (enclosed : ∀ column ∈ quoted, Sealed column.text)
    (given : columns options (statement table pieces) = .ok fields) :
    ∃ parts, Parsed quoted parts ∧ fields.map (fun field => (field.name, field.sqlType)) =
      ((definitions parts).filter fun definition => options.includes definition.name).map fun definition =>
        (definition.name, definition.sqlType) := by
  have each : ∀ text ∈ quoted.map Quoted.text, Sealed text ∧ text ≠ [] ∧ Stops isBlank text := by
    rw [List.forall_mem_map]
    intro column member
    obtain ⟨starts, filled⟩ := text_starts column
    exact ⟨enclosed column member, filled, starts⟩
  rw [columns_read options table padded each] at given
  obtain ⟨parts, parsed, kept⟩ := Fallible.bind_eq_ok.mp given
  rw [Fallible.mapM_eq_ok_iff, List.forall₂_map_left_iff] at parsed
  refine ⟨parts, parsed, ?_⟩
  rw [served_fields kept, List.filter_map, List.map_map]
  rfl

private theorem defined_iff (parsed : Parsed quoted parts) (name : Text) :
    (∃ definition ∈ definitions parts, definition.name = name) ↔
      ∃ column ∈ quoted, (IsWhole column.name ∧ name = column.name) ∨ Misread column.name name := by
  obtain ⟨forward, backward⟩ := Fallible.partners parsed
  constructor
  · rintro ⟨definition, member, rfl⟩
    obtain ⟨column, among, own⟩ := backward _ (mem_definitions.mp member)
    refine ⟨column, among, ((part_named own).1 definition rfl).imp_left ?_⟩
    exact fun ⟨whole, same, _⟩ => ⟨whole, same⟩
  · rintro ⟨column, member, either⟩
    obtain ⟨read, among, own⟩ := forward column member
    obtain ⟨definition, rfl, same⟩ := (part_named own).2 name either
    exact ⟨definition, mem_definitions.mpr among, same⟩

private theorem misread_partial {read : Text} (misread : Misread name read) : ¬ IsWhole name := by
  rintro ⟨-, chars⟩
  cases misread with
  | intro first closing gap c behind closes word =>
    obtain ⟨blank, blanks, shape⟩ := List.exists_cons_of_ne_nil gap.filled
    have own := chars blank (by simp [shape])
    rw [word_of_blank (gap.blank blank (by simp [shape]))] at own
    cases own

/-- Where no name is misread, the columns with whole names are defined and no others. -/
private theorem defined_whole (parsed : Parsed quoted parts)
    (clear : ∀ column ∈ quoted, ∀ name, Misread column.name name → options.includes name = false) :
    ((definitions parts).filter fun definition => options.includes definition.name).map
      (fun definition => (definition.name, definition.sqlType)) = wholeColumns options quoted := by
  induction parsed with
  | nil => rfl
  | @cons column read quoted parts own _ ih =>
    obtain ⟨here, later⟩ := List.forall_mem_cons.mp clear
    obtain ⟨defined, named⟩ := part_named own
    have others := ih later
    rw [wholeColumns] at others ⊢
    by_cases whole : IsWhole column.name
    · obtain ⟨definition, rfl, -⟩ := named column.name (.inl ⟨whole, rfl⟩)
      rcases defined definition rfl with ⟨-, name, sqlType⟩ | misread
      · have split : definitions (.column definition :: parts) = definition :: definitions parts := rfl
        rw [split, List.filter_cons, List.filter_cons, name, decide_eq_true whole, Bool.true_and]
        split_ifs
        · rw [List.map_cons, List.map_cons, others, name, sqlType]
        · exact others
      · exact absurd whole (misread_partial misread)
    · rw [List.filter_cons_of_neg (by simp [whole]), ← others]
      cases read with
      | column definition =>
        rcases defined definition rfl with ⟨other, -⟩ | misread
        · exact absurd other whole
        · have split : definitions (.column definition :: parts) = definition :: definitions parts := rfl
          rw [split, List.filter_cons_of_neg (by simp [here _ misread])]
      | primaryKey names | foreignKey names | other => rfl

/-- **No column is invented.** Where the text of each column has its brackets closed and commas inside of
brackets only, the fields of a table have the full names of its columns just where no served name is misread
as one that no column has. Where none is misread, the fields are the columns with whole names. -/
theorem no_column_invented_iff (options : TableOptions) (table : Identifier) {quoted : List Quoted}
    {pieces : List Text} {fields : List Column}
    (padded : List.Forall₂ Padded (quoted.map Quoted.text) pieces)
    (enclosed : ∀ column ∈ quoted, Sealed column.text)
    (given : columns options (statement table pieces) = .ok fields) :
    ((∀ field ∈ fields, ∃ column ∈ quoted, field.name = column.name) ↔
      ∀ column ∈ quoted, ∀ name, Misread column.name name → options.includes name = true →
        ∃ other ∈ quoted, name = other.name) ∧
    ((∀ column ∈ quoted, ∀ name, Misread column.name name → options.includes name = false) →
      fields.map (fun field => (field.name, field.sqlType)) = wholeColumns options quoted) := by
  obtain ⟨parts, parsed, read⟩ := fields_read padded enclosed given
  have known (name : Text) : (∃ field ∈ fields, field.name = name) ↔ options.includes name = true ∧
      ∃ column ∈ quoted, (IsWhole column.name ∧ name = column.name) ∨ Misread column.name name := by
    have names := congrArg (List.map Prod.fst) read
    simp only [List.map_map, Function.comp_def] at names
    rw [← List.mem_map, names, List.mem_map, ← defined_iff parsed]
    simp only [List.mem_filter]
    constructor
    · rintro ⟨definition, ⟨member, included⟩, rfl⟩
      exact ⟨included, definition, member, rfl⟩
    · rintro ⟨included, definition, member, rfl⟩
      exact ⟨definition, ⟨member, included⟩, rfl⟩
  constructor
  · constructor
    · intro all column member name misread included
      obtain ⟨field, among, rfl⟩ := (known name).mpr ⟨included, column, member, .inr misread⟩
      exact all field among
    · intro each field member
      obtain ⟨included, column, among, either⟩ := (known field.name).mp ⟨field, member, rfl⟩
      rcases either with ⟨-, same⟩ | misread
      · exact ⟨column, among, same⟩
      · exact each column among _ misread included
  · intro clear
    rw [read]
    exact defined_whole parsed clear

/-- Columns of a table of people, one of them with a name that is passed over. -/
def peopleColumns : List Quoted :=
  [{ name := "id", type := .mk "INTEGER" },
   { name := "e-mail (work, home)", type := .mk "TEXT", standard := some (.space, "none (yet)") },
   { name := "born", type := .mk "DATE", standard := some (.space, "") }]

def peoplePieces : List Text :=
  ["\"id\" INTEGER", " \"e-mail (work, home)\" TEXT DEFAULT 'none (yet)'", " \"born\" DATE DEFAULT ''"]

def peopleOptions : TableOptions := { tableName := "people" }

def peopleFields : List Column :=
  [{ name := "id", kind := .number, sqlType := "INTEGER" },
   { name := "born", kind := .dateTime, sqlType := "DATE" }]

theorem people_columns_read : (List.Forall₂ Padded (peopleColumns.map Quoted.text) peoplePieces ∧
      (∀ column ∈ peopleColumns, Sealed column.text) ∧
      columns peopleOptions (statement { word := .mk "people" } peoplePieces) = .ok peopleFields) ∧
    ((∀ field ∈ peopleFields, ∃ column ∈ peopleColumns, field.name = column.name) ↔
      ∀ column ∈ peopleColumns, ∀ name, Misread column.name name →
        peopleOptions.includes name = true → ∃ other ∈ peopleColumns, name = other.name) ∧
    ((∀ column ∈ peopleColumns, ∀ name, Misread column.name name →
        peopleOptions.includes name = false) →
      peopleFields.map (fun field => (field.name, field.sqlType)) =
        wholeColumns peopleOptions peopleColumns) := by
  have padded : List.Forall₂ Padded (peopleColumns.map Quoted.text) peoplePieces := by
    refine .cons ⟨[], [], by decide, by decide, by decide⟩ ?_
    refine .cons ⟨" ", [], by decide, by decide, by decide⟩ ?_
    exact .cons ⟨" ", [], by decide, by decide, by decide⟩ .nil
  have enclosed : ∀ column ∈ peopleColumns, Sealed column.text := by decide +kernel
  have given : columns peopleOptions (statement { word := .mk "people" } peoplePieces) = .ok peopleFields := by
    decide +kernel
  exact ⟨⟨padded, enclosed, given⟩, no_column_invented_iff _ _ padded enclosed given⟩

/-- A column whose name is two words, and one whose default text has a comma. -/
def twoWords : Quoted := { name := "first name", type := .mk "TEXT" }

def textList : Quoted := { name := "a", type := .mk "TEXT", standard := some (.space, "x, y int") }

/-- The second word of a name is taken for the type of the first one, and what follows a comma in a text for
a column. -/
theorem two_words_misread :
    columns { tableName := "t" } (statement { word := .mk "t" } [twoWords.text]) =
      .ok [{ name := "first", kind := .string, sqlType := "NAME" }] ∧
    columns { tableName := "t" } (statement { word := .mk "t" } [textList.text]) =
      .ok [{ name := "a", kind := .string, sqlType := "TEXT" },
        { name := "y", kind := .number, sqlType := "INT" }] ∧
    ("first" : Text) ≠ twoWords.name ∧ ("y" : Text) ≠ textList.name := by
  refine ⟨?_, ?_, ?_, ?_⟩ <;> decide +kernel

end TableGate.ColumnNames
