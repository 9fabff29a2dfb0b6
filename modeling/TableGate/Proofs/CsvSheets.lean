import Mathlib.Data.List.Find
import Mathlib.Data.List.Nodup
import TableGate.Proofs.CsvReading
import TableGate.Proofs.RowTransport

/-! Comma separated values are read as a table, however it is written: values in quotes or without
them, columns in any order and under any number of other names, lines apart by any line breaks. Each
line gives the row of its values under the names of the fields, unless it says nothing of a field. -/
namespace TableGate.CsvSheets
open CsvReading Fallible MediaReading RowTransport TextFacts

/-- The name of a column, written in quotes or without them. -/
structure Heading where
  name : Text
  plain : IsBare name
  isQuoted : Bool

def Heading.entry (heading : Heading) : Entry :=
  if heading.isQuoted then .encoded (.text heading.name) else .bare heading.name heading.plain

/-- A table as it is written: the names of its columns, then lines with a value for each of them,
behind the last of which there may be line breaks. -/
structure Sheet where
  headings : List Heading
  distinct : (headings.map (·.name)).Nodup
  lines : List Line
  full : ∀ line ∈ lines, line.entries.length = headings.length
  ending : Text
  ends : IsBreak ending

/-- What an entry says of a field. -/
def cellOf : Entry → Cell
  | .encoded (.text text) | .bare text _ => .text text
  | .encoded .null => .null
  | .encoded .absent => .undefined

namespace Sheet

def text (sheet : Sheet) : Text :=
  entryLine (sheet.headings.map (·.entry)) ++ (sheet.lines.flatMap (·.text) ++ sheet.ending)

/-- The cells of a line under the names of their columns. -/
def cells (sheet : Sheet) (line : Line) : List (Text × Cell) :=
  (sheet.headings.map (·.name)).zip (line.entries.map cellOf)

end Sheet

/-- The cells that stand under the name of a field. -/
def fieldCells (table : Table) (cells : List (Text × Cell)) : List (Text × Cell) :=
  cells.filter fun cell => table.columns.any (·.name == cell.1)

/-- Whether something is said of a field. -/
def tells (table : Table) (cells : List (Text × Cell)) : Bool :=
  (fieldCells table cells).any (!·.2.isUndefined)

/-- Each field with the cell under its name; a field without one is undefined. -/
def rowOf (table : Table) (cells : List (Text × Cell)) : Row :=
  table.columns.map fun column =>
    ((cells.find? (·.1 == column.name)).map (·.2)).getD .undefined

/-- The rows of the lines that say something. -/
def Sheet.rows (table : Table) (sheet : Sheet) : List Row :=
  ((sheet.lines.map sheet.cells).filter (tells table)).map (rowOf table)

/-- In each line the fields have the same cells. The columns may stand in another order, other
columns may come or go, and all may be written in another way. -/
def SameFields (table : Table) (sheet other : Sheet) : Prop :=
  List.Forall₂ (fun line next =>
    (fieldCells table (sheet.cells line)).Perm (fieldCells table (other.cells next)))
    sheet.lines other.lines

variable {table : Table} {sheet other : Sheet} {line : Line} {column : Column} {entry : Entry}
  {entries : List Entry} {cells : List (Text × Cell)} {text : Text}

/-! ### Entries -/

private theorem bare_unquoted (plain : IsBare text) : doubled text = text :=
  replaceChar_of_not_mem fun member => (plain.plain _ member).1 rfl

private theorem heading_entry (heading : Heading) :
    heading.entry.asRead = .text heading.name ∧ heading.entry.text ≠ [] := by
  unfold Heading.entry
  split
  · exact ⟨congrArg _ (bare_unquoted heading.plain), List.cons_ne_nil _ _⟩
  · exact ⟨rfl, heading.plain.some⟩

private theorem empty_entry (nothing : entry.text = []) : cellOf entry = .undefined := by
  match entry with
  | .encoded (.text text) => cases nothing
  | .encoded .null => cases nothing
  | .encoded .absent => rfl
  | .bare text bare => exact absurd nothing bare.some

/-- Only a line without any value is empty. -/
private theorem empty_line (nothing : entryLine entries = []) :
    ∀ entry ∈ entries, cellOf entry = .undefined := by
  cases entries with
  | nil => simp
  | cons first others =>
    rw [entryLine, List.map_cons, join_cons, List.append_eq_nil_iff] at nothing
    obtain ⟨front, behind⟩ := nothing
    cases others with
    | nil => simpa using empty_entry front
    | cons next others => cases behind

/-- Strings are read as they were meant. -/
private theorem cell_read (unhashed : table.hasher = none) (string : column.kind = .string)
    (found : Option Entry) :
    Body.Csv.cell table column (found.map (·.asRead)) = .ok ((found.map cellOf).getD .undefined) := by
  have read (text : Text) : table.readWire column .csv text = .ok (.text (Media.undouble text)) := by
    simp [Table.readWire, unhashed, Media.decode, Column.deserialize, string, bind, Except.bind]
  match found with
  | none => rfl
  | some (.encoded (.text text)) => exact (read _).trans (by rw [undouble_doubled]; rfl)
  | some (.encoded .null) => rfl
  | some (.encoded .absent) => rfl
  | some (.bare text bare) =>
    have own := undouble_doubled text
    rw [bare_unquoted bare] at own
    exact (read _).trans (by rw [own]; rfl)

/-! ### Lines -/

private theorem header_read (sheet : Sheet) :
    Body.Csv.values (entryLine (sheet.headings.map (·.entry))) =
      (sheet.headings.map (·.name)).map .text := by
  cases found : sheet.headings with
  | nil => rfl
  | cons heading headings =>
    have some : entryLine ((heading :: headings).map (·.entry)) ≠ [] := by
      rw [entryLine, List.map_cons, List.map_cons, join_cons]
      exact List.append_ne_nil_of_left_ne_nil (heading_entry heading).2 _
    rw [values_entries some, List.map_map, List.map_map]
    exact List.map_congr_left fun heading _ => (heading_entry heading).1

private theorem cells_distinct (full : line.entries.length = sheet.headings.length) :
    ((sheet.cells line).map (·.1)).Nodup := by
  have names : (sheet.cells line).map (·.1) = sheet.headings.map (·.name) :=
    List.map_fst_zip (by simp [full])
  exact names ▸ sheet.distinct

/-- The entry under a name is found at the place of the name. -/
private theorem entry_at (full : line.entries.length = sheet.headings.length) (name : Text) :
    (((sheet.headings.map (·.name)).map Wire.text).idxOf? (.text name)).bind
        ((line.entries.map (·.asRead))[·]?) =
      (((sheet.headings.map (·.name)).zip line.entries).find? (·.1 == name)).map (·.2.asRead) := by
  let named := ((sheet.headings.map (·.name)).map Wire.text).zip (line.entries.map (·.asRead))
  have keys : named.map (·.1) = (sheet.headings.map (·.name)).map .text :=
    List.map_fst_zip (by simp [full])
  have values : named.map (·.2) = line.entries.map (·.asRead) := List.map_snd_zip (by simp [full])
  have same : ((fun entry : Wire × Wire => entry.1 == .text name) ∘
      Prod.map Wire.text Entry.asRead) = (·.1 == name) := by
    funext entry
    simp
  have joined : named = ((sheet.headings.map (·.name)).zip line.entries).map
      (Prod.map Wire.text Entry.asRead) := List.zip_map
  rw [← keys, ← values, place_of_key, joined, List.find?_map, same, Option.map_map]
  rfl

/-- A line that is not empty is read as the row of its cells. -/
private theorem line_read (unhashed : table.hasher = none)
    (strings : ∀ column ∈ table.columns, column.kind = .string)
    (full : line.entries.length = sheet.headings.length) (some : entryLine line.entries ≠ []) :
    Body.Csv.row table ((sheet.headings.map (·.name)).map .text) (entryLine line.entries) =
      .ok (rowOf table (sheet.cells line)) := by
  unfold Body.Csv.row rowOf
  rw [values_entries some, mapM_eq_ok_iff, List.forall₂_map_right_iff, List.forall₂_same]
  intro column member
  have read := cell_read unhashed (strings column member)
    ((((sheet.headings.map (·.name)).zip line.entries).find? (·.1 == column.name)).map (·.2))
  have same : ((fun cell : Text × Cell => cell.1 == column.name) ∘ Prod.map id cellOf) =
      (·.1 == column.name) := rfl
  rw [Option.map_map, Option.map_map] at read
  rw [entry_at full, Sheet.cells, List.zip_map_right, List.find?_map, same, Option.map_map]
  exact read

/-- A row has data if the line tells anything of a field. -/
private theorem row_tells (distinct : (cells.map (·.1)).Nodup) :
    Row.hasData (rowOf table cells) = tells table cells := by
  rw [Bool.eq_iff_iff, Row.hasData, tells, List.any_eq_true, List.any_eq_true]
  constructor
  · rintro ⟨cell, member, defined⟩
    obtain ⟨column, listed, rfl⟩ := List.mem_map.mp member
    cases found : cells.find? (·.1 == column.name) with
    | none =>
      rw [found] at defined
      cases defined
    | some entry =>
      rw [found] at defined
      have own : entry.1 = column.name := by simpa using List.find?_some found
      have field : table.columns.any (·.name == entry.1) = true :=
        List.any_eq_true.mpr ⟨column, listed, beq_iff_eq.mpr own.symm⟩
      exact ⟨entry, List.mem_filter.mpr ⟨List.mem_of_find?_eq_some found, field⟩, defined⟩
  · rintro ⟨⟨name, cell⟩, member, defined⟩
    obtain ⟨among, field⟩ := List.mem_filter.mp member
    obtain ⟨column, listed, own⟩ := List.any_eq_true.mp field
    obtain rfl := eq_of_beq own
    refine ⟨cell, List.mem_map.mpr ⟨column, listed, ?_⟩, defined⟩
    rw [find_of_mem distinct among]
    rfl

/-- Fields with the same cells make the same row, in any order and among any other names. -/
private theorem row_same {others : List (Text × Cell)} (distinct : (cells.map (·.1)).Nodup)
    (same : (fieldCells table cells).Perm (fieldCells table others)) :
    tells table cells = tells table others ∧ rowOf table cells = rowOf table others := by
  refine ⟨same.any_eq, List.map_congr_left fun column listed => ?_⟩
  have among (cells : List (Text × Cell)) :
      cells.find? (·.1 == column.name) = (fieldCells table cells).find? (·.1 == column.name) := by
    rw [fieldCells, List.find?_filter]
    refine List.find?_congr fun entry _ => ?_
    by_cases own : entry.1 = column.name
    · have field : ∃ other ∈ table.columns, other.name = column.name := ⟨column, listed, rfl⟩
      simp [own, field]
    · simp [own]
  have once : {entry ∈ fieldCells table cells | (entry.1 == column.name) = true}.Subsingleton := by
    rintro entry ⟨first, own⟩ other ⟨second, name⟩
    exact List.inj_on_of_nodup_map distinct (List.mem_of_mem_filter first)
      (List.mem_of_mem_filter second) ((eq_of_beq own).trans (eq_of_beq name).symm)
  rw [among cells, among others, List.find?_eq_find?_of_perm same once]

/-- An empty line tells nothing. -/
private theorem silent (empty : entryLine line.entries = []) :
    tells table (sheet.cells line) = false := by
  refine List.any_eq_false.mpr fun cell member => ?_
  obtain ⟨entry, among, said⟩ := List.mem_map.mp (List.of_mem_zip (List.mem_of_mem_filter member)).2
  rw [← said, empty_line empty entry among]
  exact Bool.false_ne_true

/-- Where no column has the name of a field, no line tells anything. -/
private theorem unnamed_silent
    (unnamed : ∀ column ∈ table.columns, column.name ∉ sheet.headings.map (·.name)) :
    tells table (sheet.cells line) = false := by
  refine List.any_eq_false.mpr fun cell member => ?_
  obtain ⟨among, field⟩ := List.mem_filter.mp member
  obtain ⟨column, listed, own⟩ := List.any_eq_true.mp field
  refine absurd ?_ (unnamed column listed)
  rw [eq_of_beq own]
  exact (List.of_mem_zip among).1

/-! ### Rows -/

/-- The rows of the lines, if every line that is not empty is read as the row of its cells. -/
private theorem lines_kept {lines : List Line} {read : Text → Except Fault Row}
    (full : ∀ line ∈ lines, line.entries.length = sheet.headings.length)
    (each : ∀ line ∈ lines, entryLine line.entries ≠ [] →
      read (entryLine line.entries) = .ok (rowOf table (sheet.cells line))) :
    (((lines.map (entryLine ·.entries)).filter (!·.isEmpty)).mapM fun line =>
      read line >>= fun row => .ok (if row.hasData then some row else none)).map (List.filterMap id) =
        .ok (((lines.map sheet.cells).filter (tells table)).map (rowOf table)) := by
  induction lines with
  | nil => rfl
  | cons line lines ih =>
    obtain ⟨own, others⟩ := List.forall_mem_cons.mp full
    obtain ⟨here, rest⟩ := List.forall_mem_cons.mp each
    obtain ⟨rows, all, kept⟩ := map_eq_ok.mp (ih others rest)
    rw [List.map_cons, List.map_cons, List.filter_cons, List.filter_cons]
    by_cases empty : entryLine line.entries = []
    · rw [if_neg (by simpa using empty), if_neg (by simp [silent empty]), all]
      exact congrArg _ kept
    · have read : (read (entryLine line.entries) >>= fun row =>
          (.ok (if row.hasData then some row else none) : Except Fault (Option Row))) =
            .ok (if tells table (sheet.cells line) then some (rowOf table (sheet.cells line)) else none) := by
        rw [here empty, ← row_tells (cells_distinct own)]
        rfl
      rw [if_pos (by simpa using empty), List.mapM_cons, read, all]
      refine congrArg Except.ok ?_
      by_cases told : tells table (sheet.cells line) = true
      · rw [if_pos told, if_pos told, List.filterMap_cons, kept, List.map_cons]
        rfl
      · rw [if_neg told, if_neg told, List.filterMap_cons, kept]
        rfl

private theorem rows_same (same : SameFields table sheet other) : other.rows table = sheet.rows table := by
  have distinct : ∀ line ∈ sheet.lines, ((sheet.cells line).map (·.1)).Nodup :=
    fun line member => cells_distinct (sheet.full line member)
  have both := (List.forall₂_and_left _ _).mpr ⟨distinct, same⟩
  unfold Sheet.rows
  generalize sheet.lines = lines, other.lines = others at both
  induction both with
  | nil => rfl
  | cons head _ ih =>
    obtain ⟨told, row⟩ := row_same head.1 head.2
    rw [List.map_cons, List.map_cons, List.filter_cons, List.filter_cons, told]
    split
    · rw [List.map_cons, List.map_cons, row, ih]
    · exact ih

/-- **Any writing of a table is read.** Without a disguise, and with fields that are strings, the rows of
a table are those of its lines that tell anything of a field, and they are the same for every other
table in whose lines the fields have the same cells. -/
theorem sheet_is_read (table : Table) (sheet : Sheet) (boundary : Text) (unhashed : table.hasher = none)
    (strings : ∀ column ∈ table.columns, column.kind = .string) :
    (Body.rows table .csv boundary (.text sheet.text)).result = .ok (sheet.rows table) ∧
      ∀ other, SameFields table sheet other →
        (Body.rows table .csv boundary (.text other.text)).result = .ok (sheet.rows table) := by
  have read (sheet : Sheet) :
      (Body.rows table .csv boundary (.text sheet.text)).result = .ok (sheet.rows table) := by
    obtain ⟨rest, found, others⟩ := lines_text (sheet.headings.map (·.entry)) sheet.lines sheet.ends
    have lifted : (Body.rows table .csv boundary (.text sheet.text)).result =
        (Body.Csv.rows table sheet.text).result := rfl
    rw [lifted]
    unfold Body.Csv.rows
    dsimp only
    rw [Sheet.text, found, List.headD_cons, List.tail_cons, header_read, others]
    split
    · rename_i unnamed
      have none : sheet.rows table = [] := by
        refine List.map_eq_nil_iff.mpr (List.filter_eq_nil_iff.mpr fun cells member => ?_)
        obtain ⟨line, -, rfl⟩ := List.mem_map.mp member
        rw [unnamed_silent (by simpa using unnamed)]
        exact Bool.false_ne_true
      rw [none]
      rfl
    · rw [kept_of_read]
      exact lines_kept sheet.full fun line member some =>
        line_read unhashed strings (sheet.full line member) some
  refine ⟨read sheet, fun other same => (read other).trans (congrArg _ ?_)⟩
  exact rows_same same

/-- Notes with a title and a body. -/
def notes : Table where
  engine := .sqlite
  options := { tableName := "notes" }
  columns := [
    { name := "title", kind := .string, sqlType := "TEXT" },
    { name := "body", kind := .string, sqlType := "TEXT" }]

/-- A note whose body has a comma, a quote and a line break, and a line without a note. -/
def noteSheet : Sheet where
  headings := [⟨"body", ⟨by decide, by decide, each_of_all (by decide)⟩, true⟩,
    ⟨"colour", ⟨by decide, by decide, each_of_all (by decide)⟩, false⟩,
    ⟨"title", ⟨by decide, by decide, each_of_all (by decide)⟩, false⟩]
  distinct := by decide
  lines := [
    ⟨"\r\n", by decide, by simp [IsBreak],
      [.encoded (.text "a,\"\nb"), .encoded .absent,
        .bare "to do" ⟨by decide, by decide, each_of_all (by decide)⟩]⟩,
    ⟨"\n", by decide, by simp [IsBreak],
      [.encoded .absent, .bare "red" ⟨by decide, by decide, each_of_all (by decide)⟩,
        .encoded .absent]⟩]
  full := by decide
  ending := "\r"
  ends := by simp [IsBreak]

/-- The same note in a table without colours, its title in front. -/
def titleSheet : Sheet where
  headings := [⟨"title", ⟨by decide, by decide, each_of_all (by decide)⟩, true⟩,
    ⟨"body", ⟨by decide, by decide, each_of_all (by decide)⟩, false⟩]
  distinct := by decide
  lines := [
    ⟨"\n\n", by decide, by simp [IsBreak], [.encoded (.text "to do"), .encoded (.text "a,\"\nb")]⟩,
    ⟨"\r\n", by decide, by simp [IsBreak], [.encoded .absent, .encoded .absent]⟩]
  full := by decide
  ending := []
  ends := by simp [IsBreak]

/-- Both tables give the note. -/
theorem note_is_read :
    noteSheet.text = "\"body\",colour,title\r\n\"a,\"\"\nb\",,to do\n,red,\r" ∧
      titleSheet.text = "\"title\",body\n\n\"to do\",\"a,\"\"\nb\"\r\n," ∧
      (Body.rows notes .csv [] (.text noteSheet.text)).result = .ok [[.text "to do", .text "a,\"\nb"]] ∧
      (Body.rows notes .csv [] (.text titleSheet.text)).result = .ok [[.text "to do", .text "a,\"\nb"]] := by
  have strings : ∀ column ∈ notes.columns, column.kind = .string := by decide
  obtain ⟨first, others⟩ := sheet_is_read notes noteSheet [] rfl strings
  have same : SameFields notes noteSheet titleSheet :=
    .cons (List.Perm.swap _ _ _) (.cons (List.Perm.swap _ _ _) .nil)
  exact ⟨rfl, rfl, first, others titleSheet same⟩

end TableGate.CsvSheets
