import TableGate.Proofs.SelectClosure
import TableGate.Proofs.SqlText

/-! Projections and groupings agree. The projection of a question has one item for each field in
field order under the name of its column, so that the cells of an answer stand at the places of their
fields; and where functions are applied, the columns that stand alone in the projection are those of
the GROUP BY list, no more and no fewer. -/
namespace TableGate.Projections
open BracketBalance Fallible KeyCondition LiteralContainment SelectClosure SqlText TextFacts

/-! ### Items -/

/-- An item of a projection: a column, or an expression that is given the name of one. -/
structure Item where
  expression : Option Text
  name : Text

/-- The item as it is written. -/
def Item.text (item : Item) : Text :=
  match item.expression with
  | none => item.name
  | some expression => Text.join " " [expression, "as", item.name]

/-- Reads `column` or `expression as column`. -/
def readItem (engine : Engine) (text : Text) : Option Item :=
  match cut engine ' ' text with
  | [name] => some ⟨none, name⟩
  | [expression, word, name] => if word = "as" then some ⟨some expression, name⟩ else none
  | _ => none

/-- The item of a field without an aggregate. -/
def plainItem (table : Table) (select : Option Select) (column : Column) : Item where
  expression := if isSelected select column then none else some (table.engine.stringLiteral [])
  name := column.quoted table.engine

/-- The item of a field beside applied functions. -/
def groupedItem (table : Table) (aggregate : Aggregate) (select : Option Select) (column : Column) : Item where
  expression :=
    if isSelected select column then
      (aggregate.functionOf? column).map fun f => f.word ++ ('(' :: column.quoted table.engine ++ ")")
    else some ("min".toList ++ ('(' :: table.engine.stringLiteral [] ++ ")"))
  name := column.quoted table.engine

/-- What may stand for a field beside applied functions: its column, a function of it that the
aggregate asks for, or a constant. -/
inductive Projects (table : Table) (aggregate : Aggregate) (column : Column) : Item → Prop
  | column : Projects table aggregate column ⟨none, column.quoted table.engine⟩
  | call (f : AggregateFunction) (called : (f, column.name) ∈ aggregate.calls) :
      Projects table aggregate column
        ⟨some (f.word ++ ('(' :: column.quoted table.engine ++ ")")), column.quoted table.engine⟩
  | constant : Projects table aggregate column
      ⟨some ("min".toList ++ ('(' :: table.engine.stringLiteral [] ++ ")")), column.quoted table.engine⟩

variable {table : Table} {engine : Engine} {query : Query} {column : Column} {aggregate : Aggregate}
  {select : Option Select} {item : Item} {columns : List Column}

/-! ### Items are read as they are written -/

/-- What neither separates items nor their words. -/
private def Inside (c : Char) : Prop := c ≠ ',' ∧ c ≠ ' '

private instance : DecidablePred Inside := fun c => inferInstanceAs (Decidable (c ≠ ',' ∧ c ≠ ' '))

/-- The parts of an item show neither commas nor blanks. -/
private structure Sound (engine : Engine) (item : Item) : Prop where
  name : Shows engine Inside item.name
  expression : ∀ expression, item.expression = some expression → Shows engine Inside expression
  filled : item.name ≠ []

private theorem item_shows (sound : Sound engine item) : Shows engine (· ≠ ',') item.text := by
  obtain ⟨expression, name⟩ := item
  have named : Shows engine (· ≠ ',') name := sound.name.mono fun _ => And.left
  cases expression with
  | none => exact named
  | some expression =>
    apply shows_join (by decide) (each_of_all (by decide))
    simp only [List.forall_mem_cons, List.not_mem_nil, false_imp_iff, implies_true, and_true]
    exact ⟨(sound.expression expression rfl).mono fun _ => And.left,
      shows_plain (by decide) (by decide) (each_of_all (by decide)), named⟩

private theorem item_read (sound : Sound engine item) : readItem engine item.text = some item := by
  obtain ⟨expression, name⟩ := item
  have named : Piece engine ' ' name := sound.name.piece fun inside => inside.2 rfl
  cases expression with
  | none =>
    have parted : cut engine ' ' name = [name] :=
      cut_join (by decide) (List.cons_ne_nil name []) (List.forall_mem_singleton.mpr named)
    simp only [readItem, Item.text, parted]
  | some expression =>
    have word : Shows engine Inside "as".toList :=
      shows_plain (by decide) (by decide) (each_of_all (by decide))
    have parted : cut engine ' ' (Text.join " " [expression, "as".toList, name]) =
        [expression, "as".toList, name] := by
      apply cut_join (by decide) (List.cons_ne_nil _ _)
      simp only [List.forall_mem_cons, List.not_mem_nil, false_imp_iff, implies_true, and_true]
      exact ⟨(sound.expression expression rfl).piece fun inside => inside.2 rfl,
        word.piece fun inside => inside.2 rfl, named⟩
    simp only [readItem, Item.text, parted, ↓reduceIte]

private theorem item_filled (sound : Sound engine item) : item.text ≠ [] := by
  obtain ⟨expression, name⟩ := item
  have filled := sound.filled
  cases expression with
  | none => exact filled
  | some expression => simp [Item.text, Text.join]

/-- A list of sound items is read as the items that it was written of. -/
private theorem items_read (write : Column → Item) (sound : ∀ column ∈ columns, Sound engine (write column)) :
    (items engine (Text.join "," (columns.map fun column => (write column).text))).mapM (readItem engine) =
      some (columns.map write) := by
  have listed : items engine (Text.join "," (columns.map fun column => (write column).text)) =
      columns.map fun column => (write column).text := by
    apply items_join
    refine List.forall_mem_map.mpr fun column member => ?_
    exact ⟨(item_shows (sound column member)).piece (not_not_intro rfl), item_filled (sound column member)⟩
  rw [listed]
  clear listed
  induction columns with
  | nil => rfl
  | cons column columns ih =>
    obtain ⟨first, others⟩ := List.forall_mem_cons.mp sound
    simp [item_read first, ih others]

/-! ### The items of a question -/

private theorem constant_shows (engine : Engine) : Shows engine Inside (engine.stringLiteral []) := by
  refine (literal_shows (string_form engine [])).mono fun c shown => ⟨?_, ?_⟩
  · rintro rfl
    exact absurd shown (by decide)
  · rintro rfl
    exact absurd shown (by decide)

private theorem call_shows (f : AggregateFunction) {argument : Text} (shows : Shows engine Inside argument) :
    Shows engine Inside (f.word ++ ('(' :: argument ++ ")")) := by
  have word : Separator f.word := by
    cases f <;> decide
  have inside : ∀ c ∈ f.word, Inside c := by
    apply each_of_all
    cases f <;> decide
  exact shows_lead word inside (shows_enclosed shows (by decide))

section
variable (words : ∀ column ∈ table.columns, ∀ c ∈ column.name, Text.isWord c = true)
include words

private theorem name_shows (member : column ∈ table.columns) {allowed : Char → Prop} :
    Shows table.engine allowed (column.quoted table.engine) := column_shows (words column member)

private theorem plain_sound (select : Option Select) (member : column ∈ table.columns) :
    Sound table.engine (plainItem table select column) where
  name := name_shows words member
  expression := by
    intro expression written
    unfold plainItem at written
    dsimp only at written
    split at written
    · cases written
    · cases written
      exact constant_shows table.engine
  filled := column_filled column.name

private theorem grouped_sound (aggregate : Aggregate) (select : Option Select)
    (member : column ∈ table.columns) : Sound table.engine (groupedItem table aggregate select column) where
  name := name_shows words member
  expression := by
    intro expression written
    unfold groupedItem at written
    dsimp only at written
    split at written
    · obtain ⟨f, -, rfl⟩ := Option.map_eq_some_iff.mp written
      exact call_shows f (name_shows words member)
    · cases written
      exact call_shows .min (constant_shows table.engine)
  filled := column_filled column.name

end

theorem plain_text (table : Table) (select : Option Select) :
    table.plainProjection select =
      Text.join "," (table.columns.map fun column => (plainItem table select column).text) := by
  unfold Table.plainProjection
  congr 2
  funext column
  by_cases selected : isSelected select column = true
  · simp [plainItem, Item.text, selected]
  · simp [plainItem, Item.text, selected, Text.join]

theorem grouped_text (table : Table) (aggregate : Aggregate) (select : Option Select) (column : Column) :
    aggregate.item table select column = (groupedItem table aggregate select column).text := by
  unfold Aggregate.item
  by_cases selected : isSelected select column = true
  · cases called : aggregate.functionOf? column with
    | none => simp [groupedItem, Item.text, selected, called]
    | some f => simp [groupedItem, Item.text, selected, called, Text.join]
  · simp [groupedItem, Item.text, selected, Text.join]

/-! ### Groupings -/

/-- A function of a field is one that is asked for. -/
theorem function_called {f : AggregateFunction} (found : aggregate.functionOf? column = some f) :
    (f, column.name) ∈ aggregate.calls := by
  obtain ⟨⟨g, name⟩, called, rfl⟩ := Option.map_eq_some_iff.mp found
  have own := List.find?_some called
  have same : name = column.name := by simpa using own
  subst same
  exact List.mem_of_find?_eq_some called

/-- A field has a function exactly where the aggregate covers it. -/
theorem function_none_iff : aggregate.functionOf? column = none ↔ aggregate.covers column = false := by
  unfold Aggregate.functionOf? Aggregate.covers Aggregate.fields
  rw [Option.map_eq_none_iff, List.find?_eq_none, ← Bool.not_eq_true, List.contains_iff_mem, List.mem_map]
  constructor
  · rintro apart ⟨call, called, same⟩
    exact apart call called (by simpa using same)
  · intro none call called own
    exact none ⟨call, called, by simpa using own⟩

/-- Every item stands for its field in one of the three ways. -/
theorem grouped_projects (table : Table) (aggregate : Aggregate) (select : Option Select) (column : Column) :
    Projects table aggregate column (groupedItem table aggregate select column) := by
  unfold groupedItem
  by_cases selected : isSelected select column = true
  · rw [if_pos selected]
    cases called : aggregate.functionOf? column with
    | none => exact .column
    | some f => exact .call f (function_called called)
  · rw [if_neg selected]
    exact .constant

/-- A column stands alone exactly where it is selected and no function is applied to it. -/
theorem bare_item_iff : (groupedItem table aggregate select column).expression.isNone = true ↔
    (isSelected select column && !aggregate.covers column) = true := by
  unfold groupedItem
  by_cases selected : isSelected select column = true
  · simp [selected, function_none_iff]
  · simp [selected]

/-- The name of a field is found. -/
private theorem field_known {clause : Clause} {name : Text} (known : IsField table name) :
    ∃ column, table.field clause name = .ok column := by
  obtain ⟨column, member, named⟩ := known
  have listed : column ∈ table.columns.filter fun column => column.name == name :=
    List.mem_filter.mpr ⟨member, by simpa using named⟩
  obtain ⟨last, found⟩ := Option.isSome_iff_exists.mp (List.getLast?_isSome.mpr (List.ne_nil_of_mem listed))
  have same : table.find? name = some last := found
  exact ⟨last, by rw [Table.field, same]⟩

private theorem validate_known (known : ∀ name ∈ aggregate.fields, IsField table name) :
    aggregate.validate table = .ok () := by
  refine forM_eq_ok.mpr fun name member => ?_
  obtain ⟨column, found⟩ := field_known (known name member)
  exact map_eq_ok.mpr ⟨column, found, rfl⟩

/-- Functions of known fields are applied. -/
private theorem grouped_projection (known : ∀ name ∈ aggregate.fields, IsField table name)
    (active : Table.activeAggregate? query = some aggregate) :
    table.projection query = .ok (Text.join "," (table.columns.map fun column =>
      (groupedItem table aggregate query.select column).text)) := by
  rw [Table.projection, active]
  simp only [Aggregate.projection, validate_known known, ← grouped_text]
  rfl

/-- Beside functions of known fields a question is grouped by what it selects otherwise. -/
private theorem grouping_printed (known : ∀ name ∈ aggregate.fields, IsField table name)
    (select : Option Select) :
    aggregate.groupBy table select = .ok (Text.join "," ((table.columns.filter fun column =>
      isSelected select column && !aggregate.covers column).map (·.quoted table.engine))) := by
  simp only [Aggregate.groupBy, validate_known known]
  rfl

/-- The columns of a GROUP BY list are read from it. -/
private theorem grouping_read (words : ∀ column ∈ table.columns, ∀ c ∈ column.name, Text.isWord c = true)
    (aggregate : Aggregate) (select : Option Select) :
    items table.engine (Text.join "," ((table.columns.filter fun column =>
        isSelected select column && !aggregate.covers column).map (·.quoted table.engine))) =
      ((table.columns.map (groupedItem table aggregate select)).filter (·.expression.isNone)).map (·.name) := by
  rw [List.filter_map, List.map_map]
  have same : table.columns.filter ((·.expression.isNone) ∘ groupedItem table aggregate select) =
      table.columns.filter fun column => isSelected select column && !aggregate.covers column :=
    List.filter_congr fun column _ => Bool.eq_iff_iff.mpr bare_item_iff
  rw [same]
  apply items_join
  refine List.forall_mem_map.mpr fun column member => ?_
  have shows : Shows table.engine (fun _ => False) (column.quoted table.engine) :=
    name_shows words (List.mem_of_mem_filter member)
  exact ⟨shows.piece id, column_filled column.name⟩

/-! ### Questions -/

/-- A question that is printed has a projection and a grouping in their places. -/
theorem select_fragments {id statement : Text} (printed : table.selectSql id query = .ok statement) :
    ∃ f top window, Window top window ∧ statement = selectWith f top window ∧
      table.projection query = .ok f.columns ∧
      Table.fragment (Table.activeAggregate? query) (Aggregate.groupBy table · query.select) =
        .ok f.groupBy := by
  obtain ⟨f, fragments, printed⟩ := bind_eq_ok.mp printed
  obtain ⟨top, window, counted, written⟩ := select_shape printed
  refine ⟨f, top, window, counted, written, ?_⟩
  unfold Table.selectFragments at fragments
  obtain ⟨-, -, fragments⟩ := bind_eq_ok.mp fragments
  obtain ⟨columns, projected, fragments⟩ := bind_eq_ok.mp fragments
  obtain ⟨order, -, fragments⟩ := bind_eq_ok.mp fragments
  obtain ⟨limit, -, fragments⟩ := bind_eq_ok.mp fragments
  obtain ⟨filter, -, fragments⟩ := bind_eq_ok.mp fragments
  obtain ⟨groupBy, grouped, fragments⟩ := bind_eq_ok.mp fragments
  split at fragments
  · cases fragments
    exact ⟨projected, grouped⟩
  · obtain ⟨key, -, same⟩ := bind_eq_ok.mp fragments
    cases same
    exact ⟨projected, grouped⟩

private theorem question_shape {id projection grouping statement : Text}
    (projected : table.projection query = .ok projection)
    (grouped : Table.fragment (Table.activeAggregate? query) (Aggregate.groupBy table · query.select) =
      .ok grouping)
    (printed : table.selectSql id query = .ok statement) :
    ∃ f top window, Window top window ∧ statement = selectWith f top window ∧
      f.columns = projection ∧ f.groupBy = grouping := by
  obtain ⟨f, top, window, counted, written, ownColumns, ownGroups⟩ := select_fragments printed
  exact ⟨f, top, window, counted, written, Except.ok.inj (ownColumns.symm.trans projected),
    Except.ok.inj (ownGroups.symm.trans grouped)⟩

/-- For every selection and every aggregate of known fields, the projection has one item for each
field, in field order and under the name of its column. Beside applied functions every item is a
column, a function of it or a constant, and the columns that stand alone are those that the question is
grouped by. -/
theorem projection_matches_grouping
    (words : ∀ column ∈ table.columns, ∀ c ∈ column.name, Text.isWord c = true)
    (known : ∀ aggregate, query.aggregate = some aggregate →
      ∀ name ∈ aggregate.fields, IsField table name) :
    ∃ projection grouping read,
      table.projection query = .ok projection ∧
      Table.fragment (Table.activeAggregate? query) (Aggregate.groupBy table · query.select) =
        .ok grouping ∧
      (items table.engine projection).mapM (readItem table.engine) = some read ∧
      read.map (·.name) = table.columns.map (·.quoted table.engine) ∧
      (∀ aggregate, query.aggregate = some aggregate → aggregate.isEmpty = false →
        List.Forall₂ (Projects table aggregate) table.columns read ∧
        (read.filter (·.expression.isNone)).map (·.name) = items table.engine grouping) ∧
      ∀ id statement, table.selectSql id query = .ok statement → ∃ f top window, Window top window ∧
        statement = selectWith f top window ∧ f.columns = projection ∧ f.groupBy = grouping := by
  cases active : Table.activeAggregate? query with
  | none =>
    have projected : table.projection query = .ok (table.plainProjection query.select) := by
      rw [Table.projection, active]
    have read := items_read (plainItem table query.select) fun column member =>
      plain_sound words query.select member
    rw [← plain_text] at read
    refine ⟨_, [], _, projected, rfl, read, ?_, ?_, fun id statement => question_shape projected ?_⟩
    · rw [List.map_map]
      rfl
    · intro aggregate given filled
      rw [Table.activeAggregate?, given, Option.filter_some, filled] at active
      cases active
    · rw [active]
      rfl
  | some aggregate =>
    obtain ⟨given, -⟩ := Option.filter_eq_some_iff.mp active
    have projected := grouped_projection (known aggregate given) active
    have grouped := grouping_printed (known aggregate given) query.select
    have read := items_read (groupedItem table aggregate query.select) fun column member =>
      grouped_sound words aggregate query.select member
    refine ⟨_, _, _, projected, grouped, read, ?_, ?_, fun id statement => question_shape projected ?_⟩
    · rw [List.map_map]
      rfl
    · intro other same filled
      cases given.symm.trans same
      refine ⟨?_, (grouping_read words aggregate query.select).symm⟩
      exact List.forall₂_map_right_iff.mpr (List.forall₂_same.mpr fun column _ =>
        grouped_projects table aggregate query.select column)
    · rw [active]
      exact grouped

/-- A question that counts a field, asks for another function of it and leaves a field out. -/
def countedLines : Query where
  aggregate := some ⟨[(.count, "line"), (.max, "line")]⟩
  select := some ⟨["line"]⟩

theorem counted_lines_match_grouping :
    ∃ read, (items .sqlite "\"order_no\",count(\"line\") as \"line\",min('') as \"amount\"").mapM
        (readItem .sqlite) = some read ∧
      List.Forall₂ (Projects orderLines ⟨[(.count, "line"), (.max, "line")]⟩) orderLines.columns read ∧
      (read.filter (·.expression.isNone)).map (·.name) = items .sqlite "\"order_no\"" := by
  have words : WordNames orderLines := by decide +kernel
  have known : ∀ aggregate, countedLines.aggregate = some aggregate →
      ∀ name ∈ aggregate.fields, IsField orderLines name := by
    intro aggregate given
    cases given
    refine List.forall_mem_map.mpr fun call member => ?_
    have named : call.2 = "line" := by
      simp only [List.mem_cons, List.not_mem_nil, or_false] at member
      rcases member with rfl | rfl <;> rfl
    exact ⟨_, List.mem_cons_of_mem _ List.mem_cons_self, named.symm⟩
  obtain ⟨projection, grouping, read, projected, grouped, listed, -, matched, -⟩ :=
    projection_matches_grouping words.columns known
  have projection_eq : orderLines.projection countedLines =
      .ok "\"order_no\",count(\"line\") as \"line\",min('') as \"amount\"" := by decide +kernel
  have grouping_eq : Table.fragment (Table.activeAggregate? countedLines)
      (Aggregate.groupBy orderLines · countedLines.select) = .ok "\"order_no\"" := by decide +kernel
  cases projection_eq.symm.trans projected
  cases grouping_eq.symm.trans grouped
  exact ⟨read, listed, matched _ rfl rfl⟩

end TableGate.Projections
