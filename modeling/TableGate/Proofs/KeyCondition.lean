import TableGate.Proofs.LiteralContainment
import TableGate.Table.Statement

/-! The condition that locates a row. A row id either names every field of the primary key with
one value each, or there is no statement: no id whatsoever makes a change or a question about
one row reach further than one key. -/
namespace TableGate.KeyCondition
open Fallible LiteralContainment QuotedRuns

/-- The part of a row id for a key field as its codec reads it. -/
def reveal (table : Table) (column : Column) (part : Text) : Text :=
  match table.hasher with
  | some hasher => if column.kind == .number then hasher.decode part else part
  | none => part

/-- A part of a row id stands for a literal: its codec reads a value that is there, and the value
prints as the literal. -/
def Stands (table : Table) (column : Column) (part literal : Text) : Prop :=
  ∃ cell, column.deserialize (.text (reveal table column part)) = .ok cell ∧
    cell.isEmpty = false ∧ column.literal table.engine cell = .ok literal

/-- The comparison of a key field with a literal. -/
def comparison (table : Table) (column : Column) (literal : Text) : Text :=
  column.quoted table.engine ++ '=' :: literal

/-- The condition with one comparison for each key field, in field order. -/
def clause (table : Table) (literals : List Text) : Text :=
  '(' :: Text.join " AND " (List.zipWith (comparison table) table.keys literals) ++ ")"

variable {table : Table} {column : Column} {id part condition literal statement : Text}

/-! ### Conditions and their parts -/

theorem key_condition_eq : table.keyCondition id column part =
    column.deserialize (.text (reveal table column part)) >>= fun cell =>
      if cell.isEmpty then .error (.value (.idPartEmpty id column.name))
      else column.literal table.engine cell >>= fun literal =>
        .ok (comparison table column literal) := rfl

theorem key_condition_eq_ok : table.keyCondition id column part = .ok condition ↔
    ∃ literal, Stands table column part literal ∧ condition = comparison table column literal := by
  rw [key_condition_eq, bind_eq_ok]
  constructor
  · rintro ⟨cell, decoded, printed⟩
    split at printed
    · cases printed
    · rename_i present
      obtain ⟨literal, written, same⟩ := bind_eq_ok.mp printed
      cases same
      exact ⟨literal, ⟨cell, decoded, by simpa using present, written⟩, rfl⟩
  · rintro ⟨literal, ⟨cell, decoded, present, written⟩, rfl⟩
    refine ⟨cell, decoded, ?_⟩
    rw [present, if_neg Bool.false_ne_true]
    exact bind_eq_ok.mpr ⟨literal, written, rfl⟩

private theorem conditions_iff {columns : List Column} {parts conditions : List Text} :
    List.Forall₂ (fun key condition => table.keyCondition id key.1 key.2 = .ok condition)
        (columns.zip parts) conditions ↔
      ∃ literals, List.Forall₂ (fun key literal => Stands table key.1 key.2 literal)
          (columns.zip parts) literals ∧
        conditions = List.zipWith (comparison table) columns literals := by
  induction columns generalizing parts conditions with
  | nil => simp
  | cons column columns ih =>
    cases parts with
    | nil => simp
    | cons part parts =>
      rw [List.zip_cons_cons]
      constructor
      · intro each
        cases each with
        | cons head tail =>
          obtain ⟨literal, stands, rfl⟩ := key_condition_eq_ok.mp head
          obtain ⟨literals, others, rfl⟩ := ih.mp tail
          exact ⟨literal :: literals, .cons stands others, rfl⟩
      · rintro ⟨literals, each, rfl⟩
        cases each with
        | cons stands others =>
          exact .cons (key_condition_eq_ok.mpr ⟨_, stands, rfl⟩) (ih.mpr ⟨_, others, rfl⟩)

/-- Each item of a list of comparisons compares one of its fields with one of its literals. -/
theorem comparison_mem {columns : List Column} {literals : List Text} {compared : Text}
    (member : compared ∈ List.zipWith (comparison table) columns literals) :
    ∃ column ∈ columns, ∃ literal ∈ literals, compared = comparison table column literal := by
  rw [← List.map_uncurry_zip_eq_zipWith] at member
  obtain ⟨⟨column, literal⟩, paired, rfl⟩ := List.mem_map.mp member
  obtain ⟨keyed, listed⟩ := List.of_mem_zip paired
  exact ⟨column, keyed, literal, listed, rfl⟩

/-- A row id has a condition exactly when it has one part for each key field and each part
stands for a literal; the condition then compares each field with its literal. -/
theorem id_condition_eq_ok : table.idCondition id = .ok condition ↔
    (table.settings.splitId id).length = table.keys.length ∧
      ∃ literals, List.Forall₂ (fun key literal => Stands table key.1 key.2 literal)
          (table.keys.zip (table.settings.splitId id)) literals ∧
        condition = clause table literals := by
  unfold Table.idCondition
  by_cases arity : (table.settings.splitId id).length = table.keys.length
  · simp only [arity, ne_eq, not_true_eq_false, ↓reduceIte, bind_eq_ok, mapM_eq_ok_iff, true_and]
    constructor
    · rintro ⟨conditions, each, printed⟩
      cases printed
      obtain ⟨literals, stands, rfl⟩ := conditions_iff.mp each
      exact ⟨literals, stands, rfl⟩
    · rintro ⟨literals, stands, rfl⟩
      exact ⟨_, conditions_iff.mpr ⟨literals, stands, rfl⟩, rfl⟩
  · simp only [arity, ne_eq, not_false_eq_true, ↓reduceIte, reduceCtorEq, false_and]

/-! ### One key -/

private theorem split_ne_nil (settings : Settings) (id : Text) : settings.splitId id ≠ [] := by
  simp [Settings.splitId, Text.splitOn_ne_nil]

/-- No codec takes a text for an undefined cell. -/
theorem deserialize_defined {cell : Cell} (decoded : column.deserialize (.text part) = .ok cell) :
    cell ≠ .undefined := by
  rintro rfl
  unfold Column.deserialize at decoded
  split at decoded
  · cases decoded
  · rename_i missing _
    cases missing
  · cases decoded
  · cases decoded
  · obtain ⟨_, -, value⟩ := bind_eq_ok.mp decoded
    cases value
  · cases decoded
  · cases decoded
  · obtain ⟨_, -, value⟩ := map_eq_ok.mp decoded
    cases value
  · cases decoded
  · obtain ⟨_, -, value⟩ := map_eq_ok.mp decoded
    cases value
  · cases decoded
  · cases decoded
  · obtain ⟨_, -, decoded⟩ := bind_eq_ok.mp decoded
    obtain ⟨_, -, value⟩ := bind_eq_ok.mp decoded
    cases value

/-- What a codec reads is printed as a value if it is there. -/
theorem cell_form {cell : Cell} (decoded : column.deserialize (.text part) = .ok cell)
    (present : cell.isEmpty = false) (written : column.literal table.engine cell = .ok literal) :
    Form table.engine literal := by
  have null : cell ≠ .null := by
    rintro rfl
    cases present
  exact present_form ⟨null, deserialize_defined decoded⟩ written

/-- A part of a row id stands for the literal of a value. -/
theorem stands_form (stands : Stands table column part literal) : Form table.engine literal := by
  obtain ⟨cell, decoded, present, written⟩ := stands
  exact cell_form decoded present written

theorem all_stand {keys : List (Column × Text)} {literals : List Text}
    (each : List.Forall₂ (fun key literal => Stands table key.1 key.2 literal) keys literals) :
    ∀ literal ∈ literals, Form table.engine literal := by
  induction each with
  | nil => simp
  | cons stands _ ih => exact List.forall_mem_cons.mpr ⟨stands_form stands, ih⟩

/-- The literals of one key: one for each field of a key that has fields, and each one token that
is not the word for a missing value. -/
structure OneKey (table : Table) (literals : List Text) : Prop where
  keyed : table.keys ≠ []
  each : literals.length = table.keys.length
  present : ∀ literal ∈ literals, literal ≠ "NULL" ∧ literal ≠ "UNDEFINED"
  token : ∀ literal ∈ literals, OneToken (literalQuoting table.engine) literal

private theorem condition_one_key (printed : table.idCondition id = .ok condition) :
    ∃ literals, OneKey table literals ∧ condition = clause table literals := by
  obtain ⟨arity, literals, stands, rfl⟩ := id_condition_eq_ok.mp printed
  have forms := all_stand stands
  refine ⟨literals, ⟨?_, ?_, fun literal member => form_not_missing (forms literal member),
    fun literal member => form_one_token (forms literal member)⟩, rfl⟩
  · intro none
    rw [none, List.length_nil, List.length_eq_zero_iff] at arity
    exact split_ne_nil _ _ arity
  · rw [← stands.length_eq, List.length_zip, arity, Nat.min_self]

private theorem delete_one_key (printed : table.deleteSql id = .ok statement) :
    ∃ literals, OneKey table literals ∧
      statement = "DELETE FROM " ++ table.engine.quoteTable table.options.tableName ++
        " WHERE " ++ clause table literals ++ ";" := by
  obtain ⟨condition, located, printed⟩ := bind_eq_ok.mp printed
  obtain ⟨literals, one, rfl⟩ := condition_one_key located
  cases printed
  exact ⟨literals, one, rfl⟩

private theorem update_one_key {row : Row} (printed : table.updateSql id row = .ok statement) :
    ∃ assignments literals, assignments ≠ [] ∧ OneKey table literals ∧
      statement = "UPDATE " ++ table.engine.quoteTable table.options.tableName ++
        " SET " ++ Text.join "," assignments ++ " WHERE " ++ clause table literals ++ ";" := by
  obtain ⟨assignments, -, printed⟩ := bind_eq_ok.mp printed
  split at printed
  · cases printed
  · rename_i some
    obtain ⟨condition, located, printed⟩ := bind_eq_ok.mp printed
    obtain ⟨literals, one, rfl⟩ := condition_one_key located
    cases printed
    exact ⟨assignments, literals, by simpa using some, one, rfl⟩

/-! ### Selections -/

/-- How a SELECT statement counts out the rows that fit, in front of its columns or at its end. -/
inductive Window : Text → Text → Prop where
  | all : Window [] ";"
  | last (limit : Text) : Window [] (" LIMIT " ++ limit ++ ";")
  | top (size : Text) : Window ("TOP " ++ size ++ " ") ";"
  | page (size offset : Text) :
      Window [] (" OFFSET " ++ offset ++ " ROWS FETCH NEXT " ++ size ++ " ROWS ONLY;")

/-- A SELECT statement that has a condition. -/
def selectWhere (f : SelectFragments) (top window : Text) : Text :=
  "SELECT " ++ top ++ f.columns ++ " FROM " ++ f.table ++ " WHERE " ++ f.condition ++
    SelectFragments.clause " GROUP BY " f.groupBy ++
    SelectFragments.clause " ORDER BY " f.order ++ window

private theorem middle_where {f : SelectFragments} (some : f.condition ≠ []) :
    f.middle = " WHERE " ++ f.condition ++ SelectFragments.clause " GROUP BY " f.groupBy ++
      SelectFragments.clause " ORDER BY " f.order := by
  have located : f.condition.isEmpty = false := by simpa using some
  simp only [SelectFragments.middle, SelectFragments.clause, located, Bool.false_eq_true, ↓reduceIte]

/-- A SELECT statement with its clauses between the table and the window. -/
def selectWith (f : SelectFragments) (top window : Text) : Text :=
  "SELECT " ++ top ++ f.columns ++ " FROM " ++ f.table ++ f.middle ++ window

private theorem limit_shape (f : SelectFragments) :
    ∃ top window, Window top window ∧ f.withLimit = selectWith f top window := by
  unfold SelectFragments.withLimit selectWith
  by_cases free : f.limit.isEmpty = true
  · have all : SelectFragments.clause " LIMIT " f.limit = [] := if_pos free
    refine ⟨[], ";", .all, ?_⟩
    simp only [all, List.append_assoc, List.nil_append]
  · have last : SelectFragments.clause " LIMIT " f.limit = " LIMIT " ++ f.limit := if_neg free
    refine ⟨[], " LIMIT " ++ f.limit ++ ";", .last f.limit, ?_⟩
    simp only [last, List.append_assoc, List.nil_append]

private theorem top_shape {f : SelectFragments} (printed : f.withTop = .ok statement) :
    ∃ top window, Window top window ∧ statement = selectWith f top window := by
  have joined : ("SELECT TOP " : Text) = "SELECT " ++ "TOP " := by decide
  unfold SelectFragments.withTop at printed
  unfold selectWith
  dsimp only at printed
  split at printed
  · rename_i size _
    have same := Except.ok.inj printed
    subst same
    refine ⟨"TOP " ++ size ++ " ", ";", .top size, ?_⟩
    simp only [joined, List.append_assoc]
  · rename_i size offset _
    split at printed
    · cases printed
    · have same := Except.ok.inj printed
      subst same
      refine ⟨[], _, .page size offset, ?_⟩
      simp only [List.append_assoc, List.nil_append]
  · have same := Except.ok.inj printed
    subst same
    refine ⟨[], ";", .all, ?_⟩
    simp only [List.append_assoc, List.nil_append]

/-- Every engine prints the same clauses in the same order, apart from the window. -/
theorem select_shape {engine : Engine} {f : SelectFragments} (printed : engine.select f = .ok statement) :
    ∃ top window, Window top window ∧ statement = selectWith f top window := by
  have limited (same : f.withLimit = statement) :
      ∃ top window, Window top window ∧ statement = selectWith f top window := by
    obtain ⟨top, window, counted, written⟩ := limit_shape f
    exact ⟨top, window, counted, same.symm.trans written⟩
  cases engine with
  | mssql => exact top_shape printed
  | _ => exact limited (Except.ok.inj printed)

/-- The statement of fragments with a condition has it between the table and the grouping. -/
theorem select_where {engine : Engine} {f : SelectFragments} (some : f.condition ≠ [])
    (printed : engine.select f = .ok statement) :
    ∃ top window, Window top window ∧ statement = selectWhere f top window := by
  obtain ⟨top, window, counted, written⟩ := select_shape printed
  have middle := middle_where some
  refine ⟨top, window, counted, written.trans ?_⟩
  unfold selectWith selectWhere
  simp only [middle, List.append_assoc]

private theorem join_conditions {condition filter : Text} (some : condition ≠ []) :
    Text.join " AND " ([condition, filter].filter (!·.isEmpty)) =
      condition ++ SelectFragments.clause " AND " filter := by
  have kept : condition.isEmpty = false := by simpa using some
  cases free : filter.isEmpty with
  | true => simp [kept, free, Text.join, SelectFragments.clause]
  | false => simp [kept, free, Text.join, SelectFragments.clause]

private theorem fragments_one_key {query : Query} {f : SelectFragments} (named : id ≠ [])
    (printed : table.selectFragments id query = .ok f) :
    ∃ literals filter, OneKey table literals ∧
      Table.fragment (Filter.ofOption? query.filter) (Filter.sql table) = .ok filter ∧
      f.table = table.engine.quoteTable table.options.tableName ∧
      f.condition = clause table literals ++ SelectFragments.clause " AND " filter := by
  have some : id.isEmpty = false := by simpa using named
  unfold Table.selectFragments at printed
  simp only [bind_eq_ok, some, Bool.false_eq_true, ↓reduceIte] at printed
  obtain ⟨-, -, columns, -, order, -, limit, -, filter, filtered, groupBy, -, condition, located,
    printed⟩ := printed
  obtain ⟨literals, one, rfl⟩ := condition_one_key located
  have same := Except.ok.inj printed
  subst same
  refine ⟨literals, filter, one, filtered, rfl, ?_⟩
  exact join_conditions (by simp [clause])

private theorem select_one_key {query : Query} (named : id ≠ [])
    (printed : table.selectSql id query = .ok statement) :
    ∃ literals filter f top window, OneKey table literals ∧
      Table.fragment (Filter.ofOption? query.filter) (Filter.sql table) = .ok filter ∧
      table.selectFragments id query = .ok f ∧
      f.table = table.engine.quoteTable table.options.tableName ∧
      f.condition = clause table literals ++ SelectFragments.clause " AND " filter ∧
      Window top window ∧ statement = selectWhere f top window := by
  obtain ⟨f, fragments, printed⟩ := bind_eq_ok.mp printed
  obtain ⟨literals, filter, one, filtered, named, condition⟩ := fragments_one_key named fragments
  have some : f.condition ≠ [] := by
    rw [condition]
    simp [clause]
  obtain ⟨top, window, counted, written⟩ := select_where some printed
  exact ⟨literals, filter, f, top, window, one, filtered, fragments, named, condition, counted, written⟩

/-- No statement for a row id reaches further than one key, whatever the id, the row and the
query: what is deleted, changed or asked for has a comparison with a value for every field of a
key that has fields, joined by AND inside one pair of brackets. -/
theorem statements_name_one_key (table : Table) (id statement : Text) :
    (table.deleteSql id = .ok statement → ∃ literals, OneKey table literals ∧
      statement = "DELETE FROM " ++ table.engine.quoteTable table.options.tableName ++
        " WHERE " ++ clause table literals ++ ";") ∧
    (∀ row, table.updateSql id row = .ok statement →
      ∃ assignments literals, assignments ≠ [] ∧ OneKey table literals ∧
        statement = "UPDATE " ++ table.engine.quoteTable table.options.tableName ++
          " SET " ++ Text.join "," assignments ++ " WHERE " ++ clause table literals ++ ";") ∧
    (∀ query, id ≠ [] → table.selectSql id query = .ok statement →
      ∃ literals filter f top window, OneKey table literals ∧
        Table.fragment (Filter.ofOption? query.filter) (Filter.sql table) = .ok filter ∧
        table.selectFragments id query = .ok f ∧
        f.table = table.engine.quoteTable table.options.tableName ∧
        f.condition = clause table literals ++ SelectFragments.clause " AND " filter ∧
        Window top window ∧ statement = selectWhere f top window) :=
  ⟨delete_one_key, fun _ => update_one_key, fun _ => select_one_key⟩

/-- A table whose key has a number and a text. -/
def orderLines : Table where
  engine := .sqlite
  options := { tableName := "order_lines" }
  columns := [
    { name := "order_no", kind := .number, sqlType := "INTEGER", isPrimaryKey := true },
    { name := "line", kind := .string, sqlType := "TEXT", isPrimaryKey := true },
    { name := "amount", kind := .number, sqlType := "REAL" }]

theorem order_line_deleted_by_its_key :
    orderLines.deleteSql "7_a%5Fb" =
        .ok "DELETE FROM [order_lines] WHERE (\"order_no\"=7 AND \"line\"='a_b');" ∧
      ∃ literals, OneKey orderLines literals ∧
        ("DELETE FROM [order_lines] WHERE (\"order_no\"=7 AND \"line\"='a_b');" : Text) =
          "DELETE FROM " ++ orderLines.engine.quoteTable orderLines.options.tableName ++
            " WHERE " ++ clause orderLines literals ++ ";" :=
  have printed : orderLines.deleteSql "7_a%5Fb" =
      .ok "DELETE FROM [order_lines] WHERE (\"order_no\"=7 AND \"line\"='a_b');" := by
    decide +kernel
  ⟨printed, (statements_name_one_key orderLines "7_a%5Fb" _).1 printed⟩

end TableGate.KeyCondition
