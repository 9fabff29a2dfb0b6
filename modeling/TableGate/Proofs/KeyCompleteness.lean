import TableGate.Proofs.BatchAtomicity
import TableGate.Proofs.RowIdentity

/-! Keys of the rows of a batch. A key cell that is missing becomes an empty part of a row id, and
whether a statement is printed for such an id is left to the codec of the field: most codecs read
nothing out of an empty part, but booleans and bytes do, and so may a disguise. Only for fields of
these kinds can an update be printed for a row whose key is not complete. -/
namespace TableGate.KeyCompleteness
open Text Fallible IdParts KeyCondition RowIdentity BatchAtomicity

/-- A row has a value in every cell of its key. -/
def Complete (table : Table) (row : Row) : Prop :=
  ∀ key ∈ keyCells table row, key.2 ≠ .undefined ∧ key.2 ≠ .null

/-- The codec of a key field reads a value out of an empty part of a row id. -/
def TakesEmpty (table : Table) (column : Column) : Prop :=
  match column.kind with
  | .boolean | .blob => True
  | .number => ∃ hasher, table.hasher = some hasher ∧ hasher.decode [] ≠ [] ∧
      ∃ number, column.readNumber (.text (hasher.decode [])) = .ok number
  | .string | .dateTime => False

variable {table : Table} {column : Column} {key : Column × Cell} {row : Row} {id value literal : Text}
  {values literals : List Text}

/-! ### Empty parts -/

/-- A text that is not read as a number is an invalid value. -/
private theorem number_refused (unread : ¬ ∃ number, column.readNumber (.text value) = .ok number) :
    ∃ problem, column.readNumber (.text value) = .error (.value problem) := by
  unfold Column.readNumber at unread ⊢
  simp only [Except.bind] at unread ⊢
  cases found : (Cell.number? (.text value)).filter Binary64.isFinite with
  | some number =>
    rw [found] at unread
    exact absurd ⟨number, rfl⟩ unread
  | none => exact ⟨.fieldNotNumber column.name value, rfl⟩

private theorem number_part_missing (kind : column.kind = .number) (refuses : ¬ TakesEmpty table column) :
    column.deserialize (.text (reveal table column [])) = .ok .null ∨
      ∃ problem, column.deserialize (.text (reveal table column [])) = .error (.value problem) := by
  have null : column.deserialize (.text []) = .ok .null := by simp [Column.deserialize, kind]
  cases found : table.hasher with
  | none => exact .inl (by rw [reveal, found]; exact null)
  | some hasher =>
    have shown : reveal table column [] = hasher.decode [] := by simp [reveal, found, kind]
    rw [shown]
    by_cases empty : hasher.decode [] = []
    · rw [empty]
      exact .inl null
    · have unread : ¬ ∃ number, column.readNumber (.text (hasher.decode [])) = .ok number := by
        intro read
        simp [TakesEmpty, kind, found, empty, read] at refuses
      obtain ⟨problem, raised⟩ := number_refused unread
      obtain ⟨c, rest, shape⟩ := List.exists_cons_of_ne_nil empty
      rw [shape] at raised ⊢
      exact .inr ⟨problem, by simp [Column.deserialize, kind, raised, Except.map]⟩

/-- What is read from an empty part, where it is not a value. -/
private theorem empty_part_missing (refuses : ¬ TakesEmpty table column) :
    column.deserialize (.text (reveal table column [])) = .ok .null ∨
      column.deserialize (.text (reveal table column [])) = .ok (.text []) ∨
      ∃ problem, column.deserialize (.text (reveal table column [])) = .error (.value problem) := by
  have plain (apart : column.kind ≠ .number) : reveal table column [] = [] := by
    unfold reveal
    cases table.hasher with
    | none => rfl
    | some hasher => simp [apart]
  cases kind : column.kind with
  | boolean => simp [TakesEmpty, kind] at refuses
  | blob => simp [TakesEmpty, kind] at refuses
  | number => exact (number_part_missing kind refuses).imp_right .inr
  | string =>
    rw [plain (by simp [kind])]
    exact .inr (.inl (by simp [Column.deserialize, kind]))
  | dateTime =>
    rw [plain (by simp [kind])]
    refine .inr (.inr ⟨.invalidDate [], ?_⟩)
    have unread : DateTime.parse [] = .error (.value (.invalidDate [])) := by decide
    simp [Column.deserialize, kind, Cell.toText, unread, bind, Except.bind]

/-- A field whose codec takes no empty part has no condition for one: the id is an invalid value. -/
theorem empty_part_refused (refuses : ¬ TakesEmpty table column) (id : Text) :
    ∃ problem, table.keyCondition id column [] = .error (.value problem) := by
  rw [key_condition_eq]
  rcases empty_part_missing refuses with null | empty | ⟨problem, raised⟩
  · rw [null]
    exact ⟨_, rfl⟩
  · rw [empty]
    exact ⟨_, rfl⟩
  · rw [raised]
    exact ⟨problem, rfl⟩

/-- Only where the codec takes empty parts does one stand for a literal. -/
theorem takes_of_stands (stands : Stands table column [] literal) : TakesEmpty table column := by
  by_contra refuses
  have printed : table.keyCondition [] column [] = .ok (comparison table column literal) :=
    key_condition_eq_ok.mpr ⟨literal, stands, rfl⟩
  obtain ⟨problem, raised⟩ := empty_part_refused refuses []
  rw [raised] at printed
  cases printed

/-! ### Keys of a row -/

/-- A missing cell has no key text. -/
private theorem missing_text (missing : key.2 = .undefined ∨ key.2 = .null) :
    table.keyText key.1 key.2 = .ok [] := by
  obtain ⟨column, cell⟩ := key
  rcases missing with rfl | rfl <;>
    cases kind : column.kind <;>
      simp [Table.keyText, Column.serialize, kind, Engine.readValue, DriverValue.toCell,
        Column.serializeRead, bind, Except.bind]

/-- The key value of a missing cell is empty, with or without a disguise. -/
private theorem missing_value {hash : Bool} (missing : key.2 = .undefined ∨ key.2 = .null)
    (own : (do
      let value ← table.keyText key.1 key.2
      .ok (if hash then table.disguise key.1 value else value)) = (.ok value : Except Fault Text)) :
    value = [] := by
  rw [missing_text missing] at own
  have same := Except.ok.inj own
  have undisguised : table.disguise key.1 [] = [] := by
    unfold Table.disguise
    cases table.hasher <;> rfl
  rw [undisguised] at same
  cases hash <;> exact same.symm

/-! ### The id of a row's own key -/

private theorem undefined_taken (decode : Text → Text) (empty : decode [] = [])
    {keys : List (Column × Cell)}
    (own : List.Forall₂ (fun key value => key.2 = .undefined → value = []) keys values)
    (stands : List.Forall₂ (fun key literal => Stands table key.1 key.2 literal)
      ((keys.map (·.1)).zip (values.map decode)) literals) :
    ∀ key ∈ keys, key.2 = .undefined → TakesEmpty table key.1 := by
  induction own generalizing literals with
  | nil => simp
  | cons head _ ih =>
    cases stands with
    | cons first rest =>
      refine List.forall_mem_cons.mpr ⟨fun missing => ?_, ih rest⟩
      rw [head missing, empty] at first
      exact takes_of_stands first

/-- A row's own id has a condition only if the codecs of its undefined key cells take empty
parts. -/
theorem own_condition_taken {hash : Bool} {condition : Text} (named : table.rowId hash row = .ok id)
    (located : table.idCondition id = .ok condition) :
    ∀ key ∈ keyCells table row, key.2 = .undefined → TakesEmpty table key.1 := by
  obtain ⟨values, found, rfl⟩ := map_eq_ok.mp named
  have own := mapM_eq_ok_iff.mp found
  obtain ⟨arity, literals, stands, -⟩ := id_condition_eq_ok.mp located
  have columns := keyCells_columns table row
  have count : values.length = table.keys.length := by
    rw [← columns, List.length_map]
    exact own.length_eq.symm
  rw [split_values (arity.trans count.symm), ← columns] at stands
  refine undefined_taken (fun value => percentDecode (table.settings.idPart value)) rfl
    (own.imp ?_) stands
  intro key value read missing
  exact missing_value (.inl missing) read

/-! ### Rows that are written -/

variable {write : BatchWrite} {text : Text}

private theorem examined_of_passes (passed : write.passes table row = true) :
    write.examine table row = .ok true := by
  unfold BatchWrite.passes at passed
  cases looked : write.examine table row with
  | error fault => simp [looked] at passed
  | ok answer => simpa [looked] using passed

/-- A row to be updated has no null in its key. -/
private theorem replaced_not_null (passed : BatchWrite.replace.passes table row = true) :
    ∀ key ∈ keyCells table row, key.2 ≠ .null := by
  rintro ⟨column, cell⟩ member rfl
  obtain ⟨listed, primary⟩ := List.mem_filter.mp member
  obtain ⟨problems, found, warnings⟩ := map_eq_ok.mp (examined_of_passes passed)
  obtain ⟨each, read, rfl⟩ := map_eq_ok.mp found
  obtain ⟨problem, among, own⟩ := (partners (mapM_eq_ok_iff.mp read)).1 _ listed
  have null : table.cellProblem false column .null = .ok (some .null) := by
    simp [Table.cellProblem, show column.isPrimaryKey = true from primary]
  dsimp only at own
  rw [null] at own
  cases own
  have warns := List.all_eq_true.mp warnings (column.name, .null)
    (List.mem_filterMap.mpr ⟨_, among, rfl⟩)
  cases warns

/-- A row to be deleted has a value in every cell of its key. -/
private theorem removed_complete (passed : BatchWrite.remove.passes table row = true) :
    Complete table row := by
  obtain ⟨values, found, present⟩ := map_eq_ok.mp (examined_of_passes passed)
  have own := mapM_eq_ok_iff.mp found
  have filled : [] ∉ values := by
    simp only [Bool.and_eq_true, Bool.not_eq_true', List.contains_eq_mem, decide_eq_false_iff_not] at present
    exact present.2
  intro key member
  obtain ⟨value, among, read⟩ := (partners own).1 key member
  have kept (missing : key.2 = .undefined ∨ key.2 = .null) : False :=
    filled (missing_value missing read ▸ among)
  exact ⟨fun missing => kept (.inl missing), fun missing => kept (.inr missing)⟩

/-- A row that a statement was printed for has a value in every cell of its key, unless one of a
field whose codec takes empty parts is undefined. -/
theorem written_complete_iff (apart : write ≠ .create) (passed : write.passes table row = true)
    (printed : write.statement table row = .ok text) :
    (write = .remove → Complete table row) ∧
      (Complete table row ↔ ∀ key ∈ keyCells table row, TakesEmpty table key.1 → key.2 ≠ .undefined) := by
  have defined (complete : Complete table row) :
      ∀ key ∈ keyCells table row, TakesEmpty table key.1 → key.2 ≠ .undefined :=
    fun key member _ => (complete key member).1
  cases write with
  | create => exact absurd rfl apart
  | remove =>
    have complete := removed_complete passed
    exact ⟨fun _ => complete, defined, fun _ => complete⟩
  | replace =>
    refine ⟨nofun, defined, fun taken key member => ⟨fun missing => ?_, replaced_not_null passed key member⟩⟩
    obtain ⟨id, named, printed⟩ := bind_eq_ok.mp printed
    obtain ⟨assignments, -, printed⟩ := bind_eq_ok.mp printed
    split at printed
    · cases printed
    · obtain ⟨condition, located, -⟩ := bind_eq_ok.mp printed
      exact taken key member (own_condition_taken named located key member missing) missing

/-! ### Batches -/

/-- The rows of a body as they are read, or none of a body that fails the request. -/
private theorem read_rows (table : Table) (request : Request) (body : Option Body) :
    (∃ rows records, table.readBody request body {} = (rows, { records })) ∨
      (table.readBody request body {}).2.outcome.success = false ∧
        (table.readBody request body {}).2.statements = [] := by
  refine (body_read_or_failed table request body).imp_right ?_
  rintro ⟨records, text, failed⟩
  rw [failed]
  exact ⟨rfl, rfl⟩

/-- The database is given the statements of the rows that passed, whose keys are complete as far as
their codecs take no empty parts. -/
def Located (write : BatchWrite) (table : Table) (rows : List Row) (answer : Exchange) : Prop :=
  ∃ texts, (rows.filter (write.passes table)).mapM (write.statement table) = .ok texts ∧
    answer.statements = [texts.flatten] ∧
    ∀ row ∈ rows.filter (write.passes table), (write = .remove → Complete table row) ∧
      (Complete table row ↔
        ∀ key ∈ keyCells table row, TakesEmpty table key.1 → key.2 ≠ .undefined)

private theorem run_located {step : Batch → Row → Batch} {rows : List Row} {database : Database}
    {operation word : Text} {exchange : Exchange} (apart : write ≠ .create)
    (steps : RowStep write table step) (fresh : exchange.statements = []) :
    let answer := (rows.foldl step {}).execute table database operation word exchange
    answer.statements = [] ∨ Located write table rows answer := by
  intro answer
  by_cases blocked : Blocked write table rows
  · exact .inl (((run_answer steps).1 blocked).1.trans fresh)
  · have given : ∃ texts, (rows.filter (write.passes table)).mapM (write.statement table) = .ok texts ∧
        answer.statements = exchange.statements ++ [texts.flatten] := (run_answer steps).2 blocked
    obtain ⟨texts, parts, all⟩ := given
    refine .inr ⟨texts, parts, by rw [all, fresh]; rfl, fun row member => ?_⟩
    obtain ⟨text, -, printed⟩ := (partners (mapM_eq_ok_iff.mp parts)).1 row member
    exact written_complete_iff apart (List.mem_filter.mp member).2 printed

/-- A batch writes through complete keys, except for undefined cells of fields whose codecs take
empty parts: for every table, database, method word, body and request, the rows with a statement in
what the database is given are complete exactly where no such cell is undefined, and those to be
deleted always are. A field whose codec takes no empty part refuses one as an invalid value. -/
theorem batch_keys_complete_iff (table : Table) (database : Database) (word : Text)
    (body : Option Body) (request : Request) :
    let answer := table.serveBatch database word body request
    (answer.statements = [] ∨ ∃ write, Method.ofText word = BatchWrite.method write ∧ write ≠ .create ∧
      Located write table (table.readBody request body {}).1 answer) ∧
    ∀ column id, ¬ TakesEmpty table column →
      ∃ problem, table.keyCondition id column [] = .error (.value problem) := by
  refine ⟨?_, fun column id refuses => empty_part_refused refuses id⟩
  unfold Table.serveBatch
  rcases read_rows table request body with ⟨rows, records, gave⟩ | ⟨unread, fresh⟩
  · rw [gave]
    cases method : Method.ofText word with
    | put =>
      exact .imp_right (fun located => ⟨.replace, rfl, nofun, located⟩)
        (run_located nofun (batch_row_step .replace (fun _ => rfl) (fun _ => rfl)) rfl)
    | delete =>
      exact .imp_right (fun located => ⟨.remove, rfl, nofun, located⟩)
        (run_located nofun (batch_delete_step table) rfl)
    | _ => exact .inl rfl
  · left
    cases Method.ofText word with
    | put | delete =>
      simp only [unread, Bool.false_eq_true, if_false]
      exact fresh
    | _ => rfl

/-- A table whose key is a boolean. -/
def flags : Table where
  engine := .sqlite
  options := { tableName := "flags" }
  columns := [
    { name := "active", kind := .boolean, sqlType := "BOOLEAN", isPrimaryKey := true },
    { name := "label", kind := .string, sqlType := "TEXT" }]

/-- A row without the boolean that locates it changes the rows where it is false. -/
theorem undefined_boolean_key_written :
    let body := Body.items [.dict [("label", .text "x")]]
    (flags.readBody {} (some body) {}).1 = [[.undefined, .text "x"]] ∧
      ¬ Complete flags [.undefined, .text "x"] ∧
      (flags.serveBatch (fun _ => .ok { rows := [] }) "PUT" (some body) {}).statements =
        ["UPDATE [flags] SET \"label\"='x' WHERE (\"active\"=0);".toList] := by
  refine ⟨rfl, fun complete => ?_, rfl⟩
  exact (complete (flags.columns[0], .undefined) (by simp [keyCells, cellsOf, flags])).1 rfl

end TableGate.KeyCompleteness
