import TableGate.Proofs.BatchAtomicity

/-! Only rows that meet the constraints of their table are written. The constraints are stated of
each cell on its own, apart from the order in which they are checked; the checks agree with them, and
whatever is given to the database was printed from the rows that pass. -/
namespace TableGate.RowConstraints
open Fallible BatchAtomicity

/-- A cell meets the constraints of its field. Keys may be required, except for automatic ones. -/
structure Meets (options : TableOptions) (requireKey : Bool) (column : Column) (cell : Cell) : Prop where
  notNull : column.isNotNull = true ∨ column.isPrimaryKey = true → cell ≠ .null
  keyed : requireKey = true → column.isPrimaryKey = true → column.isAutoIncrement = false →
    cell ≠ .undefined
  manual : options.failOnUpdateOnAutoIncrement = true → column.isAutoIncrement = true →
    cell = .undefined
  fits : options.failOnOversizedValues = true → column.kind = .string → 0 < column.maxLength →
    cell ≠ .null → cell ≠ .undefined →
      ∃ text, cell.toText = .ok text ∧ text.length ≤ column.maxLength

/-- Every cell of a row meets the constraints of its field. -/
def RowMeets (table : Table) (requireKey : Bool) (row : Row) : Prop :=
  ∀ field ∈ cellsOf table.columns row, Meets table.options requireKey field.1 field.2

/-- A row that is examined and has no problem but warnings. -/
def accepts (table : Table) (requireKey : Bool) (row : Row) : Bool :=
  match table.rowProblems requireKey row with
  | .ok problems => problems.all (·.2.isWarning)
  | .error _ => false

/-- A text is what the accepted ones of some rows print, one after the other, and these rows meet
the constraints. -/
def PrintedFrom (table : Table) (requireKey : Bool) (print : Row → Except Fault Text)
    (rows : List Row) (statements : Text) : Prop :=
  ∃ texts, (rows.filter (accepts table requireKey)).mapM print = .ok texts ∧
    statements = texts.flatten ∧
    ∀ row ∈ rows.filter (accepts table requireKey), RowMeets table requireKey row

variable {table : Table} {requireKey : Bool} {column : Column} {cell : Cell} {row : Row}
  {rows : List Row} {batch : Batch} {operation : Text} {print : Row → Except Fault Text}

/-! ### Cells -/

private def isNull : Cell → Bool
  | .null => true
  | _ => false

private theorem isNull_iff (cell : Cell) : isNull cell = true ↔ cell = .null := by
  cases cell <;> simp [isNull]

private theorem isUndefined_iff (cell : Cell) : cell.isUndefined = true ↔ cell = .undefined := by
  cases cell <;> simp [Cell.isUndefined]

/-- The checks of a cell in their order. -/
private theorem cellProblem_eq (table : Table) (requireKey : Bool) (column : Column) (cell : Cell) :
    table.cellProblem requireKey column cell =
      if isNull cell && (column.isNotNull || column.isPrimaryKey) then .ok (some .null)
      else if cell.isUndefined && requireKey && column.isPrimaryKey && !column.isAutoIncrement then
        .ok (some .missingKey)
      else if !cell.isUndefined && table.options.failOnUpdateOnAutoIncrement &&
          column.isAutoIncrement then .ok (some .automatic)
      else if column.kind == .string && 0 < column.maxLength then
        cell.textLength >>= fun length => .ok (if column.maxLength < length then
          some (.oversized length column.maxLength table.options.failOnOversizedValues) else none)
      else .ok none := by
  cases cell <;> rfl

/-- A text that is too long is a failure only where the options say so, and null and nothing are
never too long. -/
private theorem fits_iff {options : TableOptions} {length : Nat}
    (measured : cell.textLength = .ok length) :
    (∀ other, (if column.maxLength < length then
        some (CellProblem.oversized length column.maxLength options.failOnOversizedValues) else none) =
          some other → other.isWarning = true) ↔
      (options.failOnOversizedValues = true → cell ≠ .null → cell ≠ .undefined →
        ∃ text, cell.toText = .ok text ∧ text.length ≤ column.maxLength) := by
  by_cases null : cell = .null
  · subst null
    cases measured
    simp
  by_cases undefined : cell = .undefined
  · subst undefined
    cases measured
    simp
  rw [Cell.textLength.eq_3 cell null undefined] at measured
  obtain ⟨text, printed, rfl⟩ := map_eq_ok.mp measured
  by_cases long : column.maxLength < text.length
  · rw [if_pos long]
    constructor
    · intro warns strict
      have lenient := warns _ rfl
      rw [CellProblem.isWarning, strict] at lenient
      cases lenient
    · intro fits other same
      cases same
      rw [CellProblem.isWarning, Bool.not_eq_true', Bool.eq_false_iff]
      intro strict
      obtain ⟨shown, same, short⟩ := fits strict null undefined
      rw [printed] at same
      cases same
      omega
  · rw [if_neg long]
    exact iff_of_true nofun fun _ _ _ => ⟨text, printed, by omega⟩

/-- The checks of a cell find no failure exactly where it meets the constraints, whichever of them
comes first. -/
theorem meets_iff {problem : Option CellProblem}
    (found : table.cellProblem requireKey column cell = .ok problem) :
    (∀ other, problem = some other → other.isWarning = true) ↔
      Meets table.options requireKey column cell := by
  rw [cellProblem_eq] at found
  by_cases null : cell = .null ∧ (column.isNotNull = true ∨ column.isPrimaryKey = true)
  · rw [if_pos (by simpa [isNull_iff] using null)] at found
    cases found
    exact iff_of_false (fun warns => nomatch warns _ rfl) fun meets => meets.notNull null.2 null.1
  rw [if_neg (by simpa [isNull_iff] using null)] at found
  by_cases missing : cell = .undefined ∧ requireKey = true ∧ column.isPrimaryKey = true ∧
      column.isAutoIncrement = false
  · rw [if_pos (by simpa [isUndefined_iff, and_assoc] using missing)] at found
    cases found
    refine iff_of_false (fun warns => nomatch warns _ rfl) fun meets => ?_
    exact meets.keyed missing.2.1 missing.2.2.1 missing.2.2.2 missing.1
  rw [if_neg (by simpa [isUndefined_iff, and_assoc] using missing)] at found
  by_cases automatic : cell ≠ .undefined ∧ table.options.failOnUpdateOnAutoIncrement = true ∧
      column.isAutoIncrement = true
  · rw [if_pos (by simpa [← isUndefined_iff, and_assoc] using automatic)] at found
    cases found
    refine iff_of_false (fun warns => nomatch warns _ rfl) fun meets => ?_
    exact automatic.1 (meets.manual automatic.2.1 automatic.2.2)
  rw [if_neg (by simpa [← isUndefined_iff, and_assoc] using automatic)] at found
  -- The checks before the length have passed, so the first three constraints hold in any case.
  have notNull : column.isNotNull = true ∨ column.isPrimaryKey = true → cell ≠ .null :=
    fun never isNull => null ⟨isNull, never⟩
  have keyed : requireKey = true → column.isPrimaryKey = true → column.isAutoIncrement = false →
      cell ≠ .undefined :=
    fun require primary plain undefined => missing ⟨undefined, require, primary, plain⟩
  have manual : table.options.failOnUpdateOnAutoIncrement = true → column.isAutoIncrement = true →
      cell = .undefined := by
    intro refuses own
    by_contra defined
    exact automatic ⟨defined, refuses, own⟩
  by_cases bounded : column.kind = .string ∧ 0 < column.maxLength
  · rw [if_pos (by simpa using bounded)] at found
    obtain ⟨length, measured, same⟩ := bind_eq_ok.mp found
    cases same
    rw [fits_iff measured]
    constructor
    · intro fits
      exact ⟨notNull, keyed, manual, fun strict _ _ => fits strict⟩
    · intro meets strict
      exact meets.fits strict bounded.1 bounded.2
  · rw [if_neg (by simpa using bounded)] at found
    cases found
    refine iff_of_true nofun ⟨notNull, keyed, manual, fun _ string bound => ?_⟩
    exact absurd ⟨string, bound⟩ bounded

/-! ### Rows -/

/-- The problems of some cells are all warnings exactly where each cell meets the constraints. -/
private theorem problems_warn_iff {cells : List (Column × Cell)}
    {problems : List (Option (Text × CellProblem))}
    (found : cells.mapM (fun (column, cell) =>
      (table.cellProblem requireKey column cell).map fun (problem : Option CellProblem) =>
        problem.map (column.name, ·)) = .ok problems) :
    ((problems.filterMap id).all (·.2.isWarning) = true) ↔
      ∀ field ∈ cells, Meets table.options requireKey field.1 field.2 := by
  rw [mapM_eq_ok_iff] at found
  induction found with
  | nil => simp
  | @cons field problem cells problems examined _ ih =>
    obtain ⟨of_cell, looked, rfl⟩ := map_eq_ok.mp examined
    have first := meets_iff looked
    rw [List.forall_mem_cons, ← first, ← ih]
    cases of_cell with
    | none => simp
    | some problem => simp

/-- An examined row is accepted exactly where it meets the constraints. -/
theorem accepts_iff {problems : List (Text × CellProblem)}
    (found : table.rowProblems requireKey row = .ok problems) :
    accepts table requireKey row = true ↔ RowMeets table requireKey row := by
  rw [accepts, found]
  simp only [Table.rowProblems, bind_eq_ok, Except.ok.injEq] at found
  obtain ⟨found, examined, rfl⟩ := found
  exact problems_warn_iff examined

/-- An accepted row meets the constraints. -/
theorem meets_of_accepts (passed : accepts table requireKey row = true) :
    RowMeets table requireKey row := by
  cases found : table.rowProblems requireKey row with
  | error fault =>
    rw [accepts, found] at passed
    cases passed
  | ok problems => exact (accepts_iff found).mp passed

/-! ### Batches -/

/-- A batch that has no fault after a row had none before, and has left the row out or printed it. -/
private theorem row_step (calm : (table.batchRow requireKey operation print batch row).fault = none) :
    batch.fault = none ∧
      ((accepts table requireKey row = false ∧
        (table.batchRow requireKey operation print batch row).statements = batch.statements) ∨
      ∃ text, accepts table requireKey row = true ∧ print row = .ok text ∧
        (table.batchRow requireKey operation print batch row).statements =
          batch.statements ++ text) := by
  have checked := row_outcome_success table requireKey row
  unfold Table.batchRow at calm ⊢
  cases running : batch.fault with
  | some fault => simp [running] at calm
  | none =>
    cases looked : table.rowOutcome requireKey row with
    | error fault => simp [running, looked] at calm
    | ok outcome =>
      have passes : accepts table requireKey row = outcome.success := by
        rw [looked] at checked
        obtain ⟨problems, found, warns⟩ := map_eq_ok.mp checked.symm
        rw [accepts, found]
        exact warns
      have verdict := (accept_row table operation batch.outcome outcome).1
      cases written : outcome.success with
      | false => exact ⟨rfl, .inl (by simp [passes, written, verdict])⟩
      | true =>
        cases printed : print row with
        | error fault => simp [running, looked, verdict, written, printed] at calm
        | ok text =>
          exact ⟨rfl, .inr ⟨text, passes.trans written, rfl, by simp [verdict, written]⟩⟩

/-- A batch without a fault has printed the accepted rows in their order, and no others. -/
theorem run_printed_accepted
    (calm : (rows.foldl (table.batchRow requireKey operation print) batch).fault = none) :
    batch.fault = none ∧
      ∃ texts, (rows.filter (accepts table requireKey)).mapM print = .ok texts ∧
        (rows.foldl (table.batchRow requireKey operation print) batch).statements =
          batch.statements ++ texts.flatten := by
  induction rows generalizing batch with
  | nil => exact ⟨calm, [], rfl, by simp⟩
  | cons row rows ih =>
    rw [List.foldl_cons] at calm ⊢
    obtain ⟨next, texts, parts, all⟩ := ih calm
    obtain ⟨running, ⟨refused, same⟩ | ⟨text, passed, printed, grown⟩⟩ := row_step next
    · refine ⟨running, texts, ?_, by rw [all, same]⟩
      rw [List.filter_cons_of_neg (by simp [refused]), parts]
    · refine ⟨running, text :: texts, ?_, by simp [all, grown]⟩
      rw [List.filter_cons_of_pos passed, List.mapM_cons, printed, parts]
      rfl

/-- Whatever a batch gives to the database is its text of statements, and it has no fault. -/
private theorem given_of_batch {database : Database} {word statements : Text} {exchange : Exchange}
    (fresh : exchange.statements = [])
    (given : statements ∈ (batch.execute table database operation word exchange).statements) :
    batch.fault = none ∧ statements = batch.statements := by
  by_cases blocked : batch.fault.isSome = true ∨ batch.outcome.success = false ∨
      batch.statements = []
  · rw [(blocked_batch blocked).1, fresh] at given
    cases given
  · simp only [not_or, Bool.not_eq_true, Option.isSome_eq_false_iff, Option.isNone_iff_eq_none,
      Bool.not_eq_false] at blocked
    rw [written_batch blocked.1 blocked.2.1 blocked.2.2, fresh] at given
    exact ⟨blocked.1, by simpa using given⟩

/-- Whatever the rows of a request give to the database was printed from accepted rows. -/
theorem printed_of_given {database : Database} {outcome : Outcome} {word statements : Text}
    {exchange : Exchange} (fresh : exchange.statements = [])
    (given : statements ∈ ((rows.foldl (table.batchRow requireKey operation print) { outcome }).execute
      table database operation word exchange).statements) :
    PrintedFrom table requireKey print rows statements := by
  obtain ⟨calm, rfl⟩ := given_of_batch fresh given
  obtain ⟨-, texts, parts, all⟩ := run_printed_accepted calm
  refine ⟨texts, parts, all, fun row member => ?_⟩
  exact meets_of_accepts (List.mem_filter.mp member).2

/-! ### Requests -/

/-- Reading a body gives nothing to the database. -/
theorem read_body_statements (table : Table) (request : Request) (body : Option Body) :
    (table.readBody request body {}).2.statements = [] := by
  obtain ⟨rows, records, gave⟩ | ⟨records, text, failed⟩ := body_read_or_failed table request body
  · rw [gave]
  · rw [failed]
    rfl

/-- What an update prints of a row, which is located by an id or else by its own keys. -/
def printUpdate (table : Table) (id : Text) (row : Row) : Except Fault Text := do
  let id ← table.updateId id row
  table.updateSql id row

variable {database : Database} {word id statements : Text} {body : Option Body} {request : Request}

/-- A check that fails the request gives nothing, so what is given is given behind the check. -/
private theorem given_past {fails : Prop} [Decidable fails] {code : Int} {text operation : Text}
    {exchange answer : Exchange} (fresh : exchange.statements = [])
    (given : statements ∈ (if fails then exchange.fail code text operation else answer).statements) :
    statements ∈ answer.statements := by
  split at given
  · exact absurd (fresh ▸ given) List.not_mem_nil
  · exact given

private theorem created_rows (named : Method.ofText word = .post)
    (given : statements ∈ (table.serve database word id body request).statements) :
    PrintedFrom table table.options.failOnInsertWithoutKey table.insertSql
      (table.readBody request body {}).1 statements := by
  have fresh := read_body_statements table request body
  simp only [Table.serve, named, Table.dispatch] at given
  split at given
  · exact printed_of_given fresh (given_past fresh (given_past fresh given))
  · exact absurd (fresh ▸ given) List.not_mem_nil

private theorem replaced_row (named : Method.ofText word = .put)
    (given : statements ∈ (table.serve database word id body request).statements) :
    PrintedFrom table false (printUpdate table id) (table.readBody request body {}).1 statements := by
  have fresh := read_body_statements table request body
  simp only [Table.serve, named, Table.dispatch] at given
  split at given
  · exact printed_of_given fresh (given_past fresh (given_past fresh given))
  · exact absurd (fresh ▸ given) List.not_mem_nil

private theorem replaced_rows (named : Method.ofText word = .put)
    (given : statements ∈ (table.serveBatch database word body request).statements) :
    PrintedFrom table false (printUpdate table []) (table.readBody request body {}).1 statements := by
  have fresh := read_body_statements table request body
  simp only [Table.serveBatch, named] at given
  split at given
  · exact printed_of_given fresh given
  · exact absurd (fresh ▸ given) List.not_mem_nil

/-- Whatever a new row, an update or a batch of updates gives to the database was printed from rows
of the body that meet the constraints of their table, whether the rows that do not are left out or
fail the request. -/
theorem written_rows_meet_constraints (table : Table) (database : Database) (word id : Text)
    (body : Option Body) (request : Request) :
    let rows := (table.readBody request body {}).1
    (Method.ofText word = .post →
      ∀ statements ∈ (table.serve database word id body request).statements,
        PrintedFrom table table.options.failOnInsertWithoutKey table.insertSql rows statements) ∧
    (Method.ofText word = .put →
      (∀ statements ∈ (table.serve database word id body request).statements,
        PrintedFrom table false (printUpdate table id) rows statements) ∧
      ∀ statements ∈ (table.serveBatch database word body request).statements,
        PrintedFrom table false (printUpdate table []) rows statements) := by
  intro rows
  constructor
  · intro named statements given
    exact created_rows named given
  · intro named
    constructor
    · intro statements given
      exact replaced_row named given
    · intro statements given
      exact replaced_rows named given

/-- A lenient table with all its constraints switched on writes the rows that meet them: of a new row
without a key, one with a text that is too long and one that is right, only the last. -/
theorem lenient_requests_meet_constraints :
    let table : Table := {
      engine := .sqlite
      options := {
        tableName := "t"
        failOnAnyInvalidRows := false
        failOnInsertWithoutKey := true
        failOnOversizedValues := true
        failOnUpdateOnAutoIncrement := true }
      columns := [{ name := "id", kind := .number, sqlType := "INTEGER", isPrimaryKey := true },
        { name := "s", kind := .string, sqlType := "TEXT", maxLength := 2, isNotNull := true }] }
    let body := Body.items [.list [.undefined, .text "a"], .list [.int 1, .text "abc"],
      .list [.int 2, .text "ab"]]
    PrintedFrom table true table.insertSql
        (table.readBody {} (some body) {}).1
        "INSERT INTO [t] (\"id\",\"s\") VALUES (2,'ab');" ∧
      PrintedFrom table false (printUpdate table ['2'])
        (table.readBody {} (some (.items [.list [.int 2, .text "ab"]])) {}).1
        "UPDATE [t] SET \"s\"='ab' WHERE (\"id\"=2);" ∧
      PrintedFrom table false (printUpdate table [])
        (table.readBody {} (some (.items [.list [.int 1, .text "abc"],
          .list [.int 2, .text "ab"]])) {}).1
        "UPDATE [t] SET \"s\"='ab' WHERE (\"id\"=2);" := by
  intro table body
  let database : Database := fun _ => .ok { rows := [] }
  have create := written_rows_meet_constraints table database "post" [] (some body) {}
  have update := written_rows_meet_constraints table database "put" ['2']
    (some (.items [.list [.int 2, .text "ab"]])) {}
  have batch := written_rows_meet_constraints table database "PUT" []
    (some (.items [.list [.int 1, .text "abc"], .list [.int 2, .text "ab"]])) {}
  refine ⟨create.1 (by decide) _ ?_, (update.2 (by decide)).1 _ ?_, (batch.2 (by decide)).2 _ ?_⟩
  · decide +kernel
  · decide +kernel
  · decide +kernel

end TableGate.RowConstraints
