import TableGate.Gateway
import TableGate.Proofs.Fallible

/-! The rows of a body are written in whole or not at all. The target is stated by what the
constraints, the keys and the printers say of each row on its own; the proof follows the batch
from row to row and then to the database. -/
namespace TableGate.BatchAtomicity
open Fallible

/-- The three ways in which the rows of a body are written. -/
inductive BatchWrite where
  | create | replace | remove

namespace BatchWrite

/-- The method of the requests that write in this way. -/
def method : BatchWrite → Method
  | create => .post
  | replace => .put
  | remove => .delete

/-- The answer to a body. New rows come without an id; updates and deletions of a whole body
locate their rows by the rows' own keys. -/
def serve (write : BatchWrite) (table : Table) (database : Database) (word : Text) (body : Body)
    (request : Request) : Exchange :=
  match write with
  | create => table.serve database word [] (some body) request
  | replace | remove => table.serveBatch database word (some body) request

/-- Whether one row may be written: it has no problem but warnings, and a row to be deleted
has a value for every key. A row with a cell that has no text can't be examined. -/
def examine (write : BatchWrite) (table : Table) (row : Row) : Except Fault Bool :=
  match write with
  | create =>
    (table.rowProblems table.options.failOnInsertWithoutKey row).map (·.all (·.2.isWarning))
  | replace => (table.rowProblems false row).map (·.all (·.2.isWarning))
  | remove => (table.keyValues true row).map fun values => !values.isEmpty && !values.contains []

/-- A row that was examined and may be written. -/
def passes (write : BatchWrite) (table : Table) (row : Row) : Bool :=
  match write.examine table row with
  | .ok passed => passed
  | .error _ => false

/-- The statement that writes one row. -/
def statement (write : BatchWrite) (table : Table) (row : Row) : Except Fault Text :=
  match write with
  | create => table.insertSql row
  | replace => do
    let id ← table.rowId true row
    table.updateSql id row
  | remove => do
    let values ← table.keyValues true row
    table.deleteSql (table.settings.joinId values)

end BatchWrite

/-- Why no row of a body may reach the database. -/
inductive Blocked (write : BatchWrite) (table : Table) (rows : List Row) : Prop where
  | refused (row : Row) (member : row ∈ rows) (fails : write.passes table row = false)
      (strict : table.options.failOnAnyInvalidRows = true) : Blocked write table rows
  | nothing (none : ∀ row ∈ rows, write.passes table row = false) : Blocked write table rows
  | unexamined (row : Row) (member : row ∈ rows) (fault : Fault)
      (raised : write.examine table row = .error fault) : Blocked write table rows
  | unprintable (row : Row) (member : row ∈ rows) (passed : write.passes table row = true)
      (fault : Fault) (raised : write.statement table row = .error fault) :
      Blocked write table rows

/-- What one row does to a batch that has not failed yet, by what is known of the row alone. -/
structure RowStep (write : BatchWrite) (table : Table) (step : Batch → Row → Batch) : Prop where
  stopped (batch : Batch) (row : Row) : batch.fault.isSome = true → step batch row = batch
  unexamined (batch : Batch) (row : Row) (fault : Fault) : batch.fault = none →
    write.examine table row = .error fault → (step batch row).fault.isSome = true
  refused (batch : Batch) (row : Row) : batch.fault = none →
    write.examine table row = .ok false →
    (step batch row).fault = none ∧ (step batch row).statements = batch.statements ∧
      (step batch row).outcome.success =
        (batch.outcome.success && !table.options.failOnAnyInvalidRows)
  unprintable (batch : Batch) (row : Row) (fault : Fault) : batch.fault = none →
    write.examine table row = .ok true → write.statement table row = .error fault →
    (step batch row).fault.isSome = true
  printed (batch : Batch) (row : Row) (text : Text) : batch.fault = none →
    write.examine table row = .ok true → write.statement table row = .ok text →
    (step batch row).fault = none ∧ (step batch row).statements = batch.statements ++ text ∧
      (step batch row).outcome.success = batch.outcome.success

/-! ### One row -/

@[simp] theorem note_success (outcome : Outcome) (level : Level) (text operation : Text) :
    (outcome.note level text operation).success = outcome.success := by
  simp only [Outcome.note]
  split <;> rfl

@[simp] theorem fail_success (outcome : Outcome) (code : Int) (text operation : Text) :
    (outcome.fail code text operation).success = false := rfl

private theorem noted_problem_success (outcome : Outcome) (warns : Bool) (text operation : Text) :
    (if warns then outcome.note .warning text operation
      else outcome.fail 405 text operation).success = (outcome.success && warns) := by
  cases warns with
  | false => rw [if_neg Bool.false_ne_true, fail_success, Bool.and_false]
  | true => rw [if_pos rfl, note_success, Bool.and_true]

private theorem noted_problems_success (problems : List (Text × CellProblem)) (outcome : Outcome) :
    (problems.foldl (fun outcome (field, problem) =>
      if problem.isWarning then outcome.note .warning (problem.message field) "validate_row"
      else outcome.fail 405 (problem.message field) "validate_row") outcome).success =
      (outcome.success && problems.all (·.2.isWarning)) := by
  induction problems generalizing outcome with
  | nil => rw [List.foldl_nil, List.all_nil, Bool.and_true]
  | cons problem problems ih =>
    rw [List.foldl_cons, ih, noted_problem_success, List.all_cons, Bool.and_assoc]

/-- A row's own outcome is a success exactly when all of its problems are warnings. -/
theorem row_outcome_success (table : Table) (requireKey : Bool) (row : Row) :
    (table.rowOutcome requireKey row).map (·.success) =
      (table.rowProblems requireKey row).map (·.all (·.2.isWarning)) := by
  unfold Table.rowOutcome
  cases table.rowProblems requireKey row with
  | error fault => rfl
  | ok problems => exact congrArg Except.ok (noted_problems_success problems {})

theorem accept_row (table : Table) (operation : Text) (outcome row : Outcome) :
    (table.accept operation outcome row).2 = row.success ∧
      (table.accept operation outcome row).1.success =
        (outcome.success && (row.success || !table.options.failOnAnyInvalidRows)) := by
  unfold Table.accept
  cases written : row.success with
  | true => simp
  | false => cases strict : table.options.failOnAnyInvalidRows <;> simp

variable {table : Table} {batch : Batch} {row : Row} {requireKey : Bool} {operation : Text}
  {print : Row → Except Fault Text}

private theorem batch_row_unfold {outcome : Outcome} (running : batch.fault = none)
    (checked : table.rowOutcome requireKey row = .ok outcome) :
    table.batchRow requireKey operation print batch row =
      if outcome.success then
        match print row with
        | .error fault =>
          { batch with
            outcome := (table.accept operation batch.outcome outcome).1
            fault := some fault }
        | .ok statement =>
          { batch with
            outcome := (table.accept operation batch.outcome outcome).1
            statements := batch.statements ++ statement }
      else { batch with outcome := (table.accept operation batch.outcome outcome).1 } := by
  have written := (accept_row table operation batch.outcome outcome).1
  cases passed : outcome.success with
  | true =>
    simp only [Table.batchRow, running, checked, written, passed]
    cases print row <;> rfl
  | false => simp [Table.batchRow, running, checked, written, passed]

/-- The rows of an insertion or an update go through the constraints and then the printer. -/
theorem batch_row_step (write : BatchWrite)
    (examined : ∀ row, write.examine table row =
      (table.rowProblems requireKey row).map (·.all (·.2.isWarning)))
    (printed : ∀ row, write.statement table row = print row) :
    RowStep write table (table.batchRow requireKey operation print) := by
  have checked : ∀ row, (table.rowOutcome requireKey row).map (·.success) = write.examine table row :=
    fun row => (row_outcome_success table requireKey row).trans (examined row).symm
  constructor
  · intro batch row stopped
    simp [Table.batchRow, stopped]
  · intro batch row fault running raised
    rw [← checked, map_eq_error] at raised
    simp [Table.batchRow, running, raised]
  · intro batch row running refused
    rw [← checked, map_eq_ok] at refused
    obtain ⟨outcome, looked, failed⟩ := refused
    rw [batch_row_unfold running looked, if_neg (by simp [failed])]
    exact ⟨running, rfl, by simp [(accept_row table operation batch.outcome outcome).2, failed]⟩
  · intro batch row fault running passed raised
    rw [← checked, map_eq_ok] at passed
    obtain ⟨outcome, looked, succeeded⟩ := passed
    rw [batch_row_unfold running looked, if_pos succeeded, ← printed, raised]
    rfl
  · intro batch row text running passed print_ok
    rw [← checked, map_eq_ok] at passed
    obtain ⟨outcome, looked, succeeded⟩ := passed
    rw [batch_row_unfold running looked, if_pos succeeded, ← printed, print_ok]
    exact ⟨running, rfl, by simp [(accept_row table operation batch.outcome outcome).2, succeeded]⟩

private theorem all_present (values : List Text) :
    values.all (!·.isEmpty) = !values.contains [] := by
  induction values with
  | nil => rfl
  | cons value values ih =>
    rw [List.all_cons, ih, List.contains_cons, Bool.not_or]
    cases value <;> rfl

/-- A row with a value for every key adds its statement, or the fault of printing it. -/
theorem batch_delete_present {values : List Text} (running : batch.fault = none)
    (looked : table.keyValues true row = .ok values)
    (present : (!values.isEmpty && !values.contains []) = true) :
    table.batchDelete batch row =
      match table.deleteSql (table.settings.joinId values) with
      | .error fault => { batch with fault := some fault }
      | .ok statement => { batch with statements := batch.statements ++ statement } := by
  rw [← all_present] at present
  unfold Table.batchDelete
  simp only [running, looked, present]
  cases table.deleteSql (table.settings.joinId values) <;> rfl

/-- A row without one is a failure or is left out. -/
theorem batch_delete_missing {values : List Text} (running : batch.fault = none)
    (looked : table.keyValues true row = .ok values)
    (missing : (!values.isEmpty && !values.contains []) = false) :
    ∃ outcome, table.batchDelete batch row = { batch with outcome } ∧
      outcome.success = (batch.outcome.success && !table.options.failOnAnyInvalidRows) := by
  rw [← all_present] at missing
  unfold Table.batchDelete
  simp only [running, looked, missing]
  cases strict : table.options.failOnAnyInvalidRows with
  | true => exact ⟨_, rfl, by rw [fail_success, Bool.not_true, Bool.and_false]⟩
  | false => exact ⟨_, rfl, by rw [note_success, Bool.not_false, Bool.and_true]⟩

/-- The rows of a deletion need a value for every key, and nothing else. -/
theorem batch_delete_step (table : Table) : RowStep .remove table table.batchDelete := by
  constructor
  · intro batch row stopped
    simp [Table.batchDelete, stopped]
  · intro batch row fault running raised
    simp only [BatchWrite.examine, map_eq_error] at raised
    simp [Table.batchDelete, running, raised]
  · intro batch row running refused
    simp only [BatchWrite.examine, map_eq_ok] at refused
    obtain ⟨values, looked, missing⟩ := refused
    obtain ⟨outcome, stepped, success⟩ := batch_delete_missing running looked missing
    rw [stepped]
    exact ⟨running, rfl, success⟩
  · intro batch row fault running passed raised
    simp only [BatchWrite.examine, map_eq_ok] at passed
    obtain ⟨values, looked, present⟩ := passed
    rw [BatchWrite.statement, looked] at raised
    rw [batch_delete_present running looked present, show table.deleteSql _ = _ from raised]
    rfl
  · intro batch row text running passed printed
    simp only [BatchWrite.examine, map_eq_ok] at passed
    obtain ⟨values, looked, present⟩ := passed
    rw [BatchWrite.statement, looked] at printed
    rw [batch_delete_present running looked present, show table.deleteSql _ = _ from printed]
    exact ⟨running, rfl, rfl⟩

/-! ### All rows -/

variable {write : BatchWrite} {step : Batch → Row → Batch} {rows : List Row}

/-- A row that ends printing: it can't be examined, or it passes and has no statement. -/
def Raises (write : BatchWrite) (table : Table) (row : Row) : Prop :=
  (∃ fault, write.examine table row = .error fault) ∨
    write.passes table row = true ∧ ∃ fault, write.statement table row = .error fault

private theorem passes_of_examine {passed : Bool} (examined : write.examine table row = .ok passed) :
    write.passes table row = passed := by
  rw [BatchWrite.passes, examined]

/-- Every row raises, is left out, or adds its statement. -/
theorem row_cases (steps : RowStep write table step) (running : batch.fault = none) (row : Row) :
    (Raises write table row ∧ (step batch row).fault.isSome = true) ∨
    (¬ Raises write table row ∧ write.passes table row = false ∧ (step batch row).fault = none ∧
      (step batch row).statements = batch.statements ∧ (step batch row).outcome.success =
        (batch.outcome.success && !table.options.failOnAnyInvalidRows)) ∨
    ∃ text, ¬ Raises write table row ∧ write.passes table row = true ∧
      write.statement table row = .ok text ∧ (step batch row).fault = none ∧
      (step batch row).statements = batch.statements ++ text ∧
      (step batch row).outcome.success = batch.outcome.success := by
  cases examined : write.examine table row with
  | error fault =>
    exact .inl ⟨.inl ⟨fault, examined⟩, steps.unexamined batch row fault running examined⟩
  | ok passed =>
    have passes := passes_of_examine examined
    cases passed with
    | false =>
      have calm : ¬ Raises write table row := by simp [Raises, examined, passes]
      exact .inr (.inl ⟨calm, passes, steps.refused batch row running examined⟩)
    | true =>
      cases printed : write.statement table row with
      | error fault =>
        exact .inl ⟨.inr ⟨passes, fault, printed⟩,
          steps.unprintable batch row fault running examined printed⟩
      | ok text =>
        have calm : ¬ Raises write table row := by simp [Raises, examined, printed]
        exact .inr (.inr ⟨text, calm, passes, rfl,
          steps.printed batch row text running examined printed⟩)

theorem run_stopped (steps : RowStep write table step) (stopped : batch.fault.isSome = true) :
    rows.foldl step batch = batch := by
  induction rows with
  | nil => rfl
  | cons row rows ih => rw [List.foldl_cons, steps.stopped batch row stopped, ih]

/-- A row that raises leaves the batch with a fault, whatever the rows around it do. -/
theorem run_raised (steps : RowStep write table step) (running : batch.fault = none)
    (raised : ∃ row ∈ rows, Raises write table row) :
    (rows.foldl step batch).fault.isSome = true := by
  induction rows generalizing batch with
  | nil => simp at raised
  | cons row rows ih =>
    rw [List.foldl_cons]
    have later (calm : ¬ Raises write table row) : ∃ row ∈ rows, Raises write table row := by
      obtain ⟨other, member, raises⟩ := raised
      rcases List.mem_cons.mp member with rfl | member
      · exact absurd raises calm
      · exact ⟨other, member, raises⟩
    rcases row_cases steps running row with ⟨-, stopped⟩ | ⟨calm, -, next, -⟩ | ⟨_, calm, -, -, next, -⟩
    · rw [run_stopped steps stopped]
      exact stopped
    · exact ih next (later calm)
    · exact ih next (later calm)

/-- Where no row raises, the statements are those of the passing rows in their order, and the
outcome is a success unless a refused row counts as a failure. -/
theorem run_printed (steps : RowStep write table step) (running : batch.fault = none)
    (calm : ∀ row ∈ rows, ¬ Raises write table row) :
    (rows.foldl step batch).fault = none ∧
    (rows.foldl step batch).outcome.success = (batch.outcome.success &&
      (rows.all (write.passes table) || !table.options.failOnAnyInvalidRows)) ∧
    ∃ texts, (rows.filter (write.passes table)).mapM (write.statement table) = .ok texts ∧
      (rows.foldl step batch).statements = batch.statements ++ texts.flatten := by
  induction rows generalizing batch with
  | nil => exact ⟨running, by simp, [], rfl, by simp⟩
  | cons row rows ih =>
    have tail : ∀ row ∈ rows, ¬ Raises write table row :=
      fun other member => calm other (List.mem_cons_of_mem _ member)
    rw [List.foldl_cons]
    rcases row_cases steps running row with
      ⟨raises, -⟩ | ⟨-, fails, next, same, success⟩ | ⟨text, -, passes, printed, next, grown, success⟩
    · exact absurd raises (calm row List.mem_cons_self)
    · obtain ⟨noFault, outcome, texts, parts, all⟩ := ih next tail
      refine ⟨noFault, ?_, texts, ?_, by rw [all, same]⟩
      · rw [outcome, success, List.all_cons, fails]
        cases batch.outcome.success <;> cases table.options.failOnAnyInvalidRows <;> simp
      · rw [List.filter_cons_of_neg (by simp [fails]), parts]
    · obtain ⟨noFault, outcome, texts, parts, all⟩ := ih next tail
      refine ⟨noFault, ?_, text :: texts, ?_, by rw [all, grown]; simp⟩
      · rw [outcome, success, List.all_cons, passes, Bool.true_and]
      · rw [List.filter_cons_of_pos passes, List.mapM_cons, printed, parts]
        rfl

/-! ### The database -/

@[simp] theorem explain_statements (table : Table) (statement operation : Text)
    (messages : Option (List Text)) (exchange : Exchange) :
    (exchange.explain table statement operation messages).statements = exchange.statements := by
  unfold Exchange.explain
  cases table.options.debugOnError with
  | false => rfl
  | true => cases messages <;> rfl

@[simp] theorem explain_success (table : Table) (statement operation : Text)
    (messages : Option (List Text)) (exchange : Exchange) :
    (exchange.explain table statement operation messages).outcome.success =
      exchange.outcome.success := by
  unfold Exchange.explain
  cases table.options.debugOnError with
  | false => rfl
  | true =>
    cases messages with
    | none => exact note_success ..
    | some messages => exact (note_success ..).trans (note_success ..)

/-- A fault gives no further statement to the database, and the answer is a failure. -/
theorem handle_keeps (table : Table) (statement operation : Text) (fault : Fault)
    (exchange : Exchange) :
    (exchange.handle table statement operation fault).statements = exchange.statements ∧
      (exchange.handle table statement operation fault).outcome.success = false := by
  unfold Exchange.handle
  dsimp only
  rw [explain_statements, explain_success]
  split
  · exact ⟨rfl, rfl⟩
  · split <;> exact ⟨rfl, rfl⟩

/-- A statement is given to the database once, whatever the database answers. -/
theorem execute_gives (table : Table) (database : Database) (statement operation : Text)
    (exchange : Exchange) :
    (exchange.execute table database statement operation fun _ exchange => exchange).statements =
      exchange.statements ++ [statement] := by
  unfold Exchange.execute
  dsimp only
  cases database statement with
  | error fault => exact (handle_keeps ..).1
  | ok result =>
    cases first : Outcome.firstError? result.messages with
    | none => simp only [first]
    | some error =>
      simp only [first]
      exact explain_statements ..

variable {database : Database} {word : Text} {exchange : Exchange}

theorem blocked_batch (blocked : batch.fault.isSome = true ∨ batch.outcome.success = false ∨
      batch.statements = []) :
    (batch.execute table database operation word exchange).statements = exchange.statements ∧
      (batch.execute table database operation word exchange).outcome.success = false := by
  unfold Batch.execute
  dsimp only
  cases noFault : batch.fault with
  | some fault => exact handle_keeps ..
  | none =>
    cases success : batch.outcome.success with
    | false => exact ⟨rfl, success⟩
    | true =>
      have empty : batch.statements = [] := by simpa [noFault, success] using blocked
      simp only [empty]
      exact ⟨rfl, rfl⟩

theorem written_batch (noFault : batch.fault = none) (success : batch.outcome.success = true)
    (filled : batch.statements ≠ []) :
    (batch.execute table database operation word exchange).statements =
      exchange.statements ++ [batch.statements] := by
  unfold Batch.execute
  simp only [noFault, success, List.isEmpty_eq_false_iff.mpr filled]
  exact execute_gives ..

/-- No statement is an empty text. -/
theorem statement_ne_nil {text : Text} (printed : write.statement table row = .ok text) :
    text ≠ [] := by
  cases write with
  | create =>
    simp only [BatchWrite.statement, Table.insertSql, bind_eq_ok, Except.ok.injEq] at printed
    obtain ⟨_, -, rfl⟩ := printed
    simp
  | replace =>
    simp only [BatchWrite.statement, Table.updateSql, bind_eq_ok] at printed
    obtain ⟨_, -, assignments, -, rest⟩ := printed
    split at rest
    · cases rest
    · simp only [bind_eq_ok, Except.ok.injEq] at rest
      obtain ⟨_, -, rfl⟩ := rest
      simp
  | remove =>
    simp only [BatchWrite.statement, Table.deleteSql, bind_eq_ok, Except.ok.injEq] at printed
    obtain ⟨_, -, _, -, rfl⟩ := printed
    simp

/-- Statements that make up no text at all are those of a body without passing rows. -/
theorem passes_of_flatten_nil {texts : List Text}
    (parts : (rows.filter (write.passes table)).mapM (write.statement table) = .ok texts)
    (empty : texts.flatten = []) : ∀ row ∈ rows, write.passes table row = false := by
  intro row member
  by_contra passes
  have kept : row ∈ rows.filter (write.passes table) :=
    List.mem_filter.mpr ⟨member, by simpa using passes⟩
  obtain ⟨text, listed, printed⟩ := (partners (mapM_eq_ok_iff.mp parts)).1 row kept
  exact statement_ne_nil printed (List.flatten_eq_nil_iff.mp empty text listed)

/-- What the rows of a body leave behind: nothing for a blocked body, and else one text with
the statements of all passing rows. -/
theorem run_answer (steps : RowStep write table step) :
    let answer := (rows.foldl step {}).execute table database operation word exchange
    (Blocked write table rows →
      answer.statements = exchange.statements ∧ answer.outcome.success = false) ∧
    (¬ Blocked write table rows →
      ∃ texts, (rows.filter (write.passes table)).mapM (write.statement table) = .ok texts ∧
        answer.statements = exchange.statements ++ [texts.flatten]) := by
  dsimp only
  have fresh : ({} : Batch).fault = none := rfl
  by_cases raised : ∃ row ∈ rows, Raises write table row
  · have stopped := run_raised steps fresh raised
    refine ⟨fun _ => blocked_batch (.inl stopped), fun free => absurd ?_ free⟩
    obtain ⟨row, member, ⟨fault, examined⟩ | ⟨passes, fault, printed⟩⟩ := raised
    · exact .unexamined row member fault examined
    · exact .unprintable row member passes fault printed
  · have calm : ∀ row ∈ rows, ¬ Raises write table row := by simpa using raised
    obtain ⟨noFault, success, texts, parts, all⟩ := run_printed steps fresh calm
    constructor
    · intro blocked
      apply blocked_batch
      cases blocked with
      | refused row member fails strict =>
        have someFails : rows.all (write.passes table) = false :=
          List.all_eq_false.mpr ⟨row, member, by simp [fails]⟩
        exact .inr (.inl (by rw [success, someFails, strict]; rfl))
      | nothing none =>
        have empty : rows.filter (write.passes table) = [] :=
          List.filter_eq_nil_iff.mpr (fun row member => by simp [none row member])
        rw [empty] at parts
        cases parts
        exact .inr (.inr all)
      | unexamined row member fault examined => exact absurd (.inl ⟨fault, examined⟩) (calm row member)
      | unprintable row member passes fault printed =>
        exact absurd (.inr ⟨passes, fault, printed⟩) (calm row member)
    · intro free
      refine ⟨texts, parts, ?_⟩
      have succeeded : (rows.foldl step {}).outcome.success = true := by
        rw [success]
        by_contra failed
        simp only [Bool.true_and, Bool.or_eq_true, not_or, List.all_eq_true, not_forall] at failed
        obtain ⟨⟨row, member, fails⟩, strict⟩ := failed
        exact free (.refused row member (by simpa using fails) (by simpa using strict))
      have filled : (rows.foldl step {}).statements ≠ [] := by
        intro empty
        rw [all] at empty
        exact free (.nothing (passes_of_flatten_nil parts empty))
      rw [written_batch noFault succeeded filled, all]
      rfl

/-! ### Answers -/

theorem read_body {body : Body} {request : Request}
    (read : (body.rows table request.bodyType request.boundary).result = .ok rows) :
    ∃ records, table.readBody request (some body) {} = (rows, { records }) := by
  refine ⟨[] ++ (body.rows table request.bodyType request.boundary).records, ?_⟩
  unfold Table.readBody
  simp only [read]

/-- A body gives rows to an answer that nothing was done to, or it has no rows and fails the request. -/
theorem body_read_or_failed (table : Table) (request : Request) (body : Option Body) :
    (∃ rows records, table.readBody request body {} = (rows, { records })) ∨
      ∃ records text, table.readBody request body {} =
        ([], Exchange.fail { records } 400 text "do_request") := by
  cases body with
  | none => exact .inl ⟨[], [], rfl⟩
  | some body =>
    cases read : (body.rows table request.bodyType request.boundary).result with
    | ok rows =>
      obtain ⟨records, gave⟩ := read_body read
      exact .inl ⟨rows, records, gave⟩
    | error fault =>
      right
      simp only [Table.readBody, read]
      exact ⟨_, _, rfl⟩

/-- A body of new rows is served by inserting them. -/
theorem create_served {body : Body} {request : Request} {records : List LogRecord}
    (named : Method.ofText word = .post) (nonempty : rows ≠ [])
    (gave : table.readBody request (some body) {} = (rows, { records })) :
    BatchWrite.create.serve table database word body request = table.create database rows { records } := by
  simp only [BatchWrite.serve, Table.serve, named, gave, Table.dispatch,
    List.isEmpty_eq_false_iff.mpr nonempty]
  rfl

/-- A body of updates is served by updating the rows that its own keys name. -/
theorem replace_served {body : Body} {request : Request} {records : List LogRecord}
    (named : Method.ofText word = .put)
    (gave : table.readBody request (some body) {} = (rows, { records })) :
    BatchWrite.replace.serve table database word body request =
      table.replace database [] rows { records } := by
  simp only [BatchWrite.serve, Table.serveBatch, named, gave]
  rfl

/-- A body of deletions is served by deleting the rows that its keys name. -/
theorem remove_served {body : Body} {request : Request} {records : List LogRecord}
    (named : Method.ofText word = .delete)
    (gave : table.readBody request (some body) {} = (rows, { records })) :
    BatchWrite.remove.serve table database word body request =
      table.removeAll database rows { records } := by
  simp only [BatchWrite.serve, Table.serveBatch, named, gave]
  rfl

/-- Writing the rows of a body is all or nothing. A blocked body gives the database no statement
and fails; any other body gives it one text, the statements of exactly the passing rows in the
order of the body. -/
theorem batch_writes_all_or_nothing (write : BatchWrite) (table : Table) (database : Database)
    (word : Text) (named : Method.ofText word = write.method) (body : Body) (request : Request)
    (rows : List Row) (read : (body.rows table request.bodyType request.boundary).result = .ok rows)
    (nonempty : rows ≠ []) :
    let answer := write.serve table database word body request
    (Blocked write table rows → answer.statements = [] ∧ answer.outcome.success = false) ∧
    (¬ Blocked write table rows →
      ∃ texts, (rows.filter (write.passes table)).mapM (write.statement table) = .ok texts ∧
        answer.statements = [texts.flatten]) := by
  obtain ⟨records, gave⟩ := read_body read
  cases write with
  | create =>
    rw [create_served named nonempty gave]
    exact run_answer (batch_row_step .create (fun _ => rfl) (fun _ => rfl))
  | replace =>
    rw [replace_served named gave]
    exact run_answer (batch_row_step .replace (fun _ => rfl) (fun _ => rfl))
  | remove =>
    rw [remove_served named gave]
    exact run_answer (batch_delete_step table)

/-- A lenient table leaves out the row without a key and writes the rows around it. -/
theorem lenient_batch_leaves_out_a_row :
    let table : Table := {
      engine := .sqlite
      options := { tableName := "t", failOnAnyInvalidRows := false }
      columns := [{ name := "id", kind := .number, sqlType := "INTEGER", isPrimaryKey := true }] }
    let body := Body.items [.list [.int 1], .list [.null], .list [.int 2]]
    (BatchWrite.create.serve table (fun _ => .ok { rows := [] }) "post" body {}).statements =
      ["INSERT INTO [t] (\"id\") VALUES (1);INSERT INTO [t] (\"id\") VALUES (2);".toList] := by
  intro table body
  have free : ¬ Blocked .create table [[.int 1], [.null], [.int 2]] := by
    intro blocked
    cases blocked with
    | refused row member fails strict => exact absurd strict (by decide)
    | nothing none => exact absurd (none [.int 1] (by simp)) (by decide)
    | unexamined row member fault raised =>
      simp only [List.mem_cons, List.not_mem_nil, or_false] at member
      rcases member with rfl | rfl | rfl <;> cases raised
    | unprintable row member passes fault raised =>
      simp only [List.mem_cons, List.not_mem_nil, or_false] at member
      rcases member with rfl | rfl | rfl
      · cases raised
      · cases passes
      · cases raised
  obtain ⟨texts, parts, given⟩ := (batch_writes_all_or_nothing .create table
    (fun _ => .ok { rows := [] }) "post" (by decide) body {} [[.int 1], [.null], [.int 2]] rfl
    (by simp)).2 free
  rw [given]
  cases parts
  rfl

end TableGate.BatchAtomicity
