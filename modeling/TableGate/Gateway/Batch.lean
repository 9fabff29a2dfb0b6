import TableGate.Gateway.Constraint
import TableGate.Gateway.Exchange
import TableGate.Table.Statement

/-! The rows of one request, which become one text of statements. A row that violates a
constraint fails the whole request, or is left out with a warning, as configured; a
statement text of a failed request is never executed. -/

namespace TableGate

/-- The statements printed so far, and the fault that ended printing, if any. -/
structure Batch where
  outcome : Outcome := {}
  statements : Text := []
  fault : Option Fault := none

namespace Table

/-- The outcome of checking one row on its own. -/
def rowOutcome (table : Table) (requireKey : Bool) (row : Row) : Except Fault Outcome := do
  let problems ← table.rowProblems requireKey row
  .ok (problems.foldl (fun outcome (field, problem) =>
    if problem.isWarning then outcome.note .warning (problem.message field) "validate_row"
    else outcome.fail 405 (problem.message field) "validate_row") {})

/-- An outcome with that of a row; tells whether the row can be written. -/
def accept (table : Table) (operation : Text) (outcome row : Outcome) : Outcome × Bool :=
  let noted := { outcome with messages := outcome.messages ++ row.messages }
  if row.success then (noted, true)
  else if table.options.failOnAnyInvalidRows then
    (noted.fail row.code row.status operation, false)
  else (noted.note .warning ("Invalid row skipped: " ++ row.status) operation, false)

/-- One row checked, and printed if it can be written. -/
def batchRow (table : Table) (requireKey : Bool) (operation : Text)
    (print : Row → Except Fault Text) (batch : Batch) (row : Row) : Batch :=
  if batch.fault.isSome then batch
  else
    match table.rowOutcome requireKey row with
    | .error fault => { batch with fault := some fault }
    | .ok checked =>
      let (outcome, isValid) := table.accept operation batch.outcome checked
      if !isValid then { batch with outcome }
      else
        match print row with
        | .error fault => { batch with outcome, fault := some fault }
        | .ok statement => { batch with outcome, statements := batch.statements ++ statement }

/-- One row of a batch of deletions: it must have a value for every key. -/
def batchDelete (table : Table) (batch : Batch) (row : Row) : Batch :=
  if batch.fault.isSome then batch
  else
    match table.keyValues true row with
    | .error fault => { batch with fault := some fault }
    | .ok values =>
      if !values.isEmpty && values.all (!·.isEmpty) then
        match table.deleteSql (table.settings.joinId values) with
        | .error fault => { batch with fault := some fault }
        | .ok statement => { batch with statements := batch.statements ++ statement }
      else if table.options.failOnAnyInvalidRows then
        { batch with
          outcome := batch.outcome.fail 405 "Row without primary key values can't be deleted"
            "do_delete" }
      else
        { batch with
          outcome := batch.outcome.note .warning "Row without primary key values skipped"
            "do_delete" }

end Table

namespace Batch

/-- The statements of a batch given to the database, all at once, if nothing failed. -/
def execute (table : Table) (database : Database) (operation method : Text) (batch : Batch)
    (exchange : Exchange) : Exchange :=
  let exchange := { exchange with outcome := batch.outcome }
  match batch.fault with
  | some fault => exchange.handle table batch.statements operation fault
  | none =>
    if !batch.outcome.success then exchange
    else if batch.statements.isEmpty then
      exchange.fail 405 ("No valid rows for " ++ method) operation
    else exchange.execute table database batch.statements operation fun _ exchange => exchange

end Batch
end TableGate
