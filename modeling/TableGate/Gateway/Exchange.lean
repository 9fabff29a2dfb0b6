import TableGate.Cursor
import TableGate.Log
import TableGate.Outcome
import TableGate.Table

/-! What a request leaves behind: its outcome, the statements given to the database, the
rows of a query, and the records of the log. -/

namespace TableGate

/-- A database: the answer to each statement, which is a result or a failure. -/
abbrev Database := Text → Except Fault Cursor

/-- A request under way, and what it leaves behind. -/
structure Exchange where
  outcome : Outcome := {}
  statements : List Text := []
  rows : Option Cursor := none
  records : List LogRecord := []

namespace Exchange

/-- The outcome changed. -/
def update (exchange : Exchange) (change : Outcome → Outcome) : Exchange :=
  { exchange with outcome := change exchange.outcome }

/-- An error of an operation. -/
def fail (exchange : Exchange) (code : Int) (text operation : Text) : Exchange :=
  exchange.update (·.fail code text operation)

/-- Adds the statement to the messages of an error, where this is configured. -/
def explain (table : Table) (statement operation : Text) (database : Option (List Text))
    (exchange : Exchange) : Exchange :=
  if !table.options.debugOnError then exchange
  else
    let exchange := match database with
      | some messages =>
        exchange.update
          (·.note .debug ("SQL MESSAGES [" ++ Text.join "|" messages ++ "]") operation)
      | none => exchange
    exchange.update (·.note .debug ("SQL [" ++ statement ++ "]") operation)

/-- The log's record of a fault that is more than a fault of the request. -/
def recordsOf (operation : Text) (fault : Fault) : List LogRecord :=
  match fault with
  | .value .pagedWithoutOrder => [⟨.error, fault.message⟩]
  | _ => if fault.isRequestFault then [] else [⟨.error, "Unhandled exception in " ++ operation⟩]

/-- A fault while a statement is printed or executed. -/
def handle (table : Table) (statement operation : Text) (fault : Fault) (exchange : Exchange) :
    Exchange :=
  let recorded := { exchange with records := exchange.records ++ recordsOf operation fault }
  let failed :=
    match fault with
    | .connection message => recorded.fail 500 message operation
    | fault =>
      if fault.isRequestFault then
        recorded.fail 400 ("Invalid request: " ++ fault.message) operation
      else
        recorded.fail 500
          ("Unhandled exception in " ++ operation ++ ": " ++ fault.message) operation
  failed.explain table statement operation none

/-- A statement given to the database. Errors that the database reports fail the request;
otherwise `use` gets the result. -/
def execute (table : Table) (database : Database) (statement operation : Text)
    (use : Cursor → Exchange → Exchange) (exchange : Exchange) : Exchange :=
  let exchange := { exchange with statements := exchange.statements ++ [statement] }
  match database statement with
  | .error fault => exchange.handle table statement operation fault
  | .ok result =>
    match Outcome.firstError? result.messages with
    | some error =>
      (exchange.fail 500 error operation).explain table statement operation (some result.messages)
    | none => use result exchange

end Exchange
end TableGate
