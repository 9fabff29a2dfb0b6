import TableGate.Body
import TableGate.Gateway.Batch
import TableGate.Request

/-! Requests on a table. A query answers with rows; a new row, an update or a deletion is
one text of statements. Whatever fails is told by the outcome. -/

namespace TableGate

/-- The method of a request. -/
inductive Method where
  | get | post | put | delete
  | other (name : Text)
  deriving DecidableEq, Repr

namespace Method

/-- The method that a word in any spelling stands for. -/
def ofText (word : Text) : Method :=
  let name := Text.upper word
  if name = ("GET" : Text) then get
  else if name = ("POST" : Text) then post
  else if name = ("PUT" : Text) then put
  else if name = ("DELETE" : Text) then delete
  else other name

/-- The word that stands for a method. -/
def name : Method → Text
  | get => "GET"
  | post => "POST"
  | put => "PUT"
  | delete => "DELETE"
  | other name => name

end Method

namespace Table

/-- The rows of a body; a body that can't be read fails the request. -/
def readBody (table : Table) (request : Request) (body : Option Body) (exchange : Exchange) :
    List Row × Exchange :=
  match body with
  | none => ([], exchange)
  | some body =>
    let read := body.rows table request.bodyType request.boundary
    let exchange := { exchange with records := exchange.records ++ read.records }
    match read.result with
    | .ok rows => (rows, exchange)
    | .error fault => ([], exchange.fail 400 ("Invalid data: " ++ fault.message) "do_request")

/-- A query. -/
def query (table : Table) (database : Database) (id : Text) (request : Request)
    (exchange : Exchange) : Exchange :=
  match table.selectSql id request.query with
  | .error fault => exchange.handle table [] "do_get" fault
  | .ok statement =>
    exchange.execute table database statement "do_get" fun result exchange =>
      { exchange with rows := some result }

/-- New rows. -/
def create (table : Table) (database : Database) (rows : List Row) (exchange : Exchange) :
    Exchange :=
  let batch := rows.foldl
    (table.batchRow table.options.failOnInsertWithoutKey "do_post" table.insertSql)
    { outcome := exchange.outcome }
  batch.execute table database "do_post" "POST" exchange

/-- The id of the row that an update replaces: the one given, or else the row's own. -/
def updateId (table : Table) (id : Text) (row : Row) : Except Fault Text :=
  if id.isEmpty then table.rowId true row else .ok id

/-- Updates of rows, located by an id or by their own keys. -/
def replace (table : Table) (database : Database) (id : Text) (rows : List Row)
    (exchange : Exchange) : Exchange :=
  let print (row : Row) : Except Fault Text := do
    let id ← table.updateId id row
    table.updateSql id row
  let batch := rows.foldl (table.batchRow false "do_put" print) { outcome := exchange.outcome }
  batch.execute table database "do_put" "PUT" exchange

/-- The deletion of the row of an id. -/
def remove (table : Table) (database : Database) (id : Text) (exchange : Exchange) : Exchange :=
  let batch : Batch := match table.deleteSql id with
    | .ok statement => { outcome := exchange.outcome, statements := statement }
    | .error fault => { outcome := exchange.outcome, fault := some fault }
  batch.execute table database "do_delete" "DELETE" exchange

/-- Deletions of rows, located by their own keys. -/
def removeAll (table : Table) (database : Database) (rows : List Row) (exchange : Exchange) :
    Exchange :=
  let batch := rows.foldl table.batchDelete { outcome := exchange.outcome }
  batch.execute table database "do_delete" "DELETE" exchange

/-- A request that reads no body, or whose body gave these rows. -/
def dispatch (table : Table) (database : Database) (method : Method) (id : Text)
    (request : Request) (rows : List Row) (exchange : Exchange) : Exchange :=
  let refuse (code : Int) (text : Text) := exchange.fail code text "do_request"
  match method with
  | .get => table.query database id request exchange
  | .put =>
    if id.isEmpty then refuse 400 "HTTP PUT method requires an URL id of the updated row"
    else if rows.length ≠ 1 then
      refuse 400 "HTTP PUT method requires exactly one row in the body data"
    else table.replace database id rows exchange
  | .post =>
    if !id.isEmpty then
      refuse 400 "HTTP POST method must not have an URL id as it creates a new row"
    else if rows.isEmpty then
      refuse 400 "HTTP POST method requires at least one row in the body data"
    else table.create database rows exchange
  | .delete =>
    if id.isEmpty then refuse 400 "HTTP DELETE method requires an id"
    else table.remove database id exchange
  | .other name => refuse 405 ("Unsupported HTTP method '" ++ name ++ "' for REST request")

/-- A request with a method, an id that may be empty, and a body. Only the methods that
write rows read the body. -/
def serve (table : Table) (database : Database) (method id : Text) (body : Option Body)
    (request : Request) : Exchange :=
  let method := Method.ofText method
  match method with
  | .post | .put =>
    let (rows, exchange) := table.readBody request body {}
    if exchange.outcome.success then
      table.dispatch database method id request rows exchange
    else exchange
  | method => table.dispatch database method id request [] {}

/-- Updates or deletions of all rows of a body. -/
def serveBatch (table : Table) (database : Database) (method : Text) (body : Option Body)
    (request : Request) : Exchange :=
  match Method.ofText method with
  | .put =>
    let (rows, exchange) := table.readBody request body {}
    if exchange.outcome.success then table.replace database [] rows exchange else exchange
  | .delete =>
    let (rows, exchange) := table.readBody request body {}
    if exchange.outcome.success then table.removeAll database rows exchange else exchange
  | method =>
    Exchange.fail {} 405 ("Unsupported HTTP method '" ++ method.name ++ "' for batch update")
      "do_batch_update"

end Table
end TableGate
