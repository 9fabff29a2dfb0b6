import TableGate.Json
import TableGate.Log
import TableGate.Table

/-! The description of the interface of tables as a document: the operations on the rows
and on one row of each table, and the schemas of the rows that they take and return. -/

namespace TableGate.OpenApi

/-- A method of an operation. -/
inductive Verb where
  | get | post | put | delete
  deriving DecidableEq, Repr

namespace Verb

def name : Verb → Text
  | get => "get"
  | post => "post"
  | put => "put"
  | delete => "delete"

def title : Verb → Text
  | get => "GET"
  | post => "POST"
  | put => "PUT"
  | delete => "DELETE"

end Verb

/-- An object of the document. -/
def object (entries : List (String × Json)) : Json :=
  .object (entries.map fun (key, value) => (key.toList, value))

/-- What an answer or a body holds. -/
inductive Content where
  | outcome
  | row (table : Text)
  | rows (table : Text)
  deriving DecidableEq, Repr

namespace Content

/-- The schema of outcomes. -/
def outcomeName : Text := "ApiResult"

/-- The schema that a content is made of. -/
def schema : Content → Text
  | outcome => outcomeName
  | row table => table
  | rows table => table

/-- A reference to a schema. -/
def reference (name : Text) : Json := object [("$ref", .text ("#/components/schemas/" ++ name))]

/-- The schema as the document writes it. -/
def json : Content → Json
  | rows table => object [("type", .text "array"), ("items", reference table)]
  | content => reference content.schema

end Content

/-- An operation on the rows of a table, or on the row of an id. -/
structure Operation where
  verb : Verb
  table : Text
  hasId : Bool
  deriving DecidableEq, Repr

namespace Operation

/-- The name of an operation. -/
def id (operation : Operation) : Text :=
  operation.verb.name ++ operation.table ++ (if operation.hasId then [] else "All")

def description (operation : Operation) : Text :=
  operation.verb.title ++ ' ' :: operation.table ++
    (if operation.hasId then " object" else " object array")

/-- What the answer holds: rows for a query, else the outcome. -/
def answer (operation : Operation) : Content :=
  match operation.verb, operation.hasId with
  | .get, true => .row operation.table
  | .get, false => .rows operation.table
  | _, _ => .outcome

/-- What the body holds, if there is one. -/
def body? (operation : Operation) : Option Content :=
  match operation.verb with
  | .post | .put => some (.row operation.table)
  | _ => none

/-- The content of a JSON message. -/
def content (content : Content) : Json :=
  object [("application/json", object [("schema", content.json)])]

/-- The parameter of the row id. -/
def idParameter : Json :=
  object [("name", .text "id"), ("in", .text "path"), ("required", .bool true),
    ("schema", object [("type", .text "string")])]

def json (operation : Operation) : Json :=
  let answer := object [("description", .text operation.description),
    ("content", content operation.answer)]
  let body := match operation.body? with
    | some body => [("requestBody", object [("required", .bool true), ("content", content body)])]
    | none => []
  object ([("operationId", .text operation.id),
    ("parameters", .array (if operation.hasId then [idParameter] else [])),
    ("responses", object [("200", answer)])] ++ body)

end Operation

/-- The operations on the rows of a table. -/
def collectionVerbs : List Verb := [.get, .post]

/-- The operations on one row. -/
def rowVerbs : List Verb := [.get, .put, .delete]

/-- The operations of a path. -/
def operations (table : Text) (hasId : Bool) : List Operation :=
  (if hasId then rowVerbs else collectionVerbs).map fun verb => ⟨verb, table, hasId⟩

/-- The operations of a path as the document writes them. -/
def path (operations : List Operation) : Json :=
  .object (operations.map fun operation => (operation.verb.name, operation.json))

/-- The type of a field's values. Disguised numbers are texts. -/
def typeName (table : Table) (column : Column) : Text :=
  match column.kind with
  | .boolean => "boolean"
  | .number => if table.isHashed column then "string" else "number"
  | _ => "string"

/-- The schema of a field, which may be null unless the field is never null. -/
def fieldSchema (table : Table) (column : Column) : Json :=
  let type := object [("type", .text (typeName table column))]
  if column.isNotNull then type
  else object [("anyOf", .array [type, object [("type", .text "null")]])]

/-- The properties of a table's rows: the row id, which is only read, and the fields. -/
def properties (table : Table) : List (Text × Json) :=
  distinctKeys
    ((table.settings.idField, object [("type", .text "string"), ("readOnly", .bool true)]) ::
      table.columns.map fun column => (column.name, fieldSchema table column))

/-- The schema of a table's rows. -/
def rowSchema (table : Table) : Json :=
  object [("type", .text "object"), ("properties", .object (properties table)),
    ("required", .array (table.keys.map fun column => .text column.name))]

/-- The schema of outcomes. -/
def outcomeSchema : Json :=
  let type (name : Text) := object [("type", .text name)]
  object [("type", .text "object"),
    ("properties", object [("success", type "boolean"), ("status_code", type "number"),
      ("status_message", type "string"),
      ("messages", object [("type", .text "array"), ("items", type "string")])]),
    ("required", .array [.text "success", .text "status_code", .text "status_message",
      .text "messages"])]

/-- The title, the description and the version of what is described. -/
structure Info where
  title : Text := []
  description : Text := []
  version : Text := []

/-- A description of tables: the operations of every path, and the schemas. -/
structure Document where
  info : Info
  paths : List (Text × List Operation) := []
  schemas : List (Text × Json) := [(Content.outcomeName, outcomeSchema)]

namespace Document

/-- The path of a table's rows. -/
def collectionPath (table : Text) : Text := '/' :: table

/-- The path of one row of a table. -/
def rowPath (table : Text) : Text := collectionPath table ++ "/\x7bid\x7d"

/-- A document with a table. -/
def add (document : Document) (table : Table) : Document :=
  let name := table.options.tableName
  let paths := upsert (collectionPath name) (operations name false) document.paths
  { document with
    paths := upsert (rowPath name) (operations name true) paths
    schemas := upsert name (rowSchema table) document.schemas }

/-- A document with a table; a table that is described twice is reported. -/
def addLogged (document : Document) (table : Table) : Logged Document := do
  let name := table.options.tableName
  if document.schemas.any (·.1 == name) then
    Logged.warn ("Table '" ++ name ++ "' described twice, last API wins")
  return document.add table

/-- The description of tables. -/
def ofTables (info : Info) (tables : List Table) : Logged Document :=
  tables.foldlM addLogged { info }

def json (document : Document) : Json :=
  let info := document.info
  object [("openapi", .text "3.1.0"),
    ("info", object [("title", .text info.title), ("description", .text info.description),
      ("version", .text info.version)]),
    ("paths", .object (document.paths.map fun (name, operations) => (name, path operations))),
    ("components", object [("schemas", .object document.schemas)])]

end Document
end TableGate.OpenApi
