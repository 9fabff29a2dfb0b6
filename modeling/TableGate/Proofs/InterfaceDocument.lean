import TableGate.Proofs.SchemaConformance

/-! The description of tables as a document. Tables are added one after another, and what an earlier one has
written under a path or a schema name is overwritten; the whole document is described at once, by all paths
and schemas that are ever set, of which those with one key leave the last. -/
namespace TableGate.InterfaceDocument
open OpenApi
open OpenApi.Document (collectionPath rowPath)
open SchemaConformance (property?)

/-! ### Places in a value -/

/-- What a value holds under keys that lead from object to object. -/
def at? (keys : List Text) (value : Json) : Option Json := keys.foldlM (fun part key => property? key part) value

@[simp] theorem at_nil (value : Json) : at? [] value = some value := rfl

@[simp] theorem at_cons (key : Text) (keys : List Text) (value : Json) :
    at? (key :: keys) value = (property? key value).bind (at? keys) := by
  rw [at?, List.foldlM_cons]
  rfl

/-- The text of a value, if it is one. -/
def text? : Json → Option Text
  | .text text => some text
  | _ => none

/-- The text of an entry with a key. -/
def textOf (key : Text) (entry : Text × Json) : List Text :=
  if entry.1 == key then (text? entry.2).toList else []

mutual

/-- The texts that stand under a key, at any depth of a value. -/
def textsUnder (key : Text) : Json → List Text
  | .array items => textsInItems key items
  | .object entries => textsInEntries key entries
  | _ => []

/-- The texts under a key in the items of an array. -/
def textsInItems (key : Text) : List Json → List Text
  | [] => []
  | item :: items => textsUnder key item ++ textsInItems key items

/-- The texts under a key in the entries of an object. -/
def textsInEntries (key : Text) : List (Text × Json) → List Text
  | [] => []
  | (name, value) :: entries =>
    textOf key (name, value) ++ textsUnder key value ++ textsInEntries key entries

end

@[simp] theorem texts_array (key : Text) (items : List Json) :
    textsUnder key (.array items) = items.flatMap (textsUnder key) := by
  rw [textsUnder]
  induction items with
  | nil => rfl
  | cons item items ih => rw [textsInItems, List.flatMap_cons, ih]

@[simp] theorem texts_object (key : Text) (entries : List (Text × Json)) :
    textsUnder key (.object entries) =
      entries.flatMap fun entry => textOf key entry ++ textsUnder key entry.2 := by
  rw [textsUnder]
  induction entries with
  | nil => rfl
  | cons entry entries ih => rw [textsInEntries, List.flatMap_cons, ih]

@[simp] theorem texts_text (key text : Text) : textsUnder key (.text text) = [] := rfl

@[simp] theorem texts_bool (key : Text) (value : Bool) : textsUnder key (.bool value) = [] := rfl

theorem textOf_apart {key name : Text} (apart : name ≠ key) (value : Json) : textOf key (name, value) = [] := by
  simp [textOf, apart]

theorem textOf_none {key : Text} {entry : Text × Json} (none : text? entry.2 = none) :
    textOf key entry = [] := by
  simp [textOf, none]

/-! ### What the schemas and the operations hold -/

/-- The keys of words that are written as they are given. -/
def wordKeys : List Text := ["openapi", "title", "description", "version", "type"]

section
variable {key : Text} (other : key ∉ wordKeys)
include other

private theorem type_apart : "type" ≠ key := fun same => other (by simp [wordKeys, ← same])

private theorem texts_property {table : Table} {entry : Text × Json} (member : entry ∈ properties table) :
    textOf key entry ++ textsUnder key entry.2 = [] := by
  rcases List.mem_cons.mp (mem_distinctKeys member) with rfl | field
  · simpa [object, textOf, text?] using type_apart other
  · obtain ⟨column, -, rfl⟩ := List.mem_map.mp field
    unfold fieldSchema
    split <;> simpa [object, textOf, text?] using type_apart other

/-- The schema of rows names fields and types and nothing else. -/
theorem texts_rowSchema (table : Table) : textsUnder key (rowSchema table) = [] := by
  rw [rowSchema, object, texts_object, List.flatMap_eq_nil_iff]
  simp only [List.map_cons, List.map_nil, List.forall_mem_cons]
  refine ⟨?type, ?properties, ?required, by simp⟩
  case type => simpa [textOf, text?] using type_apart other
  case properties =>
    rw [textOf_none rfl, texts_object]
    exact List.flatMap_eq_nil_iff.mpr fun _ member => texts_property other member
  case required =>
    rw [textOf_none rfl, texts_array]
    simp

theorem texts_outcomeSchema : textsUnder key outcomeSchema = [] := by
  simpa [outcomeSchema, object, textOf, text?] using type_apart other

end

/-- An operation names itself once. -/
theorem operation_id (operation : Operation) :
    textsUnder "operationId" operation.json = [operation.id] := by
  obtain ⟨verb, table, hasId⟩ := operation
  cases verb <;> cases hasId <;> rfl

/-! ### The whole document -/

/-- The path of a table's rows, or of one of them. -/
def tablePath (table : Text) (hasId : Bool) : Text := if hasId then rowPath table else collectionPath table

/-- The paths that a table sets, each with its operations. -/
def tablePaths (table : Table) : List (Text × List Operation) :=
  [false, true].map fun hasId =>
    (tablePath table.options.tableName hasId, operations table.options.tableName hasId)

/-- A table with a name and without fields. -/
def named (name : Text) : Table := { engine := .sqlite, options := { tableName := name } }

/-- The schemas that are set: that of outcomes, and one for each table. -/
def tableSchemas (tables : List Table) : List (Text × Json) :=
  (Content.outcomeName, outcomeSchema) :: tables.map fun table => (table.options.tableName, rowSchema table)

/-- The description of tables, without what is reported. -/
def described (info : Info) (tables : List Table) : Document := tables.foldl Document.add { info }

private theorem addLogged_result (document : Document) (table : Table) :
    (document.addLogged table).result = .ok (document.add table) := by
  unfold Document.addLogged
  dsimp only
  split <;> rfl

/-- Tables are described whatever their names are. -/
theorem ofTables_described (info : Info) (tables : List Table) :
    (Document.ofTables info tables).result = .ok (described info tables) := by
  rw [Document.ofTables, RowTransport.result_foldlM]
  simp only [addLogged_result]
  exact List.foldlM_pure

theorem described_paths (info : Info) (tables : List Table) :
    (described info tables).paths = distinctKeys (tables.flatMap tablePaths) := by
  rw [described, distinctKeys]
  change _ = (tables.flatMap tablePaths).foldl _ ({ info } : Document).paths
  generalize ({ info } : Document) = document
  induction tables generalizing document with
  | nil => rfl
  | cons table tables ih =>
    rw [List.foldl_cons, ih, List.flatMap_cons, List.foldl_append]
    rfl

theorem described_schemas (info : Info) (tables : List Table) :
    (described info tables).schemas = distinctKeys (tableSchemas tables) := by
  rw [described, distinctKeys, tableSchemas, List.foldl_cons]
  change _ = (tables.map _).foldl _ ({ info } : Document).schemas
  generalize ({ info } : Document) = document
  induction tables generalizing document with
  | nil => rfl
  | cons table tables ih =>
    rw [List.foldl_cons, ih, List.map_cons, List.foldl_cons]
    rfl

/-- What a document holds for a method of a path. -/
theorem at_operation (document : Document) (path verb : Text) (keys : List Text) :
    at? ("paths" :: path :: verb :: keys) document.json =
      (document.paths.find? (·.1 == path)).bind fun entry =>
        (entry.2.find? (·.verb.name == verb)).bind fun operation => at? keys operation.json := by
  have paths : property? "paths" document.json =
      some (.object (document.paths.map fun entry => (entry.1, OpenApi.path entry.2))) := rfl
  rw [at_cons, paths, Option.bind_some, at_cons, property?, Json.lookup?, List.find?_map]
  simp only [Function.comp_def, Option.map_map, Option.bind_map]
  congr 1
  funext entry
  simp only [at_cons, OpenApi.path, property?, Json.lookup?, List.find?_map, Option.map_map, Option.bind_map]
  rfl

/-- What a document holds under the name of a schema. -/
theorem at_schema (document : Document) (name : Text) :
    at? ["components", "schemas", name] document.json = Json.lookup? document.schemas name := by
  simp only [at_cons]
  exact Option.bind_fun_some (Json.lookup? document.schemas name)

section
variable {key : Text} (other : key ∉ wordKeys)
include other

private theorem texts_schemas (info : Info) (tables : List Table) :
    textsUnder key (.object (described info tables).schemas) = [] := by
  rw [texts_object, described_schemas, List.flatMap_eq_nil_iff]
  intro entry member
  rcases List.mem_cons.mp (mem_distinctKeys member) with rfl | table
  · rw [textOf_none rfl, texts_outcomeSchema other, List.nil_append]
  · obtain ⟨table, -, rfl⟩ := List.mem_map.mp table
    rw [textOf_none rfl, texts_rowSchema other, List.nil_append]

omit other in
private theorem texts_paths (paths : List (Text × List Operation)) :
    textsUnder key (.object (paths.map fun entry => (entry.1, path entry.2))) =
      paths.flatMap fun entry => entry.2.flatMap fun operation => textsUnder key operation.json := by
  simp only [texts_object, List.flatMap_map, path]
  refine List.flatMap_congr fun entry _ => ?_
  rw [textOf_none rfl, List.nil_append]
  exact List.flatMap_congr fun operation _ => by rw [textOf_none rfl, List.nil_append]

private theorem textOf_word {name : Text} (word : name ∈ wordKeys) (value : Json) :
    textOf key (name, value) = [] :=
  textOf_apart (fun same : name = key => other (same ▸ word)) value

private theorem texts_info (info : Info) : textsUnder key (object [("title", .text info.title),
    ("description", .text info.description), ("version", .text info.version)]) = [] := by
  rw [object, texts_object]
  simp only [List.map_cons, List.map_nil, List.flatMap_cons, List.flatMap_nil, texts_text]
  rw [textOf_word other (by decide), textOf_word other (by decide), textOf_word other (by decide)]
  rfl

/-- The names in a description of tables are those in its operations. -/
theorem texts_described (info : Info) (tables : List Table) :
    textsUnder key (described info tables).json =
      (described info tables).paths.flatMap fun entry =>
        entry.2.flatMap fun operation => textsUnder key operation.json := by
  have components : textsUnder key (object [("schemas", .object (described info tables).schemas)]) = [] := by
    rw [object, texts_object, List.map_singleton, List.flatMap_singleton, textOf_none rfl,
      texts_schemas other, List.nil_append]
  rw [Document.json, object, texts_object]
  simp only [List.map_cons, List.map_nil, List.flatMap_cons, List.flatMap_nil]
  rw [textOf_word other (by decide), texts_text, textOf_none rfl, textOf_none rfl, textOf_none rfl,
    texts_info other, components]
  simp only [List.nil_append, List.append_nil]
  exact texts_paths (described info tables).paths

end

/-! ### Paths and their operations -/

theorem mem_operations {operation : Operation} {table : Text} {hasId : Bool} :
    operation ∈ operations table hasId ↔
      operation.table = table ∧ operation.hasId = hasId ∧
        operation.verb ∈ if hasId then rowVerbs else collectionVerbs := by
  obtain ⟨verb, name, row⟩ := operation
  simp only [operations, List.mem_map, Operation.mk.injEq]
  exact ⟨by rintro ⟨_, listed, rfl, rfl, rfl⟩; exact ⟨rfl, rfl, listed⟩,
    by rintro ⟨rfl, rfl, listed⟩; exact ⟨_, listed, rfl, rfl, rfl⟩⟩

theorem mem_tablePaths {entry : Text × List Operation} {table : Table} :
    entry ∈ tablePaths table ↔
      ∃ hasId, entry = (tablePath table.options.tableName hasId, operations table.options.tableName hasId) := by
  simp only [tablePaths, List.map_cons, List.map_nil, List.mem_cons, List.not_mem_nil, or_false,
    Bool.exists_bool]

/-- A method is known from the beginning of a text: no two begin with the same two letters. -/
theorem verb_of_start {verb other : Verb} {rest after : Text}
    (same : verb.name ++ rest = other.name ++ after) : verb = other ∧ rest = after := by
  have long (verb : Verb) : 2 ≤ verb.name.length := by cases verb <;> decide
  have start : verb.name.take 2 = other.name.take 2 := by
    have front := congrArg (List.take 2) same
    rwa [List.take_append_of_le_length (long verb), List.take_append_of_le_length (long other)] at front
  obtain rfl : verb = other := by
    revert start
    cases verb <;> cases other <;> decide
  exact ⟨rfl, List.append_cancel_left same⟩

theorem verb_of_name {verb other : Verb} (same : verb.name = other.name) : verb = other :=
  (verb_of_start (congrArg (· ++ []) same)).1

/-- An operation is found by its method among those of its path. -/
theorem find_operation {operation : Operation} {table : Text} {hasId : Bool}
    (member : operation ∈ operations table hasId) :
    (operations table hasId).find? (·.verb.name == operation.verb.name) = some operation := by
  obtain ⟨rfl, rfl, listed⟩ := mem_operations.mp member
  obtain ⟨verb, table, hasId⟩ := operation
  cases hasId <;> cases verb <;> first | rfl | simp [rowVerbs, collectionVerbs] at listed

section
variable {info : Info} {tables : List Table}

/-- A path that is described has all operations of one table's path. -/
theorem entry_described {entry : Text × List Operation}
    (member : entry ∈ (described info tables).paths) : ∃ table ∈ tables, entry ∈ tablePaths table := by
  rw [described_paths] at member
  exact List.mem_flatMap.mp (mem_distinctKeys member)

theorem keys_nodup (info : Info) (tables : List Table) :
    ((described info tables).paths.map (·.1)).Nodup := by
  rw [described_paths]
  exact nodup_distinctKeys _

/-- An operation is found on the path of its own table. -/
theorem home_of_operation {entry : Text × List Operation} {operation : Operation}
    (listed : entry ∈ (described info tables).paths) (member : operation ∈ entry.2) :
    (∃ table ∈ tables, operation.table = table.options.tableName) ∧
      entry = (tablePath operation.table operation.hasId, operations operation.table operation.hasId) := by
  obtain ⟨table, among, own⟩ := entry_described listed
  obtain ⟨hasId, rfl⟩ := mem_tablePaths.mp own
  obtain ⟨name, row, -⟩ := mem_operations.mp member
  exact ⟨⟨table, among, name⟩, by rw [name, row]⟩

theorem tablePath_injective {table other : Text} {hasId : Bool}
    (same : tablePath table hasId = tablePath other hasId) : table = other := by
  cases hasId
  · exact (List.cons.inj same).2
  · exact List.append_cancel_right (List.cons.inj same).2

/-! ### Paths of their own -/

/-- No table's name is that of a table with a suffix. -/
def Unsuffixed (suffix : Text) (tables : List Table) : Prop :=
  ∀ table ∈ tables, ∀ other ∈ tables, other.options.tableName ≠ table.options.tableName ++ suffix

instance (suffix : Text) (tables : List Table) : Decidable (Unsuffixed suffix tables) :=
  inferInstanceAs (Decidable (∀ table ∈ tables, ∀ other ∈ tables, _ ≠ _))

/-- Paths coincide only where a table's name ends as the path of a row does. -/
theorem paths_distinct (distinct : (tables.map (·.options.tableName)).Nodup)
    (free : Unsuffixed "/\x7bid\x7d" tables) : ((tables.flatMap tablePaths).map (·.1)).Nodup := by
  rw [List.map_flatMap, List.nodup_flatMap]
  have apart {table other : Table} (here : table ∈ tables) (there : other ∈ tables) :
      collectionPath other.options.tableName ≠ rowPath table.options.tableName :=
    fun same => free table here other there (List.cons.inj same).2
  refine ⟨fun table member => ?_, ?_⟩
  · simpa [tablePaths, tablePath] using apart member member
  · refine (List.pairwise_map.mp distinct).imp_of_mem fun {table other} here there differ => ?_
    have collections : collectionPath other.options.tableName ≠ collectionPath table.options.tableName :=
      fun same => differ (@tablePath_injective _ _ false same.symm)
    have rows : rowPath other.options.tableName ≠ rowPath table.options.tableName :=
      fun same => differ (@tablePath_injective _ _ true same.symm)
    simp [Function.onFun, tablePaths, tablePath, collections, rows, apart here there, (apart there here).symm]

/-- If every table is found on its own paths, none of two coinciding paths has been overwritten, so there are
no such two. -/
theorem unsuffixed_of_paths
    (kept : ∀ table ∈ tables, tablePaths table ⊆ (described info tables).paths) :
    Unsuffixed "/\x7bid\x7d" tables := by
  intro table here other there same
  have row := kept table here (mem_tablePaths.mpr ⟨true, rfl⟩)
  have collection := kept other there (mem_tablePaths.mpr ⟨false, rfl⟩)
  have path : tablePath other.options.tableName false = tablePath table.options.tableName true :=
    congrArg (List.cons '/') same
  have clash := List.inj_on_of_nodup_map (keys_nodup info tables) collection row path
  -- one entry cannot have the two operations of a collection and the three of a row
  have count : 2 = 3 := congrArg (fun entry => entry.2.length) clash
  omega

end

end TableGate.InterfaceDocument
