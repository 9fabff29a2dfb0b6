import TableGate.Proofs.InterfaceDocument

/-! References to schemas. A reference is read as the document's readers do, apart from the way it is written:
as a pointer into the document, percent-encoded, whose parts lead from object to object. The schemas of all
tables and the one of outcomes stand under one roof, where a table takes its place whatever has been there. -/
namespace TableGate.SchemaReferences
open OpenApi InterfaceDocument Text
open OpenApi.Document (collectionPath rowPath)
open SchemaConformance (property?)

/-! ### Reading a reference -/

/-- A part of a pointer as it is meant: `~1` is a slash, `~0` is a tilde, and no other tilde stands in it. -/
def unescape? : Text → Option Text
  | [] => some []
  | '~' :: '0' :: rest => (unescape? rest).map ('~' :: ·)
  | '~' :: '1' :: rest => (unescape? rest).map ('/' :: ·)
  | c :: rest => if c = '~' then none else (unescape? rest).map (c :: ·)

/-- The keys that a reference leads through, from the whole document on. -/
def keys? : Text → Option (List Text)
  | '#' :: pointer =>
    match splitOn '/' (percentDecode pointer) with
    | [] :: parts => parts.mapM unescape?
    | _ => none
  | _ => none

/-- The reference to the schema of a name, as it is written. -/
def referenceTo (name : Text) : Text := "#/components/schemas/" ++ name

/-- The keys that lead to the schema of a name. -/
def schemaKeys (name : Text) : List Text := ["components", "schemas", name]

theorem unescape_plain {text : Text} (plain : '~' ∉ text) : unescape? text = some text := by
  induction text with
  | nil => rfl
  | cons c rest ih =>
    obtain ⟨other, later⟩ := not_or.mp (mt List.mem_cons.mpr plain)
    have first : c ≠ '~' := Ne.symm other
    rw [unescape?.eq_4 _ _ (fun _ same _ => first same) (fun _ same _ => first same), if_neg first, ih later]
    rfl

/-- The name of a schema is read from a reference to it where it has no characters that pointers give a
meaning of their own. -/
theorem keys_of_plain {name : Text} (slash : '/' ∉ name) (tilde : '~' ∉ name) (percent : '%' ∉ name) :
    keys? (referenceTo name) = some (schemaKeys name) := by
  have pointer : referenceTo name = '#' :: join ['/'] ([] :: schemaKeys name) := rfl
  have decoded : percentDecode (join ['/'] ([] :: schemaKeys name)) = join ['/'] ([] :: schemaKeys name) :=
    percentDecode_of_plain (by simp [join, schemaKeys, percent])
  have parts : splitOn '/' (join ['/'] ([] :: schemaKeys name)) = [] :: schemaKeys name :=
    splitOn_join (List.cons_ne_nil _ _) (by simp [schemaKeys, slash])
  rw [pointer, keys?, decoded, parts]
  simp [schemaKeys, unescape_plain, tilde]

/-! ### What references are to name -/

/-- A reference names the entry of a schema in a document. -/
def Names (document : Json) (reference : Text) (schema : Json) : Prop :=
  ∃ name, keys? reference = some (schemaKeys name) ∧ at? (schemaKeys name) document = some schema

/-- What a document holds under keys refers to one schema and to nothing else. -/
def Refers (document : Json) (keys : List Text) (schema : Json) : Prop :=
  ∃ part reference, at? keys document = some part ∧ textsUnder "$ref" part = [reference] ∧
    Names document reference schema

/-- The place of an operation's part in a document. -/
def placeOf (operation : Operation) (part : Text) : List Text :=
  ["paths", tablePath operation.table operation.hasId, operation.verb.name, part]

/-- Every reference of a document names an entry of its schemas. Answers with rows and the bodies of the
operations that take rows refer to the rows of the operation's own table, other answers to the outcome. -/
structure ReferencesResolve (tables : List Table) (document : Json) : Prop where
  entries : ∀ reference ∈ textsUnder "$ref" document, ∃ schema, Names document reference schema
  answers : ∀ table ∈ tables, ∀ hasId, ∀ operation ∈ operations table.options.tableName hasId,
    Refers document (placeOf operation "responses")
      (if operation.verb = .get then rowSchema table else outcomeSchema)
  bodies : ∀ table ∈ tables, ∀ hasId, ∀ operation ∈ operations table.options.tableName hasId,
    operation.verb = .post ∨ operation.verb = .put →
      Refers document (placeOf operation "requestBody") (rowSchema table)

/-- A table keeps out of the place of outcomes, and the reference to its rows leads to rows that are described
alike. -/
def Referable (tables : List Table) (table : Table) : Prop :=
  table.options.tableName ≠ Content.outcomeName ∧
    ∃ other ∈ tables, keys? (referenceTo table.options.tableName) = some (schemaKeys other.options.tableName) ∧
      rowSchema other = rowSchema table

/-- A name without the characters that pointers give a meaning of their own, apart from that of outcomes. -/
structure PlainName (name : Text) : Prop where
  slash : '/' ∉ name
  tilde : '~' ∉ name
  percent : '%' ∉ name
  own : name ≠ Content.outcomeName

/-! ### One operation -/

/-- What an answer refers to. -/
theorem answer_schema (operation : Operation) :
    operation.answer.schema = if operation.verb = .get then operation.table else Content.outcomeName := by
  obtain ⟨verb, table, hasId⟩ := operation
  cases verb <;> cases hasId <;> rfl

/-- A part of an operation holds one reference and no other. -/
def Holds (operation : Operation) (part reference : Text) : Prop :=
  ∃ value, at? [part] operation.json = some value ∧ textsUnder "$ref" value = [reference]

theorem answer_holds (operation : Operation) :
    Holds operation "responses" (referenceTo operation.answer.schema) := by
  obtain ⟨verb, table, hasId⟩ := operation
  cases verb <;> cases hasId <;> exact ⟨_, rfl, rfl⟩

theorem body_holds {operation : Operation} (taken : operation.verb = .post ∨ operation.verb = .put) :
    Holds operation "requestBody" (referenceTo operation.table) := by
  obtain ⟨verb, table, hasId⟩ := operation
  rcases taken with rfl | rfl <;> exact ⟨_, rfl, rfl⟩

/-- An operation refers to its table's rows and to the outcome only. -/
theorem reference_of_operation {operation : Operation} {reference : Text}
    (member : reference ∈ textsUnder "$ref" operation.json) :
    reference = referenceTo operation.table ∨ reference = referenceTo Content.outcomeName := by
  have texts : textsUnder "$ref" operation.json = referenceTo operation.answer.schema ::
      (operation.body?.map fun body => referenceTo body.schema).toList := by
    obtain ⟨verb, table, hasId⟩ := operation
    cases verb <;> cases hasId <;> rfl
  rw [texts, answer_schema] at member
  rcases List.mem_cons.mp member with rfl | body
  · split <;> simp
  · left
    unfold Operation.body? at body
    split at body <;> simp_all [Content.schema]

/-! ### The schemas of a description -/

section
variable {info : Info} {tables : List Table}

/-- The schema of outcomes is not one of rows: no field of a row is an array. -/
theorem rowSchema_ne (table : Table) : rowSchema table ≠ outcomeSchema := by
  intro same
  have messages : Json.lookup? (properties table) "messages" = some (object [("type", .text "array"),
      ("items", object [("type", .text "string")])]) := by
    have held : at? ["properties", "messages"] (rowSchema table) = at? ["properties", "messages"] outcomeSchema :=
      congrArg _ same
    rw [at_cons] at held
    exact (Option.bind_fun_some _).symm.trans held
  obtain ⟨entry, found, schema⟩ := Option.map_eq_some_iff.mp messages
  -- neither the row id nor a field has the two keywords of an array with the type of one
  rcases List.mem_cons.mp (mem_distinctKeys (List.mem_of_find?_eq_some found)) with rfl | own
  · simp [object] at schema
  · obtain ⟨column, -, rfl⟩ := List.mem_map.mp own
    dsimp only at schema
    unfold fieldSchema at schema
    split at schema <;> simp [object] at schema

/-- Every table's schema is in its place, also in that of the outcome. -/
theorem lookup_table (distinct : (tables.map (·.options.tableName)).Nodup) {table : Table}
    (among : table ∈ tables) :
    at? (schemaKeys table.options.tableName) (described info tables).json = some (rowSchema table) := by
  rw [schemaKeys, at_schema, described_schemas, Json.lookup?, find_distinctKeys, tableSchemas,
    List.reverse_cons, List.find?_append, ← List.map_reverse]
  have nodup : ((tables.reverse.map fun table => (table.options.tableName, rowSchema table)).map (·.1)).Nodup := by
    rw [List.map_map, List.map_reverse]
    exact List.nodup_reverse.mpr distinct
  rw [find_of_mem nodup (List.mem_map.mpr ⟨table, List.mem_reverse.mpr among, rfl⟩)]
  rfl

/-- The schema of outcomes is in its place as long as no table takes it. -/
theorem lookup_outcome (free : ∀ table ∈ tables, table.options.tableName ≠ Content.outcomeName) :
    at? (schemaKeys Content.outcomeName) (described info tables).json = some outcomeSchema := by
  rw [schemaKeys, at_schema, described_schemas, Json.lookup?, find_distinctKeys, tableSchemas,
    List.reverse_cons, List.find?_append, ← List.map_reverse]
  have none : (tables.reverse.map fun table => (table.options.tableName, rowSchema table)).find?
      (·.1 == Content.outcomeName) = none := by
    simpa using free
  rw [none]
  rfl

/-- What is found under a name is the schema of a table, or of outcomes. -/
theorem schema_of_name {name : Text} {schema : Json}
    (found : at? (schemaKeys name) (described info tables).json = some schema) :
    schema = outcomeSchema ∨ ∃ table ∈ tables, table.options.tableName = name ∧ rowSchema table = schema := by
  rw [schemaKeys, at_schema, described_schemas] at found
  obtain ⟨entry, first, rfl⟩ := Option.map_eq_some_iff.mp found
  have key : entry.1 = name := by simpa using List.find?_some first
  rcases List.mem_cons.mp (mem_distinctKeys (List.mem_of_find?_eq_some first)) with rfl | own
  · exact .inl rfl
  · obtain ⟨table, among, rfl⟩ := List.mem_map.mp own
    exact .inr ⟨table, among, key, rfl⟩

/-! ### The operations of a description -/

/-- Other methods than queries tell the paths of a table apart: what is found in the place of such an operation
belongs to this operation. -/
theorem operation_of_place {operation : Operation} {part : Text} {value : Json} (changes : operation.verb ≠ .get)
    (own : operation ∈ operations operation.table operation.hasId)
    (held : at? (placeOf operation part) (described info tables).json = some value) :
    (tablePath operation.table operation.hasId, operations operation.table operation.hasId) ∈
        (described info tables).paths ∧ at? [part] operation.json = some value := by
  rw [placeOf, at_operation] at held
  obtain ⟨entry, first, inner⟩ := Option.bind_eq_some_iff.mp held
  obtain ⟨found, second, last⟩ := Option.bind_eq_some_iff.mp inner
  have listed := List.mem_of_find?_eq_some first
  have member := List.mem_of_find?_eq_some second
  have path : entry.1 = tablePath operation.table operation.hasId := by simpa using List.find?_some first
  have verb : found.verb = operation.verb := verb_of_name (by simpa using List.find?_some second)
  obtain ⟨-, rfl⟩ := home_of_operation listed member
  -- only queries are found on both paths of a table
  have row : found.hasId = operation.hasId := by
    have here := (mem_operations.mp member).2.2
    have there := (mem_operations.mp own).2.2
    rw [verb] at here
    revert here there changes
    cases operation.verb <;> cases found.hasId <;> cases operation.hasId <;> decide
  have table : found.table = operation.table := by
    rw [row] at path
    exact tablePath_injective path
  obtain rfl : found = operation := by
    obtain ⟨_, _, _⟩ := found
    obtain ⟨_, _, _⟩ := operation
    cases verb; cases row; cases table; rfl
  exact ⟨listed, last⟩

/-- Where no path is overwritten, every operation of a table is in its place. -/
theorem at_place (distinct : (tables.map (·.options.tableName)).Nodup)
    (free : Unsuffixed "/\x7bid\x7d" tables) {table : Table} (among : table ∈ tables) {hasId : Bool}
    {operation : Operation} (own : operation ∈ operations table.options.tableName hasId) (part : Text) :
    at? (placeOf operation part) (described info tables).json = at? [part] operation.json := by
  obtain ⟨name, row, -⟩ := mem_operations.mp own
  have keys := paths_distinct distinct free
  have path : (tablePath operation.table operation.hasId, operations table.options.tableName hasId) ∈
      tables.flatMap tablePaths :=
    List.mem_flatMap.mpr ⟨table, among, mem_tablePaths.mpr ⟨hasId, by rw [name, row]⟩⟩
  rw [placeOf, at_operation, described_paths, distinctKeys_of_nodup keys, find_of_mem keys path,
    Option.bind_some, find_operation own, Option.bind_some]

/-! ### References that resolve -/

theorem names_of_refers {operation : Operation} {part reference : Text} {schema : Json}
    (changes : operation.verb ≠ .get) (own : operation ∈ operations operation.table operation.hasId)
    (holds : Holds operation part reference)
    (refers : Refers (described info tables).json (placeOf operation part) schema) :
    Names (described info tables).json reference schema := by
  obtain ⟨value, here, texts⟩ := holds
  obtain ⟨found, reference, held, foundTexts, names⟩ := refers
  obtain rfl := Option.some.inj (here.symm.trans (operation_of_place changes own held).2)
  obtain rfl := List.singleton_inj.mp (texts.symm.trans foundTexts)
  exact names

/-- If the references resolve, no table's path has been overwritten. -/
theorem unsuffixed_of_resolve (resolve : ReferencesResolve tables (described info tables).json) :
    Unsuffixed "/\x7bid\x7d" tables := by
  refine @unsuffixed_of_paths info tables fun table among entry own => ?_
  obtain ⟨hasId, rfl⟩ := mem_tablePaths.mp own
  obtain ⟨verb, allowed, changes, taken⟩ : ∃ verb : Verb, (verb ∈ if hasId then rowVerbs else collectionVerbs) ∧
      verb ≠ .get ∧ (verb = .post ∨ verb = .put) := by
    cases hasId
    · exact ⟨.post, by decide⟩
    · exact ⟨.put, by decide⟩
  have set : ⟨verb, table.options.tableName, hasId⟩ ∈ operations table.options.tableName hasId :=
    mem_operations.mpr ⟨rfl, rfl, allowed⟩
  obtain ⟨value, -, held, -⟩ := resolve.bodies table among hasId _ set taken
  exact (operation_of_place changes set held).1

theorem referable_of_resolve (distinct : (tables.map (·.options.tableName)).Nodup)
    (resolve : ReferencesResolve tables (described info tables).json) {table : Table} (among : table ∈ tables) :
    Referable tables table := by
  have set : ⟨.post, table.options.tableName, false⟩ ∈ operations table.options.tableName false :=
    mem_operations.mpr ⟨rfl, rfl, List.mem_cons_of_mem _ (List.mem_singleton.mpr rfl)⟩
  have changes : Verb.post ≠ .get := by decide
  constructor
  · intro same
    obtain ⟨name, keys, found⟩ :=
      names_of_refers changes set (answer_holds _) (resolve.answers table among false _ set)
    have outcome : keys? (referenceTo Content.outcomeName) = some (schemaKeys Content.outcomeName) :=
      keys_of_plain (by decide) (by decide) (by decide)
    have row : at? (schemaKeys table.options.tableName) (described info tables).json = some (rowSchema table) :=
      lookup_table distinct among
    rw [answer_schema, if_neg changes, outcome] at keys
    rw [same, Option.some.inj keys, found, if_neg changes] at row
    exact rowSchema_ne table (Option.some.inj row).symm
  · obtain ⟨name, keys, found⟩ :=
      names_of_refers changes set (body_holds (.inl rfl)) (resolve.bodies table among false _ set (.inl rfl))
    rcases schema_of_name found with outcome | ⟨other, listed, rfl, schema⟩
    · exact absurd outcome (rowSchema_ne table)
    · exact ⟨other, listed, keys, schema⟩

/-- The references resolve if every table's reference leads to its schema, nothing overwritten. -/
theorem resolve_of_referable (distinct : (tables.map (·.options.tableName)).Nodup)
    (free : Unsuffixed "/\x7bid\x7d" tables) (referable : ∀ table ∈ tables, Referable tables table) :
    ReferencesResolve tables (described info tables).json := by
  have rows {table : Table} (among : table ∈ tables) :
      Names (described info tables).json (referenceTo table.options.tableName) (rowSchema table) := by
    obtain ⟨-, other, listed, keys, schema⟩ := referable table among
    exact ⟨_, keys, schema ▸ lookup_table distinct listed⟩
  have outcome : Names (described info tables).json (referenceTo Content.outcomeName) outcomeSchema :=
    ⟨_, keys_of_plain (by decide) (by decide) (by decide),
      lookup_outcome fun table among => (referable table among).1⟩
  have refers {table : Table} (among : table ∈ tables) {hasId : Bool} {operation : Operation}
      (set : operation ∈ operations table.options.tableName hasId) {part reference : Text} {schema : Json}
      (holds : Holds operation part reference) (names : Names (described info tables).json reference schema) :
      Refers (described info tables).json (placeOf operation part) schema := by
    obtain ⟨value, here, texts⟩ := holds
    exact ⟨value, reference, (at_place distinct free among set part).trans here, texts, names⟩
  constructor
  case entries =>
    intro reference member
    rw [texts_described (by decide)] at member
    obtain ⟨entry, listed, inner⟩ := List.mem_flatMap.mp member
    obtain ⟨operation, own, text⟩ := List.mem_flatMap.mp inner
    obtain ⟨⟨table, among, name⟩, -⟩ := home_of_operation listed own
    rcases reference_of_operation text with rfl | rfl
    · exact ⟨_, name ▸ rows among⟩
    · exact ⟨_, outcome⟩
  case answers =>
    intro table among hasId operation set
    refine refers among set (answer_holds operation) ?_
    rw [answer_schema, (mem_operations.mp set).1]
    split
    · exact rows among
    · exact outcome
  case bodies =>
    intro table among hasId operation set taken
    refine refers among set (body_holds taken) ?_
    rw [(mem_operations.mp set).1]
    exact rows among

theorem referable_of_plain {table : Table} (among : table ∈ tables) (plain : PlainName table.options.tableName) :
    Referable tables table :=
  ⟨plain.own, table, among, keys_of_plain plain.slash plain.tilde plain.percent, rfl⟩

end

/-- **References to schemas resolve** exactly if no table's path is overwritten and every table is referable, as
all are whose names are plain. -/
theorem references_resolve_iff (info : Info) (tables : List Table)
    (distinct : (tables.map (·.options.tableName)).Nodup) :
    ∃ document, (Document.ofTables info tables).result = .ok document ∧
      (ReferencesResolve tables document.json ↔
        Unsuffixed "/\x7bid\x7d" tables ∧ ∀ table ∈ tables, Referable tables table) ∧
      ((∀ table ∈ tables, PlainName table.options.tableName) → ReferencesResolve tables document.json) := by
  refine ⟨_, ofTables_described info tables, ⟨fun resolve => ?_, fun ⟨free, referable⟩ => ?_⟩, fun plain => ?_⟩
  · exact ⟨unsuffixed_of_resolve resolve, fun table among => referable_of_resolve distinct resolve among⟩
  · exact resolve_of_referable distinct free referable
  · refine resolve_of_referable distinct (fun table _ other among same => ?_)
      fun table among => referable_of_plain among (plain table among)
    exact (plain other among).slash (by simp [same])

/-- Two tables with plain names. -/
theorem plain_references :
    ∃ document, (Document.ofTables {} [named "orders", named "items"]).result = .ok document ∧
      ReferencesResolve [named "orders", named "items"] document.json := by
  obtain ⟨document, made, -, plain⟩ := references_resolve_iff {} [named "orders", named "items"] (by decide)
  refine ⟨document, made, plain fun table among => ?_⟩
  rcases List.mem_pair.mp among with rfl | rfl <;> constructor <;> decide

/-- A table with the name of outcomes takes their place: its answers to insertions, updates and deletions refer
to its own rows. -/
theorem outcome_replaced :
    ([named Content.outcomeName].map (·.options.tableName)).Nodup ∧
      ∃ document, (Document.ofTables {} [named Content.outcomeName]).result = .ok document ∧
        Names document.json (referenceTo Content.outcomeName) (rowSchema (named Content.outcomeName)) ∧
        ¬ ReferencesResolve [named Content.outcomeName] document.json := by
  have distinct : ([named Content.outcomeName].map (·.options.tableName)).Nodup := by decide
  have among : named Content.outcomeName ∈ [named Content.outcomeName] := List.mem_singleton.mpr rfl
  refine ⟨distinct, _, ofTables_described _ _, ?_, fun resolve => ?_⟩
  · exact ⟨_, keys_of_plain (by decide) (by decide) (by decide), lookup_table distinct among⟩
  · exact (referable_of_resolve distinct resolve among).1 rfl

end TableGate.SchemaReferences
