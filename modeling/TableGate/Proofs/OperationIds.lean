import Mathlib.Data.List.Nodup
import Mathlib.Data.List.Perm.Subperm
import TableGate.Proofs.InterfaceDocument

/-! The names of operations. A name is put together from a method, a table and, on the rows of the table, one
more word, with nothing between them; what it names can be read from it exactly as long as no table's name
ends in that word behind the name of another one. -/
namespace TableGate.OperationIds
open OpenApi InterfaceDocument

variable {info : Info} {tables : List Table}

/-! ### One name -/

/-- Two names are the same only for one operation, or for the rows of a table and a row of another one whose
name ends in the word behind the first name. -/
theorem eq_of_id {operation other : Operation} (same : operation.id = other.id)
    (behind : other.table ≠ operation.table ++ "All") (front : operation.table ≠ other.table ++ "All") :
    operation = other := by
  obtain ⟨verb, table, hasId⟩ := operation
  obtain ⟨otherVerb, otherTable, otherHasId⟩ := other
  simp only [Operation.id, List.append_assoc] at same behind front
  obtain ⟨rfl, rest⟩ := verb_of_start same
  cases hasId <;> cases otherHasId
  · rw [List.append_cancel_right rest]
  · exact absurd (by simpa using rest.symm) behind
  · exact absurd (by simpa using rest) front
  · rw [List.append_cancel_right rest]

/-! ### All operations -/

/-- The operations of a document. -/
def allOperations (document : Document) : List Operation := document.paths.flatMap (·.2)

theorem ids_described : textsUnder "operationId" (described info tables).json =
    (allOperations (described info tables)).map (·.id) := by
  simp only [texts_described (by decide : ("operationId" : Text) ∉ wordKeys), operation_id, allOperations,
    List.map_flatMap, ← List.map_eq_flatMap]

theorem operations_nodup (table : Text) (hasId : Bool) : (operations table hasId).Nodup := by
  cases hasId <;> simp [operations, rowVerbs, collectionVerbs]

/-- No operation is described twice. -/
theorem allOperations_nodup : (allOperations (described info tables)).Nodup := by
  rw [allOperations, List.nodup_flatMap]
  constructor
  · intro entry listed
    obtain ⟨table, -, own⟩ := entry_described listed
    obtain ⟨hasId, rfl⟩ := mem_tablePaths.mp own
    exact operations_nodup _ _
  · refine (List.pairwise_map.mp (keys_nodup info tables)).imp_of_mem fun {entry other} here there differ => ?_
    intro operation first second
    refine differ ?_
    rw [(home_of_operation here first).2, (home_of_operation there second).2]

/-- Without tables that are named like another one and the word behind it, no name is used twice. -/
theorem ids_nodup (apart : Unsuffixed "All" tables) :
    ((allOperations (described info tables)).map (·.id)).Nodup := by
  refine allOperations_nodup.map_on fun operation first other second same => ?_
  obtain ⟨entry, listed, member⟩ := List.mem_flatMap.mp first
  obtain ⟨otherEntry, otherListed, otherMember⟩ := List.mem_flatMap.mp second
  obtain ⟨⟨table, among, name⟩, -⟩ := home_of_operation listed member
  obtain ⟨⟨otherTable, otherAmong, otherName⟩, -⟩ := home_of_operation otherListed otherMember
  refine eq_of_id same ?_ ?_
  · rw [name, otherName]
    exact apart table among otherTable otherAmong
  · rw [name, otherName]
    exact apart otherTable otherAmong table among

/-! ### Five operations for each table -/

/-- The operations that are set for tables. -/
def setOperations (tables : List Table) : List Operation := (tables.flatMap tablePaths).flatMap (·.2)

theorem length_setOperations : (setOperations tables).length = 5 * tables.length := by
  induction tables with
  | nil => rfl
  | cons table tables ih =>
    have five : ((tablePaths table).flatMap (·.2)).length = 5 := rfl
    rw [setOperations, List.flatMap_cons, List.flatMap_append, List.length_append, five, ← setOperations, ih,
      List.length_cons]
    omega

theorem allOperations_subset : allOperations (described info tables) ⊆ setOperations tables := by
  intro operation member
  obtain ⟨entry, listed, among⟩ := List.mem_flatMap.mp member
  rw [described_paths] at listed
  exact List.mem_flatMap.mpr ⟨entry, mem_distinctKeys listed, among⟩

theorem mem_setOperations {table : Table} {verb : Verb} (hasId : Bool) (among : table ∈ tables)
    (allowed : verb ∈ if hasId then rowVerbs else collectionVerbs) :
    ⟨verb, table.options.tableName, hasId⟩ ∈ setOperations tables := by
  refine List.mem_flatMap.mpr ⟨_, List.mem_flatMap.mpr ⟨table, among, mem_tablePaths.mpr ⟨hasId, rfl⟩⟩, ?_⟩
  exact mem_operations.mpr ⟨rfl, rfl, allowed⟩

/-- Where no path is overwritten, everything that is set is described. -/
theorem allOperations_eq (distinct : (tables.map (·.options.tableName)).Nodup)
    (free : Unsuffixed "/\x7bid\x7d" tables) : allOperations (described info tables) = setOperations tables := by
  rw [allOperations, described_paths, distinctKeys_of_nodup (paths_distinct distinct free), setOperations]

/-- If all operations are described, every path is there with the operations of its own table. -/
theorem unsuffixed_of_full (full : (allOperations (described info tables)).length = 5 * tables.length) :
    Unsuffixed "/\x7bid\x7d" tables := by
  -- different operations among those that are set, and as many of them, are all of them
  have all : (allOperations (described info tables)).Perm (setOperations tables) :=
    (List.subperm_of_subset allOperations_nodup allOperations_subset).perm_of_length_le
      (by rw [full, length_setOperations])
  refine @unsuffixed_of_paths info tables fun table among entry own => ?_
  obtain ⟨hasId, rfl⟩ := mem_tablePaths.mp own
  have allowed : Verb.get ∈ if hasId then rowVerbs else collectionVerbs := by cases hasId <;> decide
  have listed := all.mem_iff.mpr (mem_setOperations hasId among allowed)
  obtain ⟨entry, kept, member⟩ := List.mem_flatMap.mp listed
  obtain ⟨-, rfl⟩ := home_of_operation kept member
  exact kept

/-- Where everything is described, a name is used twice if a table is named like another one and the word
behind it: for the rows of the one and for a row of the other. -/
theorem unsuffixed_of_nodup (all : allOperations (described info tables) = setOperations tables)
    (nodup : ((allOperations (described info tables)).map (·.id)).Nodup) : Unsuffixed "All" tables := by
  intro table here other there same
  rw [all] at nodup
  have rows := mem_setOperations false here (by decide : Verb.get ∈ collectionVerbs)
  have row := mem_setOperations true there (by decide : Verb.get ∈ rowVerbs)
  have ids : (⟨.get, table.options.tableName, false⟩ : Operation).id =
      (⟨.get, other.options.tableName, true⟩ : Operation).id := by
    simp [Operation.id, same]
  have equal := List.inj_on_of_nodup_map nodup rows row ids
  exact Bool.noConfusion (congrArg Operation.hasId equal)

/-- **Operation ids are unique** if no table is named like another one with `All` behind its name. Then every
table has its five operations if, besides, no table is named like another one with the end of a row's path
behind its name, and these two conditions are the exact ones. -/
theorem operation_ids_unique_iff (info : Info) (tables : List Table)
    (distinct : (tables.map (·.options.tableName)).Nodup) :
    ∃ document, (Document.ofTables info tables).result = .ok document ∧
      let ids := textsUnder "operationId" document.json
      (Unsuffixed "All" tables → ids.Nodup) ∧
        (ids.length = 5 * tables.length ↔ Unsuffixed "/{id}" tables) ∧
        (ids.Nodup ∧ ids.length = 5 * tables.length ↔
          Unsuffixed "All" tables ∧ Unsuffixed "/{id}" tables) := by
  refine ⟨_, ofTables_described info tables, ?_⟩
  dsimp only
  rw [ids_described, List.length_map]
  have five : (allOperations (described info tables)).length = 5 * tables.length ↔
      Unsuffixed "/{id}" tables :=
    ⟨unsuffixed_of_full, fun free => by rw [allOperations_eq distinct free, length_setOperations]⟩
  refine ⟨ids_nodup, five, fun ⟨nodup, full⟩ => ?_, fun ⟨apart, free⟩ => ⟨ids_nodup apart, five.mpr free⟩⟩
  have free := five.mp full
  exact ⟨unsuffixed_of_nodup (allOperations_eq distinct free) nodup, free⟩

/-! ### Two tables -/

/-- The names of two tables that have nothing to do with each other. -/
theorem unrelated_ids :
    ∃ document, (Document.ofTables {} [named "orders", named "items"]).result = .ok document ∧
      let ids := textsUnder "operationId" document.json
      ids.Nodup ∧ ids.length = 10 := by
  obtain ⟨document, made, -, -, unique⟩ :=
    operation_ids_unique_iff {} [named "orders", named "items"] (by decide)
  exact ⟨document, made, unique.mpr (by decide)⟩

/-- The rows of `x` and a row of `xAll` are queried by operations of one name. -/
theorem suffixed_ids :
    ([named "x", named "xAll"].map (·.options.tableName)).Nodup ∧
      ∃ document, (Document.ofTables {} [named "x", named "xAll"]).result = .ok document ∧
        ¬ (textsUnder "operationId" document.json).Nodup := by
  refine ⟨by decide, _, rfl, ?_⟩
  decide

end TableGate.OperationIds
