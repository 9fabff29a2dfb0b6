import TableGate.Proofs.PrintingFaults
import TableGate.Proofs.RowConstraints

/-! Who an error is blamed on. A request that is given to the database fails with the code of a server
error where the database does; one that is not is the sender's to mend, except where printing its
statement breaks. The exceptions are stated of the request and of the rows of its body. -/
namespace TableGate.ServerErrors
open Contracts Fallible BodyRows BatchAtomicity RowConstraints ConsistentAnswers PrintingFaults

/-- The database fails on a statement: it raises a fault that is not the sender's, or it reports an
error. -/
def Fails (database : Database) (statement : Text) : Prop :=
  match database statement with
  | .error fault => faultCode fault = 500
  | .ok result => (Outcome.firstError? result.messages).isSome = true

/-- A row of a batch that may be written, with a statement that breaks at the row's own id. -/
structure RowStalls (write : BatchWrite) (table : Table) (row : Row) : Prop where
  passed : write.passes table row = true
  assigns : write = .replace → Assigns table row
  located : ∃ id, table.rowId true row = .ok id ∧ IdBreaks table id

/-- A request with a statement that breaks. -/
inductive RequestStalls (table : Table) (word id : Text) (rows : List Row) (query : Query) : Prop where
  | query (named : Method.ofText word = .get) (breaks : QueryBreaks table id query) :
      RequestStalls table word id rows query
  | update (named : Method.ofText word = .put) (given : id ≠ []) (row : Row) (single : rows = [row])
      (passed : BatchWrite.replace.passes table row = true) (assigns : Assigns table row)
      (breaks : IdBreaks table id) : RequestStalls table word id rows query
  | deletion (named : Method.ofText word = .delete) (given : id ≠ []) (breaks : IdBreaks table id) :
      RequestStalls table word id rows query

/-- A batch with a statement that breaks, behind rows that raise nothing. -/
inductive BatchStalls (table : Table) (word : Text) (rows : List Row) : Prop where
  | row (write : BatchWrite) (locates : write ≠ .create) (named : Method.ofText word = write.method)
      (before : List Row) (row : Row) (after : List Row) (split : rows = before ++ row :: after)
      (calm : ∀ earlier ∈ before, ¬ Raises write table earlier) (stalls : RowStalls write table row) :
      BatchStalls table word rows

/-- An answer has a code of its own for each kind of failure: it is that of a server error exactly where
the request stalls, or where the database fails on a statement that it was given. A request that stalls
gives it none. -/
structure Blames (database : Database) (stalls : Prop) (answer : Exchange) : Prop where
  codes : answer.outcome.code ∈ [200, 400, 405, 500]
  server : answer.outcome.code = 500 ↔
    stalls ∨ ∃ statement ∈ answer.statements, Fails database statement
  silent : stalls → answer.statements = []

variable {table : Table} {database : Database} {word id : Text} {request : Request} {stalls : Prop}
  {answer : Exchange} {batch : Batch} {row : Row} {rows : List Row} {requireKey : Bool}
  {operation : Text} {records : List LogRecord}

/-! ### Answers -/

private theorem refused_blames {code : Int} (refused : Refused code answer)
    (known : code ∈ [400, 405, 500]) (own : stalls ↔ code = 500) : Blames database stalls answer := by
  constructor
  · rw [refused.failed.code]
    exact List.mem_cons_of_mem _ known
  · simp [refused.failed.code, refused.silent, own]
  · exact fun _ => refused.silent

private theorem fault_blames {fault : Fault} (refused : Refused (faultCode fault) answer)
    (own : stalls ↔ faultCode fault = 500) : Blames database stalls answer := by
  refine refused_blames refused ?_ own
  rcases faultCode_cases fault with code | code <;> rw [code] <;> decide

private theorem asked_blames {queries : Bool} {statement : Text}
    (asked : Asked database queries statement answer) (calm : ¬ stalls) :
    Blames database stalls answer := by
  suffices verdict : answer.outcome.code ∈ [200, 400, 405, 500] ∧
      (answer.outcome.code = 500 ↔ Fails database statement) by
    refine ⟨verdict.1, ?_, fun holds => absurd holds calm⟩
    simp [verdict.2, asked.given, calm]
  have judged := asked.judged
  unfold Fails
  cases answered : database statement with
  | error fault =>
    rw [answered] at judged
    rw [judged.1.code]
    refine ⟨?_, Iff.rfl⟩
    rcases faultCode_cases fault with code | code <;> rw [code] <;> decide
  | ok result =>
    rw [answered] at judged
    simp only [Judged] at judged ⊢
    split at judged
    · rename_i error reported
      simp [judged.1.code, reported]
    · rename_i reported
      simp [judged.1.code, reported]

/-! ### Batches -/

/-- The fault that a row leaves a batch with. -/
def raised (check : Row → Except Fault Bool) (print : Row → Except Fault Text) (row : Row) : Option Fault :=
  match check row with
  | .error fault => some fault
  | .ok false => none
  | .ok true =>
    match print row with
    | .error fault => some fault
    | .ok _ => none

private theorem batchRow_fault {print : Row → Except Fault Text} :
    (table.batchRow requireKey operation print batch row).fault = batch.fault.or
      (raised (fun row => (table.rowProblems requireKey row).map (·.all (·.2.isWarning))) print row) := by
  have checked := row_outcome_success table requireKey row
  unfold Table.batchRow raised
  dsimp only
  rw [← checked]
  cases running : batch.fault with
  | some fault => simp [running]
  | none =>
    cases looked : table.rowOutcome requireKey row with
    | error fault => simp [Except.map]
    | ok outcome =>
      have verdict := (accept_row table operation batch.outcome outcome).1
      cases written : outcome.success with
      | false => simp [Except.map, verdict, written]
      | true =>
        simp only [Except.map, verdict, written]
        cases print row <;> simp

private theorem batchDelete_fault : (table.batchDelete batch row).fault = batch.fault.or
    (raised (BatchWrite.remove.examine table) (BatchWrite.remove.statement table) row) := by
  cases running : batch.fault with
  | some fault => simp [Table.batchDelete, running]
  | none =>
    unfold raised
    cases looked : table.keyValues true row with
    | error fault => simp [Table.batchDelete, BatchWrite.examine, running, looked, Except.map]
    | ok values =>
      have examined : BatchWrite.remove.examine table row =
          .ok (!values.isEmpty && !values.contains []) := by
        simp only [BatchWrite.examine, looked, Except.map]
      rw [examined]
      cases present : !values.isEmpty && !values.contains [] with
      | false =>
        obtain ⟨outcome, same, -⟩ := batch_delete_missing running looked present
        rw [same]
        exact running
      | true =>
        have printed : BatchWrite.remove.statement table row =
            table.deleteSql (table.settings.joinId values) := by
          rw [BatchWrite.statement, looked]
          rfl
        rw [batch_delete_present running looked present, printed]
        cases table.deleteSql (table.settings.joinId values) with
        | error fault => rfl
        | ok text => exact running

private theorem run_fault {step : Batch → Row → Batch} {raises : Row → Option Fault}
    (own : ∀ batch row, (step batch row).fault = batch.fault.or (raises row)) :
    (rows.foldl step batch).fault = batch.fault.or (rows.findSome? raises) := by
  induction rows generalizing batch with
  | nil => simp
  | cons row rows ih =>
    rw [List.foldl_cons, ih, own, List.findSome?_cons]
    cases batch.fault <;> cases raises row <;> simp

/-! ### Rows of a batch -/

variable {write : BatchWrite}

private theorem passes_iff : write.passes table row = true ↔ write.examine table row = .ok true := by
  unfold BatchWrite.passes
  cases write.examine table row <;> simp

private theorem raised_none : raised (write.examine table) (write.statement table) row = none ↔
    ¬ Raises write table row := by
  unfold raised Raises
  rw [passes_iff]
  cases examined : write.examine table row with
  | error fault => simp
  | ok passed =>
    cases passed with
    | false => simp
    | true => cases write.statement table row <;> simp

private theorem keys_unbroken (spelled : RowSpelled row) : ¬ Breaks (table.keyValues true row) :=
  values_unbroken (keyValues_ensures true spelled)

private theorem examine_unbroken (spelled : RowSpelled row) : ¬ Breaks (write.examine table row) := by
  have checked (requireKey : Bool) :
      ¬ Breaks ((table.rowProblems requireKey row).map (·.all (·.2.isWarning))) := by
    obtain ⟨problems, found⟩ := problems_total requireKey spelled
    rw [found]
    simp [Except.map]
  cases write with
  | create => exact checked _
  | replace => exact checked _
  | remove => exact fun breaks => keys_unbroken spelled (FailsWith.map_iff.mp breaks)

/-- What a row of a text raises is a server error exactly where the row passes and its statement
breaks. -/
private theorem raised_breaks {check : Row → Except Fault Bool} (calm : ¬ Breaks (check row))
    (print : Row → Except Fault Text) :
    (∃ fault, raised check print row = some fault ∧ faultCode fault = 500) ↔
      check row = .ok true ∧ Breaks (print row) := by
  unfold raised
  cases checked : check row with
  | error fault =>
    rw [checked] at calm
    simpa using calm
  | ok passed =>
    cases passed with
    | false => simp
    | true => cases print row <;> simp

private theorem statement_breaks (spelled : RowSpelled row) (locates : write ≠ .create) :
    Breaks (write.statement table row) ↔
      (write = .replace → Assigns table row) ∧ ∃ id, table.rowId true row = .ok id ∧ IdBreaks table id := by
  cases write with
  | create => exact absurd rfl locates
  | replace =>
    have unbroken : ¬ Breaks (table.rowId true row) :=
      fun breaks => keys_unbroken spelled (FailsWith.map_iff.mp breaks)
    rw [BatchWrite.statement, breaks_bind, or_iff_right unbroken]
    simp only [update_breaks spelled, true_implies]
    constructor
    · rintro ⟨id, own, assigns, breaks⟩
      exact ⟨assigns, id, own, breaks⟩
    · rintro ⟨assigns, id, own, breaks⟩
      exact ⟨id, own, assigns, breaks⟩
  | remove =>
    rw [BatchWrite.statement, breaks_bind, or_iff_right (keys_unbroken spelled)]
    simp [delete_breaks, Table.rowId, map_eq_ok]

/-- Rows of a text raise a server error exactly where one of them stalls behind rows that raise
nothing. -/
private theorem rows_stall (write : BatchWrite) (spelled : ∀ row ∈ rows, RowSpelled row)
    (locates : write ≠ .create) :
    (∃ fault, rows.findSome? (raised (write.examine table) (write.statement table)) = some fault ∧
        faultCode fault = 500) ↔
      ∃ before row after, rows = before ++ row :: after ∧
        (∀ earlier ∈ before, ¬ Raises write table earlier) ∧ RowStalls write table row := by
  have row_stalls {row : Row} (member : row ∈ rows) :
      (∃ fault, raised (write.examine table) (write.statement table) row = some fault ∧
        faultCode fault = 500) ↔ RowStalls write table row := by
    have own := spelled row member
    rw [raised_breaks (examine_unbroken own) _, ← passes_iff, statement_breaks own locates]
    constructor
    · rintro ⟨passed, assigns, located⟩
      exact ⟨passed, assigns, located⟩
    · rintro ⟨passed, assigns, located⟩
      exact ⟨passed, assigns, located⟩
  constructor
  · rintro ⟨fault, found, code⟩
    obtain ⟨before, row, after, rfl, own, calm⟩ := List.findSome?_eq_some_iff.mp found
    refine ⟨before, row, after, rfl, fun earlier member => raised_none.mp (calm earlier member), ?_⟩
    exact (row_stalls (by simp)).mp ⟨fault, own, code⟩
  · rintro ⟨before, row, after, rfl, calm, stalls⟩
    obtain ⟨fault, own, code⟩ := (row_stalls (by simp)).mpr stalls
    refine ⟨fault, List.findSome?_eq_some_iff.mpr ⟨before, row, after, rfl, own, ?_⟩, code⟩
    exact fun earlier member => raised_none.mpr (calm earlier member)

/-! ### Operations -/

private theorem batch_blames (sound : Sound batch.outcome)
    (own : stalls ↔ ∃ fault, batch.fault = some fault ∧ faultCode fault = 500) :
    Blames database stalls (batch.execute table database operation word { records }) := by
  have ends := batch_ends table database operation word records sound
  cases ended : batch.fault with
  | some fault =>
    rw [ended] at ends own
    exact fault_blames ends (own.trans (by simp))
  | none =>
    rw [ended] at ends own
    have calm : ¬ stalls := fun holds => by simpa using own.mp holds
    rcases ends with refused | asked
    · exact refused_blames refused (by decide) (iff_of_false calm (by decide))
    · exact asked_blames asked calm

private theorem query_blames : Blames database (QueryBreaks table id request.query)
    (table.query database id request { records }) := by
  have ends := query_ends table database id request records
  cases printed : table.selectSql id request.query with
  | error fault =>
    rw [printed] at ends
    exact fault_blames ends (by simp [← select_breaks, printed])
  | ok statement =>
    rw [printed] at ends
    exact asked_blames ends (by simp [← select_breaks, printed])

private theorem remove_blames :
    Blames database (IdBreaks table id) (table.remove database id { records }) := by
  unfold Table.remove
  dsimp only
  rw [← delete_breaks]
  cases table.deleteSql id with
  | error fault => exact batch_blames (.inl ⟨rfl, rfl, rfl⟩) (by simp)
  | ok statement => exact batch_blames (.inl ⟨rfl, rfl, rfl⟩) (by simp)

/-- What is said of the first fault of the rows is said of the request. -/
private theorem rows_blame {step : Batch → Row → Batch} {raises : Row → Option Fault}
    (sound : ∀ batch row, Sound batch.outcome → Sound (step batch row).outcome)
    (raise : ∀ batch row, (step batch row).fault = batch.fault.or (raises row))
    (own : stalls ↔ ∃ fault, rows.findSome? raises = some fault ∧ faultCode fault = 500) :
    Blames database stalls ((rows.foldl step {}).execute table database operation word { records }) := by
  refine batch_blames (sound_run sound rows (.inl ⟨rfl, rfl, rfl⟩)) ?_
  rw [run_fault raise, Option.none_or]
  exact own

private theorem create_blames (spelled : ∀ row ∈ rows, RowSpelled row) :
    Blames database False (table.create database rows { records }) := by
  refine rows_blame (fun _ _ => sound_batchRow) (fun _ _ => batchRow_fault) ?_
  rw [false_iff]
  rintro ⟨fault, found, code⟩
  obtain ⟨row, member, own⟩ := List.exists_of_findSome?_eq_some found
  have calm : ¬ Breaks (BatchWrite.create.examine table row) := examine_unbroken (spelled row member)
  have broken := ((raised_breaks calm _).mp ⟨fault, own, code⟩).2
  exact values_unbroken (insert_ensures (spelled row member)) broken

private theorem replace_blames (spelled : ∀ row ∈ rows, RowSpelled row) :
    Blames database
      (∃ before row after, rows = before ++ row :: after ∧
        (∀ earlier ∈ before, ¬ Raises .replace table earlier) ∧ RowStalls .replace table row)
      (table.replace database [] rows { records }) :=
  rows_blame (fun _ _ => sound_batchRow) (fun _ _ => batchRow_fault)
    (rows_stall .replace spelled nofun).symm

private theorem removeAll_blames (spelled : ∀ row ∈ rows, RowSpelled row) :
    Blames database
      (∃ before row after, rows = before ++ row :: after ∧
        (∀ earlier ∈ before, ¬ Raises .remove table earlier) ∧ RowStalls .remove table row)
      (table.removeAll database rows { records }) :=
  rows_blame (fun _ _ => sound_batchDelete) (fun _ _ => batchDelete_fault)
    (rows_stall .remove spelled nofun).symm

private theorem update_blames (spelled : RowSpelled row) (given : id ≠ []) :
    Blames database
      (BatchWrite.replace.passes table row = true ∧ Assigns table row ∧ IdBreaks table id)
      (table.replace database id [row] { records }) := by
  refine rows_blame (fun _ _ => sound_batchRow) (fun _ _ => batchRow_fault) ?_
  have print : printUpdate table id row = table.updateSql id row := by
    simp [printUpdate, Table.updateId, List.isEmpty_eq_false_iff.mpr given, bind, Except.bind]
  have calm : ¬ Breaks (BatchWrite.replace.examine table row) := examine_unbroken spelled
  have single := raised_breaks calm (printUpdate table id)
  rw [← passes_iff, print, update_breaks spelled] at single
  refine single.symm.trans (exists_congr fun fault => and_congr_left fun _ => ?_)
  have only : [row].findSome? (raised (BatchWrite.replace.examine table) (printUpdate table id)) =
      raised (BatchWrite.replace.examine table) (printUpdate table id) row := by
    rw [List.findSome?_cons]
    split
    · rename_i found
      exact found.symm
    · rename_i found
      exact found.symm
  exact iff_of_eq (congrArg (· = some fault) only.symm)

/-! ### Requests -/

private theorem blames_congr {other : Prop} (blames : Blames database stalls answer)
    (same : other ↔ stalls) : Blames database other answer := by
  rwa [propext same]

/-- The rows of a text, or of no body, have cells with texts. -/
private theorem text_rows_spelled (table : Table) (request : Request) (source : Option Text) :
    ∀ row ∈ (table.readBody request (source.map .text) {}).1, RowSpelled row := by
  cases source with
  | none => exact nofun
  | some source =>
    unfold Table.readBody
    dsimp only [Option.map]
    split
    · rename_i rows read
      exact (text_body table request.bodyType request.boundary source).ok read
    · exact nofun

private theorem refuse_blames {code : Int} {text : Text} (client : code = 400 ∨ code = 405)
    (calm : ¬ stalls) : Blames database stalls (Exchange.fail { records } code text operation) := by
  refine refused_blames (fail_refused rfl rfl) ?_ (iff_of_false calm ?_)
  · rcases client with rfl | rfl <;> decide
  · rcases client with rfl | rfl <;> decide

private theorem unread_blames {body : Option Body} (unread : Refused 400 (table.readBody request body {}).2)
    (calm : ¬ stalls) : Blames database stalls (table.readBody request body {}).2 :=
  refused_blames unread (by decide) (iff_of_false calm (by decide))

/-- What it is for a request to stall, by its method. -/
private theorem request_stalls {query : Query} : RequestStalls table word id rows query ↔
    match Method.ofText word with
    | .get => QueryBreaks table id query
    | .put => id ≠ [] ∧ ∃ row, rows = [row] ∧
        BatchWrite.replace.passes table row = true ∧ Assigns table row ∧ IdBreaks table id
    | .delete => id ≠ [] ∧ IdBreaks table id
    | _ => False := by
  constructor
  · rintro (⟨named, breaks⟩ | ⟨named, given, row, single, passed, assigns, breaks⟩ | ⟨named, given, breaks⟩)
    · rw [named]
      exact breaks
    · rw [named]
      exact ⟨given, row, single, passed, assigns, breaks⟩
    · rw [named]
      exact ⟨given, breaks⟩
  · intro stalls
    split at stalls
    · exact .query ‹_› stalls
    · obtain ⟨given, row, single, passed, assigns, breaks⟩ := stalls
      exact .update ‹_› given row single passed assigns breaks
    · exact .deletion ‹_› stalls.1 stalls.2
    · exact stalls.elim

/-- What it is for a batch to stall, by its method. -/
private theorem batch_stalls : BatchStalls table word rows ↔
    match Method.ofText word with
    | .put => ∃ before row after, rows = before ++ row :: after ∧
        (∀ earlier ∈ before, ¬ Raises .replace table earlier) ∧ RowStalls .replace table row
    | .delete => ∃ before row after, rows = before ++ row :: after ∧
        (∀ earlier ∈ before, ¬ Raises .remove table earlier) ∧ RowStalls .remove table row
    | _ => False := by
  constructor
  · rintro ⟨write, locates, named, before, row, after, split, calm, stalls⟩
    rw [named]
    cases write with
    | create => exact absurd rfl locates
    | replace => exact ⟨before, row, after, split, calm, stalls⟩
    | remove => exact ⟨before, row, after, split, calm, stalls⟩
  · intro stalls
    split at stalls
    · obtain ⟨before, row, after, split, calm, stalls⟩ := stalls
      exact .row .replace nofun ‹_› before row after split calm stalls
    · obtain ⟨before, row, after, split, calm, stalls⟩ := stalls
      exact .row .remove nofun ‹_› before row after split calm stalls
    · exact stalls.elim

private theorem dispatch_blames (spelled : ∀ row ∈ rows, RowSpelled row) :
    Blames database (RequestStalls table word id rows request.query)
      (table.dispatch database (Method.ofText word) id request rows { records }) := by
  refine blames_congr ?_ request_stalls
  unfold Table.dispatch
  cases Method.ofText word with
  | get => exact query_blames
  | put =>
    dsimp only
    split
    · rename_i missing
      exact refuse_blames (.inl rfl) fun stalls => stalls.1 (by simpa using missing)
    · rename_i given
      split
      · rename_i several
        refine refuse_blames (.inl rfl) ?_
        rintro ⟨-, row, rfl, -⟩
        exact several rfl
      · rename_i one
        obtain ⟨row, rfl⟩ := List.length_eq_one_iff.mp (not_not.mp one)
        have located : id ≠ [] := by simpa using given
        refine blames_congr (update_blames (spelled row (by simp)) located) ?_
        simp [located]
  | post =>
    dsimp only
    split
    · exact refuse_blames (.inl rfl) not_false
    · split
      · exact refuse_blames (.inl rfl) not_false
      · exact create_blames spelled
  | delete =>
    dsimp only
    split
    · rename_i missing
      exact refuse_blames (.inl rfl) fun stalls => stalls.1 (by simpa using missing)
    · rename_i given
      have located : id ≠ [] := by simpa using given
      exact blames_congr remove_blames (and_iff_right located)
  | other name => exact refuse_blames (.inr rfl) not_false

private theorem serve_blames (table : Table) (database : Database) (word id : Text)
    (source : Option Text) (request : Request) :
    Blames database
      (RequestStalls table word id (table.readBody request (source.map .text) {}).1 request.query)
      (table.serve database word id (source.map .text) request) := by
  have spelled := text_rows_spelled table request source
  have read (writes : Method.ofText word = .post ∨ Method.ofText word = .put) :
      Blames database
        (RequestStalls table word id (table.readBody request (source.map .text) {}).1 request.query)
        (thenRows (table.dispatch database (Method.ofText word) id request)
          (table.readBody request (source.map .text) {})) := by
    rcases readBody_cases table request (source.map .text) with ⟨rows, records, gave⟩ | unread
    · rw [gave] at spelled ⊢
      exact dispatch_blames spelled
    · rw [thenRows, unread.2.failed.success]
      refine unread_blames unread.2 fun stalls => ?_
      rw [unread.1, request_stalls] at stalls
      rcases writes with named | named <;> simp [named] at stalls
  have other : Blames database (RequestStalls table word id [] request.query)
      (table.dispatch database (Method.ofText word) id request [] {}) := dispatch_blames (by simp)
  unfold Table.serve
  dsimp only
  split
  · rename_i named
    exact read (.inl named)
  · rename_i named
    exact read (.inr named)
  · rename_i apart
    refine blames_congr other ?_
    rw [request_stalls, request_stalls]
    cases named : Method.ofText word with
    | put => exact absurd named apart
    | _ => exact Iff.rfl

private theorem serveBatch_blames (table : Table) (database : Database) (word : Text)
    (source : Option Text) (request : Request) :
    Blames database (BatchStalls table word (table.readBody request (source.map .text) {}).1)
      (table.serveBatch database word (source.map .text) request) := by
  have spelled := text_rows_spelled table request source
  refine blames_congr ?_ batch_stalls
  unfold Table.serveBatch
  rcases readBody_cases table request (source.map .text) with ⟨rows, records, gave⟩ | ⟨none, refused⟩
  · rw [gave] at spelled ⊢
    cases Method.ofText word with
    | put => exact replace_blames spelled
    | delete => exact removeAll_blames spelled
    | _ => exact refuse_blames (.inr rfl) not_false
  · rw [none]
    cases Method.ofText word with
    | put =>
      simp only [refused.failed.success, Bool.false_eq_true, if_false]
      exact unread_blames refused (by simp)
    | delete =>
      simp only [refused.failed.success, Bool.false_eq_true, if_false]
      exact unread_blames refused (by simp)
    | _ => exact refuse_blames (.inr rfl) not_false

/-- A table of files that are located by the digest of their bytes. -/
def files : Table where
  engine := .sqlite
  options := { tableName := "files" }
  columns := [
    { name := "digest", kind := .blob, sqlType := "BLOB", isPrimaryKey := true },
    { name := "title", kind := .string, sqlType := "TEXT" }]

end TableGate.ServerErrors
