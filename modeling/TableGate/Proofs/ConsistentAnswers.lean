import TableGate.Gateway
import TableGate.Proofs.BatchAtomicity
import TableGate.Proofs.BodyRows

/-! Every request has an answer, and its parts agree with each other. A request is refused before any
statement, or it gives the database one statement and is judged by what comes back; the code, the
status and the rows of the answer are read off from this. Only what a hasher does is assumed to have a
result; no bound is set here on how deep a text may nest. -/
namespace TableGate.ConsistentAnswers
open Contracts BodyRows BatchAtomicity

/-! ### Requests that may end without an answer -/

/-- The rows of a body, where only invalid data is answered: any other fault ends the request. -/
def readOrRaise (table : Table) (request : Request) (body : Option Body) :
    Except Fault (List Row × Exchange) :=
  match body with
  | none => .ok ([], {})
  | some given =>
    match (given.rows table request.bodyType request.boundary).result with
    | .error fault =>
      if isInvalidData fault then .ok (table.readBody request body {}) else .error fault
    | .ok _ => .ok (table.readBody request body {})

/-- What is done with the rows of a body that could be read. -/
def thenRows (next : List Row → Exchange → Exchange) (read : List Row × Exchange) : Exchange :=
  if read.2.outcome.success then next read.1 read.2 else read.2

/-- A request, where a fault of its body that is not invalid data leaves it without an answer. -/
def serveOrRaise (table : Table) (database : Database) (word id : Text) (body : Option Body)
    (request : Request) : Except Fault Exchange :=
  let method := Method.ofText word
  match method with
  | .post | .put =>
    (readOrRaise table request body).map (thenRows (table.dispatch database method id request))
  | method => .ok (table.dispatch database method id request [] {})

/-- A batch, where a fault of its body that is not invalid data leaves it without an answer. -/
def serveBatchOrRaise (table : Table) (database : Database) (word : Text) (body : Option Body)
    (request : Request) : Except Fault Exchange :=
  match Method.ofText word with
  | .put => (readOrRaise table request body).map (thenRows (table.replace database []))
  | .delete => (readOrRaise table request body).map (thenRows (table.removeAll database))
  | _ => .ok (table.serveBatch database word body request)

/-! ### Outcomes -/

/-- The outcome of a request that nothing went wrong with. -/
structure Succeeded (outcome : Outcome) : Prop where
  success : outcome.success = true
  code : outcome.code = 200
  status : outcome.status = "OK"

/-- The outcome of a request that failed with a code. -/
structure Failed (code : Int) (outcome : Outcome) : Prop where
  success : outcome.success = false
  code : outcome.code = code
  marked : Level.error.marks outcome.status = true

/-- The outcome of a batch under way: a success, or the failure of a row. -/
abbrev Sound (outcome : Outcome) : Prop := Succeeded outcome ∨ Failed 405 outcome

/-- The code of an answer to a fault: it is the sender's unless the fault is no fault of the request
or there is no connection. -/
def faultCode : Fault → Int
  | .connection _ => 500
  | fault => if fault.isRequestFault then 400 else 500

/-- A request that ended before any statement was given to the database. -/
structure Refused (code : Int) (answer : Exchange) : Prop where
  failed : Failed code answer.outcome
  silent : answer.statements = []
  bare : answer.rows = none

/-- What the database makes of the request that gave it a statement: a fault and a reported error
fail it, and only a query keeps the rows of a result. -/
def Judged (queries : Bool) (answer : Exchange) : Except Fault Cursor → Prop
  | .error fault => Failed (faultCode fault) answer.outcome ∧ answer.rows = none
  | .ok result =>
    match Outcome.firstError? result.messages with
    | some _ => Failed 500 answer.outcome ∧ answer.rows = none
    | none => Succeeded answer.outcome ∧ answer.rows = if queries then some result else none

/-- A request that gave one statement to the database. -/
structure Asked (database : Database) (queries : Bool) (statement : Text) (answer : Exchange) : Prop where
  given : answer.statements = [statement]
  judged : Judged queries answer (database statement)

/-- The two ways in which a request ends. -/
inductive Ended (database : Database) (queries : Bool) (answer : Exchange) : Prop where
  | refused (code : Int) (fails : code ≠ 200) (refused : Refused code answer) :
      Ended database queries answer
  | asked (statement : Text) (asked : Asked database queries statement answer) :
      Ended database queries answer

/-- The parts of an answer agree with each other. -/
structure Consistent (outcome : Outcome) : Prop where
  code : outcome.success = true ↔ outcome.code = 200
  status : outcome.success = true ↔ outcome.status = "OK"
  marked : outcome.success = false → Level.error.marks outcome.status = true

variable {table : Table} {database : Database} {queries : Bool} {outcome : Outcome} {code : Int}
  {batch : Batch} {row : Row} {exchange answer : Exchange} {operation word text : Text} {fault : Fault}

/-! ### Steps of an outcome -/

@[simp] theorem note_code (outcome : Outcome) (level : Level) (text operation : Text) :
    (outcome.note level text operation).code = outcome.code := by
  simp only [Outcome.note]
  split <;> rfl

@[simp] theorem note_status (outcome : Outcome) (level : Level) (text operation : Text) :
    (outcome.note level text operation).status = outcome.status := by
  simp only [Outcome.note]
  split <;> rfl

theorem fail_failed (outcome : Outcome) (code : Int) (text operation : Text) :
    Failed code (outcome.fail code text operation) := by
  refine ⟨rfl, rfl, ?_⟩
  unfold Outcome.fail
  dsimp only
  split
  · assumption
  · exact List.isPrefixOf_iff_prefix.mpr (by simp [Level.tag])

theorem Succeeded.note {level : Level} (succeeded : Succeeded outcome) :
    Succeeded (outcome.note level text operation) := by
  refine ⟨?_, ?_, ?_⟩
  · rw [note_success, succeeded.success]
  · rw [note_code, succeeded.code]
  · rw [note_status, succeeded.status]

theorem Failed.note {level : Level} (failed : Failed code outcome) :
    Failed code (outcome.note level text operation) := by
  refine ⟨?_, ?_, ?_⟩
  · rw [note_success, failed.success]
  · rw [note_code, failed.code]
  · rw [note_status, failed.marked]

/-! ### Consistency -/

theorem Succeeded.consistent (succeeded : Succeeded outcome) : Consistent outcome :=
  ⟨iff_of_true succeeded.success succeeded.code, iff_of_true succeeded.success succeeded.status,
    fun failed => absurd succeeded.success (by simp [failed])⟩

theorem Failed.consistent (failed : Failed code outcome) (fails : code ≠ 200) : Consistent outcome := by
  have unsuccessful : ¬ outcome.success = true := by simp [failed.success]
  refine ⟨iff_of_false unsuccessful ?_, iff_of_false unsuccessful ?_, fun _ => failed.marked⟩
  · rw [failed.code]
    exact fails
  · intro same
    have marked := failed.marked
    rw [same] at marked
    revert marked
    decide

theorem faultCode_cases (fault : Fault) : faultCode fault = 400 ∨ faultCode fault = 500 := by
  unfold faultCode
  split
  · exact .inr rfl
  · split
    · exact .inl rfl
    · exact .inr rfl

private theorem faultCode_fails (fault : Fault) : faultCode fault ≠ 200 := by
  rcases faultCode_cases fault with code | code <;> rw [code] <;> decide

/-- The parts of an answer agree however the request ends, and it has rows exactly where a query
succeeded. -/
theorem Ended.consistent (ended : Ended database queries answer) :
    Consistent answer.outcome ∧
      (answer.rows.isSome = true ↔ queries = true ∧ answer.outcome.success = true) := by
  have without {code : Int} (failed : Failed code answer.outcome) (fails : code ≠ 200)
      (bare : answer.rows = none) : Consistent answer.outcome ∧
        (answer.rows.isSome = true ↔ queries = true ∧ answer.outcome.success = true) :=
    ⟨failed.consistent fails, by simp [bare, failed.success]⟩
  cases ended with
  | refused code fails refused => exact without refused.failed fails refused.bare
  | asked statement asked =>
    have judged := asked.judged
    unfold Judged at judged
    split at judged
    · exact without judged.1 (faultCode_fails _) judged.2
    · split at judged
      · exact without judged.1 (by decide) judged.2
      · obtain ⟨succeeded, kept⟩ := judged
        refine ⟨succeeded.consistent, ?_⟩
        rw [kept, succeeded.success]
        cases queries <;> simp

/-! ### Steps of a request -/

private theorem explain_same (table : Table) (statement operation : Text)
    (messages : Option (List Text)) (exchange : Exchange) :
    let explained := exchange.explain table statement operation messages
    explained.rows = exchange.rows ∧ explained.statements = exchange.statements ∧
      ∀ code, Failed code exchange.outcome → Failed code explained.outcome := by
  unfold Exchange.explain
  cases table.options.debugOnError with
  | false => exact ⟨rfl, rfl, fun _ => id⟩
  | true =>
    cases messages with
    | none => exact ⟨rfl, rfl, fun _ failed => failed.note⟩
    | some messages => exact ⟨rfl, rfl, fun _ failed => failed.note.note⟩

private theorem handle_eq (table : Table) (statement operation : Text) (fault : Fault)
    (exchange : Exchange) : ∃ records text, exchange.handle table statement operation fault =
      ({ exchange with records }.fail (faultCode fault) text operation).explain table statement
        operation none := by
  cases fault <;> exact ⟨_, _, rfl⟩

/-- A fault is answered with its code, and leaves everything else as it was. -/
theorem handle_answers (table : Table) (statement operation : Text) (fault : Fault) (exchange : Exchange) :
    Failed (faultCode fault) (exchange.handle table statement operation fault).outcome ∧
      (exchange.handle table statement operation fault).rows = exchange.rows := by
  obtain ⟨records, text, same⟩ := handle_eq table statement operation fault exchange
  rw [same]
  exact ⟨(explain_same ..).2.2 _ (fail_failed ..), (explain_same ..).1⟩

theorem handle_refused (silent : exchange.statements = []) (bare : exchange.rows = none) :
    Refused (faultCode fault) (exchange.handle table text operation fault) :=
  ⟨(handle_answers ..).1, (handle_keeps ..).1.trans silent, (handle_answers ..).2.trans bare⟩

theorem fail_refused (silent : exchange.statements = []) (bare : exchange.rows = none) :
    Refused code (exchange.fail code text operation) :=
  ⟨fail_failed .., silent, bare⟩

private theorem execute_asks {use : Cursor → Exchange → Exchange} {statement : Text}
    (silent : exchange.statements = []) (bare : exchange.rows = none) (fine : Succeeded exchange.outcome)
    (used : ∀ result, use result { exchange with statements := [statement] } =
      { exchange with statements := [statement], rows := if queries then some result else none }) :
    Asked database queries statement (exchange.execute table database statement operation use) := by
  unfold Exchange.execute
  rw [silent, List.nil_append]
  dsimp only
  cases answered : database statement with
  | error fault =>
    refine ⟨(handle_keeps ..).1, ?_⟩
    rw [answered]
    exact ⟨(handle_answers ..).1, (handle_answers ..).2.trans bare⟩
  | ok result =>
    dsimp only
    cases first : Outcome.firstError? result.messages with
    | some error =>
      have explained := explain_same table statement operation (some result.messages)
      refine ⟨(explained _).2.1, ?_⟩
      rw [answered]
      simp only [Judged, first]
      exact ⟨(explained _).2.2 _ (fail_failed ..), (explained _).1.trans bare⟩
    | none =>
      rw [used]
      refine ⟨rfl, ?_⟩
      rw [answered]
      simp only [Judged, first]
      exact ⟨fine, trivial⟩

/-- A query ends with the fault that leaves it without a statement, or it asks the database. -/
theorem query_ends (table : Table) (database : Database) (id : Text) (request : Request)
    (records : List LogRecord) :
    match table.selectSql id request.query with
    | .error fault => Refused (faultCode fault) (table.query database id request { records })
    | .ok statement => Asked database true statement (table.query database id request { records }) := by
  unfold Table.query
  cases table.selectSql id request.query with
  | error fault => exact handle_refused rfl rfl
  | ok statement => exact execute_asks rfl rfl ⟨rfl, rfl, rfl⟩ fun _ => rfl

/-- A batch ends with the fault of a row, or it is refused, or it asks the database. -/
theorem batch_ends (table : Table) (database : Database) (operation word : Text)
    (records : List LogRecord) (sound : Sound batch.outcome) :
    let answer := batch.execute table database operation word { records }
    match batch.fault with
    | some fault => Refused (faultCode fault) answer
    | none => Refused 405 answer ∨ Asked database false batch.statements answer := by
  unfold Batch.execute
  dsimp only
  cases batch.fault with
  | some fault => exact handle_refused rfl rfl
  | none =>
    rcases sound with fine | failed
    · simp only [fine.success]
      split
      · rename_i impossible
        cases impossible
      · split
        · exact .inl (fail_refused rfl rfl)
        · exact .inr (execute_asks rfl rfl fine fun _ => rfl)
    · simp only [failed.success]
      exact .inl ⟨failed, rfl, rfl⟩

/-! ### Rows of a batch -/

private theorem sound_note {level : Level} (sound : Sound outcome) :
    Sound (outcome.note level text operation) :=
  sound.imp Succeeded.note Failed.note

/-- A row is a success or a failure on its own. -/
theorem sound_row {requireKey : Bool} {checked : Outcome}
    (looked : table.rowOutcome requireKey row = .ok checked) : Sound checked := by
  obtain ⟨problems, -, same⟩ := Fallible.bind_eq_ok.mp looked
  cases same
  clear looked
  suffices all : ∀ start, Sound start → Sound (problems.foldl (fun outcome found =>
      if found.2.isWarning then outcome.note .warning (found.2.message found.1) "validate_row"
      else outcome.fail 405 (found.2.message found.1) "validate_row") start) from
    all {} (.inl ⟨rfl, rfl, rfl⟩)
  induction problems with
  | nil => exact fun _ => id
  | cons problem problems ih =>
    intro start sound
    rw [List.foldl_cons]
    refine ih _ ?_
    split
    · exact sound_note sound
    · exact .inr (fail_failed ..)

private theorem sound_accept {checked : Outcome} (sound : Sound outcome) (row : Sound checked) :
    Sound (table.accept operation outcome checked).1 := by
  have noted : Sound { outcome with messages := outcome.messages ++ checked.messages } :=
    sound.imp (fun fine => ⟨fine.success, fine.code, fine.status⟩)
      fun failed => ⟨failed.success, failed.code, failed.marked⟩
  unfold Table.accept
  dsimp only
  split
  · exact noted
  · rename_i refused
    split
    · rcases row with fine | failed
      · exact absurd fine.success refused
      · rw [failed.code]
        exact .inr (fail_failed ..)
    · exact sound_note noted

/-- A row of an insertion or an update leaves a batch sound. -/
theorem sound_batchRow {requireKey : Bool} {print : Row → Except Fault Text} (sound : Sound batch.outcome) :
    Sound (table.batchRow requireKey operation print batch row).outcome := by
  unfold Table.batchRow
  split
  · exact sound
  · split
    · exact sound
    · rename_i looked
      have accepted : Sound (table.accept operation batch.outcome _).1 :=
        sound_accept sound (sound_row looked)
      dsimp only
      split
      · exact accepted
      · split <;> exact accepted

/-- A row of a deletion leaves a batch sound. -/
theorem sound_batchDelete (sound : Sound batch.outcome) : Sound (table.batchDelete batch row).outcome := by
  unfold Table.batchDelete
  split
  · exact sound
  · split
    · exact sound
    · split
      · split <;> exact sound
      · split
        · exact .inr (fail_failed ..)
        · dsimp only
          exact sound_note sound

/-- A batch is sound after all its rows if every row leaves it sound. -/
theorem sound_run {step : Batch → Row → Batch}
    (kept : ∀ batch row, Sound batch.outcome → Sound (step batch row).outcome) (rows : List Row)
    (sound : Sound batch.outcome) : Sound (rows.foldl step batch).outcome := by
  induction rows generalizing batch with
  | nil => exact sound
  | cons row rows ih => exact ih (kept batch row sound)

/-! ### Requests -/

/-- A body gives rows to an answer that nothing was done to, or it is refused. -/
theorem readBody_cases (table : Table) (request : Request) (body : Option Body) :
    (∃ rows records, table.readBody request body {} = (rows, { records })) ∨
      (table.readBody request body {}).1 = [] ∧ Refused 400 (table.readBody request body {}).2 := by
  refine (body_read_or_failed table request body).imp_right ?_
  rintro ⟨records, text, failed⟩
  rw [failed]
  exact ⟨rfl, fail_refused rfl rfl⟩

variable {records : List LogRecord} {rows : List Row} {id : Text} {request : Request}

private theorem batch_ended (sound : Sound batch.outcome) :
    Ended database false (batch.execute table database operation word { records }) := by
  have ends := batch_ends table database operation word records sound
  split at ends
  · exact .refused _ (faultCode_fails _) ends
  · rcases ends with refused | asked
    · exact .refused 405 (by decide) refused
    · exact .asked _ asked

private theorem create_ended : Ended database false (table.create database rows { records }) :=
  batch_ended (sound_run (fun _ _ => sound_batchRow) rows (.inl ⟨rfl, rfl, rfl⟩))

private theorem replace_ended : Ended database false (table.replace database id rows { records }) :=
  batch_ended (sound_run (fun _ _ => sound_batchRow) rows (.inl ⟨rfl, rfl, rfl⟩))

private theorem removeAll_ended : Ended database false (table.removeAll database rows { records }) :=
  batch_ended (sound_run (fun _ _ => sound_batchDelete) rows (.inl ⟨rfl, rfl, rfl⟩))

private theorem remove_ended : Ended database false (table.remove database id { records }) := by
  unfold Table.remove
  dsimp only
  refine batch_ended ?_
  split <;> exact .inl ⟨rfl, rfl, rfl⟩

private theorem query_ended : Ended database true (table.query database id request { records }) := by
  have ends := query_ends table database id request records
  split at ends
  · exact .refused _ (faultCode_fails _) ends
  · exact .asked _ ends

private theorem dispatch_ended (method : Method) :
    Ended database (method == .get) (table.dispatch database method id request rows { records }) := by
  have refused (queries : Bool) {code : Int} {text : Text} (fails : code ≠ 200) :
      Ended database queries (Exchange.fail { records } code text "do_request") :=
    .refused code fails (fail_refused rfl rfl)
  unfold Table.dispatch
  dsimp only
  cases method with
  | get => exact query_ended
  | put =>
    dsimp only
    split
    · exact refused _ (by decide)
    · split
      · exact refused _ (by decide)
      · exact replace_ended
  | post =>
    dsimp only
    split
    · exact refused _ (by decide)
    · split
      · exact refused _ (by decide)
      · exact create_ended
  | delete =>
    dsimp only
    split
    · exact refused _ (by decide)
    · exact remove_ended
  | other name => exact refused _ (by decide)

private theorem serve_ended (table : Table) (database : Database) (word id : Text) (body : Option Body)
    (request : Request) :
    Ended database (Method.ofText word == .get) (table.serve database word id body request) := by
  have read (method : Method) (writes : method ≠ .get) :
      Ended database (method == .get) (thenRows (table.dispatch database method id request)
        (table.readBody request body {})) := by
    rcases readBody_cases table request body with ⟨rows, records, gave⟩ | ⟨-, refused⟩
    · rw [gave]
      exact dispatch_ended method
    · rw [thenRows, refused.failed.success]
      exact .refused 400 (by decide) refused
  unfold Table.serve
  dsimp only
  split
  · rename_i post
    rw [post]
    exact read .post nofun
  · rename_i put
    rw [put]
    exact read .put nofun
  · exact dispatch_ended _

private theorem serveBatch_ended (table : Table) (database : Database) (word : Text) (body : Option Body)
    (request : Request) : Ended database false (table.serveBatch database word body request) := by
  have read {next : List Row → Exchange → Exchange}
      (ended : ∀ rows records, Ended database false (next rows { records })) :
      Ended database false (thenRows next (table.readBody request body {})) := by
    rcases readBody_cases table request body with ⟨rows, records, gave⟩ | ⟨-, refused⟩
    · rw [gave]
      exact ended rows records
    · rw [thenRows, refused.failed.success]
      exact .refused 400 (by decide) refused
  unfold Table.serveBatch
  split
  · exact read fun _ _ => replace_ended
  · exact read fun _ _ => removeAll_ended
  · exact .refused 405 (by decide) (fail_refused rfl rfl)

/-! ### Answers -/

/-- Whatever the faults of a body, they are invalid data. -/
private theorem read_answers (table : Table) (request : Request) (body : Option Body) :
    readOrRaise table request body = .ok (table.readBody request body {}) := by
  unfold readOrRaise
  split
  · rfl
  · rename_i given
    split
    · rename_i fault raised
      rw [if_pos ((body_faults table request.bodyType request.boundary given).fault raised)]
    · rfl

end TableGate.ConsistentAnswers
