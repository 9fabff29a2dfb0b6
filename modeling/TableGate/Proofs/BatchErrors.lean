import TableGate.Proofs.ConsistentAnswers
import TableGate.Proofs.PrintingFaults

/-! Every violation in a body is reported, and reported once. A failure moves the status in front of it
to the messages, so what counts are the messages together with the status; of these the errors are
kept, in some order, by every step of a row and of a batch. -/
namespace TableGate.BatchErrors
open BatchAtomicity BodyRows ConsistentAnswers Fallible PrintingFaults

/-- The errors among the messages of an outcome and its status. -/
def errors (outcome : Outcome) : List Text :=
  (outcome.messages ++ [outcome.status]).filter Level.error.marks

/-- The report of one problem of a row. -/
def report (problem : Text × CellProblem) : Text :=
  Level.error.tag "validate_row" (problem.2.message problem.1)

/-- The reports of the problems that are more than warnings. -/
def reports (problems : List (Text × CellProblem)) : List Text :=
  (problems.filter (!·.2.isWarning)).map report

/-- The violations of a row, if its constraints can be checked. -/
def violations (table : Table) (requireKey : Bool) (row : Row) : Except Fault (List Text) :=
  (table.rowProblems requireKey row).map reports

/-- Only new rows may have to bring their keys. -/
def requiresKey (write : BatchWrite) (table : Table) : Bool :=
  match write with
  | .create => table.options.failOnInsertWithoutKey
  | .replace | .remove => false

variable {table : Table} {outcome : Outcome} {batch : Batch} {row : Row} {rows : List Row}
  {requireKey : Bool} {operation text : Text} {code : Int} {write : BatchWrite}
  {print : Row → Except Fault Text} {step : Batch → Row → Batch}

/-! ### Errors of an outcome -/

private theorem ok_unmarked : Level.error.marks "OK" = false := by decide

/-- An error is added, and the one in the status is kept. -/
theorem errors_fail (outcome : Outcome) (code : Int) (text operation : Text) :
    errors (outcome.fail code text operation) =
      errors outcome ++ [(outcome.fail code text operation).status] := by
  have marked := (fail_failed outcome code text operation).marked
  unfold errors
  rw [List.filter_append, List.filter_singleton, marked]
  congr 1
  unfold Outcome.fail
  by_cases fresh : outcome.status = "OK"
  · rw [if_pos fresh, List.filter_append, List.filter_singleton, fresh, ok_unmarked]
    simp
  · rw [if_neg fresh]

theorem tag_unmarked {level : Level} (other : level ≠ .error) (operation text : Text) :
    Level.error.marks (level.tag operation text) = false := by
  cases level with
  | error => exact absurd rfl other
  | warning => rfl
  | info => rfl
  | debug => rfl

/-- Messages of other levels don't count. -/
theorem errors_note {level : Level} (other : level ≠ .error) (outcome : Outcome) (text operation : Text) :
    errors (outcome.note level text operation) = errors outcome := by
  have unmarked := tag_unmarked other operation (Text.strip text)
  unfold errors
  rw [note_status, List.filter_append, List.filter_append]
  congr 1
  unfold Outcome.note
  dsimp only
  split
  · rfl
  · rw [List.filter_append, List.filter_singleton, unmarked]
    simp

/-! ### One row -/

/-- A problem is reported in its own words. -/
theorem failed_status (outcome : Outcome) (problem : Text × CellProblem) :
    (outcome.fail 405 (problem.2.message problem.1) "validate_row").status = report problem := by
  have unmarked : Level.error.marks (problem.2.message problem.1) = false := by
    cases problem.2 <;> rfl
  unfold Outcome.fail report
  simp [unmarked]

private theorem noted_problems_errors (problems : List (Text × CellProblem)) (outcome : Outcome) :
    errors (problems.foldl (fun outcome found =>
      if found.2.isWarning then outcome.note .warning (found.2.message found.1) "validate_row"
      else outcome.fail 405 (found.2.message found.1) "validate_row") outcome) =
      errors outcome ++ reports problems := by
  induction problems generalizing outcome with
  | nil => exact (List.append_nil _).symm
  | cons problem problems ih =>
    rw [List.foldl_cons, ih]
    unfold reports
    by_cases warns : problem.2.isWarning = true
    · rw [if_pos warns, errors_note (by decide), List.filter_cons_of_neg (by simp [warns])]
    · rw [if_neg warns, errors_fail, failed_status, List.filter_cons_of_pos (by simpa using warns),
        List.map_cons, List.append_assoc, List.singleton_append]

/-- The outcome of a row has the row's violations as its errors. -/
theorem row_errors {reported : List Text} (checked : table.rowOutcome requireKey row = .ok outcome)
    (told : violations table requireKey row = .ok reported) : errors outcome = reported := by
  obtain ⟨problems, found, rfl⟩ := map_eq_ok.mp told
  unfold Table.rowOutcome at checked
  rw [found] at checked
  cases checked
  exact noted_problems_errors problems {}

/-! ### One row of a batch -/

private theorem errors_with (outcome : Outcome) (messages : List Text) :
    (errors { outcome with messages := outcome.messages ++ messages }).Perm
      (errors outcome ++ messages.filter Level.error.marks) := by
  unfold errors
  simp only [List.filter_append, List.append_assoc]
  exact List.perm_append_comm.append_left _

/-- Where violations fail the whole body, the errors of a row are added to those of the batch. -/
theorem accept_errors {checked : Outcome} (strict : table.options.failOnAnyInvalidRows = true)
    (sound : Sound checked) (operation : Text) (outcome : Outcome) :
    (errors (table.accept operation outcome checked).1).Perm (errors outcome ++ errors checked) := by
  have added := errors_with outcome checked.messages
  unfold Table.accept
  dsimp only
  rcases sound with fine | failed
  · have none : errors checked = checked.messages.filter Level.error.marks := by
      rw [errors, fine.status, List.filter_append, List.filter_singleton, ok_unmarked]
      simp
    rw [if_pos fine.success, none]
    exact added
  · have last : errors checked = checked.messages.filter Level.error.marks ++ [checked.status] := by
      rw [errors, List.filter_append, List.filter_singleton, failed.marked]
      rfl
    have kept (noted : Outcome) : (noted.fail checked.code checked.status operation).status =
        checked.status := if_pos failed.marked
    rw [if_neg (by simp [failed.success]), if_pos strict, errors_fail, kept, last, ← List.append_assoc]
    exact added.append_right _

/-- A row adds its violations to the errors of a batch, whether it can be written or not. -/
theorem row_step_errors {reported : List Text} (strict : table.options.failOnAnyInvalidRows = true)
    (running : batch.fault = none) (told : violations table requireKey row = .ok reported) :
    (errors (table.batchRow requireKey operation print batch row).outcome).Perm
      (errors batch.outcome ++ reported) := by
  unfold Table.batchRow
  rw [if_neg (by simp [running])]
  split
  · rename_i raised
    obtain ⟨problems, found, -⟩ := map_eq_ok.mp told
    rw [Table.rowOutcome, found] at raised
    cases raised
  · rename_i checked looked
    have accepted := accept_errors strict (sound_row looked) operation batch.outcome
    rw [row_errors looked told] at accepted
    dsimp only
    split
    · exact accepted
    · split <;> exact accepted

/-! ### All rows -/

private theorem examine_eq (checks : write ≠ .remove) (table : Table) (row : Row) :
    write.examine table row =
      (table.rowProblems (requiresKey write table) row).map (·.all (·.2.isWarning)) := by
  cases write with
  | create => rfl
  | replace => rfl
  | remove => exact absurd rfl checks

/-- A row whose violations are known does not raise if it is printed where it passes. -/
private theorem told_calm {reported : List Text} (checks : write ≠ .remove)
    (told : violations table (requiresKey write table) row = .ok reported)
    (printed : write.passes table row = true → ∃ text, write.statement table row = .ok text) :
    ¬ Raises write table row := by
  obtain ⟨problems, found, -⟩ := map_eq_ok.mp told
  rintro (⟨fault, raised⟩ | ⟨passes, fault, raised⟩)
  · rw [examine_eq checks, found] at raised
    cases raised
  · obtain ⟨text, own⟩ := printed passes
    rw [own] at raised
    cases raised

/-- A row with violations does not pass. -/
private theorem violated_fails {reported : List Text} (checks : write ≠ .remove)
    (told : violations table (requiresKey write table) row = .ok reported) (some : reported ≠ []) :
    write.passes table row = false := by
  obtain ⟨problems, found, rfl⟩ := map_eq_ok.mp told
  have examined : write.examine table row = .ok (problems.all (·.2.isWarning)) := by
    rw [examine_eq checks, found]
    rfl
  rw [BatchWrite.passes, examined]
  by_contra passes
  have warns : problems.all (·.2.isWarning) = true := by simpa using passes
  apply some
  unfold reports
  rw [List.filter_eq_nil_iff.mpr fun problem member => ?_]
  · rfl
  · simpa using List.all_eq_true.mp warns problem member

/-- A batch whose rows don't raise has their violations as its errors, in some order. -/
theorem run_errors {reported : List (List Text)} (steps : RowStep write table step)
    (added : ∀ batch row own, batch.fault = none → violations table requireKey row = .ok own →
      (errors (step batch row).outcome).Perm (errors batch.outcome ++ own))
    (running : batch.fault = none) (calm : ∀ row ∈ rows, ¬ Raises write table row)
    (told : rows.mapM (violations table requireKey) = .ok reported) :
    (errors (rows.foldl step batch).outcome).Perm (errors batch.outcome ++ reported.flatten) := by
  have each := mapM_eq_ok_iff.mp told
  clear told
  induction each generalizing batch with
  | nil => simp
  | @cons row own rows reported head _ ih =>
    obtain ⟨first, others⟩ := List.forall_mem_cons.mp calm
    have next : (step batch row).fault = none := by
      rcases row_cases steps running row with ⟨raises, -⟩ | ⟨-, -, next, -⟩ | ⟨_, -, -, -, next, -⟩
      · exact absurd raises first
      · exact next
      · exact next
    rw [List.foldl_cons, List.flatten_cons, ← List.append_assoc]
    exact (ih next others).trans ((added batch row own running head).append_right _)

/-- A batch that failed without a fault is answered with its own outcome. -/
private theorem failed_answer {database : Database} {word : Text} {exchange : Exchange}
    (noFault : batch.fault = none) (failed : batch.outcome.success = false) :
    (batch.execute table database operation word exchange).outcome = batch.outcome := by
  unfold Batch.execute
  simp only [noFault, failed, Bool.not_false, ↓reduceIte]

/-! ### Answers -/

private theorem run_reported {reported : List (List Text)} {database : Database} {word : Text}
    {exchange : Exchange} (checks : write ≠ .remove) (steps : RowStep write table step)
    (strict : table.options.failOnAnyInvalidRows = true)
    (added : ∀ batch row own, batch.fault = none →
      violations table (requiresKey write table) row = .ok own →
      (errors (step batch row).outcome).Perm (errors batch.outcome ++ own))
    (told : rows.mapM (violations table (requiresKey write table)) = .ok reported)
    (violated : reported.flatten ≠ [])
    (printed : ∀ row ∈ rows, write.passes table row = true → ∃ text, write.statement table row = .ok text) :
    (errors ((rows.foldl step {}).execute table database operation word exchange).outcome).Perm
      reported.flatten := by
  have fresh : ({} : Batch).fault = none := rfl
  obtain ⟨own, back⟩ := partners (mapM_eq_ok_iff.mp told)
  have calm : ∀ row ∈ rows, ¬ Raises write table row := by
    intro row member
    obtain ⟨reports, -, told⟩ := own row member
    exact told_calm checks told (printed row member)
  obtain ⟨noFault, success, -⟩ := run_printed steps fresh calm
  have fails : rows.all (write.passes table) = false := by
    obtain ⟨message, among⟩ := List.exists_mem_of_ne_nil _ violated
    obtain ⟨reports, listed, inside⟩ := List.mem_flatten.mp among
    obtain ⟨row, member, told⟩ := back reports listed
    refine List.all_eq_false.mpr ⟨row, member, ?_⟩
    simp [violated_fails checks told (List.ne_nil_of_mem inside)]
  have failed : (rows.foldl step {}).outcome.success = false := by
    rw [success, fails, strict]
    rfl
  rw [failed_answer noFault failed]
  exact run_errors steps added fresh calm told

/-- The rows of a text or of bytes have cells with texts, so their violations are known. -/
theorem wire_rows_told {body : Body} {boundary : Text} {media : Media}
    (wire : (∃ source, body = .text source) ∨ ∃ source, body = .bytes source)
    (read : (body.rows table media boundary).result = .ok rows) (requireKey : Bool) :
    ∃ reported, rows.mapM (violations table requireKey) = .ok reported := by
  have spelled : ∀ row ∈ rows, RowSpelled row := by
    rcases wire with ⟨source, rfl⟩ | ⟨source, rfl⟩
    · exact (text_body table media boundary source).ok read
    · exact (byte_body table media boundary source).ok read
  refine mapM_total fun row member => ?_
  obtain ⟨problems, found⟩ := problems_total requireKey (spelled row member)
  exact ⟨reports problems, map_eq_ok.mpr ⟨problems, found, rfl⟩⟩

/-- A table with a key and a short text that must be there. -/
def labels : Table where
  engine := .postgresql
  options := { tableName := "labels", failOnAnyInvalidRows := true, failOnOversizedValues := true }
  columns := [
    { name := "id", kind := .number, sqlType := "INTEGER", isPrimaryKey := true },
    { name := "label", kind := .string, sqlType := "TEXT", maxLength := 2, isNotNull := true }]

end TableGate.BatchErrors
