import TableGate.Proofs.BatchErrors

/-! No report on a request is lost. A failure moves the status in front of it to the messages, so the
history of an outcome are its messages together with its status; whatever is reported in whatever order,
the history has every failure and every message that is not blank, each among its own kind in the order
in which they were reported, and the status is the last failure. -/
namespace TableGate.ReportHistory
open BatchAtomicity BatchErrors ConsistentAnswers

/-- Something that is reported on a request: a failure, or a message of a lower level. -/
inductive Report where
  | failure (code : Int) (text operation : Text)
  | remark (level : Level) (minor : level ≠ .error) (text operation : Text)

namespace Report

def apply (outcome : Outcome) : Report → Outcome
  | failure code text operation => outcome.fail code text operation
  | remark level _ text operation => outcome.note level text operation

/-- The code of a failure, and its text as it is recorded: with the mark of errors in front, unless the
text has that already. -/
def failure? : Report → Option (Int × Text)
  | failure code text operation =>
    some (code, if Level.error.marks text then text else Level.error.tag operation text)
  | remark .. => none

/-- A message as it is recorded, without the blanks around it. Blank messages aren't. -/
def remark? : Report → Option Text
  | failure .. => none
  | remark level _ text operation =>
    if Text.strip text = [] then none else some (level.tag operation (Text.strip text))

end Report

/-- The failures among reports, each with its code. -/
def failures (reports : List Report) : List (Int × Text) := reports.filterMap Report.failure?

/-- The messages among reports. -/
def remarks (reports : List Report) : List Text := reports.filterMap Report.remark?

/-- The outcome of a request that these are the reports on. -/
def outcomeOf (reports : List Report) : Outcome := reports.foldl Report.apply {}

/-- The messages of an outcome, and the status unless nothing went wrong. -/
def history (outcome : Outcome) : List Text :=
  outcome.messages ++ if outcome.status = ("OK" : Text) then [] else [outcome.status]

/-- The history of an outcome is made of what was reported: errors are told from messages by their mark,
and code and status are those of the last failure. -/
structure Keeps (outcome : Outcome) (reports : List Report) : Prop where
  errors : (history outcome).filter Level.error.marks = (failures reports).map (·.2)
  messages : (history outcome).filter (!Level.error.marks ·) = remarks reports
  last : (outcome.code, outcome.status) = (failures reports).getLast?.getD (200, "OK")
  success : outcome.success = (failures reports).isEmpty

variable {outcome : Outcome} {level : Level} {report : Report} {reports : List Report} {failed : Int × Text}
  {message : Text}

/-! ### What is recorded -/

private theorem failure_marked (recorded : report.failure? = some failed) :
    Level.error.marks failed.2 = true := by
  cases report with
  | remark => cases recorded
  | failure code text operation =>
    cases recorded
    exact (fail_failed {} code text operation).marked

private theorem remark_unmarked (recorded : message ∈ report.remark?) : Level.error.marks message = false := by
  cases report with
  | failure => cases recorded
  | remark level minor text operation =>
    obtain ⟨-, same⟩ := Option.ite_none_left_eq_some.mp recorded
    cases same
    exact tag_unmarked minor operation (Text.strip text)

private theorem marked_apart (marked : Level.error.marks message = true) : message ≠ ("OK" : Text) := by
  rintro rfl
  cases marked

/-- One more report adds what is recorded of it. -/
private theorem recorded_concat {α : Type} (record : Report → Option α) (reports : List Report) (report : Report) :
    (reports ++ [report]).filterMap record = reports.filterMap record ++ (record report).toList := by
  rw [List.filterMap_append, List.filterMap_cons]
  cases record report <;> rfl

/-! ### One report -/

/-- A failure is the last one of the history, behind everything that was there. -/
private theorem history_fail (outcome : Outcome) (code : Int) (text operation : Text) :
    history (outcome.fail code text operation) =
      history outcome ++ [(outcome.fail code text operation).status] := by
  have messages : (outcome.fail code text operation).messages = history outcome := by
    unfold history Outcome.fail
    by_cases fresh : outcome.status = ("OK" : Text)
    · simp only [if_pos fresh, List.append_nil]
    · simp only [if_neg fresh]
  rw [history, messages, if_neg (marked_apart (fail_failed outcome code text operation).marked)]

/-- A message stands in front of the failure that is the status. -/
private theorem history_note (minor : level ≠ .error) (outcome : Outcome) (text operation : Text) :
    history (outcome.note level text operation) =
      outcome.messages ++ (Report.remark level minor text operation).remark?.toList ++
        if outcome.status = ("OK" : Text) then [] else [outcome.status] := by
  have messages : (outcome.note level text operation).messages =
      outcome.messages ++ (Report.remark level minor text operation).remark?.toList := by
    unfold Outcome.note Report.remark?
    by_cases blank : Text.strip text = []
    · simp [blank]
    · simp [blank]
  rw [history, messages, note_status]

/-- As long as the status is a failure, or there is none, a message is the last one of its kind. -/
private theorem note_keeps (minor : level ≠ .error)
    (told : outcome.status ≠ ("OK" : Text) → Level.error.marks outcome.status = true) (text operation : Text) :
    (history (outcome.note level text operation)).filter Level.error.marks =
        (history outcome).filter Level.error.marks ∧
      (history (outcome.note level text operation)).filter (!Level.error.marks ·) =
        (history outcome).filter (!Level.error.marks ·) ++
          (Report.remark level minor text operation).remark?.toList := by
  have unmarked : ∀ message ∈ (Report.remark level minor text operation).remark?.toList,
      Level.error.marks message = false := fun message listed =>
    remark_unmarked (Option.mem_toList.mp listed)
  have no_error : (Report.remark level minor text operation).remark?.toList.filter Level.error.marks = [] :=
    List.filter_eq_nil_iff.mpr fun message listed => by simp [unmarked message listed]
  have all_other : (Report.remark level minor text operation).remark?.toList.filter (!Level.error.marks ·) =
      (Report.remark level minor text operation).remark?.toList :=
    List.filter_eq_self.mpr fun message listed => by simp [unmarked message listed]
  have status : (if outcome.status = ("OK" : Text) then [] else [outcome.status]).filter
      (!Level.error.marks ·) = [] := by
    split
    · rfl
    · rw [List.filter_singleton, told ‹_›]
      rfl
  rw [history_note minor, history]
  constructor
  · rw [List.filter_append, List.filter_append, List.filter_append, no_error, List.append_nil]
  · rw [List.filter_append, List.filter_append, List.filter_append, all_other, status, List.append_nil,
      List.append_nil]

/-- The status is a failure, or there is none. -/
private theorem Keeps.told (kept : Keeps outcome reports) (other : outcome.status ≠ ("OK" : Text)) :
    Level.error.marks outcome.status = true := by
  have last := congrArg Prod.snd kept.last
  cases final : (failures reports).getLast? with
  | none =>
    rw [final] at last
    exact absurd last other
  | some failed =>
    rw [final] at last
    obtain ⟨report, -, recorded⟩ := List.mem_filterMap.mp (List.mem_of_getLast? final)
    have status : outcome.status = failed.2 := last
    rw [status]
    exact failure_marked recorded

/-- A further report is added to its kind, and the others are kept. -/
theorem Keeps.step (kept : Keeps outcome reports) (report : Report) :
    Keeps (report.apply outcome) (reports ++ [report]) := by
  cases report with
  | failure code text operation =>
    have marked := (fail_failed outcome code text operation).marked
    have added : failures (reports ++ [.failure code text operation]) =
        failures reports ++ [(code, (outcome.fail code text operation).status)] :=
      recorded_concat Report.failure? ..
    have same : remarks (reports ++ [.failure code text operation]) = remarks reports :=
      (recorded_concat Report.remark? ..).trans (List.append_nil _)
    constructor
    · rw [Report.apply, history_fail, List.filter_append, kept.errors, added, List.map_append,
        List.filter_singleton, marked]
      rfl
    · rw [Report.apply, history_fail, List.filter_append, kept.messages, same, List.filter_singleton, marked]
      exact List.append_nil _
    · rw [added, List.getLast?_concat]
      rfl
    · rw [added]
      exact (List.isEmpty_eq_false_iff.mpr (by simp)).symm
  | remark level minor text operation =>
    obtain ⟨errors, added⟩ := note_keeps minor kept.told text operation
    have same : failures (reports ++ [.remark level minor text operation]) = failures reports :=
      (recorded_concat Report.failure? ..).trans (List.append_nil _)
    constructor
    · rw [Report.apply, errors, kept.errors, same]
    · rw [Report.apply, added, kept.messages]
      exact (recorded_concat Report.remark? ..).symm
    · rw [Report.apply, note_code, note_status, kept.last, same]
    · rw [Report.apply, note_success, kept.success, same]

/-! ### All reports -/

/-- **No report is lost.** Of any sequence of reports on a request, every failure and every message that
isn't blank is in the history of the outcome once, in order among its kind; the code and the status are those
of the last failure. -/
theorem no_report_is_lost (reports : List Report) : Keeps (outcomeOf reports) reports := by
  induction reports using List.reverseRecOn with
  | nil => exact ⟨rfl, rfl, rfl, rfl⟩
  | append_singleton reports report kept =>
    have run : outcomeOf (reports ++ [report]) = report.apply (outcomeOf reports) := by
      simp [outcomeOf]
    rw [run]
    exact kept.step report

/-- A message that comes behind the first failure stands in front of it, since the failure is the status
until the next one. -/
example : history (outcomeOf [.failure 400 "first" "PUT", .remark .info (by decide) " told " "PUT",
    .failure 500 "second" "PUT"]) =
      ["SQLREST INFO (PUT): told", "SQLREST ERROR (PUT): first", "SQLREST ERROR (PUT): second"] := by
  rfl

end TableGate.ReportHistory
