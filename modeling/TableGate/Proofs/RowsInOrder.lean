import TableGate.Answer
import TableGate.Proofs.RowTransport

/-! Rows are handed out in order and never twice. Answers of all kinds and direct reads move one position
through the rows of a result. Each of them hands out the rows from that position up to the one that it
leaves behind, or passes over them, so that a row that was handed out once is behind all later calls. -/
namespace TableGate.RowsInOrder
open Fallible RowTransport

/-- A call on the rows of a result: an answer in a media type or in the markup of a template, a move to the
next row, or a read of all rows that are left. -/
inductive Call where
  | write (media : Media)
  | fill (template : Text)
  | next
  | takeAll

/-- What a call gives: a text, whether there is a row at the new position, or rows. -/
inductive Reply where
  | text (text : Except Fault Text)
  | hasRow (found : Bool)
  | rows (rows : List Row)

/-- A call that was made, with the cursor before it and behind it. -/
structure Step where
  call : Call
  before : Cursor
  reply : Reply
  after : Cursor

namespace Call

/-- A call on the cursor of a layout's rows. -/
def step (layout : Layout) (cursor : Cursor) (call : Call) : Step :=
  match call with
  | write media =>
    let written := layout.write media cursor
    ⟨call, cursor, .text written.text.result, written.cursor⟩
  | fill template =>
    let written := layout.writeHtml template cursor
    ⟨call, cursor, .text written.text.result, written.cursor⟩
  | next =>
    let moved := cursor.advance 1
    ⟨call, cursor, .hasRow !moved.isAtEnd, moved⟩
  | takeAll =>
    let (rows, moved) := cursor.takeAll
    ⟨call, cursor, .rows rows, moved⟩

/-- The places of the rows that a call hands out, of a number of rows and from a position on: a form holds
one row, and a move and the media type that needs a template hand out none. -/
def places (position count : Nat) : Call → List Nat
  | write .html | next => []
  | write .formData => if position < count then [position] else []
  | write .json | write .csv | write .urlEncoded | fill _ | takeAll => List.range' position (count - position)

/-- The position behind a call. -/
def target (position count : Nat) : Call → Nat
  | write .html => position
  | write .formData | next => if position < count then position + 1 else position
  | write .json | write .csv | write .urlEncoded | fill _ | takeAll => count

end Call

/-- Calls one after the other on the same cursor. -/
def run (layout : Layout) : Cursor → List Call → List Step
  | _, [] => []
  | cursor, call :: calls =>
    let step := call.step layout cursor
    step :: run layout step.after calls

/-- The text for some rows and no others in a media type. -/
def document (layout : Layout) (written : List WrittenRow) : Media → Text
  | .json => Layout.jsonRows (written.map layout.jsonRow)
  | .csv => layout.csvRows (written.map Layout.csvRow)
  | .formData => written.flatMap layout.formRow
  | .urlEncoded => written.flatMap fun row => layout.urlRow row ++ "\r\n"
  | .html => []

/-- What a call gives where it hands out some rows and leaves a position behind. -/
def Call.Gives (layout : Layout) (rows : List Row) (position count : Nat) : Call → Reply → Prop
  | .write media, reply =>
    ∃ written, rows.mapM layout.row = .ok written ∧ reply = .text (.ok (document layout written media))
  | .fill template, reply =>
    ∃ written, rows.mapM layout.row = .ok written ∧
      reply = .text (.ok (written.flatMap (layout.htmlRow template)))
  | .next, reply => reply = .hasRow (decide (position < count))
  | .takeAll, reply => reply = .rows rows

namespace Step

/-- The places of the rows that were handed out. -/
def places (step : Step) : List Nat := step.call.places step.before.position step.before.rows.length

/-- The rows that were handed out. -/
def rows (step : Step) : List Row := step.places.filterMap (step.before.rows[·]?)

/-- A call gave exactly the rows that it is to hand out, in their order, and left the position behind
them. -/
structure Exact (layout : Layout) (step : Step) : Prop where
  kept : step.after.rows = step.before.rows
  moved : step.after.position = step.call.target step.before.position step.before.rows.length
  gives : step.call.Gives layout step.rows step.after.position step.before.rows.length step.reply

end Step

variable {layout : Layout} {cursor : Cursor}

/-! ### Places -/

/-- A call hands out nothing, or all rows from the position up to the one that it leaves. -/
private theorem places_between (call : Call) {position count : Nat} (within : position ≤ count) :
    (call.places position count = [] ∨
        call.places position count = List.range' position (call.target position count - position)) ∧
      position ≤ call.target position count ∧ call.target position count ≤ count := by
  have alone (short : position < count) :
      [position] = List.range' position (position + 1 - position) ∧ position + 1 ≤ count := by
    rw [Nat.add_sub_cancel_left]
    exact ⟨rfl, short⟩
  cases call with
  | write media =>
    cases media with
    | json | csv | urlEncoded => exact ⟨.inr rfl, within, Nat.le_refl count⟩
    | formData =>
      by_cases short : position < count
      · simp only [Call.places, Call.target, if_pos short]
        exact ⟨.inr (alone short).1, Nat.le_succ position, short⟩
      · simp [Call.places, Call.target, if_neg short, within]
    | html => exact ⟨.inl rfl, Nat.le_refl position, within⟩
  | fill template => exact ⟨.inr rfl, within, Nat.le_refl count⟩
  | next =>
    refine ⟨.inl rfl, ?_⟩
    simp only [Call.target]
    split <;> omega
  | takeAll => exact ⟨.inr rfl, within, Nat.le_refl count⟩

/-- The rows at neighbouring places are a part of the rows. -/
private theorem rows_between (rows : List Row) (position count : Nat) :
    (List.range' position count).filterMap (rows[·]?) = (rows.drop position).take count := by
  induction count generalizing position with
  | zero => simp
  | succ count ih =>
    rw [List.range'_succ, List.filterMap_cons, ih]
    cases found : rows[position]? with
    | none =>
      have ended : rows.length ≤ position := List.getElem?_eq_none_iff.mp found
      rw [List.drop_of_length_le ended, List.drop_of_length_le (by omega)]
      simp
    | some row =>
      obtain ⟨short, rfl⟩ := List.getElem?_eq_some_iff.mp found
      rw [List.drop_eq_getElem_cons short, List.take_succ_cons]

private theorem rows_ahead (cursor : Cursor) :
    (List.range' cursor.position (cursor.rows.length - cursor.position)).filterMap (cursor.rows[·]?) =
      cursor.left := by
  rw [rows_between, ← List.length_drop, List.take_length]
  rfl

/-! ### One call -/

/-- All rows that are left are written, each on its own and in their order. -/
private theorem written_rows {written : List WrittenRow} (made : cursor.left.mapM layout.row = .ok written)
    (write : WrittenRow → Text) (finish : List Text → Logged Text) :
    (layout.writeRows cursor write finish).text = finish (written.map write) ∧
      (layout.writeRows cursor write finish).cursor = cursor.advance cursor.left.length := by
  have read : (Cursor.mapRows (fun row => (layout.row row).map write) cursor.left).1 =
      .ok (written.map write) := by
    rw [mapRows_result, mapM_map, made]
    rfl
  have whole : (cursor.readRows fun row => (layout.row row).map write) =
      (.ok (written.map write), cursor.advance cursor.left.length) := by
    simp only [Cursor.readRows, read, Cursor.mapRows_ok read]
  simp only [Layout.writeRows, whole, Logged.lift_ok_bind, and_self]

private theorem advance_end (cursor : Cursor) :
    (cursor.advance cursor.left.length).position = cursor.rows.length := by
  have within := cursor.position_le
  simp only [Cursor.advance, Cursor.left, List.length_drop]
  omega

/-- A call that hands out all rows that are left and does with them what it is to do. -/
private theorem exact_ahead {call : Call} {reply : Reply} {after : Cursor}
    (places : call.places cursor.position cursor.rows.length =
      List.range' cursor.position (cursor.rows.length - cursor.position))
    (target : call.target cursor.position cursor.rows.length = cursor.rows.length)
    (moved : after = cursor.advance cursor.left.length)
    (gives : call.Gives layout cursor.left after.position cursor.rows.length reply) :
    Step.Exact layout ⟨call, cursor, reply, after⟩ := by
  subst moved
  refine ⟨rfl, (advance_end cursor).trans target.symm, ?_⟩
  have handed : (⟨call, cursor, reply, cursor.advance cursor.left.length⟩ : Step).rows = cursor.left := by
    rw [Step.rows, Step.places, places]
    exact rows_ahead cursor
  rw [handed]
  exact gives

/-- The current row is written as a form and passed. -/
private theorem written_form {row : Row} {others : List Row} {written : WrittenRow}
    (left : cursor.left = row :: others) (shown : layout.row row = .ok written) :
    (layout.write .formData cursor).text.result = .ok (layout.formRow written) ∧
      (layout.write .formData cursor).cursor = cursor.advance 1 := by
  have started : cursor.isAtEnd = false := by rw [Cursor.isAtEnd, left, List.isEmpty_cons]
  have first : cursor.current = row := by rw [Cursor.current, left, List.headD_cons]
  simp only [Layout.write, Layout.writeForm, started, first, shown, Bool.false_eq_true, ↓reduceIte, and_true]
  split <;> rfl

private theorem exact_form (serializes : ∀ row ∈ cursor.rows, ∃ written, layout.row row = .ok written) :
    ((Call.write .formData).step layout cursor).Exact layout := by
  by_cases short : cursor.position < cursor.rows.length
  · have left : cursor.left = cursor.rows[cursor.position] :: cursor.rows.drop (cursor.position + 1) :=
      List.drop_eq_getElem_cons short
    obtain ⟨written, shown⟩ := serializes _ (List.getElem_mem short)
    obtain ⟨text, moved⟩ := written_form left shown
    have handed : ((Call.write .formData).step layout cursor).rows = [cursor.rows[cursor.position]] := by
      simp [Step.rows, Step.places, Call.step, Call.places, short]
    refine ⟨by rw [Call.step, moved]; rfl, ?_, ?_⟩
    · simp only [Call.step, moved, Call.target, if_pos short, Cursor.advance]
      omega
    · rw [handed]
      refine ⟨[written], by simp [shown, bind, Except.bind, pure, Except.pure], ?_⟩
      rw [document, List.flatMap_singleton, ← text]
      rfl
  · have left : cursor.left = [] := List.drop_eq_nil_iff.mpr (by omega)
    have ended : layout.write .formData cursor = ⟨pure [], cursor⟩ := by
      simp only [Layout.write, Layout.writeForm, Cursor.isAtEnd, left, List.isEmpty_nil, ↓reduceIte]
    have handed : ((Call.write .formData).step layout cursor).rows = [] := by
      simp [Step.rows, Step.places, Call.step, Call.places, short]
    refine ⟨by rw [Call.step, ended], ?_, ?_⟩
    · simp only [Call.step, ended, Call.target, if_neg short]
    · rw [handed]
      exact ⟨[], rfl, by rw [Call.step, ended]; rfl⟩

/-- Every call hands out exactly the rows that it is to hand out, and leaves the position behind them. -/
theorem step_exact (serializes : ∀ row ∈ cursor.rows, ∃ written, layout.row row = .ok written)
    (call : Call) :
    (call.step layout cursor).Exact layout := by
  obtain ⟨written, made⟩ : ∃ written, cursor.left.mapM layout.row = .ok written :=
    mapM_total fun row member => serializes row (List.mem_of_mem_drop member)
  cases call with
  | write media =>
    cases media with
    | json =>
      obtain ⟨text, moved⟩ := written_rows made layout.jsonRow fun rows => pure (Layout.jsonRows rows)
      exact exact_ahead rfl rfl moved ⟨written, made, congrArg (Reply.text ·.result) text⟩
    | csv =>
      obtain ⟨text, moved⟩ := written_rows made Layout.csvRow fun rows => pure (layout.csvRows rows)
      exact exact_ahead rfl rfl moved ⟨written, made, congrArg (Reply.text ·.result) text⟩
    | formData => exact exact_form serializes
    | urlEncoded =>
      obtain ⟨text, moved⟩ := written_rows made layout.urlRow Layout.urlRows
      have lines : (Layout.urlRows (written.map layout.urlRow)).result =
          .ok (written.flatMap fun row => layout.urlRow row ++ "\r\n") := by
        have joined : (written.map layout.urlRow).flatMap (· ++ ("\r\n" : Text)) =
            written.flatMap fun row => layout.urlRow row ++ ("\r\n" : Text) := List.flatMap_map ..
        rw [← joined]
        unfold Layout.urlRows
        split <;> rfl
      have reply := congrArg Reply.text ((congrArg Logged.result text).trans lines)
      exact exact_ahead rfl rfl moved ⟨written, made, reply⟩
    | html => exact ⟨rfl, rfl, [], rfl, rfl⟩
  | fill template =>
    obtain ⟨text, moved⟩ := written_rows made (layout.htmlRow template) fun rows => pure rows.flatten
    exact exact_ahead rfl rfl moved ⟨written, made, congrArg (Reply.text ·.result) text⟩
  | next =>
    have within := cursor.position_le
    have moved : (cursor.advance 1).position = Call.next.target cursor.position cursor.rows.length := by
      show min (cursor.position + 1) cursor.rows.length =
        if cursor.position < cursor.rows.length then cursor.position + 1 else cursor.position
      split <;> omega
    refine ⟨rfl, moved, congrArg Reply.hasRow ?_⟩
    show (!(cursor.rows.drop (cursor.advance 1).position).isEmpty) =
      decide ((cursor.advance 1).position < cursor.rows.length)
    rw [Bool.eq_iff_iff, Bool.not_eq_true', List.isEmpty_eq_false_iff, decide_eq_true_iff, ne_eq,
      List.drop_eq_nil_iff, not_le]
  | takeAll => exact exact_ahead rfl rfl rfl rfl

/-! ### Calls one after the other -/

@[simp] theorem step_call (call : Call) : (call.step layout cursor).call = call := by cases call <;> rfl

@[simp] theorem step_before (call : Call) : (call.step layout cursor).before = cursor := by cases call <;> rfl

/-- Behind a call there are the rows of the result, less those that it has passed. -/
private theorem left_behind {call : Call} (exact : (call.step layout cursor).Exact layout) :
    (call.step layout cursor).after.left =
      cursor.left.drop (call.target cursor.position cursor.rows.length - cursor.position) := by
  obtain ⟨-, forwards, -⟩ := places_between call cursor.position_le
  rw [Cursor.left, exact.kept, exact.moved, step_before, step_call, Cursor.left, List.drop_drop,
    Nat.add_sub_cancel' forwards]

/-- The rows that one call hands out are in their order, from the position on and short of where the
call moves it. -/
private theorem step_ordered (layout : Layout) (cursor : Cursor) (call : Call) :
    (call.step layout cursor).places.Pairwise (· < ·) ∧
      (∀ place ∈ (call.step layout cursor).places, cursor.position ≤ place ∧
        place < call.target cursor.position cursor.rows.length) ∧
      (call.step layout cursor).rows.Sublist
        (cursor.left.take (call.target cursor.position cursor.rows.length - cursor.position)) := by
  obtain ⟨places, -, -⟩ := places_between call cursor.position_le
  have own : (call.step layout cursor).places = call.places cursor.position cursor.rows.length := by
    rw [Step.places, step_call, step_before]
  rw [Step.rows, own, step_before]
  rcases places with none | all
  · simp [none]
  · rw [all, rows_between]
    refine ⟨List.pairwise_lt_range', fun place member => ?_, List.Sublist.refl _⟩
    rw [List.mem_range'_1] at member
    omega

/-- Calls one after the other hand out rows of the result in their order, from the position on. -/
private theorem run_ordered (serializes : ∀ row ∈ cursor.rows, ∃ written, layout.row row = .ok written)
    (calls : List Call) :
    (∀ step ∈ run layout cursor calls, step.before.rows = cursor.rows ∧ step.Exact layout) ∧
      (∀ place ∈ (run layout cursor calls).flatMap Step.places, cursor.position ≤ place) ∧
      ((run layout cursor calls).flatMap Step.places).Pairwise (· < ·) ∧
      ((run layout cursor calls).flatMap Step.rows).Sublist cursor.left := by
  induction calls generalizing cursor with
  | nil => simp [run]
  | cons call calls ih =>
    have exact := step_exact serializes call
    obtain ⟨-, forwards, -⟩ := places_between call cursor.position_le
    have still : ∀ row ∈ (call.step layout cursor).after.rows,
        ∃ written, layout.row row = .ok written := by
      rw [exact.kept, step_before]
      exact serializes
    obtain ⟨laterExact, laterWithin, laterOrdered, laterRows⟩ := ih still
    rw [exact.moved, step_call, step_before] at laterWithin
    rw [left_behind exact] at laterRows
    obtain ⟨ordered, within, rows⟩ := step_ordered layout cursor call
    simp only [run, List.flatMap_cons, List.forall_mem_cons, List.forall_mem_append, List.pairwise_append]
    refine ⟨⟨⟨congrArg Cursor.rows (step_before call), exact⟩, fun step member => ?_⟩,
      ⟨fun place member => (within place member).1, fun place member => ?_⟩,
      ⟨ordered, laterOrdered, fun place member later among => ?_⟩, ?_⟩
    · obtain ⟨same, own⟩ := laterExact step member
      exact ⟨same.trans (exact.kept.trans (congrArg Cursor.rows (step_before call))), own⟩
    · exact forwards.trans (laterWithin place member)
    · exact Nat.lt_of_lt_of_le (within place member).2 (laterWithin later among)
    · have whole := rows.append laterRows
      rwa [List.take_append_drop] at whole

/-- **Rows are handed out in order and never twice.** Where the rows of a result can be written, answers in
every media type and with every template, moves and reads in any sequence each give exactly the rows from
the position on that they are to give, and leave the position behind them and within the rows. So the places
of all rows that are handed out increase, and the rows are a part of the result in its order. -/
theorem rows_handed_out_in_order (layout : Layout) (cursor : Cursor) (calls : List Call)
    (serializes : ∀ row ∈ cursor.rows, ∃ written, layout.row row = .ok written) :
    (∀ step ∈ run layout cursor calls, step.before.rows = cursor.rows ∧ step.Exact layout ∧
        step.after.position ≤ cursor.rows.length) ∧
      ((run layout cursor calls).flatMap Step.places).Pairwise (· < ·) ∧
      ((run layout cursor calls).flatMap Step.rows).Sublist cursor.left := by
  obtain ⟨exact, -, ordered, rows⟩ := run_ordered serializes calls
  refine ⟨fun step member => ?_, ordered, rows⟩
  obtain ⟨same, own⟩ := exact step member
  have bound := step.after.position_le
  rw [own.kept, same] at bound
  exact ⟨same, own, bound⟩

/-- Names of people. -/
def people : Layout where
  table :=
    { engine := .sqlite
      options := { tableName := "people" }
      columns := [
        { name := "id", kind := .number, sqlType := "INTEGER", isPrimaryKey := true },
        { name := "name", kind := .string, sqlType := "TEXT" }] }

/-- Of three people the first is written as a form, the second is passed over, and the third is written in a
table, behind which none is left to be read. -/
theorem people_handed_out_in_order :
    let cursor : Cursor := { rows := [[.int 1, .text "Ada"], [.int 2, .text "Bob"], [.int 3, .text "Eve"]] }
    let calls : List Call := [.write .html, .write .formData, .next, .write .csv, .takeAll]
    (∀ row ∈ cursor.rows, ∃ written, people.row row = .ok written) ∧
      (∀ step ∈ run people cursor calls, step.before.rows = cursor.rows ∧ step.Exact people ∧
        step.after.position ≤ 3) ∧
      (run people cursor calls).flatMap Step.places = [0, 2] ∧
      [0, 2].Pairwise (· < ·) ∧
      ((run people cursor calls).flatMap Step.rows).Sublist cursor.rows := by
  intro cursor calls
  have serializes : ∀ row ∈ cursor.rows, ∃ written, people.row row = .ok written := by
    simp only [cursor, List.forall_mem_cons, List.not_mem_nil, false_implies, implies_true, and_true]
    exact ⟨⟨_, rfl⟩, ⟨_, rfl⟩, ⟨_, rfl⟩⟩
  obtain ⟨exact, ordered, rows⟩ := rows_handed_out_in_order people cursor calls serializes
  have places : (run people cursor calls).flatMap Step.places = [0, 2] := by decide +kernel
  exact ⟨serializes, exact, places, places ▸ ordered, rows⟩

end TableGate.RowsInOrder
