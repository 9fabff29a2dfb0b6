import TableGate.Cell

/-! Rows of a result behind a position that moves forward. What was read stays there, so
that the position can go back to the first row. -/

namespace TableGate

/-- Rows, the number of those that were read, and the messages of the database. -/
structure Cursor where
  rows : List Row
  messages : List Text := []
  position : Nat := 0
  position_le : position ≤ rows.length := by exact Nat.zero_le _

namespace Cursor

/-- The rows from the position on. -/
def left (cursor : Cursor) : List Row := cursor.rows.drop cursor.position

def isEmpty (cursor : Cursor) : Bool := cursor.rows.isEmpty

/-- Whether all rows were read. -/
def isAtEnd (cursor : Cursor) : Bool := cursor.left.isEmpty

/-- The current row, empty at the end. -/
def current (cursor : Cursor) : Row := cursor.left.headD []

/-- The position moved over some rows, but not beyond the last one. -/
def advance (count : Nat) (cursor : Cursor) : Cursor :=
  { cursor with
    position := min (cursor.position + count) cursor.rows.length
    position_le := Nat.min_le_right _ _ }

/-- The position before the first row. -/
def rewind (cursor : Cursor) : Cursor :=
  { cursor with position := 0, position_le := Nat.zero_le _ }

/-- The rows that are left, which are read by this. -/
def takeAll (cursor : Cursor) : List Row × Cursor :=
  (cursor.left, cursor.advance cursor.left.length)

@[simp] theorem left_advance (count : Nat) (cursor : Cursor) :
    (cursor.advance count).left = cursor.left.drop count := by
  simp only [left, advance, List.drop_drop]
  by_cases h : cursor.position + count ≤ cursor.rows.length
  · rw [Nat.min_eq_left h]
  · rw [Nat.min_eq_right (by omega), List.drop_of_length_le (by omega),
      List.drop_of_length_le (by omega)]

@[simp] theorem left_rewind (cursor : Cursor) : cursor.rewind.left = cursor.rows := by
  simp [left, rewind]

@[simp] theorem left_takeAll (cursor : Cursor) : cursor.takeAll.2.left = [] := by
  simp [takeAll]

/-- What an operation yields for each row up to the first fault, and how many rows it has
dealt with. -/
def mapRows {α : Type} (f : Row → Except Fault α) : List Row → Except Fault (List α) × Nat
  | [] => (.ok [], 0)
  | row :: rows =>
    match f row with
    | .error fault => (.error fault, 0)
    | .ok value =>
      let (values, count) := mapRows f rows
      (values.map (value :: ·), count + 1)

/-- What an operation yields for each row that is left. The position stops at a row for
which it fails. -/
def readRows {α : Type} (f : Row → Except Fault α) (cursor : Cursor) :
    Except Fault (List α) × Cursor :=
  let (values, count) := mapRows f cursor.left
  (values, cursor.advance count)

theorem mapRows_ok {α : Type} {f : Row → Except Fault α} {rows : List Row} {values : List α}
    (h : (mapRows f rows).1 = .ok values) : (mapRows f rows).2 = rows.length := by
  induction rows generalizing values with
  | nil => rfl
  | cons row rows ih =>
    simp only [mapRows] at h ⊢
    split at h
    · simp at h
    · next value _ =>
      cases hrest : (mapRows f rows).1 with
      | error fault => simp [hrest, Except.map] at h
      | ok rest => simp [ih hrest]

end Cursor
end TableGate
