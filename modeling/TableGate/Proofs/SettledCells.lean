import TableGate.Column.Codec
import TableGate.Proofs.Fallible

/-! Values of a driver are read once and for all. On its way into an answer a value may be read twice: for a
field of points in time it is read to see whether the formatter is asked, and if not, what was read goes to
the codec, which reads it again. Reading gives a value another type in several ways, but what it returns is
settled, and what is settled no reading changes. -/
namespace TableGate.SettledCells
open Fallible

/-- The cells that a column of a class has once they are read. None is the word for null; a column of dates
has no text but the empty one, and a boolean column holds flags and texts. -/
def Settled (type : TypeClass) : Cell → Prop
  | .null | .undefined | .bool _ => True
  | .text text => text ≠ "NULL" ∧ (type = .date → text = [])
  | _ => type ≠ .boolean

/-- The formatter is asked: what is sent is what it makes of a point in time, whichever formatter it is. -/
def AsksFormatter (engine : Engine) (column : Column) (value : DriverValue) : Prop :=
  ∃ d, ∀ format, column.serializeLocal engine format value = .ok (.text (format d))

variable {engine : Engine} {sqlType : Text} {column : Column} {value : DriverValue} {cell : Cell}

/-! ### Reading -/

/-- Outside boolean columns every cell but a text is settled. -/
private theorem settled_untold {type : TypeClass} (other : type ≠ .boolean)
    (untold : ∀ text, cell ≠ .text text) : Settled type cell := by
  cases cell with
  | null | undefined | bool => trivial
  | text text => exact absurd rfl (untold text)
  | int | float | bytes | dateTime | list | dict => exact other

private theorem readBoolean_flag {read : Cell} (found : Engine.readBoolean cell = .ok read) :
    ∃ flag, read = .bool flag := by
  unfold Engine.readBoolean at found
  split at found
  · exact ⟨_, (Except.ok.inj found).symm⟩
  · exact ⟨_, (Except.ok.inj found).symm⟩
  · exact ⟨_, (Except.ok.inj found).symm⟩
  · obtain ⟨isFalse, -, made⟩ := bind_eq_ok.mp found
    exact ⟨_, (Except.ok.inj made).symm⟩

/-- No bits spell the word for null. -/
private theorem bits_apart (bytes : List UInt8) : bytes.flatMap Engine.bitsOfByte ≠ "NULL" := by
  intro same
  have letter : 'N' ∈ bytes.flatMap Engine.bitsOfByte := by
    rw [same]
    exact List.mem_cons_self
  obtain ⟨byte, -, bit⟩ := List.mem_flatMap.mp letter
  obtain ⟨place, -, shown⟩ := List.mem_map.mp bit
  split at shown <;> cases shown

/-- A text stays as it is, unless it is the word for null or writes a point in time. -/
private theorem settled_of_text {text : Text} (held : value.toCell = .text text)
    (read : engine.readValue value sqlType = .ok cell) : Settled (engine.typeClass sqlType) cell := by
  unfold Engine.readValue at read
  rw [held] at read
  dsimp only at read
  split at read
  · cases read
    trivial
  · rename_i word
    split at read
    · -- No column of dates is a boolean one.
      rename_i parsed
      obtain ⟨d, -, rfl⟩ := map_eq_ok.mp read
      have type : engine.typeClass sqlType = .date := by
        rw [Bool.and_eq_true] at parsed
        exact eq_of_beq parsed.1
      rw [type]
      exact nofun
    · rename_i unparsed
      cases read
      refine ⟨fun same => word (beq_iff_eq.mpr same), fun type => ?_⟩
      simpa [type] using unparsed

/-- All else stays as it is outside boolean columns. There bytes may become a text of bits, and what is not
missing becomes a flag. -/
private theorem settled_of_untold (untold : ∀ text, value.toCell ≠ .text text)
    (read : engine.readValue value sqlType = .ok cell) : Settled (engine.typeClass sqlType) cell := by
  unfold Engine.readValue at read
  split at read
  · cases read
    trivial
  · cases read
    trivial
  · rename_i text held
    exact absurd held (untold text)
  · split at read
    · rename_i other
      cases read
      exact settled_untold (bne_iff_ne.mp other) untold
    · rename_i boolean
      split at read
      · cases read
        trivial
      · cases read
        refine ⟨bits_apart _, fun date => ?_⟩
        simp [date] at boolean
      · obtain ⟨flag, rfl⟩ := readBoolean_flag read
        trivial

theorem settled_of_read (read : engine.readValue value sqlType = .ok cell) :
    Settled (engine.typeClass sqlType) cell := by
  by_cases told : ∃ text, value.toCell = .text text
  · obtain ⟨text, held⟩ := told
    exact settled_of_text held read
  · apply settled_of_untold _ read
    intro text held
    exact told ⟨text, held⟩

theorem read_of_settled (settled : Settled (engine.typeClass sqlType) cell) :
    engine.readValue cell sqlType = .ok cell := by
  unfold Engine.readValue
  cases cell with
  | null | undefined => rfl
  | text text =>
    obtain ⟨word, undated⟩ := settled
    have unparsed : (engine.typeClass sqlType == .date && !text.isEmpty) = false := by
      by_cases date : engine.typeClass sqlType = .date
      · simp [undated date]
      · simp [date]
    simp only [DriverValue.toCell, beq_eq_false_iff_ne.mpr word, unparsed]
    rfl
  | bool flag =>
    dsimp only [DriverValue.toCell]
    split
    · rfl
    · cases engine <;> rfl
  | int | float | bytes | dateTime | list | dict => exact if_pos (bne_iff_ne.mpr settled)

theorem read_again (read : engine.readValue value sqlType = .ok cell) :
    engine.readValue cell sqlType = .ok cell :=
  read_of_settled (settled_of_read read)

/-! ### Sending -/

/-- The codec may be given what was read in place of a value, unless it would pass the value on unread. -/
theorem serialize_read_again (unpassed : column.kind = .string → ∀ text, value ≠ .cell (.text text))
    (read : engine.readValue value column.sqlType = .ok cell) :
    column.serialize engine value = column.serialize engine cell := by
  have sent : column.serialize engine value = column.serializeRead cell := by
    rw [Column.serialize_unpassed unpassed, read]
    rfl
  rw [sent]
  by_cases passed : column.kind = .string ∧ ∃ text, cell = .text text
  · -- The text was made of another value; passed on, it is what the codec writes for it.
    obtain ⟨kind, text, rfl⟩ := passed
    simp only [Column.serializeRead, Column.serialize, kind]
    rfl
  · rw [Column.serialize_unpassed, read_again read]
    · rfl
    · intro kind text same
      exact passed ⟨kind, text, DriverValue.cell.inj same⟩

theorem serializeLocal_point {d : DateTime} (kind : column.kind = .dateTime)
    (read : engine.readValue value column.sqlType = .ok (.dateTime d)) (format : DateTime → Text) :
    column.serializeLocal engine format value = .ok (.text (format d)) := by
  rw [Column.serializeLocal, if_neg (by simp [kind]), read]
  rfl

/-- What a field of points in time reads as anything else is read again, and sent as ever. -/
theorem serializeLocal_other (other : column.kind = .dateTime →
      ∀ d, engine.readValue value column.sqlType ≠ .ok (.dateTime d)) (format : DateTime → Text) :
    column.serializeLocal engine format value = column.serialize engine value := by
  unfold Column.serializeLocal
  split
  · rfl
  · rename_i timed
    have kind : column.kind = .dateTime := by simpa using timed
    have unpassed : column.kind = .string → ∀ text, value ≠ .cell (.text text) := by simp [kind]
    cases read : engine.readValue value column.sqlType with
    | error fault =>
      rw [Column.serialize_unpassed unpassed, read]
      rfl
    | ok cell =>
      rw [serialize_read_again unpassed read]
      cases cell with
      | dateTime d => exact absurd read (other kind d)
      | _ => rfl

theorem asksFormatter_iff : AsksFormatter engine column value ↔
    column.kind = .dateTime ∧ ∃ d, engine.readValue value column.sqlType = .ok (.dateTime d) := by
  constructor
  · rintro ⟨d, asked⟩
    by_contra unread
    have ever (format : DateTime → Text) :
        column.serializeLocal engine format value = column.serialize engine value := by
      apply serializeLocal_other
      intro kind d read
      exact unread ⟨kind, d, read⟩
    -- Two formatters that never agree would have to make the same text.
    have same := (asked fun _ => "").symm.trans ((ever _).trans ((ever _).symm.trans (asked fun _ => "-")))
    cases same
  · rintro ⟨kind, d, read⟩
    exact ⟨d, serializeLocal_point kind read⟩

/-- **Values are read once and for all.** What an engine reads of any value of a driver, for a column of any
type, is settled and is read again as the same cell. The formatter is asked for just those values that a field
of points in time reads as one; every other value is sent as it is without a formatter. A field sends the same
of a value as of the cell that is read of it, but for the texts in fields of strings, which are not read. -/
theorem values_read_once (engine : Engine) :
    (∀ (sqlType : Text) (value : DriverValue) (cell : Cell), engine.readValue value sqlType = .ok cell →
      Settled (engine.typeClass sqlType) cell ∧ engine.readValue cell sqlType = .ok cell) ∧
    (∀ (column : Column) (value : DriverValue),
      (AsksFormatter engine column value ↔
        column.kind = .dateTime ∧ ∃ d, engine.readValue value column.sqlType = .ok (.dateTime d)) ∧
      (¬ AsksFormatter engine column value → ∀ format,
        column.serializeLocal engine format value = column.serialize engine value)) ∧
    (∀ (column : Column) (value : DriverValue) (cell : Cell),
      engine.readValue value column.sqlType = .ok cell →
      ¬ (column.kind = .string ∧ ∃ text, value = .cell (.text text)) →
      column.serialize engine value = column.serialize engine cell) := by
  refine ⟨fun sqlType value cell read => ⟨settled_of_read read, read_again read⟩, ?_, ?_⟩
  · intro column value
    refine ⟨asksFormatter_iff, fun unasked => serializeLocal_other ?_⟩
    intro kind d read
    exact unasked (asksFormatter_iff.mpr ⟨kind, d, read⟩)
  · intro column value cell read unpassed
    apply serialize_read_again _ read
    intro kind text passed
    exact unpassed ⟨kind, text, passed⟩

/-- A field of strings whose column holds bits. -/
def mask : Column := { name := "mask", kind := .string, sqlType := "bit" }

/-- A field of dates. -/
def due : Column := { name := "due", kind := .dateTime, sqlType := "date" }

/-- Bytes that are read as a text of bits, and the word for null in place of a date. -/
theorem bits_and_null_read_once :
    Engine.mariadb.readValue (.buffer [5]) mask.sqlType = .ok (.text "00000101") ∧
      Engine.mariadb.readValue (.cell (.text "00000101")) mask.sqlType = .ok (.text "00000101") ∧
      ¬ (mask.kind = .string ∧ ∃ text, DriverValue.buffer [5] = .cell (.text text)) ∧
      mask.serialize .mariadb (.buffer [5]) = mask.serialize .mariadb (.cell (.text "00000101")) ∧
      ¬ AsksFormatter .mariadb due (.cell (.text "NULL")) ∧
      ∀ format, due.serializeLocal .mariadb format (.cell (.text "NULL")) =
        due.serialize .mariadb (.cell (.text "NULL")) := by
  obtain ⟨reading, formatting, sending⟩ := values_read_once .mariadb
  have type : Engine.mariadb.typeClass mask.sqlType = .boolean := by decide +kernel
  have bits : Engine.mariadb.readValue (.buffer [5]) mask.sqlType = .ok (.text "00000101") := by
    have shown : [5].flatMap Engine.bitsOfByte = "00000101".toList := by decide
    simp [Engine.readValue, DriverValue.toCell, type, ← shown]
  have unpassed : ¬ (mask.kind = .string ∧ ∃ text, DriverValue.buffer [5] = .cell (.text text)) := by
    rintro ⟨-, text, same⟩
    cases same
  have unasked : ¬ AsksFormatter .mariadb due (.cell (.text "NULL")) := by
    rintro ⟨d, asked⟩
    cases asked fun _ => "late"
  exact ⟨bits, (reading _ _ _ bits).2, unpassed, sending _ _ _ bits unpassed, unasked,
    (formatting _ _).2 unasked⟩

/-- A field of strings passes on a date as it is written; of the point in time that is read of it, it would
send more. -/
example :
    let note : Column := { name := "note", kind := .string, sqlType := "date" }
    note.serialize .mariadb (.cell (.text "2024-05-01")) = .ok (.text "2024-05-01") ∧
      (Engine.mariadb.readValue (.cell (.text "2024-05-01")) note.sqlType).bind (note.serialize .mariadb ·) =
        .ok (.text "2024-05-01 00:00:00") := by
  decide +kernel

end TableGate.SettledCells
