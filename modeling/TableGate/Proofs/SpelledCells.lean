import TableGate.Column.Codec
import TableGate.Proofs.Contracts
import TableGate.Proofs.FloatRange

/-! Cells that every printer has a text for. Printing such a cell fails only where its column takes
no such value, and the codecs make such cells of every text, with one exception: a text with a
character beyond ASCII in a field of bytes is not refused as a value but as a text. -/
namespace TableGate.SpelledCells
open Fallible Contracts

/-- A cell that has a text, whatever its column is. -/
def Spelled : Cell → Prop
  | .int n => ∃ text, Integer.text n = .ok text
  | .float number => FloatRange.Prints number
  | .list _ | .dict _ => False
  | _ => True

/-- A text that a field of bytes can't be read from. -/
def Alien (column : Column) (text : Text) : Prop := column.kind = .blob ∧ ∃ c ∈ text, 128 ≤ c.toNat

variable {cell : Cell} {number : Binary64} {engine : Engine} {column : Column} {text sqlType : Text}

private theorem ensures_of_text {α : Type} {result : Except Fault α} {allowed : Fault → Prop}
    (total : ∃ value, result = .ok value) : Ensures (fun _ => True) allowed result := by
  obtain ⟨value, rfl⟩ := total
  trivial

theorem spelled_text (spelled : Spelled cell) : ∃ text, cell.toText = .ok text := by
  cases cell with
  | int n => exact spelled
  | bool value => cases value <;> exact ⟨_, rfl⟩
  | list items => cases spelled
  | dict entries => cases spelled
  | _ => exact ⟨_, rfl⟩

/-! ### Printing -/

private theorem finite_text (prints : FloatRange.Prints number) :
    ∃ text, Cell.finiteText number = .ok text := by
  unfold Cell.finiteText
  split
  · rename_i n whole
    exact prints n whole
  · exact ⟨_, rfl⟩

private theorem small_integer {n : Int} (small : n.natAbs ≤ 1) (read : Binary64.ofInt? n = some number) :
    FloatRange.Prints number := by
  have prints : FloatRange.Prints (Binary64.ofRatio (n < 0) n.natAbs 1) :=
    FloatRange.ofRatio_prints _ (by
      rw [Nat.div_one]
      exact Nat.lt_of_le_of_lt small (by decide +kernel))
  unfold Binary64.ofInt? at read
  split at read
  · rename_i found
    rw [found] at prints
    cases read
    exact prints
  · cases read

/-- The number that a cell stands for prints. -/
theorem number_prints (spelled : Spelled cell) (read : cell.number? = some number) :
    FloatRange.Prints number := by
  cases cell with
  | bool value => exact small_integer (by cases value <;> decide) read
  | float value =>
    cases read
    exact spelled
  | text value => exact FloatRange.ofText_prints read
  | bytes value => exact FloatRange.ofBytes_prints read
  | _ => cases read

private theorem number_literal (spelled : Spelled cell) :
    Ensures (fun _ => True) IsValue cell.numberText := by
  obtain ⟨text, shown⟩ := spelled_text spelled
  unfold Cell.numberText
  split
  · trivial
  · trivial
  · exact ensures_of_text spelled
  · split
    · rename_i number read
      split
      · exact ensures_of_text (finite_text (number_prints spelled read))
      · rw [shown]
        exact ⟨_, rfl⟩
    · rw [shown]
      exact ⟨_, rfl⟩

private theorem isFalse_total (spelled : Spelled cell) : ∃ flag, cell.isFalse = .ok flag := by
  obtain ⟨text, shown⟩ := spelled_text spelled
  cases cell with
  | null => exact ⟨_, rfl⟩
  | bool value => exact ⟨_, rfl⟩
  | _ => exact ⟨_, bind_eq_ok.mpr ⟨text, shown, rfl⟩⟩

private theorem boolean_literal (spelled : Spelled cell) :
    Ensures (fun _ => True) IsValue (engine.booleanLiteral cell) := by
  obtain ⟨text, shown⟩ := spelled_text spelled
  have bits : Ensures (fun _ => True) IsValue (Engine.bitLiteral cell) := by
    unfold Engine.bitLiteral
    rw [shown]
    simp only [bind, Except.bind]
    split
    · trivial
    · split
      · trivial
      · exact ⟨_, rfl⟩
  obtain ⟨flag, found⟩ := isFalse_total spelled
  unfold Engine.booleanLiteral
  rw [found]
  cases engine with
  | mariadb =>
    cases flag with
    | true => trivial
    | false => exact bits
  | _ => trivial

private theorem text_literal (spelled : Spelled cell) :
    Ensures (fun _ => True) IsValue (engine.textLiteral cell) := by
  obtain ⟨text, shown⟩ := spelled_text spelled
  unfold Engine.textLiteral
  split
  · trivial
  · rw [shown]
    trivial

/-- Where a cell has no literal its column takes no such value. -/
theorem literal_ensures (spelled : Spelled cell) :
    Ensures (fun _ => True) IsValue (engine.literal cell sqlType) := by
  obtain ⟨text, shown⟩ := spelled_text spelled
  unfold Engine.literal
  split
  · trivial
  · trivial
  · split
    · exact number_literal spelled
    · trivial
    · rw [shown]
      trivial
    · exact boolean_literal spelled
    · trivial
    · exact text_literal spelled

/-! ### Serializing -/

private theorem parse_ensures (text : Text) :
    Ensures (fun _ => True) IsValue (DateTime.parse text) := by
  unfold DateTime.parse
  dsimp only
  split
  · trivial
  · exact ⟨_, rfl⟩

private theorem read_boolean (spelled : Spelled cell) :
    Ensures Spelled IsValue (Engine.readBoolean cell) := by
  obtain ⟨flag, found⟩ := isFalse_total spelled
  unfold Engine.readBoolean
  split
  · trivial
  · trivial
  · trivial
  · rw [found]
    trivial

private theorem read_value (spelled : Spelled cell) :
    Ensures Spelled IsValue (engine.readValue cell sqlType) := by
  unfold Engine.readValue
  split
  · trivial
  · trivial
  · split
    · trivial
    · split
      · exact (parse_ensures _).map fun _ _ => trivial
      · trivial
  · split
    · exact spelled
    · split
      · trivial
      · trivial
      · exact read_boolean spelled

private theorem serialize_read (spelled : Spelled cell) : ∃ wire, column.serializeRead cell = .ok wire := by
  obtain ⟨text, shown⟩ := spelled_text spelled
  have boolean : ∃ text, Column.booleanText cell = .ok text := by
    unfold Column.booleanText
    split
    · exact ⟨_, bind_eq_ok.mpr ⟨text, shown, rfl⟩⟩
    · exact ⟨_, rfl⟩
  have number : ∃ text, Column.numberText cell = .ok text := by
    unfold Column.numberText
    split
    · split
      · rename_i n whole
        exact spelled n whole
      · exact ⟨_, rfl⟩
    · exact ⟨_, rfl⟩
    · exact ⟨text, shown⟩
  have written {result : Except Fault Text} (total : ∃ text, result = .ok text) :
      ∃ wire, result.map Wire.text = .ok wire := by
    obtain ⟨text, rfl⟩ := total
    exact ⟨_, rfl⟩
  unfold Column.serializeRead
  split
  all_goals first
    | exact ⟨_, rfl⟩
    | exact written ⟨text, shown⟩
    | exact written boolean
    | exact written number

/-- Where a cell has no value on the wire it is a text that should write a date. -/
theorem serialize_ensures (spelled : Spelled cell) :
    Ensures (fun _ => True) IsValue (column.serialize engine cell) := by
  unfold Column.serialize
  split
  · trivial
  · exact (read_value spelled).bind fun read own => ensures_of_text (serialize_read own)

/-! ### Deserializing -/

private theorem read_number (text : Text) :
    Ensures FloatRange.Prints IsValue (column.readNumber (.text text)) := by
  unfold Column.readNumber
  simp only [Except.bind]
  cases found : (Cell.number? (.text text)).filter Binary64.isFinite with
  | none => exact ⟨_, rfl⟩
  | some number => exact FloatRange.ofText_prints (Option.filter_eq_some_iff.mp found).1

private theorem read_blob (ascii : ∀ c ∈ text, c.toNat < 128) :
    Ensures (fun _ => True) IsValue (column.readBlob (.text text)) := by
  have all : text.all (·.toNat < 128) = true := by simpa using ascii
  simp only [Column.readBlob, Cell.toText, bind, Except.bind, all, if_true]
  split
  · trivial
  · exact ⟨_, rfl⟩

/-- A codec refuses a text only as a value. -/
theorem deserialize_ensures (familiar : ¬ Alien column text) :
    Ensures Spelled IsValue (column.deserialize (.text text)) := by
  cases kind : column.kind with
  | string => simp [Column.deserialize, kind, Ensures, Spelled]
  | boolean => simp [Column.deserialize, kind, Cell.toText, bind, Except.bind, Ensures, Spelled]
  | number =>
    cases text with
    | nil => simp [Column.deserialize, kind, Ensures, Spelled]
    | cons c text =>
      simp only [Column.deserialize, kind]
      exact (read_number (c :: text)).map fun _ prints => prints
  | blob =>
    have ascii : ∀ c ∈ text, c.toNat < 128 := by
      intro c member
      by_contra beyond
      exact familiar ⟨kind, c, member, by omega⟩
    simp only [Column.deserialize, kind]
    exact (read_blob ascii).map fun _ _ => trivial
  | dateTime =>
    simp only [Column.deserialize, kind, Cell.toText, bind, Except.bind]
    exact (parse_ensures text).bind fun _ _ => trivial

/-- The codec of bytes does not take a text with a character beyond ASCII for a value at all. -/
theorem deserialize_alien (alien : Alien column text) :
    column.deserialize (.text text) = .error (.conversion .notAscii) := by
  obtain ⟨blob, c, member, beyond⟩ := alien
  have some : text.all (·.toNat < 128) = false :=
    List.all_eq_false.mpr ⟨c, member, by simpa using beyond⟩
  simp [Column.deserialize, blob, Column.readBlob, Cell.toText, bind, Except.bind, some, Except.map]

end TableGate.SpelledCells
