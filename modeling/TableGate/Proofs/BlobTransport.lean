import TableGate.Column.Codec
import TableGate.Proofs.Base64Reading

/-! Fields of bytes. Whatever holds the bytes, the driver, a buffer of its own or a view of one, they are
sent in base64 and come back as they were. -/
namespace TableGate.BlobTransport
open Base64Reading Text

variable {engine : Engine} {column : Column} {value : DriverValue} {bytes : List UInt8}

/-- Only the bytes of boolean types are read as something else. -/
private theorem readValue_bytes {sqlType : Text} (type : engine.typeClass sqlType ≠ .boolean)
    (held : value.toCell = .bytes bytes) : engine.readValue value sqlType = .ok (.bytes bytes) := by
  unfold Engine.readValue
  rw [held]
  simp [type]

/-- A field of bytes sends them in base64. -/
theorem serialize_bytes (kind : column.kind = .blob) (type : engine.typeClass column.sqlType ≠ .boolean)
    (held : value.toCell = .bytes bytes) : column.serialize engine value = .ok (.text (base64 bytes)) := by
  rw [Column.serialize_of_read (by simp [kind]) (readValue_bytes type held)]
  simp only [Column.serializeRead, kind]

/-- It receives the bytes of what is sent. -/
theorem deserialize_base64 (kind : column.kind = .blob) (bytes : List UInt8) :
    column.deserialize (.text (base64 bytes)) = .ok (.bytes bytes) := by
  have ascii : (base64 bytes).all (·.toNat < 128) = true :=
    List.all_eq_true.mpr fun c member => decide_eq_true (base64_ascii bytes c member)
  simp [Column.deserialize, kind, Column.readBlob, Cell.toText, ascii, ofBase64_base64, bind, Except.bind,
    Except.map]

/-- **Bytes survive their codec.** A field of bytes of any native type but a boolean one sends them as a
text that is the same for all that may hold them, that is received as these bytes, and that is sent of
no others. -/
theorem bytes_return (engine : Engine) (column : Column) (kind : column.kind = .blob)
    (type : engine.typeClass column.sqlType ≠ .boolean) (bytes : List UInt8) :
    ∃ text, (∀ value ∈ [DriverValue.cell (.bytes bytes), .buffer bytes, .view bytes],
        column.serialize engine value = .ok (.text text)) ∧
      column.deserialize (.text text) = .ok (.bytes bytes) ∧
      ∀ others, others ≠ bytes → ∀ value ∈ [DriverValue.cell (.bytes others), .buffer others, .view others],
        column.serialize engine value ≠ .ok (.text text) := by
  have held {bytes : List UInt8} :
      ∀ value ∈ [DriverValue.cell (.bytes bytes), .buffer bytes, .view bytes], value.toCell = .bytes bytes := by
    simp [DriverValue.toCell]
  refine ⟨base64 bytes, fun value known => serialize_bytes kind type (held value known),
    deserialize_base64 kind bytes, fun others apart value known same => ?_⟩
  -- Bytes that were sent as the same text would be received as the same bytes.
  have sent := (serialize_bytes kind type (held value known)).symm.trans same
  have received := deserialize_base64 kind others
  rw [Wire.text.inj (Except.ok.inj sent), deserialize_base64 kind bytes] at received
  exact apart (Cell.bytes.inj (Except.ok.inj received)).symm

/-- The bytes of the word for null are bytes like any others. -/
theorem null_word_returns :
    let column : Column := { name := "photo", kind := .blob, sqlType := "longblob" }
    Engine.mariadb.typeClass column.sqlType = .blob ∧
      column.serialize .mariadb (.view [78, 85, 76, 76]) = .ok (.text "TlVMTA==") ∧
      column.deserialize (.text "TlVMTA==") = .ok (.bytes [78, 85, 76, 76]) := by
  intro column
  have type : Engine.mariadb.typeClass column.sqlType = .blob := by decide +kernel
  have other : Engine.mariadb.typeClass column.sqlType ≠ .boolean := by simp [type]
  obtain ⟨text, sent, received, -⟩ := bytes_return .mariadb column rfl other [78, 85, 76, 76]
  have word : base64 [78, 85, 76, 76] = "TlVMTA==" := by decide
  have written : column.serialize .mariadb (.view [78, 85, 76, 76]) = .ok (.text "TlVMTA==") := by
    rw [← word]
    exact serialize_bytes rfl other rfl
  cases (sent _ (by simp)).symm.trans written
  exact ⟨type, written, received⟩

end TableGate.BlobTransport
