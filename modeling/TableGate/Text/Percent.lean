import TableGate.Text.Utf8

/-! Percent-encoding of URI components. Letters, digits and `-_.!~*'()` stand for
themselves, every other character is written as the escapes of its UTF-8 bytes. Decoding
reads the escapes of each run of ASCII characters as UTF-8, leniently, and leaves
malformed escapes as they are; it undoes encoding. -/

namespace TableGate.Text

/-- A character that stands for itself in a URI component. -/
def isUriSafe (c : Char) : Bool :=
  c.toNat < 128 && (c.isAlphanum || "-_.!~*'()".toList.contains c)

/-- The capital hexadecimal digit of a number below sixteen. -/
def capitalHexDigit (n : Nat) : Char := Char.ofNat (if n < 10 then 48 + n else 55 + n)

/-- The escape of a byte. -/
def percentByte (b : UInt8) : Text :=
  ['%', capitalHexDigit (b.toNat / 16), capitalHexDigit (b.toNat % 16)]

/-- A character of a URI component. -/
def percentChar (c : Char) : Text :=
  if isUriSafe c then [c] else (utf8OfNat c.toNat).flatMap percentByte

/-- A text as a URI component. -/
def percentEncode (text : Text) : Text := text.flatMap percentChar

/-- An escaped or plain ASCII character is a byte, any other character stands alone. -/
def octets : Text → List (UInt8 ⊕ Char)
  | [] => []
  | '%' :: high :: low :: rest =>
    match byteOfHex? high low with
    | some b => .inl b :: octets rest
    | none => .inl 37 :: octets (high :: low :: rest)
  | c :: rest => (if c.toNat < 128 then .inl (UInt8.ofNat c.toNat) else .inr c) :: octets rest

/-- Reads the runs of bytes as UTF-8; `pending` are the bytes of the current run, in
reverse. -/
def readOctets (pending : List UInt8) : List (UInt8 ⊕ Char) → Text
  | [] => ofUtf8Lenient pending.reverse
  | .inl b :: rest => readOctets (b :: pending) rest
  | .inr c :: rest => ofUtf8Lenient pending.reverse ++ c :: readOctets [] rest

/-- The text that a URI component encodes. -/
def percentDecode (text : Text) : Text := readOctets [] (octets text)

theorem hexValue?_capitalHexDigit : ∀ n < 16, hexValue? (capitalHexDigit n) = some n := by decide

theorem octets_percentByte (b : UInt8) (rest : Text) :
    octets (percentByte b ++ rest) = .inl b :: octets rest := by
  have bound : b.toNat < 256 := b.toNat_lt
  have read : byteOfHex? (capitalHexDigit (b.toNat / 16)) (capitalHexDigit (b.toNat % 16)) =
      some b := by
    rw [byteOfHex?, hexValue?_capitalHexDigit _ (by omega), hexValue?_capitalHexDigit _ (by omega)]
    have : 16 * (b.toNat / 16) + b.toNat % 16 = b.toNat := by omega
    simp [this]
  simp [percentByte, octets, read]

theorem octets_percentBytes (bytes : List UInt8) (rest : Text) :
    octets (bytes.flatMap percentByte ++ rest) = bytes.map .inl ++ octets rest := by
  induction bytes with
  | nil => rfl
  | cons b bytes ih =>
    rw [List.flatMap_cons, List.append_assoc, octets_percentByte, ih]
    rfl

theorem uriSafe_ascii {c : Char} (safe : isUriSafe c = true) : c.toNat < 128 := by
  simp only [isUriSafe, Bool.and_eq_true, decide_eq_true_eq] at safe
  exact safe.1

theorem not_uriSafe_percent : isUriSafe '%' = false := by decide

theorem octets_percentChar (c : Char) (rest : Text) :
    octets (percentChar c ++ rest) = (utf8OfNat c.toNat).map .inl ++ octets rest := by
  unfold percentChar
  split
  · next safe =>
    have ascii := uriSafe_ascii safe
    have plain : c ≠ '%' := by
      rintro rfl
      rw [not_uriSafe_percent] at safe
      exact absurd safe (by decide)
    rw [List.singleton_append, octets.eq_3 _ _ (fun _ _ _ h _ => plain h), if_pos ascii]
    simp [utf8OfNat, ascii]
  · exact octets_percentBytes _ rest

theorem octets_percentEncode (text rest : Text) :
    octets (percentEncode text ++ rest) = (utf8 text).map .inl ++ octets rest := by
  induction text with
  | nil => rfl
  | cons c text ih =>
    simp only [percentEncode, List.flatMap_cons, List.append_assoc] at ih ⊢
    rw [octets_percentChar, ih]
    simp [utf8]

theorem readOctets_bytes (bytes pending : List UInt8) :
    readOctets pending (bytes.map .inl) = ofUtf8Lenient (pending.reverse ++ bytes) := by
  induction bytes generalizing pending with
  | nil => simp [readOctets]
  | cons b bytes ih => simp [readOctets, ih]

/-- Decoding undoes encoding. -/
theorem percentDecode_percentEncode (text : Text) : percentDecode (percentEncode text) = text := by
  have := octets_percentEncode text []
  simp only [List.append_nil, octets] at this
  rw [percentDecode, this, readOctets_bytes]
  exact ofUtf8Lenient_utf8 text

/-- Without a percent sign there is nothing to decode. -/
theorem percentDecode_of_plain {text : Text} (plain : '%' ∉ text) : percentDecode text = text := by
  have behind (before : Text) : readOctets (utf8 before).reverse (octets text) = before ++ text := by
    induction text generalizing before with
    | nil => simp [octets, readOctets, ofUtf8Lenient_utf8]
    | cons c rest ih =>
      obtain ⟨other, later⟩ := not_or.mp (mt List.mem_cons.mpr plain)
      rw [octets.eq_3 _ _ (fun _ _ _ same _ => other same.symm)]
      split
      · next ascii =>
        have byte : utf8 (before ++ [c]) = utf8 before ++ [UInt8.ofNat c.toNat] := by
          simp [utf8, utf8OfNat, ascii]
        have read := ih later (before ++ [c])
        rw [byte, List.reverse_concat] at read
        rw [readOctets, read, List.append_assoc, List.singleton_append]
      · rw [readOctets, List.reverse_reverse, ofUtf8Lenient_utf8]
        exact congrArg (before ++ c :: ·) (ih later [])
  exact behind []

end TableGate.Text
