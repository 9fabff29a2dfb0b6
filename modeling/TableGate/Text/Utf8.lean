import TableGate.Fault

/-! UTF-8. Texts become bytes character by character. Bytes are read one character at a
time: strict reading stops at the first fault, lenient reading puts a replacement
character for each longest run that could have begun a character. Both give back what
was written. -/

namespace TableGate.Text

/-- The bytes of a code point. -/
def utf8OfNat (n : Nat) : List UInt8 :=
  if n < 0x80 then [UInt8.ofNat n]
  else if n < 0x800 then [UInt8.ofNat (0xC0 + n / 64), UInt8.ofNat (0x80 + n % 64)]
  else if n < 0x10000 then
    [UInt8.ofNat (0xE0 + n / 4096), UInt8.ofNat (0x80 + n / 64 % 64), UInt8.ofNat (0x80 + n % 64)]
  else
    [UInt8.ofNat (0xF0 + n / 262144), UInt8.ofNat (0x80 + n / 4096 % 64),
     UInt8.ofNat (0x80 + n / 64 % 64), UInt8.ofNat (0x80 + n % 64)]

/-- The bytes of a text. -/
def utf8 (text : Text) : List UInt8 := text.flatMap fun c => utf8OfNat c.toNat

/-- What the first bytes of a run are: a character with the number of its bytes, or a
fault with the number of bytes that it covers. -/
inductive Utf8Step where
  | char (c : Char) (size : Nat)
  | fault (problem : Utf8Problem) (size : Nat)
  deriving DecidableEq, Repr

/-- A byte that continues a character. -/
def isTail (b : UInt8) : Bool := 0x80 ≤ b && b < 0xC0

/-- Reads `missing` more bytes of a character whose bits so far are `bits`; `size` bytes
have been read. -/
def utf8Tail (bits size : Nat) : Nat → List UInt8 → Utf8Step
  | 0, _ => .char (Char.ofNat bits) size
  | _ + 1, [] => .fault .unexpectedEnd size
  | missing + 1, b :: rest =>
    if isTail b then utf8Tail (64 * bits + (b.toNat - 0x80)) (size + 1) missing rest
    else .fault .invalidContinuation size

/-- Reads the second byte of a longer character, which must lie between bounds, and then
the `missing` others. -/
def utf8Second (bits missing : Nat) (low high : UInt8) : List UInt8 → Utf8Step
  | [] => .fault .unexpectedEnd 1
  | b :: rest =>
    if low ≤ b ∧ b ≤ high then utf8Tail (64 * bits + (b.toNat - 0x80)) 2 missing rest
    else .fault .invalidContinuation 1

/-- Reads the character at the front. -/
def utf8Step (b : UInt8) (rest : List UInt8) : Utf8Step :=
  if b < 0x80 then .char (Char.ofNat b.toNat) 1
  else if b < 0xC2 then .fault .invalidStart 1
  else if b < 0xE0 then utf8Second (b.toNat - 0xC0) 0 0x80 0xBF rest
  else if b < 0xF0 then
    utf8Second (b.toNat - 0xE0) 1 (if b = 0xE0 then 0xA0 else 0x80) (if b = 0xED then 0x9F else 0xBF)
      rest
  else if b < 0xF5 then
    utf8Second (b.toNat - 0xF0) 2 (if b = 0xF0 then 0x90 else 0x80) (if b = 0xF4 then 0x8F else 0xBF)
      rest
  else .fault .invalidStart 1

/-- Reads bytes, passing over those that belong to a character already read. -/
def decodeLenient : Nat → List UInt8 → Text
  | _, [] => []
  | skipped + 1, _ :: rest => decodeLenient skipped rest
  | 0, b :: rest =>
    match utf8Step b rest with
    | .char c size => c :: decodeLenient (size - 1) rest
    | .fault _ size => '\ufffd' :: decodeLenient (size - 1) rest

/-- Reads bytes with a replacement character for each fault. -/
def ofUtf8Lenient (bytes : List UInt8) : Text := decodeLenient 0 bytes

/-- Reads bytes from a position on, passing over those of a character already read. -/
def decodeStrict (position : Nat) : Nat → List UInt8 → Except Fault Text
  | _, [] => .ok []
  | skipped + 1, _ :: rest => decodeStrict (position + 1) skipped rest
  | 0, b :: rest =>
    match utf8Step b rest with
    | .char c size => (decodeStrict (position + 1) (size - 1) rest).map (c :: ·)
    | .fault problem size => .error (.utf8 problem b position (position + size - 1))

/-- Reads bytes that must be UTF-8. -/
def ofUtf8 (bytes : List UInt8) : Except Fault Text := decodeStrict 0 0 bytes

theorem utf8Tail_append (bits size : Nat) (x : UInt8) (rest : List UInt8) (missing : Nat)
    (h : 0x80 ≤ x.toNat ∧ x.toNat < 0xC0) :
    utf8Tail bits size (missing + 1) (x :: rest) =
      utf8Tail (64 * bits + (x.toNat - 0x80)) (size + 1) missing rest := by
  simp [utf8Tail, isTail, UInt8.le_iff_toNat_le, UInt8.lt_iff_toNat_lt, h]

private theorem byte_toNat {n : Nat} (small : n < 256) : (UInt8.ofNat n).toNat = n :=
  UInt8.toNat_ofNat_of_lt' small

private theorem utf8Step_one {n : Nat} (below : n < 0x80) (rest : List UInt8) :
    utf8Step (UInt8.ofNat n) rest = .char (Char.ofNat n) 1 := by
  have h1 : (UInt8.ofNat n).toNat = n := byte_toNat (by omega)
  rw [utf8Step, if_pos (by rw [UInt8.lt_iff_toNat_lt, h1]; exact below), h1]

private theorem utf8Step_two {n : Nat} (above : 0x80 ≤ n) (below : n < 0x800) (rest : List UInt8) :
    utf8Step (UInt8.ofNat (0xC0 + n / 64)) (UInt8.ofNat (0x80 + n % 64) :: rest) =
      .char (Char.ofNat n) 2 := by
  have h1 : (UInt8.ofNat (0xC0 + n / 64)).toNat = 0xC0 + n / 64 := byte_toNat (by omega)
  have h2 : (UInt8.ofNat (0x80 + n % 64)).toNat = 0x80 + n % 64 := byte_toNat (by omega)
  have value : 64 * (0xC0 + n / 64 - 0xC0) + (0x80 + n % 64 - 0x80) = n := by omega
  rw [utf8Step, if_neg (by rw [UInt8.lt_iff_toNat_lt, h1]; simp; omega),
    if_neg (by rw [UInt8.lt_iff_toNat_lt, h1]; simp; omega),
    if_pos (by rw [UInt8.lt_iff_toNat_lt, h1]; simp; omega)]
  rw [utf8Second, if_pos (by simp only [UInt8.le_iff_toNat_le, h2]; simp; omega), h1, h2, value,
    utf8Tail]

/-- Of three bytes the second has other bounds where the first is the least one, or begins the range of
the surrogates. -/
private theorem utf8Step_three {n : Nat} (above : 0x800 ≤ n) (below : n < 0x10000)
    (valid : n < 0xD800 ∨ 0xDFFF < n) (rest : List UInt8) :
    utf8Step (UInt8.ofNat (0xE0 + n / 4096))
        (UInt8.ofNat (0x80 + n / 64 % 64) :: UInt8.ofNat (0x80 + n % 64) :: rest) =
      .char (Char.ofNat n) 3 := by
  have h1 : (UInt8.ofNat (0xE0 + n / 4096)).toNat = 0xE0 + n / 4096 := byte_toNat (by omega)
  have h2 : (UInt8.ofNat (0x80 + n / 64 % 64)).toNat = 0x80 + n / 64 % 64 := byte_toNat (by omega)
  have h3 : (UInt8.ofNat (0x80 + n % 64)).toNat = 0x80 + n % 64 := byte_toNat (by omega)
  have value : 64 * (64 * (0xE0 + n / 4096 - 0xE0) + (0x80 + n / 64 % 64 - 0x80)) +
      (0x80 + n % 64 - 0x80) = n := by omega
  have least : UInt8.ofNat (0xE0 + n / 4096) = 0xE0 ↔ n / 4096 = 0 := by
    rw [← UInt8.toNat_inj, h1]; simp
  have surrogate : UInt8.ofNat (0xE0 + n / 4096) = 0xED ↔ n / 4096 = 13 := by
    rw [← UInt8.toNat_inj, h1]; simp; omega
  rw [utf8Step, if_neg (by rw [UInt8.lt_iff_toNat_lt, h1]; simp; omega),
    if_neg (by rw [UInt8.lt_iff_toNat_lt, h1]; simp; omega),
    if_neg (by rw [UInt8.lt_iff_toNat_lt, h1]; simp),
    if_pos (by rw [UInt8.lt_iff_toNat_lt, h1]; simp; omega)]
  rw [utf8Second, if_pos, h2, utf8Tail_append _ _ _ _ _ (by rw [h3]; omega), h1, h3, value, utf8Tail]
  simp only [UInt8.le_iff_toNat_le, h2, least, surrogate]
  split <;> split <;> simp <;> omega

/-- Of four bytes the second has other bounds where the first is the least or the greatest one. -/
private theorem utf8Step_four {n : Nat} (above : 0x10000 ≤ n) (below : n < 0x110000) (rest : List UInt8) :
    utf8Step (UInt8.ofNat (0xF0 + n / 262144)) (UInt8.ofNat (0x80 + n / 4096 % 64) ::
        UInt8.ofNat (0x80 + n / 64 % 64) :: UInt8.ofNat (0x80 + n % 64) :: rest) =
      .char (Char.ofNat n) 4 := by
  have h1 : (UInt8.ofNat (0xF0 + n / 262144)).toNat = 0xF0 + n / 262144 := byte_toNat (by omega)
  have h2 : (UInt8.ofNat (0x80 + n / 4096 % 64)).toNat = 0x80 + n / 4096 % 64 := byte_toNat (by omega)
  have h3 : (UInt8.ofNat (0x80 + n / 64 % 64)).toNat = 0x80 + n / 64 % 64 := byte_toNat (by omega)
  have h4 : (UInt8.ofNat (0x80 + n % 64)).toNat = 0x80 + n % 64 := byte_toNat (by omega)
  have value : 64 * (64 * (64 * (0xF0 + n / 262144 - 0xF0) + (0x80 + n / 4096 % 64 - 0x80)) +
      (0x80 + n / 64 % 64 - 0x80)) + (0x80 + n % 64 - 0x80) = n := by omega
  have least : UInt8.ofNat (0xF0 + n / 262144) = 0xF0 ↔ n / 262144 = 0 := by
    rw [← UInt8.toNat_inj, h1]; simp
  have greatest : UInt8.ofNat (0xF0 + n / 262144) = 0xF4 ↔ n / 262144 = 4 := by
    rw [← UInt8.toNat_inj, h1]; simp; omega
  rw [utf8Step, if_neg (by rw [UInt8.lt_iff_toNat_lt, h1]; simp; omega),
    if_neg (by rw [UInt8.lt_iff_toNat_lt, h1]; simp; omega),
    if_neg (by rw [UInt8.lt_iff_toNat_lt, h1]; simp; omega),
    if_neg (by rw [UInt8.lt_iff_toNat_lt, h1]; simp),
    if_pos (by rw [UInt8.lt_iff_toNat_lt, h1]; simp; omega)]
  rw [utf8Second, if_pos, h2, utf8Tail_append _ _ _ _ _ (by rw [h3]; omega),
    utf8Tail_append _ _ _ _ _ (by rw [h4]; omega), h1, h3, h4, value, utf8Tail]
  simp only [UInt8.le_iff_toNat_le, h2, least, greatest]
  split <;> split <;> simp <;> omega

/-- A written character is read as itself, with all of its bytes. -/
theorem utf8Step_utf8OfNat (c : Char) (rest : List UInt8) :
    ∃ b tail, utf8OfNat c.toNat = b :: tail ∧ utf8Step b (tail ++ rest) = .char c (tail.length + 1) := by
  have valid : c.toNat < 0xD800 ∨ 0xDFFF < c.toNat ∧ c.toNat < 0x110000 := c.valid
  have back : Char.ofNat c.toNat = c := Char.ofNat_toNat c
  unfold utf8OfNat
  split
  · rename_i one
    exact ⟨_, _, rfl, by rw [utf8Step_one one, back]; rfl⟩
  · split
    · rename_i above two
      exact ⟨_, _, rfl, (utf8Step_two (by omega) two rest).trans (by rw [back]; rfl)⟩
    · split
      · rename_i above three
        exact ⟨_, _, rfl, (utf8Step_three (by omega) three (by omega) rest).trans (by rw [back]; rfl)⟩
      · exact ⟨_, _, rfl, (utf8Step_four (by omega) (by omega) rest).trans (by rw [back]; rfl)⟩

theorem decodeLenient_skip (skipped rest : List UInt8) :
    decodeLenient skipped.length (skipped ++ rest) = decodeLenient 0 rest := by
  induction skipped with
  | nil => rfl
  | cons b skipped ih => simpa [decodeLenient] using ih

/-- Lenient reading gives written texts back, whatever follows them. -/
theorem decodeLenient_utf8_append (text : Text) (rest : List UInt8) :
    decodeLenient 0 (utf8 text ++ rest) = text ++ decodeLenient 0 rest := by
  induction text with
  | nil => rfl
  | cons c text ih =>
    obtain ⟨b, tail, bytes, step⟩ := utf8Step_utf8OfNat c (utf8 text ++ rest)
    have split : utf8 (c :: text) ++ rest = b :: (tail ++ (utf8 text ++ rest)) := by
      simp [utf8, bytes]
    rw [split, decodeLenient, step]
    simp only [Nat.add_sub_cancel, List.cons_append, decodeLenient_skip, ih]

theorem ofUtf8Lenient_utf8 (text : Text) : ofUtf8Lenient (utf8 text) = text := by
  have := decodeLenient_utf8_append text []
  simpa [ofUtf8Lenient, decodeLenient] using this

theorem decodeStrict_skip (position : Nat) (skipped rest : List UInt8) :
    decodeStrict position skipped.length (skipped ++ rest) =
      decodeStrict (position + skipped.length) 0 rest := by
  induction skipped generalizing position with
  | nil => rfl
  | cons b skipped ih =>
    simp only [List.length_cons, List.cons_append, decodeStrict, ih]
    congr 1
    omega

theorem decodeStrict_utf8 (position : Nat) (text : Text) :
    decodeStrict position 0 (utf8 text) = .ok text := by
  induction text generalizing position with
  | nil => rfl
  | cons c text ih =>
    obtain ⟨b, tail, bytes, step⟩ := utf8Step_utf8OfNat c (utf8 text)
    have split : utf8 (c :: text) = b :: (tail ++ utf8 text) := by simp [utf8, bytes]
    rw [split, decodeStrict, step]
    simp only [Nat.add_sub_cancel, decodeStrict_skip, ih]
    rfl

/-- Strict reading gives written texts back. -/
theorem ofUtf8_utf8 (text : Text) : ofUtf8 (utf8 text) = .ok text := decodeStrict_utf8 0 text

end TableGate.Text
