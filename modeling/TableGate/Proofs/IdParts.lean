import TableGate.Config.Settings
import TableGate.Proofs.TextFacts

/-! Row ids and their parts. A key value becomes a part that has no separator in it, and the
part decodes to the value, as long as the separator is not one of the digits that escapes are
written with. -/
namespace TableGate.IdParts
open Text TextFacts

/-- The capital digits of percent escapes. -/
def escapeDigits : Text := "0123456789ABCDEF"

/-- A separator that cuts no escape in two. -/
def Separates (settings : Settings) : Prop := settings.idSeparator ∉ escapeDigits

variable {settings : Settings} {old c : Char} {new text value : Text} {values : List Text}

/-! ### Characters -/

theorem capital_digit : ∀ n < 16, capitalHexDigit n ∈ escapeDigits := by decide

/-- An escape is written with percent signs and capital digits. -/
theorem percentByte_chars {b : UInt8} (member : c ∈ percentByte b) : c = '%' ∨ c ∈ escapeDigits := by
  have bound : b.toNat < 256 := b.toNat_lt
  simp only [percentByte, List.mem_cons, List.not_mem_nil, or_false] at member
  rcases member with rfl | rfl | rfl
  · exact .inl rfl
  · exact .inr (capital_digit _ (by omega))
  · exact .inr (capital_digit _ (by omega))

/-- A character is written as itself, or with percent signs and capital digits. -/
theorem percentChar_chars {d : Char} (member : c ∈ percentChar d) :
    (c = d ∧ isUriSafe d = true) ∨ c = '%' ∨ c ∈ escapeDigits := by
  unfold percentChar at member
  split at member
  · rename_i safe
    exact .inl ⟨List.mem_singleton.mp member, safe⟩
  · obtain ⟨b, -, written⟩ := List.mem_flatMap.mp member
    exact .inr (percentByte_chars written)

private theorem ascii_hex : ∀ n < 128, 16 ≤ n → hex n = [hexDigit (n / 16), hexDigit (n % 16)] := by
  decide

private theorem ascii_hex_apart : ∀ n < 128, 16 ≤ n → Char.ofNat n ∉ escapeDigits →
    Char.ofNat n ≠ hexDigit (n / 16) ∧ Char.ofNat n ≠ hexDigit (n % 16) := by decide

/-- A property of the characters that stand for themselves is checked one number after the other. -/
theorem each_uriSafe {P : Char → Prop}
    (each : ∀ n < 128, isUriSafe (Char.ofNat n) = true → P (Char.ofNat n)) (safe : isUriSafe c = true) :
    P c := by
  have checked := each c.toNat (uriSafe_ascii safe)
  rw [Char.ofNat_toNat] at checked
  exact checked safe

private theorem safe_range (safe : isUriSafe c = true) : 16 ≤ c.toNat ∧ c.toNat < 128 :=
  ⟨each_uriSafe (P := fun c => 16 ≤ c.toNat) (by decide) safe, uriSafe_ascii safe⟩

/-! ### Parts -/

/-- What a character of a key value becomes in a part. -/
def partChar (settings : Settings) (c : Char) : Text :=
  replaceChar settings.idSeparator settings.escapedSeparator (percentChar c)

theorem part_chars (value : Text) :
    settings.idPart value = value.flatMap (partChar settings) := by
  rw [Settings.idPart, percentEncode, replaceChar, List.flatMap_assoc]
  rfl

private theorem octets_escaped (safe : isUriSafe settings.idSeparator = true) (rest : Text) :
    octets (settings.escapedSeparator ++ rest) =
      .inl (UInt8.ofNat settings.idSeparator.toNat) :: octets rest := by
  obtain ⟨low, high⟩ := safe_range safe
  have same : (UInt8.ofNat settings.idSeparator.toNat).toNat = settings.idSeparator.toNat := by
    simp
    omega
  have read := byteOfHex?_hexOfByte (UInt8.ofNat settings.idSeparator.toNat)
  rw [same] at read
  rw [Settings.escapedSeparator, ascii_hex _ high low]
  simp [octets, read]

/-- The bytes of a character are read from its part, whether or not it is the separator. -/
private theorem octets_partChar (separates : Separates settings) (c : Char) (rest : Text) :
    octets (partChar settings c ++ rest) = (utf8OfNat c.toNat).map .inl ++ octets rest := by
  by_cases own : c = settings.idSeparator ∧ isUriSafe c = true
  · obtain ⟨rfl, safe⟩ := own
    have ascii := (safe_range safe).2
    have written : partChar settings settings.idSeparator = settings.escapedSeparator := by
      simp [partChar, percentChar, safe, replaceChar]
    rw [written, octets_escaped safe]
    simp [utf8OfNat, ascii]
  · have free : settings.idSeparator ∉ percentChar c := by
      intro member
      rcases percentChar_chars member with ⟨same, safe⟩ | percent | digit
      · exact own ⟨same.symm, safe⟩
      · exact settings.separator_ne_percent percent
      · exact separates digit
    rw [partChar, replaceChar_of_not_mem free, octets_percentChar]

private theorem octets_idPart (separates : Separates settings) (value rest : Text) :
    octets (settings.idPart value ++ rest) = (utf8 value).map .inl ++ octets rest := by
  rw [part_chars]
  induction value with
  | nil => rfl
  | cons c value ih =>
    rw [List.flatMap_cons, List.append_assoc, octets_partChar separates, ih]
    simp [utf8]

/-- A part decodes to the key value. -/
theorem percentDecode_idPart (separates : Separates settings) (value : Text) :
    percentDecode (settings.idPart value) = value := by
  have bytes := octets_idPart separates value []
  rw [List.append_nil, octets, List.append_nil] at bytes
  rw [percentDecode, bytes, readOctets_bytes]
  exact ofUtf8Lenient_utf8 value

private theorem separator_not_mem_escape (separates : Separates settings)
    (safe : isUriSafe settings.idSeparator = true) :
    settings.idSeparator ∉ settings.escapedSeparator := by
  obtain ⟨low, high⟩ := safe_range safe
  have apart := ascii_hex_apart _ high low (by rwa [Char.ofNat_toNat])
  rw [Char.ofNat_toNat] at apart
  rw [Settings.escapedSeparator, ascii_hex _ high low]
  simp [settings.separator_ne_percent, apart.1, apart.2]

/-- A part is written in the characters of percent-encoding other than the separator, and in
those of the separator's escape. -/
private theorem idPart_chars (separates : Separates settings) (member : c ∈ settings.idPart value) :
    (isUriSafe settings.idSeparator = true ∧ c ∈ settings.escapedSeparator) ∨
      (c ≠ settings.idSeparator ∧ ∃ d, c ∈ percentChar d) := by
  rw [part_chars] at member
  obtain ⟨d, -, inside⟩ := List.mem_flatMap.mp member
  obtain ⟨e, origin, written⟩ := List.mem_flatMap.mp inside
  split at written
  · rename_i same
    subst same
    rcases percentChar_chars origin with ⟨rfl, safe⟩ | percent | digit
    · exact .inl ⟨safe, written⟩
    · exact absurd percent settings.separator_ne_percent
    · exact absurd digit separates
  · rename_i other
    obtain rfl := List.mem_singleton.mp written
    exact .inr ⟨other, d, origin⟩

/-- The separator is never part of a part. -/
theorem separator_not_mem_idPart (separates : Separates settings) (value : Text) :
    settings.idSeparator ∉ settings.idPart value := by
  intro member
  rcases idPart_chars separates member with ⟨safe, escape⟩ | ⟨other, -⟩
  · exact separator_not_mem_escape separates safe escape
  · exact other rfl

/-- Splitting a row id gives back the values it was joined from. -/
theorem splitId_joinId (separates : Separates settings) (some : values ≠ []) :
    settings.splitId (settings.joinId values) = values := by
  have parts : splitOn settings.idSeparator (settings.joinId values) = values.map settings.idPart :=
    splitOn_tokens some (separator_not_mem_idPart separates)
  have decoded : percentDecode ∘ settings.idPart = id :=
    funext fun value => percentDecode_idPart separates value
  rw [Settings.splitId, parts, List.map_map, decoded, List.map_id]

/-! ### Ids with as many parts as values -/

private theorem length_splitOn (separator : Char) (text : Text) :
    (splitOn separator text).length = text.count separator + 1 := by
  induction text with
  | nil => rfl
  | cons c text ih =>
    rw [splitOn]
    split
    · rename_i same
      subst same
      rw [List.length_cons, ih, List.count_cons_self]
    · rename_i other
      rw [List.length_modifyHead, ih, List.count_cons_of_ne other]

private theorem count_join_ge (separator : Char) (pieces : List Text) :
    pieces.length ≤ (join [separator] pieces).count separator + 1 := by
  induction pieces with
  | nil => simp
  | cons piece pieces ih =>
    cases pieces with
    | nil => simp
    | cons next rest =>
      simp only [join, List.length_cons, List.count_append, List.count_singleton_self] at ih ⊢
      omega

/-- Joined pieces are cut into as many pieces only if the separator is in none of them. -/
theorem free_of_length {separator : Char} {pieces : List Text}
    (same : (splitOn separator (join [separator] pieces)).length = pieces.length) :
    ∀ piece ∈ pieces, separator ∉ piece := by
  rw [length_splitOn] at same
  induction pieces with
  | nil => simp
  | cons piece pieces ih =>
    cases pieces with
    | nil =>
      rintro other member
      obtain rfl := List.mem_singleton.mp member
      simpa [join, List.count_eq_zero] using same
    | cons next rest =>
      have least := count_join_ge separator (next :: rest)
      simp only [join, List.count_append, List.count_singleton_self, List.length_cons] at same ih least
      refine List.forall_mem_cons.mpr ⟨?_, ih (by omega)⟩
      exact List.count_eq_zero.mp (by omega)

/-- Where an id has as many parts as it was joined from, each part is decoded from its own value,
whatever the separator. -/
theorem split_values
    (same : (settings.splitId (settings.joinId values)).length = values.length) :
    settings.splitId (settings.joinId values) =
      values.map fun value => percentDecode (settings.idPart value) := by
  have count : (splitOn settings.idSeparator (join [settings.idSeparator]
      (values.map settings.idPart))).length = (values.map settings.idPart).length := by
    simpa [Settings.splitId, Settings.joinId] using same
  have some : values.map settings.idPart ≠ [] := by
    intro none
    rw [none, length_splitOn] at count
    cases count
  rw [Settings.splitId, Settings.joinId, splitOn_join some (free_of_length count), List.map_map]
  rfl

/-! ### The choice of a separator -/

/-- A text that has every capital digit in it, as itself or in the escape of a control character. -/
def digitText : Text := "0123456789\n\x0b\x0c\r\x0e\x0f"

/-- A digit as the separator cuts the text with all digits: a decimal one stands in its own escape,
so that there are more parts than values, and a letter breaks an escape of percent-encoding. -/
private theorem digits_cut : ∀ c ∈ escapeDigits,
    (splitOn c (replaceChar c ('%' :: hex c.toNat) (percentEncode digitText))).map percentDecode ≠
      [digitText] :=
  each_of_all (by decide +kernel)

/-- A character of a URI component as it is written. -/
def IsUriChar (c : Char) : Prop := isUriSafe c = true ∨ c = '%'

private theorem escape_digit_uri (digit : c ∈ escapeDigits) : IsUriChar c := by
  have safe : ∀ c ∈ escapeDigits, isUriSafe c = true := each_of_all (by decide)
  exact .inl (safe c digit)

private theorem percentChar_uri {d : Char} (member : c ∈ percentChar d) : IsUriChar c := by
  rcases percentChar_chars member with ⟨rfl, safe⟩ | rfl | digit
  · exact .inl safe
  · exact .inr rfl
  · exact escape_digit_uri digit

theorem percentEncode_uri (member : c ∈ percentEncode text) : IsUriChar c := by
  obtain ⟨d, -, written⟩ := List.mem_flatMap.mp member
  exact percentChar_uri written

/-- Characters of URI components separate nothing in the parameters of a URL. -/
theorem uri_apart (uri : IsUriChar c) :
    isBlank c = false ∧ c ≠ '&' ∧ c ≠ '=' ∧ c ≠ '+' := by
  rcases uri with safe | rfl
  · exact each_uriSafe (P := fun c => isBlank c = false ∧ c ≠ '&' ∧ c ≠ '=' ∧ c ≠ '+') (by decide) safe
  · decide

private theorem hex_digit_uri : ∀ n < 16, isUriSafe (hexDigit n) = true := by decide

/-- The escape of a separator is written with a percent sign and digits. -/
theorem escapedSeparator_chars (safe : isUriSafe settings.idSeparator = true)
    (member : c ∈ settings.escapedSeparator) : c = '%' ∨ ∃ n < 16, c = hexDigit n := by
  obtain ⟨low, high⟩ := safe_range safe
  rw [Settings.escapedSeparator, ascii_hex _ high low] at member
  simp only [List.mem_cons, List.not_mem_nil, or_false] at member
  rcases member with rfl | rfl | rfl
  · exact .inl rfl
  · exact .inr ⟨_, by omega, rfl⟩
  · exact .inr ⟨_, by omega, rfl⟩

private theorem escape_uri (safe : isUriSafe settings.idSeparator = true)
    (member : c ∈ settings.escapedSeparator) : IsUriChar c := by
  rcases escapedSeparator_chars safe member with rfl | ⟨n, small, rfl⟩
  · exact .inr rfl
  · exact .inl (hex_digit_uri n small)

private theorem idPart_uri (separates : Separates settings) (member : c ∈ settings.idPart value) :
    IsUriChar c := by
  rcases idPart_chars separates member with ⟨safe, escape⟩ | ⟨-, d, origin⟩
  · exact escape_uri safe escape
  · exact percentChar_uri origin

/-- A row id is written in the characters of URI components and its separator. -/
theorem joinId_chars (separates : Separates settings) (member : c ∈ settings.joinId values) :
    IsUriChar c ∨ c = settings.idSeparator := by
  rcases mem_join member with mark | ⟨part, among, inside⟩
  · exact .inr (List.mem_singleton.mp mark)
  · obtain ⟨value, -, rfl⟩ := List.mem_map.mp among
    exact .inl (idPart_uri separates inside)

end TableGate.IdParts
