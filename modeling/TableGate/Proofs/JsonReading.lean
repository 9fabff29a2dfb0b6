import TableGate.Proofs.DecimalReading
import TableGate.Proofs.MediaReading

/-! JSON texts read piece by piece. Each step of a reader is stated with whatever follows it: a
value ends where its own text ends, and entries and items are read one after the other. -/
namespace TableGate.JsonReading
open DecimalReading FiniteIntegers MediaReading Text

variable {text shown rest : Text} {value : Json} {key : Text} {c : Char}

/-! ### Steps of the readers -/

/-- What is read and what follows it, without the proof that this is shorter. -/
private def forget {α : Type} {source : Text} (result : Except Json.Stop (α × Json.Rest source)) :
    Except Json.Stop (α × Text) := result.map fun (value, rest) => (value, rest.1)

private theorem forget_error {α : Type} {source : Text} (stop : Json.Stop) :
    forget (.error stop : Except Json.Stop (α × Json.Rest source)) = .error stop := rfl

private theorem forget_ok {α : Type} {source : Text} (value : α) (rest : Json.Rest source) :
    forget (.ok (value, rest)) = .ok (value, rest.1) := rfl

private theorem forget_within {α β : Type} {source later : Text} (h : later.length ≤ source.length)
    (f : α → β) (result : Except Json.Stop (α × Json.Rest later)) :
    forget (result.map fun (value, rest) => (f value, rest.within h)) =
      (forget result).map fun (value, rest) => (f value, rest) := by
  cases result <;> rfl

/-- A value at the front of a text, and what follows it. -/
def readValue (text : Text) : Except Json.Stop (Json × Text) := forget (Json.value text)

/-- The items of an array up to its closing bracket, and what follows them. -/
def readItems (text : Text) : Except Json.Stop (List Json × Text) := forget (Json.items text)

/-- The entries of an object up to its closing bracket, and what follows them. -/
def readEntries (text : Text) : Except Json.Stop (List (Text × Json) × Text) :=
  forget (Json.entries text)

theorem skipGap_of_ungapped (ungapped : Json.isGap c = false) (rest : Text) :
    Json.skipGap (c :: rest) = c :: rest := by
  simp [Json.skipGap, ungapped]

theorem value_string (text rest : Text) : readValue (jsonString text ++ rest) = .ok (.text text, rest) := by
  have same : jsonString text ++ rest = '"' :: (jsonInside text ++ '"' :: rest) := by
    simp [jsonString]
  have read : forget (Json.string (jsonInside text ++ '"' :: rest)) = .ok (text, rest) :=
    readString_jsonInside text rest
  rw [same, readValue, Json.value.eq_1]
  exact (forget_within _ Json.text _).trans (by rw [read]; rfl)

theorem value_object (text : Text) : readValue ('\x7b' :: text) =
    match Json.skipGap text with
    | '\x7d' :: after => .ok (.object [], after)
    | start => (readEntries start).map fun (entries, after) => (.object (distinctKeys entries), after) := by
  rw [readValue, Json.value.eq_3]
  split
  · rename_i after same
    simp only [same, forget_ok]
  · rename_i other
    rw [forget_within _ fun entries => Json.object (distinctKeys entries)]
    split
    · rename_i after same
      exact (other after same).elim
    · rfl

theorem value_array (text : Text) : readValue ('[' :: text) =
    match Json.skipGap text with
    | ']' :: after => .ok (.array [], after)
    | start => (readItems start).map fun (items, after) => (.array items, after) := by
  rw [readValue, Json.value.eq_2]
  split
  · rename_i after same
    simp only [same, forget_ok]
  · rename_i other
    rw [forget_within]
    split
    · rename_i after same
      exact (other after same).elim
    · rfl

theorem items_step (text : Text) : readItems text =
    match readValue text with
    | .error stop => .error stop
    | .ok (item, rest) =>
      match Json.skipGap rest with
      | ']' :: after => .ok ([item], after)
      | ',' :: next => (readItems (Json.skipGap next)).map fun (more, after) => (item :: more, after)
      | other => .error (.problem .comma other.length) := by
  unfold readItems readValue
  rw [Json.items.eq_1]
  cases Json.value text with
  | error stop => rfl
  | ok found =>
    obtain ⟨item, rest, shorter⟩ := found
    simp only [forget_ok]
    split
    · rename_i after same
      simp only [same, forget_ok]
    · rename_i next same
      simp only [same, forget_within]
    · simp only [forget_error]

theorem entries_step (text : Text) : readEntries ('"' :: text) =
    match readString text with
    | .error stop => .error stop
    | .ok (key, rest) =>
      match Json.skipGap rest with
      | ':' :: next =>
        match readValue (Json.skipGap next) with
        | .error stop => .error stop
        | .ok (content, rest) =>
          match Json.skipGap rest with
          | '\x7d' :: after => .ok ([(key, content)], after)
          | ',' :: next =>
            (readEntries (Json.skipGap next)).map fun (more, after) => ((key, content) :: more, after)
          | other => .error (.problem .comma other.length)
      | other => .error (.problem .colon other.length) := by
  have named : readString text = forget (Json.string text) := rfl
  unfold readEntries readValue
  rw [Json.entries.eq_1, named]
  cases Json.string text with
  | error stop => rfl
  | ok found =>
    obtain ⟨key, rest, shorter⟩ := found
    simp only [forget_ok]
    split
    · rename_i next colon
      simp only [colon]
      cases Json.value (Json.skipGap next) with
      | error stop => rfl
      | ok found =>
        obtain ⟨content, rest, shorter⟩ := found
        simp only [forget_ok]
        split
        · rename_i after same
          simp only [same, forget_ok]
        · rename_i next same
          simp only [same, forget_within]
        · simp only [forget_error]
    · simp only [forget_error]

/-! ### Values of entries -/

/-- The place behind a value of an entry: a comma or a closing bracket. -/
def Ends (rest : Text) : Prop := ∃ c more, rest = c :: more ∧ (c = ',' ∨ c = '\x7d')

/-- A text that is read as a value wherever an entry may have one, with no gap in front of it. -/
structure ReadsAs (shown : Text) (value : Json) : Prop where
  ungapped : ∃ c more, shown = c :: more ∧ Json.isGap c = false
  read : ∀ rest, Ends rest → readValue (shown ++ rest) = .ok (value, rest)

theorem reads_string (text : Text) : ReadsAs (jsonString text) (.text text) where
  ungapped := ⟨'"', _, rfl, rfl⟩
  read rest _ := value_string text rest

private theorem behind_front {front : Text} (some : front ≠ []) (rest : Text) :
    ∃ shorter, Json.Rest.behind? front.length (front ++ rest) = .some ⟨rest, shorter⟩ := by
  obtain ⟨c, more, rfl⟩ := List.exists_cons_of_ne_nil some
  have behind : (more ++ rest).drop more.length = rest := List.drop_left
  refine ⟨by simp only [List.length_append, List.length_cons]; omega, ?_⟩
  simp only [List.length_cons, List.cons_append, Json.Rest.behind?, behind]

/-- A text that starts no string, array or object is a word or a number. -/
private theorem value_scalar (apart : c ≠ '"' ∧ c ≠ '[' ∧ c ≠ '\x7b') (text : Text) :
    readValue (c :: text) = forget (Json.scalar (c :: text)) := by
  rw [readValue, Json.value.eq_4]
  · exact fun _ same => apart.1 (List.cons.inj same).1
  · exact fun _ same => apart.2.1 (List.cons.inj same).1
  · exact fun _ same => apart.2.2 (List.cons.inj same).1

private theorem reads_word {word : Text} (apart : c ≠ '"' ∧ c ≠ '[' ∧ c ≠ '\x7b')
    (ungapped : Json.isGap c = false)
    (known : ∀ rest, Json.word? (c :: word ++ rest) = some (c :: word, value)) :
    ReadsAs (c :: word) value where
  ungapped := ⟨c, word, rfl, ungapped⟩
  read rest _ := by
    obtain ⟨shorter, behind⟩ := behind_front (List.cons_ne_nil c word) rest
    rw [List.cons_append, value_scalar apart, Json.scalar, ← List.cons_append, known]
    simp only [behind]
    rfl

theorem reads_null : ReadsAs "null" .null :=
  reads_word (by decide) rfl fun _ => rfl

theorem reads_bool (flag : Bool) : ReadsAs (if flag then "true" else "false") (.bool flag) := by
  cases flag with
  | true => exact reads_word (by decide) rfl fun _ => rfl
  | false => exact reads_word (by decide) rfl fun _ => rfl

/-! ### Numbers -/

private theorem digits_front {digits : Text} (are : ∀ c ∈ digits, c.isDigit = true)
    (behind : ∀ c, rest.head? = some c → c.isDigit = false) : Json.digits (digits ++ rest) = digits := by
  rw [Json.digits, List.takeWhile_append_of_pos are]
  cases rest with
  | nil => exact List.append_nil _
  | cons c rest =>
    have plain : c.isDigit = false := behind c rfl
    rw [List.takeWhile_cons_of_neg (by simp [plain]), List.append_nil]

section Numbers

variable {minus whole fraction power : Text} (parts : Parts minus whole fraction power)
include parts

private theorem minus_front (rest : Text) : Json.minus (minus ++ (whole ++ rest)) = minus := by
  obtain ⟨first, others, digit, rfl⟩ := parts.start
  rcases parts.isMinus with rfl | rfl
  · rw [List.nil_append, List.cons_append, Json.minus.eq_2]
    rintro _ ⟨⟩
    cases digit
  · rfl

private theorem whole_front (behind : ∀ c, rest.head? = some c → c.isDigit = false) :
    Json.whole (whole ++ rest) = whole := by
  obtain ⟨first, others, -, same⟩ := parts.start
  obtain ⟨⟨-, digits⟩, zero⟩ := parts.isWhole
  have front := digits_front digits behind
  rw [same] at zero front ⊢
  by_cases lead : first = '0'
  · rw [zero (by rw [lead]; rfl)]
    rfl
  · rw [List.cons_append] at front ⊢
    rw [Json.whole.eq_2 _ fun _ start => lead (List.cons.inj start).1]
    exact front

private theorem fraction_front (behind : ∀ c, rest.head? = some c → c.isDigit = false ∧ c ≠ '.') :
    Json.fraction (fraction ++ rest) = fraction := by
  rcases parts.isFraction with rfl | ⟨digits, rfl, some, are⟩
  · rw [List.nil_append]
    cases rest with
    | nil => rfl
    | cons c rest =>
      rw [Json.fraction.eq_2]
      rintro _ ⟨⟩
      exact (behind '.' rfl).2 rfl
  · have front := digits_front are fun c head => (behind c head).1
    rw [List.cons_append, Json.fraction, front, if_neg (by simpa using some)]

private theorem exponent_front (ends : Ends rest) : Json.exponent (power ++ rest) = power := by
  obtain ⟨c, more, rfl, mark⟩ := ends
  have behind : ∀ d, (c :: more).head? = some d → d.isDigit = false := by
    rintro _ ⟨⟩
    rcases mark with rfl | rfl <;> rfl
  rcases parts.isPower with rfl | ⟨exponent, sign, digits, rfl, isMark, isSign, some, are⟩
  · rcases mark with rfl | rfl <;> rfl
  · obtain ⟨first, others, rfl⟩ := List.exists_cons_of_ne_nil some
    have digit := are first List.mem_cons_self
    have front := digits_front are behind
    have signed : Json.exponentSign (sign ++ (first :: others ++ c :: more)) = sign := by
      rcases isSign with rfl | rfl | rfl
      · rw [List.nil_append, List.cons_append, Json.exponentSign.eq_3]
        · rintro _ ⟨⟩
          cases digit
        · rintro _ ⟨⟩
          cases digit
      · rfl
      · rfl
    rw [List.cons_append, List.append_assoc, Json.exponent]
    dsimp only
    rw [if_pos isMark, signed, List.drop_left, front]
    rfl

/-- The fraction ends where a power of ten starts, or the entry ends. -/
private theorem behind_fraction (ends : Ends rest) :
    ∀ c, (power ++ rest).head? = some c → c.isDigit = false ∧ c ≠ '.' := by
  rcases parts.isPower with rfl | ⟨mark, sign, digits, rfl, isMark, -⟩
  · obtain ⟨c, more, rfl, rfl | rfl⟩ := ends
    all_goals
      rintro _ ⟨⟩
      exact ⟨rfl, by decide⟩
  · rintro _ ⟨⟩
    rcases isMark with rfl | rfl <;> exact ⟨rfl, by decide⟩

private theorem behind_whole (ends : Ends rest) :
    ∀ c, (fraction ++ (power ++ rest)).head? = some c → c.isDigit = false := by
  rcases parts.isFraction with rfl | ⟨digits, rfl, -⟩
  · exact fun c head => (behind_fraction parts ends c head).1
  · rintro _ ⟨⟩
    rfl

/-- What a number is read as: an integer, unless it has a fraction or a power of ten. -/
def numberValue (minus whole fraction power : Text) : Json :=
  if fraction.isEmpty && power.isEmpty then
    .int (if minus.isEmpty then digitsValue whole else -digitsValue whole)
  else .float (numeral minus whole fraction power).toBinary64

private theorem number_front (ends : Ends rest)
    (short : fraction = [] → power = [] → whole.length ≤ ConversionProblem.digitLimit) :
    forget (Json.number (minus ++ (whole ++ (fraction ++ power)) ++ rest)) =
      .ok (numberValue minus whole fraction power, rest) := by
  have filled : whole.isEmpty = false := by
    obtain ⟨first, others, -, rfl⟩ := parts.start
    rfl
  have some : minus ++ (whole ++ (fraction ++ power)) ≠ [] := by
    obtain ⟨first, others, -, rfl⟩ := parts.start
    simp
  have size : (minus ++ (whole ++ (fraction ++ power))).length =
      minus.length + whole.length + fraction.length + power.length := by
    simp only [List.length_append, Nat.add_assoc]
  have text : minus ++ (whole ++ (fraction ++ power)) ++ rest =
      minus ++ (whole ++ (fraction ++ (power ++ rest))) := by
    simp only [List.append_assoc]
  have places : (whole ++ (fraction ++ (power ++ rest))).drop (whole.length + fraction.length) =
      power ++ rest := by
    rw [← List.append_assoc, ← List.length_append, List.drop_left]
  have front : (minus ++ (whole ++ (fraction ++ (power ++ rest)))).take
      (minus.length + whole.length + fraction.length + power.length) =
        minus ++ (whole ++ (fraction ++ power)) := by
    rw [← text, ← size, List.take_left]
  obtain ⟨shorter, found⟩ : ∃ shorter, Json.Rest.behind?
      (minus.length + whole.length + fraction.length + power.length)
      (minus ++ (whole ++ (fraction ++ (power ++ rest)))) = .some ⟨rest, shorter⟩ := by
    rw [← text, ← size]
    exact behind_front some rest
  rw [text]
  unfold Json.number
  simp only [minus_front parts, whole_front parts (behind_whole parts ends),
    fraction_front parts (behind_fraction parts ends),
    exponent_front parts ends, List.drop_left, places, filled, Bool.false_eq_true, ↓reduceIte, found, front,
    ofText_number parts, Option.getD_some]
  unfold numberValue
  split
  · rename_i integral
    rw [Bool.and_eq_true, List.isEmpty_iff, List.isEmpty_iff] at integral
    rw [Integer.ofDigits_of_length_le (short integral.1 integral.2)]
    rfl
  · rfl

/-- No word starts like a number. -/
private theorem word_front (rest : Text) : Json.word? (minus ++ (whole ++ rest)) = none := by
  obtain ⟨first, others, digit, rfl⟩ := parts.start
  have apart {c : Char} (letter : c.isDigit = false) : c ≠ first := (digit_ne digit letter).symm
  have words : Json.words.map (·.1) = [['n', 'u', 'l', 'l'], ['t', 'r', 'u', 'e'],
      ['f', 'a', 'l', 's', 'e'], ['N', 'a', 'N'], ['I', 'n', 'f', 'i', 'n', 'i', 't', 'y'],
      ['-', 'I', 'n', 'f', 'i', 'n', 'i', 't', 'y']] := rfl
  refine List.find?_eq_none.mpr fun ⟨word, value⟩ member found => ?_
  have front : word.isPrefixOf (minus ++ (first :: others ++ rest)) = true := found
  have listed : word ∈ Json.words.map (·.1) := List.mem_map_of_mem member
  rw [words] at listed
  simp only [List.mem_cons, List.not_mem_nil, or_false] at listed
  rcases listed with rfl | rfl | rfl | rfl | rfl | rfl
  all_goals
    rcases parts.isMinus with rfl | rfl <;> simp [apart] at front

/-- A number is read up to where it ends. -/
theorem reads_number (short : fraction = [] → power = [] → whole.length ≤ ConversionProblem.digitLimit) :
    ReadsAs (minus ++ (whole ++ (fraction ++ power))) (numberValue minus whole fraction power) := by
  obtain ⟨c, more, same, apart, ungapped⟩ : ∃ c more, minus ++ (whole ++ (fraction ++ power)) = c :: more ∧
      (c ≠ '"' ∧ c ≠ '[' ∧ c ≠ '\x7b') ∧ Json.isGap c = false := by
    obtain ⟨first, others, digit, rfl⟩ := parts.start
    rcases parts.isMinus with rfl | rfl
    · refine ⟨first, _, rfl, ⟨digit_ne digit rfl, digit_ne digit rfl, digit_ne digit rfl⟩, ?_⟩
      simp [Json.isGap, digit_ne digit]
    · exact ⟨'-', _, rfl, by decide, by decide⟩
  refine ⟨⟨c, more, same, ungapped⟩, fun rest ends => ?_⟩
  have unworded : Json.word? (minus ++ (whole ++ (fraction ++ power)) ++ rest) = none := by
    rw [List.append_assoc, List.append_assoc]
    exact word_front parts _
  have scalar : Json.scalar (minus ++ (whole ++ (fraction ++ power)) ++ rest) =
      Json.number (minus ++ (whole ++ (fraction ++ power)) ++ rest) := by
    rw [Json.scalar, unworded]
  have read := number_front parts ends short
  rw [← scalar] at read
  rw [same] at read ⊢
  exact (value_scalar apart (more ++ rest)).trans read

end Numbers

theorem reads_integer {n : Int} (small : n.natAbs < integerBound) : ReadsAs (signed n) (.int n) := by
  have parts := signed_parts n
  have short : (ofNat n.natAbs).length ≤ ConversionProblem.digitLimit :=
    Nat.le_trans (length_integer small) (by decide)
  have value : numberValue (if n < 0 then ['-'] else []) (ofNat n.natAbs) [] [] = .int n := by
    rw [numberValue, digitsValue_ofNat]
    by_cases negative : n < 0
    · simp only [negative, ↓reduceIte, List.isEmpty_nil, List.isEmpty_cons, Bool.and_self, Json.int.injEq,
        Bool.false_eq_true]
      omega
    · simp only [negative, ↓reduceIte, List.isEmpty_nil, Bool.and_self, Json.int.injEq]
      omega
  have read := reads_number parts fun _ _ => short
  rw [value, List.append_nil, List.append_nil] at read
  exact read

/-- An integer or a finite floating point number. -/
def IsNumeric : Json → Prop
  | .int _ => True
  | .float number => number.isFinite = true
  | _ => False

/-- A number that is read as a finite one by the reader of decimals is one for the reader of JSON. -/
theorem reads_finite (number : JsonGrammar.IsNumber text) (finite : (Layout.numberOf? text).isSome = true) :
    ∃ value, ReadsAs text value ∧ IsNumeric value := by
  obtain ⟨minus, whole, fraction, power, rfl, parts⟩ := number_parts.mp number
  have finite : (numeral minus whole fraction power).toBinary64.isFinite = true := by
    obtain ⟨value, found⟩ := Option.isSome_iff_exists.mp finite
    obtain ⟨read, isFinite⟩ := Option.filter_eq_some_iff.mp found
    rw [ofText_number parts] at read
    cases read
    exact isFinite
  refine ⟨_, reads_number parts ?_, ?_⟩
  · rintro rfl rfl
    exact Nat.le_trans (length_of_finite parts.isWhole finite) (by decide)
  · unfold numberValue
    split
    · trivial
    · exact finite

/-! ### Objects -/

/-- An entry of an object as it is written. -/
def entry (key shown : Text) : Text := jsonString key ++ ':' :: shown

/-- The key of an entry is read up to the value. -/
private theorem entry_read (key : Text) (reads : ReadsAs shown value) (rest : Text) :
    readEntries (entry key shown ++ rest) =
      match readValue (shown ++ rest) with
      | .error stop => .error stop
      | .ok (content, rest) =>
        match Json.skipGap rest with
        | '\x7d' :: after => .ok ([(key, content)], after)
        | ',' :: next =>
          (readEntries (Json.skipGap next)).map fun (more, after) => ((key, content) :: more, after)
        | other => .error (.problem .comma other.length) := by
  obtain ⟨c, more, starts, ungapped⟩ := reads.ungapped
  have text : entry key shown ++ rest = '"' :: (jsonInside key ++ '"' :: ':' :: (shown ++ rest)) := by
    simp [entry, jsonString]
  have colon : Json.skipGap (':' :: (shown ++ rest)) = ':' :: (shown ++ rest) := skipGap_of_ungapped rfl _
  have content : Json.skipGap (shown ++ rest) = shown ++ rest := by
    rw [starts, List.cons_append]
    exact skipGap_of_ungapped ungapped _
  rw [text, entries_step, readString_jsonInside]
  simp only [colon, content]

private theorem entry_ungapped (key shown rest : Text) :
    Json.skipGap (entry key shown ++ rest) = entry key shown ++ rest := skipGap_of_ungapped rfl _

/-- The entries of an object are read one after the other up to its closing bracket. -/
private theorem entries_read (key : Text) (reads : ReadsAs shown value) {others : List (Text × Text)}
    {values : List (Text × Json)}
    (each : List.Forall₂ (fun other value => other.1 = value.1 ∧ ReadsAs other.2 value.2) others values)
    (rest : Text) :
    readEntries (entry key shown ++
        (others.flatMap (fun other => ',' :: entry other.1 other.2) ++ '\x7d' :: rest)) =
      .ok ((key, value) :: values, rest) := by
  induction each generalizing key shown value with
  | nil =>
    rw [List.flatMap_nil, List.nil_append, entry_read key reads, reads.read _ ⟨_, _, rfl, .inr rfl⟩]
    rfl
  | @cons other next others values head tail ih =>
    obtain ⟨name, content⟩ := head
    have more := ih other.1 content
    rw [← entry_ungapped, name] at more
    rw [List.flatMap_cons, List.append_assoc, List.cons_append, entry_read key reads,
      reads.read _ ⟨_, _, rfl, .inl rfl⟩, name]
    simp only [skipGap_of_ungapped (by decide : Json.isGap ',' = false), more]
    rfl

/-- An object whose keys differ is read with all its entries. -/
theorem object_read (key : Text) (reads : ReadsAs shown value) {others : List (Text × Text)}
    {values : List (Text × Json)}
    (each : List.Forall₂ (fun other value => other.1 = value.1 ∧ ReadsAs other.2 value.2) others values)
    (distinct : (key :: values.map (·.1)).Nodup) (rest : Text) :
    readValue ('\x7b' :: (entry key shown ++
        (others.flatMap (fun other => ',' :: entry other.1 other.2) ++ '\x7d' :: rest))) =
      .ok (.object ((key, value) :: values), rest) := by
  have all := entries_read key reads each rest
  have entries : distinctKeys ((key, value) :: values) = (key, value) :: values :=
    distinctKeys_of_nodup distinct
  rw [value_object, entry_ungapped]
  split
  · rename_i same
    cases same
  · rw [all]
    exact congrArg (fun entries => Except.ok (Json.object entries, rest)) entries

/-! ### Arrays -/

/-- An object that is read as a value, whatever follows it. -/
structure IsItem (shown : Text) (value : Json) : Prop where
  starts : shown.head? = some '\x7b'
  read : ∀ rest, readValue (shown ++ rest) = .ok (value, rest)

/-- Items start as the first of them does, without a gap. -/
theorem items_start (item : IsItem shown value) (others : List Text) (rest : Text) :
    ∃ more, join ",\r\n" (shown :: others) ++ rest = '\x7b' :: more := by
  obtain ⟨inner, rfl⟩ := List.head?_eq_some_iff.mp item.starts
  cases others with
  | nil => exact ⟨_, rfl⟩
  | cons next others => exact ⟨_, rfl⟩

/-- Items on lines of their own are read one after the other up to the closing bracket. -/
theorem items_read (item : IsItem shown value) {others : List Text} {values : List Json}
    (each : List.Forall₂ IsItem others values) (rest : Text) :
    readItems (join ",\r\n" (shown :: others) ++ ("\r\n]" ++ rest)) = .ok (value :: values, rest) := by
  induction each generalizing shown value with
  | nil =>
    rw [items_step, join, item.read]
    rfl
  | @cons next nextValue others values head tail ih =>
    have text : join ",\r\n" (shown :: next :: others) ++ ("\r\n]" ++ rest) =
        shown ++ (',' :: '\r' :: '\n' :: (join ",\r\n" (next :: others) ++ ("\r\n]" ++ rest))) := by
      simp [join]
    have behind := ih head
    obtain ⟨more, starts⟩ := items_start head others ("\r\n]" ++ rest)
    rw [starts] at text behind
    have gap : Json.skipGap ('\r' :: '\n' :: '\x7b' :: more) = '\x7b' :: more := rfl
    rw [text, items_step, item.read]
    simp only [skipGap_of_ungapped (by decide : Json.isGap ',' = false), gap, behind]
    rfl

/-- A text that is one value and nothing else is a document. -/
theorem document_read {more : Text} (ungapped : Json.isGap c = false) (unmarked : (c == '\uFEFF') = false)
    (read : readValue (c :: more) = .ok (value, [])) : Json.document (c :: more) = .ok value := by
  have marked : ((c :: more).head? == some '\uFEFF') = false := unmarked
  rw [← skipGap_of_ungapped ungapped more, readValue] at read
  rw [Json.document, marked, if_neg Bool.false_ne_true]
  cases found : Json.value (Json.skipGap (c :: more)) with
  | error stop =>
    rw [found] at read
    cases read
  | ok content =>
    obtain ⟨content, rest, shorter⟩ := content
    rw [found, forget_ok] at read
    cases read
    rfl

end TableGate.JsonReading
