import TableGate.Proofs.NumberText
import TableGate.Proofs.QuotedRuns

/-! A cell never leaves its literal. Every literal is a bare word of letters, digits and signs, or
one quoted run behind a few letters, as the engine itself reads quotes; so no cell adds a token
to a statement. -/
namespace TableGate.LiteralContainment
open Fallible NumberText QuotedRuns TextFacts

/-- A character that stands outside quotes in literals. -/
def isBare (c : Char) : Bool := c.isAlphanum || c == '.' || c == '+' || c == '-'

/-- The literals of cells that are neither null nor undefined. Words have no capital letters,
so that none of them is the word for a missing value. -/
inductive Form (engine : Engine) : Text → Prop where
  | word {text : Text} (plain : ∀ c ∈ text, c.isAlphanum = true ∧ c.isUpper = false) :
      Form engine text
  | number {text : Text} (spelled : IsNumber text) : Form engine text
  | run (lead body : Text) (mark : Char) (letters : ∀ c ∈ lead, c.isAlpha = true)
      (opens : (literalQuoting engine).closer mark = some mark)
      (inert : Inert (literalQuoting engine) mark body) :
      Form engine (lead ++ mark :: body ++ [mark])

variable {engine : Engine} {text : Text} {cell : Cell}

/-! ### Runs -/

private theorem bare_opens_nothing (engine : Engine) {c : Char} (bare : isBare c = true) :
    (literalQuoting engine).closer c = none := by
  have double : c ≠ '"' := by
    rintro rfl
    exact absurd bare (by decide)
  have single : c ≠ '\'' := by
    rintro rfl
    exact absurd bare (by decide)
  cases engine <;> simp [literalQuoting, double, single]

private theorem alpha_bare {c : Char} (letter : c.isAlpha = true) : isBare c = true := by
  simp [isBare, Char.isAlphanum, letter]

/-- No character of a number opens a quoted run. -/
theorem number_bare {number : Text} (spelled : IsNumber number) : ∀ c ∈ number, isBare c = true := by
  intro c member
  rcases number_chars spelled member with digit | sign
  · simp [isBare, Char.isAlphanum, digit]
  · have signs : ∀ c ∈ ['.', 'e', '+', '-'], isBare c = true := each_of_all (by decide)
    exact signs c sign

/-- Where single quotes close a run, two of them in a row are inert, and so is a text in which
every quote is written twice. -/
theorem shared_quote_inert (other : engine ≠ .mariadb) (text : Text) :
    Inert (literalQuoting engine) '\'' (Text.replaceChar '\'' "''" text) := by
  apply inert_flatMap
  intro c _
  split
  · exact inert_doubled (.inl (by decide))
  · refine inert_char (by assumption) (.inr ?_)
    cases engine with
    | mariadb => exact absurd rfl other
    | _ => rfl

/-- The escapes of MariaDB's string literals are inert. -/
theorem backslash_inert (text : Text) :
    Inert (literalQuoting .mariadb) '"' (text.flatMap Engine.backslashChar) := by
  apply inert_flatMap
  intro c _
  unfold Engine.backslashChar
  split
  · exact inert_guarded rfl
  · split
    · exact inert_guarded rfl
    · split
      · exact inert_guarded rfl
      · split
        · exact inert_guarded rfl
        · split
          · exact inert_guarded rfl
          · exact inert_char (by assumption) (.inl (by assumption))

theorem string_form (engine : Engine) (text : Text) : Form engine (engine.stringLiteral text) := by
  cases engine with
  | mariadb => exact .run [] _ _ (by simp) rfl (backslash_inert text)
  | _ => exact .run [] _ _ (by simp) rfl (shared_quote_inert (by simp) text)

/-! ### Words and bytes -/

private theorem hex_chars (bytes : List UInt8) :
    ∀ c ∈ Text.hexOfBytes bytes, c.isAlphanum = true ∧ c.isUpper = false := by
  have digit : ∀ n < 16, (Text.hexDigit n).isAlphanum = true ∧ (Text.hexDigit n).isUpper = false := by
    decide
  intro c member
  obtain ⟨byte, -, written⟩ := List.mem_flatMap.mp member
  have bound : byte.toNat < 256 := byte.toNat_lt
  simp only [Text.hexOfByte, List.mem_cons, List.not_mem_nil, or_false] at written
  rcases written with rfl | rfl
  · exact digit _ (by omega)
  · exact digit _ (by omega)

private theorem alphanum_inside {quoting : Quoting} {closer : Char}
    (plain : ∀ c ∈ text, c.isAlphanum = true) (mark : closer.isAlphanum = false) :
    Inert quoting closer text := by
  apply inert_chars
  intro c member
  constructor
  · rintro rfl
    simp [plain c member] at mark
  · rintro rfl
    exact absurd (plain _ member) (by decide)

theorem blob_form (engine : Engine) (bytes : List UInt8) : Form engine (engine.blobLiteral bytes) := by
  have inside {quoting : Quoting} : Inert quoting '\'' (Text.hexOfBytes bytes) :=
    alphanum_inside (fun c member => (hex_chars bytes c member).1) (by decide)
  cases engine with
  | sqlite => exact .run ['X'] _ _ (by simp) rfl inside
  | postgresql =>
    have escape : Inert (literalQuoting .postgresql) '\'' ['\\', 'x'] :=
      inert_append (inert_char (by decide) (.inr rfl)) (inert_char (by decide) (.inr rfl))
    exact .run [] (['\\', 'x'] ++ Text.hexOfBytes bytes) _ (by simp) rfl
      (inert_append escape inside)
  | mariadb => exact .run ['x'] _ _ (by simp) rfl inside
  | mssql =>
    have plain : ∀ c ∈ "0x".toList ++ Text.hexOfBytes bytes,
        c.isAlphanum = true ∧ c.isUpper = false := by
      have lead : ∀ c ∈ "0x".toList, c.isAlphanum = true ∧ c.isUpper = false := each_of_all (by decide)
      intro c member
      rcases List.mem_append.mp member with front | digit
      · exact lead c front
      · exact hex_chars bytes c digit
    exact .word plain

/-! ### Booleans and points in time -/

private theorem bit_form (bits : Text) (only : ∀ c ∈ bits, c = '0' ∨ c = '1') :
    Form .mariadb (['b'] ++ '\'' :: bits ++ ['\'']) := by
  refine .run _ _ _ (by simp) rfl (alphanum_inside ?_ (by decide))
  intro c member
  rcases only c member with rfl | rfl <;> decide

theorem boolean_form (printed : engine.booleanLiteral cell = .ok text) : Form engine text := by
  simp only [Engine.booleanLiteral, bind_eq_ok] at printed
  obtain ⟨isFalse, -, printed⟩ := printed
  have word (engine : Engine) : ∀ text ∈ ["false".toList, "true".toList, "0".toList, "1".toList],
      Form engine text := by
    intro text member
    have plain : ∀ text ∈ ["false".toList, "true".toList, "0".toList, "1".toList],
        text.all (fun c => decide (c.isAlphanum = true ∧ c.isUpper = false)) = true := by decide
    exact .word (each_of_all (plain text member))
  cases engine with
  | mariadb =>
    cases isFalse with
    | true =>
      cases printed
      exact bit_form ['0'] (by simp)
    | false =>
      simp only [Engine.bitLiteral, bind_eq_ok, Bool.false_eq_true, ↓reduceIte] at printed
      obtain ⟨value, -, printed⟩ := printed
      split at printed
      · cases printed
        exact bit_form ['1'] (by simp)
      · split at printed
        · rename_i bits
          cases printed
          exact bit_form _ (by simpa using bits)
        · cases printed
  | _ =>
    cases printed
    apply word
    cases isFalse <;> decide

/-- A text of the characters of points in time. -/
def IsClock (text : Text) : Prop :=
  ∀ c ∈ text, c.isDigit = true ∨ c ∈ ['-', ':', '.', '+', 'T', ' ']

private theorem clock_append {rest : Text} : IsClock (text ++ rest) ↔ IsClock text ∧ IsClock rest :=
  List.forall_mem_append

private theorem clock_cons {c : Char} : IsClock (c :: text) ↔
    (c.isDigit = true ∨ c ∈ ['-', ':', '.', '+', 'T', ' ']) ∧ IsClock text :=
  List.forall_mem_cons

private theorem padded_clock (width n : Nat) : IsClock (Text.ofNatPadded width n) :=
  fun _ member => .inl (ofNatPadded_digits member)

theorem millis_clock {separator : Char} (known : separator = 'T' ∨ separator = ' ')
    (d : DateTime) : IsClock (d.millisText separator) := by
  simp only [DateTime.millisText, DateTime.dateText, DateTime.clockText, clock_append, clock_cons,
    padded_clock, and_true, true_and]
  rcases known with rfl | rfl <;> decide

theorem zone_clock (d : DateTime) : IsClock d.zoneText := by
  have none : IsClock [] := fun _ member => absurd member (by simp)
  unfold DateTime.zoneText
  split
  · rename_i micros _
    have sign : IsClock [if micros < 0 then '-' else '+'] := by
      split <;> simp [IsClock]
    simp only [clock_cons, none, and_true] at sign
    simp only [DateTime.offsetText, clock_append, clock_cons, padded_clock, sign, true_and]
    refine ⟨by decide, ?_⟩
    split
    · exact none
    · simp only [clock_append, clock_cons, padded_clock]
      refine ⟨by decide, ?_⟩
      split
      · exact none
      · exact clock_cons.mpr ⟨by decide, padded_clock _ _⟩
  · exact none

private theorem clock_inert {quoting : Quoting} {closer : Char} (clock : IsClock text)
    (mark : closer = '\'' ∨ closer = '"') : Inert quoting closer text := by
  apply inert_chars
  intro c member
  have apart : ∀ other ∈ ['\'', '"', '\\'],
      ¬ (other.isDigit = true ∨ other ∈ ['-', ':', '.', '+', 'T', ' ']) := each_of_all (by decide)
  constructor
  · rintro rfl
    exact apart c (by rcases mark with rfl | rfl <;> simp) (clock c member)
  · rintro rfl
    exact apart _ (by simp) (clock _ member)

theorem date_time_form (engine : Engine) (d : DateTime) : Form engine (engine.dateTimeLiteral d) := by
  have shown : IsClock d.isoMillis := clock_append.mpr ⟨millis_clock (.inl rfl) d, zone_clock d⟩
  cases engine with
  | mariadb => exact .run [] _ _ (by simp) rfl (clock_inert (millis_clock (.inr rfl) d) (.inr rfl))
  | mssql => exact .run [] _ _ (by simp) rfl (clock_inert (millis_clock (.inl rfl) d) (.inl rfl))
  | _ => exact .run [] _ _ (by simp) rfl (clock_inert shown (.inl rfl))

/-! ### Cells -/

theorem text_form (printed : engine.textLiteral cell = .ok text) : Form engine text := by
  unfold Engine.textLiteral at printed
  split at printed
  · cases printed
    exact string_form engine _
  · obtain ⟨shown, -, written⟩ := bind_eq_ok.mp printed
    cases written
    exact string_form engine shown

/-- A literal of a cell that holds a value is a bare word or a quoted run. -/
theorem present_form (present : cell ≠ .null ∧ cell ≠ .undefined) {sqlType : Text}
    (printed : engine.literal cell sqlType = .ok text) : Form engine text := by
  unfold Engine.literal at printed
  split at printed
  · exact absurd rfl present.1
  · exact absurd rfl present.2
  · split at printed
    · exact .number (cell_spelled printed)
    · cases printed
      exact blob_form engine _
    · obtain ⟨shown, -, written⟩ := bind_eq_ok.mp printed
      cases written
      exact string_form engine shown
    · exact boolean_form printed
    · cases printed
      exact date_time_form engine _
    · exact text_form printed

private theorem form_ne {word : Text} (form : Form engine text)
    (bare : ∀ c ∈ word, isBare c = true) (capital : 'N' ∈ word) : text ≠ word := by
  rintro rfl
  cases form with
  | word plain => exact absurd (plain 'N' capital).2 (by decide)
  | number spelled => exact absurd (number_chars spelled capital) (by decide)
  | run lead body mark _ opens _ =>
    have inside : mark ∈ lead ++ mark :: body ++ [mark] := by simp
    rw [bare_opens_nothing engine (bare mark inside)] at opens
    cases opens

/-- A literal of a value is never the word for a missing one. -/
theorem form_not_missing (form : Form engine text) : text ≠ "NULL" ∧ text ≠ "UNDEFINED" :=
  ⟨form_ne form (each_of_all (by decide)) (by decide),
    form_ne form (each_of_all (by decide)) (by decide)⟩

/-! ### Containment -/

/-- What a reader sees of a text that stays one token: it ends outside quotes, it has at most one
run, only bare characters that begin no comment stand outside, and these are either the whole
word or number, or the letters in front of the run. -/
structure OneToken (quoting : Quoting) (text : Text) : Prop where
  closed : (quoting.scan text).place.isOutside = true
  single : (quoting.scan text).runs ≤ 1
  bare : ∀ c ∈ (quoting.scan text).outside, isBare c = true
  noComment : ¬ ['-', '-'] <:+: (quoting.scan text).outside
  token : ((quoting.scan text).outside = text ∧
      (IsNumber text ∨ ∀ c ∈ text, c.isAlphanum = true)) ∨
    ((quoting.scan text).runs = 1 ∧ (quoting.scan text).outside <+: text ∧
      ∀ c ∈ (quoting.scan text).outside, c.isAlpha = true)

private theorem no_comment (apart : HyphensApart text) : ¬ ['-', '-'] <:+: text := by
  intro comment
  have pair := List.IsChain.infix apart comment
  exact absurd (List.isChain_pair.mp pair) (by decide)

private theorem unquoted_one_token (bare : ∀ c ∈ text, isBare c = true) (apart : HyphensApart text)
    (token : IsNumber text ∨ ∀ c ∈ text, c.isAlphanum = true) :
    OneToken (literalQuoting engine) text := by
  have seen : (literalQuoting engine).scan text = ⟨.outside, 0, text⟩ :=
    scan_plain (fun c member => bare_opens_nothing engine (bare c member)) 0 []
  constructor <;> rw [seen]
  · rfl
  · exact Nat.zero_le 1
  · exact bare
  · exact no_comment apart
  · exact .inl ⟨rfl, token⟩

private theorem alphanum_free (plain : ∀ c ∈ text, c.isAlphanum = true) : HyphensApart text :=
  hyphens_apart_of_free fun member => absurd (plain _ member) (by decide)

theorem form_one_token (form : Form engine text) : OneToken (literalQuoting engine) text := by
  cases form with
  | word plain =>
    have alphanum : ∀ c ∈ text, c.isAlphanum = true := fun c member => (plain c member).1
    exact unquoted_one_token (fun c member => by simp [isBare, alphanum c member])
      (alphanum_free alphanum) (.inr alphanum)
  | number spelled =>
    exact unquoted_one_token (number_bare spelled) (number_hyphens_apart spelled) (.inl spelled)
  | run lead body mark letters opens inert =>
    have plain : mark ≠ '\\' := by
      rintro rfl
      cases engine <;> cases opens
    have seen : (literalQuoting engine).scan (lead ++ mark :: body ++ [mark]) =
        ⟨.closed mark, 1, lead⟩ :=
      scan_run (fun c member => bare_opens_nothing engine (alpha_bare (letters c member))) opens
        inert (.inl plain)
    have free : HyphensApart lead := hyphens_apart_of_free fun member =>
      absurd (letters _ member) (by decide)
    constructor <;> rw [seen]
    · rfl
    · exact fun c member => alpha_bare (letters c member)
    · exact no_comment free
    · exact .inr ⟨rfl, by simp, letters⟩

/-- Whatever a cell holds and whatever the type of its column, the literal that is printed for
it is one token to the engine that reads it. -/
theorem literal_is_one_token {sqlType : Text} (printed : engine.literal cell sqlType = .ok text) :
    OneToken (literalQuoting engine) text := by
  have missing (word : Text) (plain : ∀ c ∈ word, c.isAlphanum = true) :
      OneToken (literalQuoting engine) word :=
    unquoted_one_token (fun c member => by simp [isBare, plain c member]) (alphanum_free plain)
      (.inr plain)
  by_cases null : cell = .null
  · subst null
    cases printed
    exact missing _ (each_of_all (by decide))
  · by_cases undefined : cell = .undefined
    · subst undefined
      cases printed
      exact missing _ (each_of_all (by decide))
    · exact form_one_token (present_form ⟨null, undefined⟩ printed)

/-- A text of quotes, backslashes and a comment stays one run. -/
theorem hostile_text_is_one_token :
    Engine.mariadb.literal (.text "\" OR \\\"'; -- ") "TEXT" =
        .ok "\"\\\" OR \\\\\\\"'; -- \"" ∧
      OneToken (literalQuoting .mariadb) "\"\\\" OR \\\\\\\"'; -- \"" :=
  have printed : Engine.mariadb.literal (.text "\" OR \\\"'; -- ") "TEXT" =
      .ok "\"\\\" OR \\\\\\\"'; -- \"" := by decide
  ⟨printed, literal_is_one_token printed⟩

end TableGate.LiteralContainment
