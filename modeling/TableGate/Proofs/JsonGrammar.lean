import Mathlib.Data.List.TakeWhile
import Mathlib.Tactic.SplitIfs
import TableGate.Json.Reader
import TableGate.Proofs.TextFacts
import TableGate.Text.JsonString

/-! The grammar of JSON texts. A rule relates a text to what is left of it behind a word of the rule.
What the writer puts between two marks is left behind in one way only, so that a list of members or of
items is a word exactly if each of its pieces is one. -/
namespace TableGate.JsonGrammar
open Json Text TextFacts

/-! ### Rules -/

/-- Any number of blanks. -/
inductive Gap : Text → Text → Prop
  | done {rest : Text} : Gap rest rest
  | blank {c : Char} {text rest : Text} : isGap c = true → Gap text rest → Gap (c :: text) rest

/-- One or more digits. -/
def IsDigits (text : Text) : Prop := text ≠ [] ∧ ∀ c ∈ text, c.isDigit = true

/-- The digits before the point: zero, or digits that start with another one. -/
def IsWhole (text : Text) : Prop := IsDigits text ∧ (text.head? = some '0' → text = ['0'])

/-- A point with digits, or nothing. -/
def IsFraction (text : Text) : Prop := text = [] ∨ ∃ digits, text = '.' :: digits ∧ IsDigits digits

/-- A power of ten with or without a sign, or nothing. -/
def IsPower (text : Text) : Prop :=
  text = [] ∨ ∃ mark sign digits, text = mark :: (sign ++ digits) ∧ (mark = 'e' ∨ mark = 'E') ∧
    (sign = [] ∨ sign = ['+'] ∨ sign = ['-']) ∧ IsDigits digits

/-- A number. -/
def IsNumber (text : Text) : Prop :=
  ∃ minus whole fraction power, text = minus ++ (whole ++ (fraction ++ power)) ∧
    (minus = [] ∨ minus = ['-']) ∧ IsWhole whole ∧ IsFraction fraction ∧ IsPower power

/-- What can stand behind a backslash, apart from four hexadecimal digits. -/
def escapes : List Char := ['"', '\\', '/', 'b', 'f', 'n', 'r', 't']

/-- A string behind its opening quote. -/
inductive InString : Text → Text → Prop
  | quote {rest : Text} : InString ('"' :: rest) rest
  | plain {c : Char} {text rest : Text} : 32 ≤ c.toNat → c ≠ '"' → c ≠ '\\' → InString text rest →
      InString (c :: text) rest
  | escape {c : Char} {text rest : Text} : c ∈ escapes → InString text rest →
      InString ('\\' :: c :: text) rest
  | unicode {a b c d : Char} {text rest : Text} : (∀ digit ∈ [a, b, c, d], (hexValue? digit).isSome) →
      InString text rest → InString ('\\' :: 'u' :: a :: b :: c :: d :: text) rest

/-- An item with blanks around it. -/
inductive Spaced (Item : Text → Text → Prop) : Text → Text → Prop
  | around {front back text rest : Text} : Gap text front → Item front back → Gap back rest →
      Spaced Item text rest

/-- A number of items with commas between them, up to the closing bracket. -/
inductive Listed (Item : Text → Text → Prop) (close : Char) : Nat → Text → Text → Prop
  | last {text rest : Text} : Spaced Item text (close :: rest) → Listed Item close 1 text rest
  | more {count : Nat} {text next rest : Text} : Spaced Item text (',' :: next) →
      Listed Item close count next rest → Listed Item close (count + 1) text rest

/-- What stands between brackets, behind the opening one. -/
inductive Enclosed (Item : Text → Text → Prop) (close : Char) : Nat → Text → Text → Prop
  | empty {text rest : Text} : Gap text (close :: rest) → Enclosed Item close 0 text rest
  | filled {count : Nat} {text rest : Text} : Listed Item close count text rest →
      Enclosed Item close count text rest

/-- A name with its value. -/
inductive Member (Item : Text → Text → Prop) : Text → Text → Prop
  | named {after colon value text rest : Text} : InString text after → Gap after (':' :: colon) →
      Gap colon value → Item value rest → Member Item ('"' :: text) rest

/-- A value. -/
inductive Value : Text → Text → Prop
  | null {rest : Text} : Value ('n' :: 'u' :: 'l' :: 'l' :: rest) rest
  | yes {rest : Text} : Value ('t' :: 'r' :: 'u' :: 'e' :: rest) rest
  | no {rest : Text} : Value ('f' :: 'a' :: 'l' :: 's' :: 'e' :: rest) rest
  | number {text word rest : Text} : IsNumber word → text = word ++ rest → Value text rest
  | string {text rest : Text} : InString text rest → Value ('"' :: text) rest
  | array {count : Nat} {text rest : Text} : Enclosed Value ']' count text rest → Value ('[' :: text) rest
  | object {count : Nat} {text rest : Text} : Enclosed (Member Value) '\x7d' count text rest →
      Value ('\x7b' :: text) rest

/-- An object. -/
inductive Object : Text → Text → Prop
  | members {count : Nat} {text rest : Text} : Enclosed (Member Value) '\x7d' count text rest →
      Object ('\x7b' :: text) rest

/-- An array of a number of objects. -/
inductive Objects (count : Nat) : Text → Text → Prop
  | items {text rest : Text} : Enclosed Object ']' count text rest → Objects count ('[' :: text) rest

/-- A well-formed text. -/
def IsDocument (text : Text) : Prop := Spaced Value text []

/-- A well-formed text of an array of objects. -/
def IsObjects (count : Nat) (text : Text) : Prop := Spaced (Objects count) text []

variable {Item : Text → Text → Prop} {c d close : Char} {text rest front back word inside more : Text}
  {count : Nat} {fine : Prop}

/-! ### Blanks -/

/-- Blanks end in one way where something else follows. -/
theorem gap_iff (bare : isGap d = false) : Gap text (d :: rest) ↔ skipGap text = d :: rest := by
  constructor
  · intro gap
    generalize behind : d :: rest = target at gap
    induction gap with
    | done =>
      subst behind
      rw [skipGap, List.dropWhile_cons_of_neg (by simp [bare])]
    | blank isBlank _ ih =>
      rw [skipGap, List.dropWhile_cons_of_pos isBlank]
      exact ih behind
  · intro skipped
    induction text with
    | nil => cases skipped
    | cons c text ih =>
      cases blank : isGap c with
      | true =>
        rw [skipGap, List.dropWhile_cons_of_pos blank] at skipped
        exact .blank blank (ih skipped)
      | false =>
        rw [skipGap, List.dropWhile_cons_of_neg (by simp [blank])] at skipped
        rw [skipped]
        exact .done

/-- There are no blanks in front of anything else. -/
theorem gap_none (bare : isGap c = false) : Gap (c :: text) front ↔ front = c :: text := by
  constructor
  · intro gap
    cases gap with
    | done => rfl
    | blank isBlank _ =>
      rw [bare] at isBlank
      cases isBlank
  · rintro rfl
    exact .done

theorem gap_append (blanks : ∀ c ∈ front, isGap c = true) (gap : Gap text rest) :
    Gap (front ++ text) rest := by
  induction front with
  | nil => exact gap
  | cons c front ih =>
    obtain ⟨first, others⟩ := List.forall_mem_cons.mp blanks
    exact .blank first (ih others)

/-- Words of a rule start with something else than a blank. -/
def Bare (Item : Text → Text → Prop) : Prop :=
  ∀ text rest, Item text rest → ∃ c tail, text = c :: tail ∧ isGap c = false

theorem spaced_none (bare : isGap c = false) :
    Spaced Item (c :: text) rest ↔ ∃ back, Item (c :: text) back ∧ Gap back rest := by
  constructor
  · rintro ⟨gap, item, behind⟩
    rw [(gap_none bare).mp gap] at item
    exact ⟨_, item, behind⟩
  · rintro ⟨back, item, behind⟩
    exact .around .done item behind

/-- Blanks in front of an item belong to it. -/
theorem spaced_append (bare : Bare Item) (blanks : ∀ c ∈ front, isGap c = true) :
    Spaced Item (front ++ text) rest ↔ Spaced Item text rest := by
  constructor
  · intro spaced
    induction front with
    | nil => exact spaced
    | cons c front ih =>
      obtain ⟨first, others⟩ := List.forall_mem_cons.mp blanks
      refine ih others ?_
      obtain ⟨gap, item, behind⟩ := spaced
      cases gap with
      | done =>
        obtain ⟨other, _, same, isBare⟩ := bare _ _ item
        rw [← (List.cons.inj same).1, first] at isBare
        cases isBare
      | blank _ gap => exact .around gap item behind
  · rintro ⟨gap, item, behind⟩
    exact .around (gap_append blanks gap) item behind

/-! ### Values by their first characters -/

/-- The characters of numbers. -/
def IsNumeral (c : Char) : Prop := c.isDigit = true ∨ c ∈ ['-', '+', '.', 'e', 'E']

theorem number_numerals (number : IsNumber text) : ∀ c ∈ text, IsNumeral c := by
  obtain ⟨minus, whole, fraction, power, rfl, isMinus, ⟨⟨-, digits⟩, -⟩, isFraction, isPower⟩ := number
  simp only [List.forall_mem_append]
  refine ⟨?_, fun c member => .inl (digits c member), ?_, ?_⟩
  · rcases isMinus with rfl | rfl
    · exact List.forall_mem_nil _
    · exact List.forall_mem_singleton.mpr (.inr (by decide))
  · rcases isFraction with rfl | ⟨digits, rfl, -, are⟩
    · exact List.forall_mem_nil _
    · exact List.forall_mem_cons.mpr ⟨.inr (by decide), fun c member => .inl (are c member)⟩
  · rcases isPower with rfl | ⟨mark, sign, digits, rfl, isMark, isSign, -, are⟩
    · exact List.forall_mem_nil _
    · rw [List.forall_mem_cons, List.forall_mem_append]
      refine ⟨?_, ?_, fun c member => .inl (are c member)⟩
      · rcases isMark with rfl | rfl <;> exact .inr (by decide)
      · rcases isSign with rfl | rfl | rfl
        · exact List.forall_mem_nil _
        · exact List.forall_mem_singleton.mpr (.inr (by decide))
        · exact List.forall_mem_singleton.mpr (.inr (by decide))

/-- A number starts with a hyphen or a digit. -/
theorem number_start (number : IsNumber word) (split : c :: text = word ++ rest) :
    c = '-' ∨ c.isDigit = true := by
  obtain ⟨minus, whole, fraction, power, rfl, isMinus, ⟨⟨some, digits⟩, -⟩, -, -⟩ := number
  obtain ⟨first, others, rfl⟩ := List.exists_cons_of_ne_nil some
  rcases isMinus with rfl | rfl
  · refine .inr ?_
    rw [(List.cons.inj split).1]
    exact digits first List.mem_cons_self
  · exact .inl (List.cons.inj split).1

theorem value_bare : Bare Value := by
  intro text rest value
  cases value with
  | number number split =>
    cases text with
    | nil =>
      obtain ⟨minus, whole, fraction, power, rfl, -, ⟨⟨some, -⟩, -⟩, -, -⟩ := number
      have empty := congrArg List.length split
      have positive := List.length_pos_iff.mpr some
      simp only [List.length_nil, List.length_append] at empty
      omega
    | cons c text =>
      refine ⟨c, text, rfl, ?_⟩
      rcases number_start number split with rfl | digit
      · rfl
      · cases gap : isGap c with
        | false => rfl
        | true =>
          simp only [isGap, Bool.or_eq_true, beq_iff_eq] at gap
          rcases gap with ((rfl | rfl) | rfl) | rfl <;> cases digit
  | _ => exact ⟨_, _, rfl, rfl⟩

theorem value_null : Value ('n' :: 'u' :: 'l' :: 'l' :: text) rest ↔ rest = text := by
  constructor
  · intro value
    cases value with
    | null => rfl
    | number number split => exact absurd (number_start number split) (by decide)
  · rintro rfl
    exact .null

theorem value_yes : Value ('t' :: 'r' :: 'u' :: 'e' :: text) rest ↔ rest = text := by
  constructor
  · intro value
    cases value with
    | yes => rfl
    | number number split => exact absurd (number_start number split) (by decide)
  · rintro rfl
    exact .yes

theorem value_no : Value ('f' :: 'a' :: 'l' :: 's' :: 'e' :: text) rest ↔ rest = text := by
  constructor
  · intro value
    cases value with
    | no => rfl
    | number number split => exact absurd (number_start number split) (by decide)
  · rintro rfl
    exact .no

theorem value_string : Value ('"' :: text) rest ↔ InString text rest := by
  constructor
  · intro value
    cases value with
    | string string => exact string
    | number number split => exact absurd (number_start number split) (by decide)
  · exact .string

theorem value_array : Value ('[' :: text) rest ↔ ∃ count, Enclosed Value ']' count text rest := by
  constructor
  · intro value
    cases value with
    | array items => exact ⟨_, items⟩
    | number number split => exact absurd (number_start number split) (by decide)
  · rintro ⟨count, items⟩
    exact .array items

theorem value_object :
    Value ('\x7b' :: text) rest ↔ ∃ count, Enclosed (Member Value) '\x7d' count text rest := by
  constructor
  · intro value
    cases value with
    | object members => exact ⟨_, members⟩
    | number number split => exact absurd (number_start number split) (by decide)
  · rintro ⟨count, members⟩
    exact .object members

/-- What starts like no other value is a number. -/
theorem value_number (other : c ∉ ['n', 't', 'f', '"', '[', '\x7b']) :
    Value (c :: text) rest ↔ ∃ word, IsNumber word ∧ c :: text = word ++ rest := by
  constructor
  · intro value
    cases value with
    | number number split => exact ⟨_, number, split⟩
    | _ => exact absurd (by decide) other
  · rintro ⟨word, number, split⟩
    exact .number number split

/-! ### Strings -/

private theorem string_escape (escape : c ∈ escapes) :
    InString ('\\' :: c :: text) rest ↔ InString text rest := by
  constructor
  · intro string
    cases string with
    | plain _ _ backslash _ => exact absurd rfl backslash
    | escape _ string => exact string
    | unicode _ _ => exact absurd escape (by decide)
  · exact .escape escape

private theorem string_unicode {a b c d : Char} (digits : ∀ digit ∈ [a, b, c, d], (hexValue? digit).isSome) :
    InString ('\\' :: 'u' :: a :: b :: c :: d :: text) rest ↔ InString text rest := by
  constructor
  · intro string
    cases string with
    | plain _ _ backslash _ => exact absurd rfl backslash
    | escape escape _ => exact absurd escape (by decide)
    | unicode _ string => exact string
  · exact .unicode digits

private theorem string_plain (printable : 32 ≤ c.toNat) (quote : c ≠ '"') (backslash : c ≠ '\\') :
    InString (c :: text) rest ↔ InString text rest := by
  constructor
  · intro string
    cases string with
    | quote => exact absurd rfl quote
    | plain _ _ _ string => exact string
    | escape _ _ => exact absurd rfl backslash
    | unicode _ _ => exact absurd rfl backslash
  · exact .plain printable quote backslash

private theorem control_digits : ∀ n < 32, hexPadded 4 n = ['0', '0', hexDigit (n / 16), hexDigit (n % 16)] ∧
    ['0', '0', hexDigit (n / 16), hexDigit (n % 16)].all (fun digit => (hexValue? digit).isSome) = true := by
  decide

private theorem string_char (c : Char) (text rest : Text) :
    InString (jsonChar c ++ text) rest ↔ InString text rest := by
  unfold jsonChar
  split_ifs with quote backslash feed carriage tab backspace page control
  · exact string_escape (by decide)
  · exact string_escape (by decide)
  · exact string_escape (by decide)
  · exact string_escape (by decide)
  · exact string_escape (by decide)
  · exact string_escape (by decide)
  · exact string_escape (by decide)
  · obtain ⟨shape, digits⟩ := control_digits c.toNat control
    rw [shape]
    exact string_unicode (List.all_eq_true.mp digits)
  · exact string_plain (by omega) quote backslash

/-- What is written of a text is a string up to its closing quote. -/
theorem string_inside (content text rest : Text) :
    InString (jsonInside content ++ '"' :: text) rest ↔ rest = text := by
  induction content with
  | nil =>
    constructor
    · intro string
      cases string with
      | quote => rfl
      | plain _ quote _ _ => exact absurd rfl quote
    · rintro rfl
      exact .quote
  | cons c content ih =>
    have shape : jsonInside (c :: content) ++ '"' :: text =
        jsonChar c ++ (jsonInside content ++ '"' :: text) := by
      rw [jsonInside, List.flatMap_cons, List.append_assoc]
      rfl
    rw [shape, string_char, ih]

/-! ### Pieces -/

/-- A piece is an item in front of a comma or the closing bracket if something holds, and in one way
only. -/
structure Settles (Item : Text → Text → Prop) (close : Char) (piece : Text) (fine : Prop) : Prop where
  spaced : ∀ {text rest more : Text} {c d : Char}, c = ',' ∨ c = close → d = ',' ∨ d = close →
    skipGap text = c :: more → (Spaced Item (piece ++ text) (d :: rest) ↔ d :: rest = c :: more ∧ fine)

theorem Settles.congr {piece : Text} {other : Prop} (settles : Settles Item close piece fine)
    (same : fine ↔ other) : Settles Item close piece other := propext same ▸ settles

private theorem mark_bare (bare : isGap close = false) (mark : d = ',' ∨ d = close) : isGap d = false := by
  rcases mark with rfl | rfl
  · rfl
  · exact bare

/-- A piece settles if its rule leaves only what is behind it. -/
theorem settles_of_rule {piece : Text} (bare : isGap close = false) (front : isGap c = false)
    (rule : ∀ text back, Item (c :: (piece ++ text)) back ↔ back = text ∧ fine) :
    Settles Item close (c :: piece) fine := by
  constructor
  intro text rest more e d _ mark ends
  rw [List.cons_append, spaced_none front]
  simp only [rule, and_assoc, exists_eq_left]
  rw [gap_iff (mark_bare bare mark), ends, and_comm, eq_comm]

theorem settles_blanks {blanks piece : Text} (bare : Bare Item) (all : ∀ c ∈ blanks, isGap c = true)
    (settles : Settles Item close piece fine) : Settles Item close (blanks ++ piece) fine := by
  constructor
  intro text rest more c d ended mark ends
  rw [List.append_assoc, spaced_append bare all, settles.spaced ended mark ends]

theorem settles_string (content : Text) (bare : isGap close = false) :
    Settles Value close (jsonString content) True := by
  refine settles_of_rule bare rfl fun text back => ?_
  have shape : jsonInside content ++ ['"'] ++ text = jsonInside content ++ '"' :: text := by simp
  rw [value_string, ← string_inside content text back, ← shape, and_true]
  rfl

/-- A list is its pieces, if each of them is an item. -/
theorem listed_iff {α : Type} {piece : α → Text} {holds : α → Prop} {first : Text} {items : List α}
    (comma : close ≠ ',') (start : Settles Item close first fine)
    (each : ∀ item ∈ items, Settles Item close (piece item) (holds item))
    (ends : skipGap text = close :: more) (count : Nat) (rest : Text) :
    Listed Item close count (first ++ (items.flatMap (fun item => ',' :: piece item) ++ text)) rest ↔
      count = items.length + 1 ∧ rest = more ∧ fine ∧ ∀ item ∈ items, holds item := by
  induction items generalizing first fine count with
  | nil =>
    rw [List.flatMap_nil, List.nil_append]
    constructor
    · intro listed
      cases listed with
      | last spaced =>
        obtain ⟨same, holds⟩ := (start.spaced (.inr rfl) (.inr rfl) ends).mp spaced
        exact ⟨rfl, (List.cons.inj same).2, holds, List.forall_mem_nil _⟩
      | more spaced _ =>
        obtain ⟨same, -⟩ := (start.spaced (.inr rfl) (.inl rfl) ends).mp spaced
        exact absurd (List.cons.inj same).1 comma.symm
    · rintro ⟨rfl, rfl, holds, -⟩
      exact .last ((start.spaced (.inr rfl) (.inr rfl) ends).mpr ⟨rfl, holds⟩)
  | cons item items ih =>
    obtain ⟨own, others⟩ := List.forall_mem_cons.mp each
    have next : skipGap (',' :: (piece item ++ (items.flatMap (fun item => ',' :: piece item) ++ text))) =
        ',' :: (piece item ++ (items.flatMap (fun item => ',' :: piece item) ++ text)) := rfl
    rw [List.flatMap_cons, List.cons_append, List.cons_append, List.append_assoc]
    constructor
    · intro listed
      cases listed with
      | last spaced =>
        obtain ⟨same, -⟩ := (start.spaced (.inl rfl) (.inr rfl) next).mp spaced
        exact absurd (List.cons.inj same).1 comma
      | more spaced listed =>
        obtain ⟨same, holds⟩ := (start.spaced (.inl rfl) (.inl rfl) next).mp spaced
        rw [(List.cons.inj same).2] at listed
        obtain ⟨rfl, rfl, head, tail⟩ := (ih own others _).mp listed
        exact ⟨rfl, rfl, holds, List.forall_mem_cons.mpr ⟨head, tail⟩⟩
    · rintro ⟨rfl, rfl, holds, all⟩
      obtain ⟨head, tail⟩ := List.forall_mem_cons.mp all
      exact .more ((start.spaced (.inl rfl) (.inl rfl) next).mpr ⟨rfl, holds⟩)
        ((ih own others _).mpr ⟨rfl, rfl, head, tail⟩)

/-- A member is its name and its value, if that is one. -/
theorem settles_member (name : Text) {value : Text} (settles : Settles Value '\x7d' value fine) :
    Settles (Member Value) '\x7d' (jsonString name ++ ':' :: value) fine := by
  constructor
  intro text rest more c d ended mark ends
  rw [← settles.spaced ended mark ends]
  have shape : jsonString name ++ ':' :: value ++ text =
      '"' :: (jsonInside name ++ '"' :: ':' :: (value ++ text)) := by
    simp [jsonString]
  rw [shape, spaced_none rfl]
  constructor
  · rintro ⟨back, member, behind⟩
    cases member with
    | named string colon gap item =>
      rw [(string_inside name _ _).mp string] at colon
      have same := (gap_none rfl).mp colon
      rw [(List.cons.inj same).2] at gap
      exact .around gap item behind
  · rintro ⟨gap, item, behind⟩
    exact ⟨_, .named ((string_inside name _ _).mpr rfl) .done gap item, behind⟩

/-! ### Words without quotes -/

theorem settles_null (bare : isGap close = false) : Settles Value close "null" True :=
  settles_of_rule bare rfl fun _ _ => value_null.trans (iff_of_eq (and_true _).symm)

theorem settles_true (bare : isGap close = false) : Settles Value close "true" True :=
  settles_of_rule bare rfl fun _ _ => value_yes.trans (iff_of_eq (and_true _).symm)

theorem settles_false (bare : isGap close = false) : Settles Value close "false" True :=
  settles_of_rule bare rfl fun _ _ => value_no.trans (iff_of_eq (and_true _).symm)

/-- A number with spaces around it. -/
def IsPadded (text : Text) : Prop :=
  ∃ front word back, text = front ++ (word ++ back) ∧ (∀ c ∈ front, c = ' ') ∧ IsNumber word ∧
    ∀ c ∈ back, c = ' '

theorem padded_start (padded : IsPadded (c :: text)) : c = ' ' ∨ c = '-' ∨ c.isDigit = true := by
  obtain ⟨front, word, back, split, before, number, -⟩ := padded
  cases front with
  | nil => exact .inr (number_start number split)
  | cons space front =>
    rw [(List.cons.inj split).1]
    exact .inl (before space List.mem_cons_self)

private theorem numeral_apart (numeral : IsNumeral c) : isGap c = false ∧ ¬ (c = ',' ∨ c = '\x7d') := by
  constructor
  · cases gap : isGap c with
    | false => rfl
    | true =>
      simp only [isGap, Bool.or_eq_true, beq_iff_eq] at gap
      rcases gap with ((rfl | rfl) | rfl) | rfl <;> exact absurd numeral (by simp [IsNumeral])
  · rintro (rfl | rfl) <;> exact absurd numeral (by simp [IsNumeral])

/-- A number doesn't go on behind the mark that ends a member. -/
private theorem number_within {token stop : Text} (mark : c = ',' ∨ c = '\x7d')
    (ends : skipGap text = c :: more) (number : IsNumber word) (split : token ++ text = word ++ stop) :
    ∃ back, token = word ++ back ∧ stop = back ++ text := by
  rcases List.append_eq_append_iff.mp split with ⟨beyond, same, tail⟩ | ⟨back, same, tail⟩
  · cases beyond with
    | nil => exact ⟨[], by simpa using same.symm, by simpa using tail.symm⟩
    | cons z beyond =>
      have numeral := number_numerals number z (by simp [same])
      obtain ⟨bare, apart⟩ := numeral_apart numeral
      rw [tail, List.cons_append, skipGap, List.dropWhile_cons_of_neg (by simp [bare])] at ends
      rw [(List.cons.inj ends).1] at apart
      exact absurd mark apart
  · exact ⟨back, same, tail⟩

/-- What stands between a value and the mark is blank. -/
private theorem blanks_between (mark : d = ',' ∨ d = '\x7d') (inline : ∀ c ∈ back, ¬ (c = ',' ∨ c = '\x7d'))
    (gap : skipGap (back ++ text) = d :: rest) :
    (∀ c ∈ back, isGap c = true) ∧ skipGap text = d :: rest := by
  induction back with
  | nil => exact ⟨List.forall_mem_nil _, gap⟩
  | cons c back ih =>
    obtain ⟨first, others⟩ := List.forall_mem_cons.mp inline
    cases blank : isGap c with
    | true =>
      rw [List.cons_append, skipGap, List.dropWhile_cons_of_pos blank] at gap
      obtain ⟨all, ends⟩ := ih others gap
      exact ⟨List.forall_mem_cons.mpr ⟨blank, all⟩, ends⟩
    | false =>
      rw [List.cons_append, skipGap, List.dropWhile_cons_of_neg (by simp [blank])] at gap
      rw [(List.cons.inj gap).1] at first
      exact absurd mark first

/-- The characters of a word without quotes: no brackets, no quotes, no comma and no blanks other than
spaces. -/
def IsInline (c : Char) : Prop := c ∉ [',', '\x7d', '"', '[', '\x7b', '\t', '\n', '\r']

instance : DecidablePred IsInline := fun c =>
  inferInstanceAs (Decidable (c ∉ [',', '\x7d', '"', '[', '\x7b', '\t', '\n', '\r']))

private theorem inline_unmarked (inline : IsInline c) : ¬ (c = ',' ∨ c = '\x7d') := by
  rintro (rfl | rfl) <;> exact absurd inline (by simp [IsInline])

private theorem inline_bare (inline : IsInline c) (space : c ≠ ' ') : isGap c = false := by
  simp only [IsInline, List.mem_cons, not_or] at inline
  simp [isGap, inline, space]

private theorem spaces_blank {spaces : Text} (all : ∀ c ∈ spaces, c = ' ') : ∀ c ∈ spaces, isGap c = true := by
  intro c member
  rw [all c member]
  rfl

/-- A mark is no value. -/
private theorem no_value (mark : c = ',' ∨ c = '\x7d') (ends : skipGap text = c :: more) :
    ¬ Spaced Value text rest := by
  rintro ⟨gap, value, -⟩
  obtain ⟨z, tail, rfl, bare⟩ := value_bare _ _ value
  rw [gap_iff bare, ends] at gap
  rw [← (List.cons.inj gap).1] at value
  have other : c ∉ ['n', 't', 'f', '"', '[', '\x7b'] := by rcases mark with rfl | rfl <;> decide
  obtain ⟨word, number, split⟩ := (value_number other).mp value
  have start := number_start number split
  rcases mark with rfl | rfl <;> exact absurd start (by decide)

/-- A word that starts like no other value is a number with spaces behind it, if it is a value. -/
private theorem number_spaced {token : Text} (mark : c = ',' ∨ c = '\x7d') (next : d = ',' ∨ d = '\x7d')
    (ends : skipGap text = c :: more) (inline : ∀ c ∈ token, IsInline c) {x : Char} {tail : Text}
    (shape : token = x :: tail) (space : x ≠ ' ') (other : x ∉ ['n', 't', 'f'])
    (spaced : Spaced Value (token ++ text) (d :: rest)) :
    d :: rest = c :: more ∧ ∃ word back, token = word ++ back ∧ IsNumber word ∧ ∀ c ∈ back, c = ' ' := by
  have own : IsInline x := inline x (by rw [shape]; exact List.mem_cons_self)
  have start : x ∉ ['n', 't', 'f', '"', '[', '\x7b'] := by
    simp only [IsInline, List.mem_cons, not_or] at own other ⊢
    simp [own, other]
  rw [shape, List.cons_append, spaced_none (inline_bare own space)] at spaced
  obtain ⟨behind, value, gap⟩ := spaced
  obtain ⟨word, number, split⟩ := (value_number start).mp value
  rw [← List.cons_append, ← shape] at split
  obtain ⟨back, same, rfl⟩ := number_within mark ends number split
  have others : ∀ c ∈ back, IsInline c := fun c member =>
    inline c (by rw [same]; exact List.mem_append_right _ member)
  obtain ⟨blanks, finish⟩ := blanks_between next (fun c member => inline_unmarked (others c member))
    ((gap_iff (mark_bare rfl next)).mp gap)
  refine ⟨finish.symm.trans ends, word, back, same, number, fun c member => ?_⟩
  by_cases space : c = ' '
  · exact space
  · have gap := inline_bare (others c member) space
    rw [blanks c member] at gap
    cases gap

/-- A word without quotes that starts like no other value is a number with spaces around it, or no value
at all. -/
theorem settles_padded {token : Text} (inline : ∀ c ∈ token, IsInline c)
    (start : ∀ c, (token.dropWhile (· == ' ')).head? = some c → c ∉ ['n', 't', 'f']) :
    Settles Value '\x7d' token (IsPadded token) := by
  constructor
  intro text rest more c d ended mark ends
  constructor
  · intro spaced
    have spaces : ∀ c ∈ token.takeWhile (· == ' '), c = ' ' := fun c member =>
      eq_of_beq (List.mem_takeWhile_imp (p := (· == ' ')) member)
    have whole : token = token.takeWhile (· == ' ') ++ token.dropWhile (· == ' ') :=
      List.takeWhile_append_dropWhile.symm
    rw [whole, List.append_assoc, spaced_append value_bare (spaces_blank spaces)] at spaced
    cases shape : token.dropWhile (· == ' ') with
    | nil =>
      rw [shape, List.nil_append] at spaced
      exact absurd spaced (no_value ended ends)
    | cons x tail =>
      have among : ∀ c ∈ token.dropWhile (· == ' '), IsInline c := fun c member =>
        inline c ((List.dropWhile_sublist _).subset member)
      have space : x ≠ ' ' := by
        have kept := List.head?_dropWhile_not (· == ' ') token
        rw [shape] at kept
        simpa using kept
      have first := start x (by rw [shape]; rfl)
      obtain ⟨same, word, back, split, number, behind⟩ :=
        number_spaced ended mark ends among shape space first spaced
      exact ⟨same, _, word, back, by rw [← split]; exact whole, spaces, number, behind⟩
  · rintro ⟨same, front, word, back, rfl, before, number, behind⟩
    rw [List.append_assoc, List.append_assoc]
    refine .around (gap_append (spaces_blank before) .done) (.number number rfl)
      (gap_append (spaces_blank behind) ?_)
    rw [gap_iff (mark_bare rfl mark), ends, same]

/-! ### Objects and arrays -/

/-- Brackets with something else than a blank behind the opening one hold a list. -/
theorem enclosed_filled (bare : isGap c = false) (other : c ≠ close) (closed : isGap close = false) :
    Enclosed Item close count (c :: text) rest ↔ Listed Item close count (c :: text) rest := by
  constructor
  · intro enclosed
    cases enclosed with
    | empty gap =>
      have same := (gap_iff closed).mp gap
      rw [skipGap, List.dropWhile_cons_of_neg (by simp [bare])] at same
      exact absurd (List.cons.inj same).1 other
    | filled listed => exact listed
  · exact .filled

/-- What starts with the bracket of an object is one. -/
def TakesObjects (Item : Text → Text → Prop) : Prop :=
  ∀ text rest, Item ('\x7b' :: text) rest ↔ ∃ count, Enclosed (Member Value) '\x7d' count text rest

/-- Members in brackets are an object, if each of them is a member. -/
theorem settles_object {α : Type} {piece : α → Text} {holds : α → Prop} {first : Text} {items : List α}
    (object : TakesObjects Item) (bare : isGap close = false)
    (start : Settles (Member Value) '\x7d' ('"' :: first) fine)
    (each : ∀ item ∈ items, Settles (Member Value) '\x7d' (piece item) (holds item)) :
    Settles Item close ('\x7b' :: ('"' :: first ++ (items.flatMap (fun item => ',' :: piece item) ++ ['\x7d'])))
      (fine ∧ ∀ item ∈ items, holds item) := by
  refine settles_of_rule bare rfl fun text back => ?_
  have shape : '"' :: first ++ (items.flatMap (fun item => ',' :: piece item) ++ ['\x7d']) ++ text =
      '"' :: first ++ (items.flatMap (fun item => ',' :: piece item) ++ '\x7d' :: text) := by simp
  have ends : skipGap ('\x7d' :: text) = '\x7d' :: text := rfl
  have listed (count : Nat) := listed_iff (by decide) start each ends count back
  rw [object, shape]
  simp only [List.cons_append] at listed ⊢
  simp only [enclosed_filled (c := '"') rfl (by decide : '"' ≠ '\x7d') rfl, listed, exists_eq_left]

theorem value_takes : TakesObjects Value := fun _ _ => value_object

theorem object_takes : TakesObjects Object := by
  intro text rest
  constructor
  · rintro ⟨members⟩
    exact ⟨_, members⟩
  · rintro ⟨count, members⟩
    exact .members members

theorem object_bare : Bare Object := by
  intro text rest object
  cases object with
  | members members => exact ⟨_, _, rfl, rfl⟩

/-- Brackets with nothing but blanks between them. -/
private theorem enclosed_none (bare : Bare Item) (unclosed : ∀ text rest, ¬ Item (']' :: text) rest) :
    Enclosed Item ']' count ['\r', '\n', '\r', '\n', ']'] rest ↔ count = 0 ∧ rest = [] := by
  have closed : Gap ['\r', '\n', '\r', '\n', ']'] (']' :: rest) ↔ rest = [] := by
    rw [gap_iff rfl]
    exact ⟨fun same => (List.cons.inj same).2.symm, fun same => by rw [same]; rfl⟩
  have none : ¬ ∃ rest, Spaced Item ['\r', '\n', '\r', '\n', ']'] rest := by
    rintro ⟨_, gap, item, -⟩
    obtain ⟨c, tail, rfl, front⟩ := bare _ _ item
    have same := (gap_iff front).mp gap
    have mark : ']' = c := (List.cons.inj same).1
    rw [← mark] at item
    exact unclosed _ _ item
  constructor
  · intro enclosed
    cases enclosed with
    | empty gap => exact ⟨rfl, closed.mp gap⟩
    | filled listed =>
      cases listed with
      | last spaced => exact absurd ⟨_, spaced⟩ none
      | more spaced _ => exact absurd ⟨_, spaced⟩ none
  · rintro ⟨rfl, rfl⟩
    exact .empty (closed.mpr rfl)

/-- Lines with a bracket each are what stands in the brackets of an array, if each of them is an item. -/
theorem enclosed_lines {α : Type} {piece : α → Text} {holds : α → Prop} {items : List α} (bare : Bare Item)
    (unclosed : ∀ text rest, ¬ Item (']' :: text) rest)
    (each : ∀ item ∈ items, Settles Item ']' ('\x7b' :: piece item) (holds item)) :
    Enclosed Item ']' count
        ('\r' :: '\n' :: (join ",\r\n" (items.map fun item => '\x7b' :: piece item) ++ ['\r', '\n', ']'])) rest ↔
      count = items.length ∧ rest = [] ∧ ∀ item ∈ items, holds item := by
  cases items with
  | nil =>
    rw [and_iff_left (List.forall_mem_nil _)]
    exact enclosed_none bare unclosed
  | cons item items =>
    have blanks : ∀ c ∈ ['\r', '\n'], isGap c = true := each_of_all (by decide)
    obtain ⟨own, others⟩ := List.forall_mem_cons.mp each
    have ends : skipGap ['\r', '\n', ']'] = [']'] := rfl
    have listed := listed_iff (by decide) (settles_blanks bare blanks own)
      (fun item member => settles_blanks bare blanks (others item member)) ends count rest
    have shape : join ",\r\n" ((item :: items).map fun item => '\x7b' :: piece item) ++ ['\r', '\n', ']'] =
        '\x7b' :: (piece item ++ (items.flatMap (fun item => ',' :: (['\r', '\n'] ++ '\x7b' :: piece item)) ++
          ['\r', '\n', ']'])) := by
      rw [List.map_cons, join_cons, List.flatMap_map]
      simp
    rw [shape, List.forall_mem_cons, List.length_cons, ← listed]
    constructor
    · intro enclosed
      cases enclosed with
      | empty gap =>
        have same := (gap_iff rfl).mp gap
        exact absurd (List.cons.inj same).1 (by decide)
      | filled listed => exact listed
    · exact .filled

end TableGate.JsonGrammar
