import Mathlib.Data.List.TakeWhile
import TableGate.Answer.Layout
import TableGate.Calendar.IsoParser
import TableGate.Proofs.FiniteRange
import TableGate.Proofs.JsonGrammar
import TableGate.Proofs.NumberText

/-! Decimal numbers read back. The digits of a number have the number as their value, whether they
stand alone or are filled up to a width. A number with a fraction and a power of ten is read as the
decimal that its parts write, which is a finite floating point number unless it is too large. -/
namespace TableGate.DecimalReading
open FiniteIntegers FiniteRange Text TextFacts
open JsonGrammar (IsDigits IsFraction IsNumber IsNumeral IsPower IsWhole number_numerals)
open NumberText (ofNat_digits ofNatPadded_digits)

variable {c : Char} {text rest : Text} {n width : Nat}

/-! ### Digits -/

theorem digit_bounds (digit : c.isDigit = true) : 48 ≤ c.toNat ∧ c.toNat ≤ 57 := by
  simpa [Char.isDigit, UInt32.le_iff_toNat_le] using digit

theorem digit_ne {other : Char} (digit : c.isDigit = true) (apart : other.isDigit = false) : c ≠ other := by
  rintro rfl
  rw [digit] at apart
  cases apart

theorem value_of_digit (digit : c.isDigit = true) : digitValue? c = some (c.toNat - 48) := by
  have bounds := digit_bounds digit
  rw [digitValue?, if_pos (by omega), if_pos digit]

/-- Digits have the same value for every reader of decimals. -/
theorem digitsValue_eq (digits : ∀ c ∈ text, c.isDigit = true) :
    digitsValue text = Nat.ofDigitChars 10 text 0 := by
  have from_start (start : Nat) :
      text.foldl (fun value c => 10 * value + (digitValue? c).getD 0) start =
        Nat.ofDigitChars 10 text start := by
    induction text generalizing start with
    | nil => rfl
    | cons c text ih =>
      obtain ⟨first, others⟩ := List.forall_mem_cons.mp digits
      rw [List.foldl_cons, ih others, Nat.ofDigitChars_cons, value_of_digit first]
      rfl
  exact from_start 0

theorem digitsValue_ofNat (n : Nat) : digitsValue (ofNat n) = n := by
  rw [digitsValue_eq fun _ => ofNat_digits]
  exact Nat.ofDigitChars_ten_toDigits

theorem length_ofNat_le (wide : 0 < width) : (ofNat n).length ≤ width ↔ n < 10 ^ width :=
  Nat.length_toDigits_le_iff (by decide) wide

theorem ofNat_ne_nil (n : Nat) : ofNat n ≠ [] := Nat.toDigits_ne_nil

/-- Only zero starts with a zero. -/
theorem ofNat_head (n : Nat) (zero : (ofNat n).head? = some '0') : n = 0 := by
  induction n using Nat.strong_induction_on with
  | _ n ih =>
    unfold ofNat at zero
    by_cases small : n < 10
    · rw [Nat.toDigits_of_lt_base small] at zero
      have digit : ∀ n < 10, n.digitChar = '0' → n = 0 := by decide
      exact digit n small (Option.some.inj zero)
    · have some : Nat.toDigits 10 (n / 10) ≠ [] := Nat.toDigits_ne_nil
      rw [Nat.toDigits_of_base_le (by decide) (by omega), List.head?_append_of_ne_nil _ some] at zero
      have none := ih (n / 10) (by omega) zero
      omega

/-! ### Fields of a fixed width -/

theorem length_ofNatPadded (wide : 0 < width) (fits : n < 10 ^ width) :
    (ofNatPadded width n).length = width := by
  have short := (length_ofNat_le wide).mpr fits
  simp only [ofNatPadded, List.length_append, List.length_replicate]
  omega

private theorem ofDigitChars_ofNatPadded (width n : Nat) :
    Nat.ofDigitChars 10 (ofNatPadded width n) 0 = n := by
  rw [ofNatPadded, Nat.ofDigitChars_append, Nat.ofDigitChars_replicate_zero, Nat.mul_zero]
  exact Nat.ofDigitChars_ten_toDigits

theorem digitsValue_ofNatPadded (width n : Nat) : digitsValue (ofNatPadded width n) = n := by
  rw [digitsValue_eq fun _ => ofNatPadded_digits]
  exact ofDigitChars_ofNatPadded width n

/-- A number that is filled up to a width is read from its field, whatever follows. -/
theorem number_padded (wide : 0 < width) (fits : n < 10 ^ width) (rest : Text) :
    DateTime.number? width (ofNatPadded width n ++ rest) = some (n, rest) := by
  have size := length_ofNatPadded wide fits
  have digits : (ofNatPadded width n).all Char.isDigit = true :=
    List.all_eq_true.mpr fun _ => ofNatPadded_digits
  have value : (ofNatPadded width n).foldl (fun n c => 10 * n + (c.toNat - 48)) 0 = n :=
    ofDigitChars_ofNatPadded width n
  have front : (ofNatPadded width n ++ rest).take width = ofNatPadded width n := by
    rw [List.take_append_of_le_length (Nat.le_of_eq size.symm), List.take_of_length_le (Nat.le_of_eq size)]
  have behind : (ofNatPadded width n ++ rest).drop width = rest := by
    rw [List.drop_append_of_le_length (Nat.le_of_eq size.symm), List.drop_of_length_le (Nat.le_of_eq size)]
    rfl
  rw [DateTime.number?, front, behind]
  simp only [size, digits, and_self, ↓reduceIte, value]

/-! ### Numerals -/

/-- The sign of an integer, if it has one, and its digits. -/
def signed (n : Int) : Text := (if n < 0 then ['-'] else []) ++ ofNat n.natAbs

theorem signed_chars {n : Int} (member : c ∈ signed n) : c = '-' ∨ c.isDigit = true := by
  rcases List.mem_append.mp member with sign | digit
  · split at sign
    · exact .inl (by simpa using sign)
    · cases sign
  · exact .inr (ofNat_digits digit)

theorem length_integer (small : n < integerBound) : (ofNat n).length ≤ 308 := by
  unfold integerBound at small
  exact (length_ofNat_le (by decide)).mpr small

/-- An integer is spelled with its sign and its digits, unless there are too many. -/
theorem integer_text_eq_ok {n : Int} : Integer.text n = .ok text ↔
    (ofNat n.natAbs).length ≤ ConversionProblem.digitLimit ∧ text = signed n := by
  have magnitude (size : Nat) {digits : Text} : Integer.textOfNat size = .ok digits ↔
      (ofNat size).length ≤ ConversionProblem.digitLimit ∧ digits = ofNat size := by
    unfold Integer.textOfNat
    dsimp only
    split
    · simp [Nat.not_le.mpr (by assumption)]
    · simp [Nat.not_lt.mp (by assumption), eq_comm]
  cases n with
  | ofNat n => exact magnitude n
  | negSucc n =>
    rw [Integer.text, Fallible.map_eq_ok, signed, if_pos (Int.negSucc_lt_zero n), Int.natAbs_negSucc]
    constructor
    · rintro ⟨digits, printed, rfl⟩
      obtain ⟨short, rfl⟩ := (magnitude (n + 1)).mp printed
      exact ⟨short, rfl⟩
    · rintro ⟨short, rfl⟩
      exact ⟨_, (magnitude (n + 1)).mpr ⟨short, rfl⟩, rfl⟩

/-- An integer that is not too large is spelled with its sign and its digits. -/
theorem integer_text {n : Int} (small : n.natAbs < integerBound) : Integer.text n = .ok (signed n) :=
  integer_text_eq_ok.mpr ⟨Nat.le_trans (length_integer small) (by decide), rfl⟩

private theorem toAscii_digits (ascii : ∀ c ∈ text, c.toNat < 128) : Numeral.toAscii? text = some text := by
  induction text with
  | nil => rfl
  | cons c text ih =>
    obtain ⟨first, others⟩ := List.forall_mem_cons.mp ascii
    have rest := ih others
    unfold Numeral.toAscii? at rest ⊢
    rw [List.mapM_cons, if_pos first, rest]
    rfl

private theorem dropWhile_none {drop : Char → Bool} (kept : ∀ c ∈ text, drop c = false) :
    text.dropWhile drop = text := by
  cases text with
  | nil => rfl
  | cons c text => rw [List.dropWhile_cons_of_neg (by simp [kept c])]

private theorem trim_none {drop : Char → Bool} (kept : ∀ c ∈ text, drop c = false) :
    trim drop text = text := by
  have back : ∀ c ∈ text.reverse, drop c = false := fun c member => kept c (List.mem_reverse.mp member)
  rw [trim, dropWhile_none kept, dropWhile_none back, List.reverse_reverse]

private theorem dropUnderscores_none (free : '_' ∉ text) (afterDigit : Bool) :
    Numeral.dropUnderscores? afterDigit text = some text := by
  induction text generalizing afterDigit with
  | nil => rfl
  | cons c text ih =>
    simp only [List.mem_cons, not_or] at free
    rw [Numeral.dropUnderscores?.eq_3 _ _ _ (Ne.symm free.1), ih free.2]
    rfl

/-- No word for an infinity or for no number starts with a digit. -/
private theorem digit_ne_letter (digit : c.isDigit = true) : c.toLower ≠ 'i' ∧ c.toLower ≠ 'n' := by
  have bounds := digit_bounds digit
  have same : c.toLower = c := by
    unfold Char.toLower
    rw [dif_neg]
    rintro ⟨upper, -⟩
    have above : 65 ≤ c.toNat := by simpa [UInt32.le_iff_toNat_le] using upper
    omega
  rw [same]
  constructor <;> (rintro rfl; exact absurd bounds.2 (by decide))

/-! ### Numbers in their parts -/

/-- The characters of numbers are read as they are. -/
private theorem numeral_plain (numeral : IsNumeral c) :
    c.toNat < 128 ∧ Numeral.isPadding c = false ∧ c ≠ '_' := by
  rcases numeral with digit | mark
  · have bounds := digit_bounds digit
    have blank : c ≠ ' ' := digit_ne digit rfl
    refine ⟨by omega, ?_, digit_ne digit rfl⟩
    simp only [Numeral.isPadding, Bool.or_eq_false_iff, beq_eq_false_iff_ne, ne_eq, blank,
      not_false_eq_true, Bool.and_eq_false_iff, decide_eq_false_iff_not, true_and]
    omega
  · simp only [List.mem_cons, List.not_mem_nil, or_false] at mark
    rcases mark with rfl | rfl | rfl | rfl | rfl <;> decide

/-- The characters of numbers are not escaped in JSON strings. -/
theorem jsonChar_numeral (numeral : IsNumeral c) : jsonChar c = [c] := by
  rcases numeral with digit | mark
  · have bounds := digit_bounds digit
    exact jsonChar_own (by omega) (digit_ne digit rfl) (digit_ne digit rfl)
  · simp only [List.mem_cons, List.not_mem_nil, or_false] at mark
    rcases mark with rfl | rfl | rfl | rfl | rfl <;> rfl

theorem jsonInside_number (number : IsNumber text) : jsonInside text = text :=
  jsonInside_own fun c member => jsonChar_numeral (number_numerals number c member)

/-- The parts of a number: a sign, digits in front of the point and behind it, and a power of ten. -/
structure Parts (minus whole fraction power : Text) : Prop where
  isMinus : minus = [] ∨ minus = ['-']
  isWhole : IsWhole whole
  isFraction : IsFraction fraction
  isPower : IsPower power

theorem number_parts : IsNumber text ↔ ∃ minus whole fraction power,
    text = minus ++ (whole ++ (fraction ++ power)) ∧ Parts minus whole fraction power := by
  constructor
  · rintro ⟨minus, whole, fraction, power, same, isMinus, isWhole, isFraction, isPower⟩
    exact ⟨minus, whole, fraction, power, same, isMinus, isWhole, isFraction, isPower⟩
  · rintro ⟨minus, whole, fraction, power, same, isMinus, isWhole, isFraction, isPower⟩
    exact ⟨minus, whole, fraction, power, same, isMinus, isWhole, isFraction, isPower⟩

theorem Parts.signed {whole fraction power : Text} (parts : Parts [] whole fraction power) (negative : Bool) :
    Parts (if negative then ['-'] else []) whole fraction power where
  isMinus := by
    cases negative
    · exact .inl rfl
    · exact .inr rfl
  isWhole := parts.isWhole
  isFraction := parts.isFraction
  isPower := parts.isPower

/-- The decimal that a number writes: its digits, of which the last one counts by the power of ten less
the places behind the point. -/
def numeral (minus whole fraction power : Text) : Numeral :=
  ⟨!minus.isEmpty, digitsValue (whole ++ fraction.tail),
    (Numeral.power? power).getD 0 - fraction.tail.length⟩

section Parts

variable {minus whole fraction power : Text} (parts : Parts minus whole fraction power)
include parts

/-- The unsigned part of a number starts with a digit. -/
theorem Parts.start : ∃ first others, first.isDigit = true ∧ whole = first :: others := by
  obtain ⟨⟨some, digits⟩, -⟩ := parts.isWhole
  obtain ⟨first, others, rfl⟩ := List.exists_cons_of_ne_nil some
  exact ⟨first, others, digits first List.mem_cons_self, rfl⟩

private theorem Parts.sign : Numeral.sign (minus ++ (whole ++ (fraction ++ power))) =
    (!minus.isEmpty, whole ++ (fraction ++ power)) := by
  obtain ⟨first, others, digit, rfl⟩ := parts.start
  rcases parts.isMinus with rfl | rfl
  · have minus : first ≠ '-' := digit_ne digit rfl
    have plus : first ≠ '+' := digit_ne digit rfl
    simp [Numeral.sign, minus, plus]
  · rfl

private theorem Parts.shift : Numeral.power? power = some ((Numeral.power? power).getD 0) := by
  rcases parts.isPower with rfl | ⟨mark, sign, digits, rfl, isMark, isSign, some, are⟩
  · rfl
  · obtain ⟨first, others, rfl⟩ := List.exists_cons_of_ne_nil some
    have digit := are first List.mem_cons_self
    have minus : first ≠ '-' := digit_ne digit rfl
    have plus : first ≠ '+' := digit_ne digit rfl
    have all : (first :: others).all Char.isDigit = true := List.all_eq_true.mpr are
    have signed : ∃ negative, Numeral.sign (sign ++ first :: others) = (negative, first :: others) := by
      rcases isSign with rfl | rfl | rfl
      · exact ⟨false, by simp [Numeral.sign, minus, plus]⟩
      · exact ⟨false, rfl⟩
      · exact ⟨true, rfl⟩
    obtain ⟨negative, signed⟩ := signed
    unfold Numeral.power?
    dsimp only
    rw [if_pos isMark, signed]
    simp only [all, List.isEmpty_cons, Bool.not_false, Bool.and_self, ↓reduceIte, Option.getD_some]

private theorem Parts.places : Numeral.places (whole ++ (fraction ++ power)) =
    (whole, fraction.tail, power) := by
  have digits := parts.isWhole.1.2
  have behind : power.takeWhile Char.isDigit = [] ∧ power.dropWhile Char.isDigit = power ∧
      power.head? ≠ some '.' := by
    rcases parts.isPower with rfl | ⟨mark, sign, digits, rfl, rfl | rfl, -⟩
    · exact ⟨rfl, rfl, nofun⟩
    · exact ⟨rfl, rfl, by simp⟩
    · exact ⟨rfl, rfl, by simp⟩
  obtain ⟨none, kept, point⟩ := behind
  rcases parts.isFraction with rfl | ⟨places, rfl, -, are⟩
  · rw [Numeral.places, List.nil_append, List.takeWhile_append_of_pos digits,
      List.dropWhile_append_of_pos digits, none, kept, List.append_nil]
    split
    · simp at point
    · rfl
  · rw [Numeral.places, List.takeWhile_append_of_pos digits, List.dropWhile_append_of_pos digits,
      List.cons_append, List.takeWhile_cons_of_neg (by decide), List.dropWhile_cons_of_neg (by decide)]
    simp only [List.takeWhile_append_of_pos are, List.dropWhile_append_of_pos are, none, kept,
      List.append_nil, List.tail_cons]

/-- A number is read as the decimal that its parts write. -/
theorem ofText_number : Binary64.ofText? (minus ++ (whole ++ (fraction ++ power))) =
    some (numeral minus whole fraction power).toBinary64 := by
  obtain ⟨first, others, digit, start⟩ := parts.start
  have plain : ∀ c ∈ minus ++ (whole ++ (fraction ++ power)), c.toNat < 128 ∧
      Numeral.isPadding c = false ∧ c ≠ '_' := fun c member =>
    numeral_plain (number_numerals (number_parts.mpr ⟨_, _, _, _, rfl, parts⟩) c member)
  have free : '_' ∉ minus ++ (whole ++ (fraction ++ power)) := fun member => (plain _ member).2.2 rfl
  have word : ((whole ++ (fraction ++ power)).map Char.toLower).head? = some first.toLower := by
    rw [start]
    rfl
  have filled : whole.isEmpty = false := by
    rw [start]
    rfl
  obtain ⟨infinity, none⟩ := digit_ne_letter digit
  have apart {c : Char} (letter : first.toLower ≠ c) (letters : Text) :
      ((whole ++ (fraction ++ power)).map Char.toLower == c :: letters) = false := by
    refine beq_false_of_ne fun same => letter ?_
    rw [same] at word
    exact (Option.some.inj word).symm
  have words : ((whole ++ (fraction ++ power)).map Char.toLower == ("inf" : Text)) = false ∧
      ((whole ++ (fraction ++ power)).map Char.toLower == ("infinity" : Text)) = false ∧
        ((whole ++ (fraction ++ power)).map Char.toLower == ("nan" : Text)) = false :=
    ⟨apart infinity ['n', 'f'], apart infinity ['n', 'f', 'i', 'n', 'i', 't', 'y'], apart none ['a', 'n']⟩
  unfold Binary64.ofText? Numeral.ofAscii?
  rw [toAscii_digits fun c member => (plain c member).1, Option.bind_eq_bind, Option.bind_some,
    trim_none fun c member => (plain c member).2.1, dropUnderscores_none free]
  simp only [Option.bind_some, parts.sign, words, Bool.or_self, Bool.false_eq_true,
    ↓reduceIte]
  rw [Numeral.unsigned?, parts.places]
  simp only [filled, Bool.false_and, Bool.false_eq_true, ↓reduceIte]
  rw [parts.shift]
  rfl

end Parts

/-! ### Decimals up to the greatest number -/

/-- The number of places that the greatest finite number has. -/
def topPlaces : Nat := 309

private theorem greatest_lt_ten : greatest < 10 ^ topPlaces := by
  decide +kernel

theorem length_of_le (small : n ≤ greatest) : (ofNat n).length ≤ topPlaces :=
  (length_ofNat_le (by decide)).mpr (Nat.lt_of_le_of_lt small greatest_lt_ten)

/-- The first digit of a positive number is not zero. -/
theorem pow_le_ofNat (some : n ≠ 0) : 10 ^ ((ofNat n).length - 1) ≤ n := by
  by_cases single : (ofNat n).length ≤ 1
  · rw [Nat.sub_eq_zero_of_le single, Nat.pow_zero]
    exact Nat.pos_of_ne_zero some
  · by_contra low
    have short := (length_ofNat_le (by omega)).mpr (Nat.not_le.mp low)
    omega

/-- A decimal below a power of ten has its first digit below it. -/
theorem lead_lt {limit places : Nat} {power : Int} (some : n ≠ 0) (below : limit < 10 ^ places)
    (within : n * (powRatio 10 power).1 ≤ limit * (powRatio 10 power).2) :
    (ofNat n).length + power ≤ places := by
  have filled : 0 < (ofNat n).length := List.length_pos_iff.mpr (ofNat_ne_nil n)
  have lead := Nat.le_trans (Nat.mul_le_mul_right (powRatio 10 power).1 (pow_le_ofNat some)) within
  have exceeds {count shift : Nat} (scaled : 10 ^ count ≤ limit * 10 ^ shift) : count < places + shift := by
    refine (Nat.pow_lt_pow_iff_right (by decide : 1 < 10)).mp (Nat.lt_of_le_of_lt scaled ?_)
    rw [Nat.pow_add]
    exact Nat.mul_lt_mul_of_pos_right below (Nat.pow_pos (by decide))
  rcases powRatio_cases 10 power with ⟨count, same, ratio⟩ | ⟨shift, -, same, ratio⟩
  · rw [ratio, ← Nat.pow_add, ← Nat.pow_zero 10] at lead
    have := exceeds lead
    omega
  · rw [ratio, Nat.mul_one] at lead
    have := exceeds lead
    omega

/-- A decimal up to the greatest finite number is read as a number up to it. -/
theorem toBinary64_within {numeral : Numeral} (small : numeral.digits * (powRatio 10 numeral.exponent).1 ≤
    greatest * (powRatio 10 numeral.exponent).2) : Within numeral.toBinary64 := by
  have positive := powRatio_pos (by decide : 0 < 10) numeral.exponent
  unfold Numeral.toBinary64
  split
  · exact finite_within _ (by decide) (by decide)
  · rename_i some
    extract_lets size
    split
    · rename_i beyond
      have few := lead_lt some greatest_lt_ten small
      rw [topPlaces] at few
      omega
    · split
      · exact finite_within _ (by decide) (by decide)
      · exact ofRatio_within _ positive.2 small

/-! ### Integers -/

theorem whole_ofNat (n : Nat) : IsWhole (ofNat n) := by
  refine ⟨⟨ofNat_ne_nil n, fun _ => ofNat_digits⟩, fun zero => ?_⟩
  rw [ofNat_head n zero]
  rfl

theorem signed_parts (n : Int) : Parts (if n < 0 then ['-'] else []) (ofNat n.natAbs) [] [] where
  isMinus := by
    split
    · exact .inr rfl
    · exact .inl rfl
  isWhole := whole_ofNat _
  isFraction := .inl rfl
  isPower := .inl rfl

theorem signed_number (n : Int) : IsNumber (signed n) :=
  number_parts.mpr ⟨_, _, _, _, by simp [signed], signed_parts n⟩

/-- Digits that don't start with a zero are all needed. -/
private theorem length_whole {whole : Text} (isWhole : IsWhole whole) :
    whole.length ≤ (ofNat (digitsValue whole)).length := by
  obtain ⟨⟨some, digits⟩, zero⟩ := isWhole
  obtain ⟨first, others, rfl⟩ := List.exists_cons_of_ne_nil some
  have positive (n : Nat) : 0 < (ofNat n).length := List.length_pos_iff.mpr (ofNat_ne_nil n)
  by_cases lead : first = '0'
  · rw [zero (by rw [lead]; rfl)]
    exact positive _
  · have digit := digit_bounds (digits first List.mem_cons_self)
    have above : 48 < first.toNat := by
      refine Nat.lt_of_le_of_ne digit.1 fun same => lead (Char.toNat_inj.mp same.symm)
    -- The first digit alone counts as much as the number of those behind it says.
    have value : 10 ^ others.length ≤ digitsValue (first :: others) := by
      rw [digitsValue_eq digits, Nat.ofDigitChars_cons, Nat.ofDigitChars_eq_ofDigitChars_zero]
      refine Nat.le_trans (Nat.le_mul_of_pos_right _ ?_) (Nat.le_add_right _ _)
      show 0 < 10 * 0 + (first.toNat - 48)
      omega
    by_contra shorter
    have filled := positive (digitsValue (first :: others))
    rw [List.length_cons] at shorter
    have few : digitsValue (first :: others) < 10 ^ others.length :=
      (length_ofNat_le (by omega)).mp (by omega)
    omega

/-- An integer that is read as a finite number has few digits. -/
theorem length_of_finite {minus whole : Text} (isWhole : IsWhole whole)
    (finite : (numeral minus whole [] []).toBinary64.isFinite = true) : whole.length ≤ 400 := by
  refine Nat.le_trans (length_whole isWhole) ?_
  have digits : (numeral minus whole [] []).digits = digitsValue whole := by
    rw [numeral, List.tail_nil, List.append_nil]
  have exponent : (numeral minus whole [] []).exponent = 0 := rfl
  unfold Numeral.toBinary64 at finite
  rw [digits, exponent] at finite
  split at finite
  · rename_i zero
    rw [zero]
    decide
  · extract_lets size at finite
    split at finite
    · cases finite
    · omega

/-- The sign and the digits of an integer are read as the number nearest to it. -/
theorem ofText_signed (n : Int) :
    Binary64.ofText? (signed n) = some (Numeral.toBinary64 ⟨decide (n < 0), n.natAbs, 0⟩) := by
  have read := ofText_number (signed_parts n)
  have same : numeral (if n < 0 then ['-'] else []) (ofNat n.natAbs) [] [] =
      ⟨decide (n < 0), n.natAbs, 0⟩ := by
    rw [numeral, List.tail_nil, List.append_nil, digitsValue_ofNat]
    congr 1
    by_cases negative : n < 0 <;> simp [negative]
  rw [same, List.append_nil, List.append_nil] at read
  exact read

/-- The number that a text is read as, if it is not too large. -/
theorem numberOf_within {number : Binary64} (read : Binary64.ofText? text = some number)
    (within : Within number) : Layout.numberOf? text = some number := by
  rw [Layout.numberOf?, read, Option.filter_some, if_pos within.isFinite]

theorem signed_within {n : Int} (small : n.natAbs ≤ greatest) :
    Within (Numeral.toBinary64 ⟨decide (n < 0), n.natAbs, 0⟩) := by
  have unit : powRatio 10 0 = (1, 1) := powRatio_natCast 10 0
  refine toBinary64_within ?_
  rw [unit, Nat.mul_one, Nat.mul_one]
  exact small

/-- An integer that is not too large is a finite number for the reader of numerals. -/
theorem numberOf_integer {n : Int} (small : n.natAbs < integerBound) :
    (Layout.numberOf? (signed n)).isSome = true := by
  have within := signed_within (Nat.le_trans small.le integerBound_le)
  rw [numberOf_within (ofText_signed n) within]
  rfl

end TableGate.DecimalReading
