import Mathlib.Data.List.Chain
import TableGate.Proofs.Fallible
import TableGate.Proofs.TextFacts
import TableGate.Sql.Literal

/-! The spelling of numbers. Whatever the value, a number is an optional hyphen, digits around a
point, and an optional power of ten; no hyphen stands next to another one. -/
namespace TableGate.NumberText
open Fallible TextFacts

/-- Digits and points. -/
def IsMantissa (text : Text) : Prop := ∀ c ∈ text, c.isDigit = true ∨ c = '.'

/-- A power of ten with its sign, or nothing. -/
def IsPower (text : Text) : Prop :=
  text = [] ∨ ∃ sign digits, text = 'e' :: sign :: digits ∧ (sign = '+' ∨ sign = '-') ∧
    ∀ c ∈ digits, c.isDigit = true

/-- A number as it is spelled, with or without a sign. -/
def IsNumber (text : Text) : Prop :=
  ∃ minus mantissa power, text = minus ++ (mantissa ++ power) ∧ (minus = [] ∨ minus = ['-']) ∧
    IsMantissa mantissa ∧ IsPower power

variable {text : Text}

theorem ofNat_digits {n : Nat} {c : Char} (member : c ∈ Text.ofNat n) : c.isDigit = true :=
  Nat.isDigit_of_mem_toDigits (by decide) (by decide) member

theorem ofNatPadded_digits {width n : Nat} {c : Char} (member : c ∈ Text.ofNatPadded width n) :
    c.isDigit = true := by
  simp only [Text.ofNatPadded, List.mem_append, List.mem_replicate] at member
  rcases member with ⟨-, rfl⟩ | digit
  · decide
  · exact ofNat_digits digit

private theorem digits_mantissa (digits : ∀ c ∈ text, c.isDigit = true) : IsMantissa text :=
  fun c member => .inl (digits c member)

/-- An integer that prints has no point and no power. -/
theorem integer_spelled {n : Int} (printed : Integer.text n = .ok text) : IsNumber text := by
  have natural {n : Nat} {digits : Text} (printed : Integer.textOfNat n = .ok digits) :
      IsMantissa digits := by
    simp only [Integer.textOfNat] at printed
    split at printed
    · cases printed
    · cases printed
      exact digits_mantissa fun c => ofNat_digits
  cases n with
  | ofNat n => exact ⟨[], text, [], by simp, .inl rfl, natural printed, .inl rfl⟩
  | negSucc n =>
    obtain ⟨digits, magnitude, rfl⟩ := map_eq_ok.mp printed
    exact ⟨['-'], digits, [], by simp, .inr rfl, natural magnitude, .inl rfl⟩

private theorem positional_mantissa {digits : Text} (only : ∀ c ∈ digits, c.isDigit = true)
    (point : Int) : IsMantissa (Binary64.positional digits point) := by
  have zeros {count : Nat} {c : Char} (member : c ∈ List.replicate count '0') : c.isDigit = true := by
    rw [List.eq_of_mem_replicate member]
    decide
  intro c member
  unfold Binary64.positional at member
  split at member
  · simp only [List.mem_append] at member
    have lead : IsMantissa "0." := each_of_all (by decide)
    rcases member with (front | zero) | digit
    · exact lead c front
    · exact .inl (zeros zero)
    · exact .inl (only c digit)
  · split at member
    · simp only [List.mem_append] at member
      have trail : IsMantissa ".0" := each_of_all (by decide)
      rcases member with (digit | zero) | back
      · exact .inl (only c digit)
      · exact .inl (zeros zero)
      · exact trail c back
    · simp only [List.mem_append, List.mem_cons] at member
      rcases member with digit | rfl | digit
      · exact .inl (only c (List.mem_of_mem_take digit))
      · exact .inr rfl
      · exact .inl (only c (List.mem_of_mem_drop digit))

private theorem scientific_spelled {digits : Text} (only : ∀ c ∈ digits, c.isDigit = true)
    (power : Int) : ∃ mantissa rest, Binary64.scientific digits power = mantissa ++ rest ∧
      IsMantissa mantissa ∧ IsPower rest := by
  refine ⟨digits.take 1 ++ (if (digits.drop 1).isEmpty then [] else '.' :: digits.drop 1),
    'e' :: (if power < 0 then '-' else '+') :: Text.ofNatPadded 2 power.natAbs, rfl, ?_, ?_⟩
  · intro c member
    rcases List.mem_append.mp member with digit | rest
    · exact .inl (only c (List.mem_of_mem_take digit))
    · split at rest
      · cases rest
      · rcases List.mem_cons.mp rest with rfl | digit
        · exact .inr rfl
        · exact .inl (only c (List.mem_of_mem_drop digit))
  · refine .inr ⟨_, _, rfl, ?_, fun c => ofNatPadded_digits⟩
    split
    · exact .inr rfl
    · exact .inl rfl

theorem magnitude_spelled (mantissa : Nat) (exponent : Int) :
    ∃ front rest, Binary64.magnitudeText mantissa exponent = front ++ rest ∧
      IsMantissa front ∧ IsPower rest := by
  unfold Binary64.magnitudeText
  split
  · exact ⟨"0.0", [], rfl, each_of_all (by decide), .inl rfl⟩
  · dsimp only
    have only : ∀ c ∈ ((Text.ofNat (Binary64.shortest mantissa exponent).1).reverse.dropWhile
        (· == '0')).reverse, c.isDigit = true := by
      intro c member
      exact ofNat_digits (List.mem_reverse.mp
        ((List.dropWhile_sublist _).subset (List.mem_reverse.mp member)))
    split
    · exact ⟨_, [], (List.append_nil _).symm, positional_mantissa only _, .inl rfl⟩
    · exact scientific_spelled only _

/-- A finite number that prints is spelled as a number, integral or not. -/
theorem finite_spelled {number : Binary64} (finite : number.isFinite = true)
    (printed : Cell.finiteText number = .ok text) : IsNumber text := by
  unfold Cell.finiteText at printed
  split at printed
  · exact integer_spelled printed
  · cases printed
    cases number with
    | nan => cases finite
    | infinite negative => cases finite
    | finite negative mantissa exponent =>
      obtain ⟨front, rest, spelled, isFront, isRest⟩ := magnitude_spelled mantissa exponent
      exact ⟨if negative then ['-'] else [], front, rest, by rw [← spelled]; rfl,
        by cases negative <;> simp, isFront, isRest⟩

/-- Cells of every kind print in a number column as a number, if they print at all. -/
theorem cell_spelled {cell : Cell} (printed : cell.numberText = .ok text) : IsNumber text := by
  have digit (c : Char) (isDigit : c.isDigit = true) : IsNumber [c] :=
    ⟨[], [c], [], rfl, .inl rfl, digits_mantissa (by simpa using isDigit), .inl rfl⟩
  unfold Cell.numberText at printed
  split at printed
  · cases printed
    exact digit '1' (by decide)
  · cases printed
    exact digit '0' (by decide)
  · exact integer_spelled printed
  · split at printed
    · split at printed
      · exact finite_spelled (by assumption) printed
      · simp only [bind_eq_ok, reduceCtorEq, and_false, exists_false] at printed
    · simp only [bind_eq_ok, reduceCtorEq, and_false, exists_false] at printed

/-- The characters of a number. -/
theorem number_chars (number : IsNumber text) {c : Char} (member : c ∈ text) :
    c.isDigit = true ∨ c ∈ ['.', 'e', '+', '-'] := by
  obtain ⟨minus, mantissa, power, rfl, isMinus, isMantissa, isPower⟩ := number
  simp only [List.mem_append] at member
  rcases member with sign | digit | rest
  · rcases isMinus with rfl | rfl
    · cases sign
    · exact .inr (by simp [List.mem_singleton.mp sign])
  · exact (isMantissa c digit).imp id (by rintro rfl; decide)
  · rcases isPower with rfl | ⟨sign, digits, rfl, isSign, isDigits⟩
    · cases rest
    · simp only [List.mem_cons] at rest
      rcases rest with rfl | rfl | digit
      · exact .inr (by decide)
      · exact .inr (by rcases isSign with rfl | rfl <;> decide)
      · exact .inl (isDigits c digit)

/-- Of two neighbours at most one is a hyphen, so that no comment begins. -/
def HyphensApart (text : Text) : Prop := text.IsChain fun a b => ¬ (a = '-' ∧ b = '-')

theorem hyphens_apart_of_free (free : '-' ∉ text) : HyphensApart text := by
  induction text with
  | nil => exact .nil
  | cons c text ih =>
    simp only [List.mem_cons, not_or] at free
    exact (ih free.2).cons fun _ _ hyphens => free.1 hyphens.1.symm

private theorem digit_ne_hyphen {c : Char} (digit : c.isDigit = true) : c ≠ '-' := by
  rintro rfl
  exact absurd digit (by decide)

theorem number_hyphens_apart (number : IsNumber text) : HyphensApart text := by
  obtain ⟨minus, mantissa, power, rfl, isMinus, isMantissa, isPower⟩ := number
  have front : '-' ∉ mantissa := fun member =>
    (isMantissa _ member).elim (fun digit => digit_ne_hyphen digit rfl) (by decide)
  have magnitude : HyphensApart (mantissa ++ power) ∧ (mantissa ++ power).head? ≠ some '-' := by
    rcases isPower with rfl | ⟨sign, digits, rfl, -, isDigits⟩
    · rw [List.append_nil]
      exact ⟨hyphens_apart_of_free front, fun head => front (List.mem_of_head? head)⟩
    · have free : '-' ∉ digits := fun member => digit_ne_hyphen (isDigits _ member) rfl
      have behind : HyphensApart (sign :: digits) := (hyphens_apart_of_free free).cons
        fun c head hyphens => free (hyphens.2 ▸ List.mem_of_head? head)
      have rest : HyphensApart ('e' :: sign :: digits) :=
        behind.cons fun _ _ hyphens => absurd hyphens.1 (by decide)
      refine ⟨(hyphens_apart_of_free front).append rest fun a last b _ hyphens =>
        front (hyphens.1 ▸ List.mem_of_getLast? last), ?_⟩
      cases mantissa with
      | nil => simp
      | cons c mantissa => exact fun head => front (List.mem_of_head? head)
  rcases isMinus with rfl | rfl
  · exact magnitude.1
  · exact magnitude.1.cons fun c head hyphens => magnitude.2 (hyphens.2 ▸ head)

end TableGate.NumberText
