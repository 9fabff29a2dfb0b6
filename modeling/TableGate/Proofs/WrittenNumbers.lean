import TableGate.Column.Codec
import TableGate.Proofs.DecimalReading

/-! Numbers as they are written. Whatever the program writes of an integer or of a finite floating point
number is a number of JSON texts, and the readers take it for a finite number again: no decimal that is
written for a number lies beyond the greatest one. -/
namespace TableGate.WrittenNumbers
open Binary64 DecimalReading FiniteIntegers FiniteRange Text
open JsonGrammar (IsFraction IsNumber IsPower IsWhole)
open NumberText (ofNat_digits ofNatPadded_digits)

variable {text digits whole fraction power : Text} {mantissa n : Nat} {exponent : Int}

/-! ### Integers -/

theorem integer_number {n : Int} (printed : Integer.text n = .ok text) : IsNumber text := by
  obtain ⟨-, rfl⟩ := integer_text_eq_ok.mp printed
  exact signed_number n

/-! ### Digits around a point -/

/-- Digits that don't start with a zero, and that are there. -/
private structure Leading (digits : Text) : Prop where
  filled : digits ≠ []
  only : ∀ c ∈ digits, c.isDigit = true
  lead : digits.head? ≠ some '0'

private theorem zeros_digits (count : Nat) : ∀ c ∈ List.replicate count '0', c.isDigit = true := by
  intro c member
  rw [List.eq_of_mem_replicate member]
  rfl

/-- An unsigned number with its point behind the first digits or, filled up with zeros, in front of them. -/
private def IsMagnitude (point : Int) (text : Text) : Prop :=
  ∃ whole fraction power, text = whole ++ (fraction ++ power) ∧ Parts [] whole fraction power ∧
    whole.length + (Numeral.power? power).getD 0 ≤ max 1 point

private theorem positional_magnitude (leading : Leading digits) (point : Int) :
    IsMagnitude point (positional digits point) := by
  obtain ⟨filled, only, lead⟩ := leading
  unfold positional
  split_ifs with small long
  · refine ⟨['0'], '.' :: (List.replicate (-point).toNat '0' ++ digits), [], by simp,
      ⟨.inl rfl, whole_ofNat 0, .inr ⟨_, rfl, ?_, ?_⟩, .inl rfl⟩, ?_⟩
    · exact List.append_ne_nil_of_right_ne_nil _ filled
    · exact List.forall_mem_append.mpr ⟨zeros_digits _, only⟩
    · exact Int.le_max_left 1 point
  · have whole : IsWhole (digits ++ List.replicate (point.toNat - digits.length) '0') := by
      refine ⟨⟨List.append_ne_nil_of_left_ne_nil filled _,
        List.forall_mem_append.mpr ⟨only, zeros_digits _⟩⟩, fun zero => ?_⟩
      rw [List.head?_append_of_ne_nil _ filled] at zero
      exact absurd zero lead
    refine ⟨_, ".0", [], by simp, ⟨.inl rfl, whole, .inr ⟨['0'], rfl, (whole_ofNat 0).1⟩, .inl rfl⟩, ?_⟩
    rw [List.length_append, List.length_replicate, Numeral.power?, Option.getD_some]
    omega
  · have inside : 0 < point.toNat ∧ point.toNat < digits.length := by omega
    have whole : IsWhole (digits.take point.toNat) := by
      refine ⟨⟨?_, fun c member => only c (List.mem_of_mem_take member)⟩, fun zero => ?_⟩
      · intro none
        have size := congrArg List.length none
        rw [List.length_take, List.length_nil] at size
        omega
      · rw [List.head?_take, if_neg (by omega)] at zero
        exact absurd zero lead
    refine ⟨_, '.' :: digits.drop point.toNat, [], by simp,
      ⟨.inl rfl, whole, .inr ⟨_, rfl, ?_, ?_⟩, .inl rfl⟩, ?_⟩
    · intro none
      have size := congrArg List.length none
      rw [List.length_drop, List.length_nil] at size
      omega
    · exact fun c member => only c (List.mem_of_mem_drop member)
    · rw [List.length_take, Numeral.power?, Option.getD_some]
      omega

/-- A power of ten with its sign and at least two digits is read as it is. -/
private theorem power_read (power : Int) : Numeral.power? ('e' :: ([if power < 0 then '-' else '+'] ++
    ofNatPadded 2 power.natAbs)) = some power := by
  have digits : (ofNatPadded 2 power.natAbs).all Char.isDigit = true :=
    List.all_eq_true.mpr fun _ => ofNatPadded_digits
  have filled : (ofNatPadded 2 power.natAbs).isEmpty = false := by
    simp [ofNatPadded, ofNat_ne_nil]
  have value := digitsValue_ofNatPadded 2 power.natAbs
  unfold Numeral.power?
  by_cases negative : power < 0
  · simp only [negative, ↓reduceIte, List.cons_append, List.nil_append, Numeral.sign, digits, filled, value,
      true_or, Bool.not_false, Bool.and_self, Option.some.injEq]
    omega
  · simp only [negative, ↓reduceIte, List.cons_append, List.nil_append, Numeral.sign, digits, filled, value,
      true_or, Bool.not_false, Bool.and_self, Option.some.injEq, Bool.false_eq_true]
    omega

private theorem scientific_magnitude (leading : Leading digits) (point : Int) :
    IsMagnitude point (scientific digits (point - 1)) := by
  obtain ⟨filled, only, lead⟩ := leading
  obtain ⟨first, tail, rfl⟩ := List.exists_cons_of_ne_nil filled
  obtain ⟨digit, others⟩ := List.forall_mem_cons.mp only
  refine ⟨[first], if tail.isEmpty then [] else '.' :: tail,
    'e' :: ([if point - 1 < 0 then '-' else '+'] ++ ofNatPadded 2 (point - 1).natAbs), ?_,
    ⟨.inl rfl, ?_, ?_, ?_⟩, ?_⟩
  · simp [scientific]
  · refine ⟨⟨List.cons_ne_nil _ _, List.forall_mem_singleton.mpr digit⟩, fun zero => absurd zero lead⟩
  · cases tail with
    | nil => exact .inl rfl
    | cons c tail => exact .inr ⟨_, rfl, List.cons_ne_nil _ _, others⟩
  · refine .inr ⟨'e', _, _, rfl, .inl rfl, ?_, ?_, fun c => ofNatPadded_digits⟩
    · split
      · exact .inr (.inr rfl)
      · exact .inr (.inl rfl)
    · exact List.append_ne_nil_of_right_ne_nil _ (ofNat_ne_nil _)
  · rw [power_read, List.length_singleton, Option.getD_some]
    omega

/-! ### Decimals that read back -/

/-- Zero doesn't read back as another number. -/
private theorem readsBack_positive {power : Int} (some : mantissa ≠ 0)
    (reads : readsBack mantissa exponent n power = true) : n ≠ 0 := by
  rintro rfl
  obtain ⟨up, -⟩ := powRatio_pos (by decide : 0 < 2) (exponent - 2)
  obtain ⟨-, down⟩ := powRatio_pos (by decide : 0 < 10) power
  have scale := Nat.mul_pos up down
  unfold readsBack at reads
  simp only [Nat.zero_mul] at reads
  have low : 0 < (if mantissa = halfMantissa ∧ minExponent < exponent then 4 * mantissa - 1
      else 4 * mantissa - 2) := by
    split <;> omega
  have above := Nat.mul_pos low scale
  split at reads
  · simp only [Bool.and_eq_true, decide_eq_true_eq] at reads
    omega
  · simp only [Bool.and_eq_true, decide_eq_true_eq] at reads
    omega

/-- A decimal that reads back is at most half a unit of the last place above the number. -/
private theorem readsBack_le {power : Int} (reads : readsBack mantissa exponent n power = true) :
    n * (powRatio 10 power).1 * (powRatio 2 (exponent - 2)).2 ≤
      (4 * mantissa + 2) * ((powRatio 2 (exponent - 2)).1 * (powRatio 10 power).2) := by
  unfold readsBack at reads
  dsimp only at reads
  split at reads
  · exact of_decide_eq_true (Bool.and_eq_true_iff.mp reads).2
  · exact (of_decide_eq_true (Bool.and_eq_true_iff.mp reads).2 : _ < _).le

private theorem decimalWith_reads {count : Nat} {lead power : Int}
    (found : decimalWith? mantissa exponent lead count = .some (n, power)) :
    readsBack mantissa exponent n power = true := by
  unfold decimalWith? at found
  dsimp only at found
  split at found
  · rename_i low high
    split at found
    · cases found
      exact low
    · cases found
      exact high
  · rename_i low _
    cases found
    exact low
  · rename_i _ high
    cases found
    exact high
  · cases found

/-- The shortest decimal of a magnitude reads back, or no number of digits up to seventeen does and the
whole part stands for the magnitude. -/
private theorem shortest_cases (mantissa : Nat) (exponent : Int) :
    readsBack mantissa exponent (shortest mantissa exponent).1 (shortest mantissa exponent).2 = true ∨
      shortest mantissa exponent = ((ratio mantissa exponent).1 / (ratio mantissa exponent).2, 0) := by
  unfold shortest
  dsimp only
  cases found : (List.range' 1 17).findSome? (decimalWith? mantissa exponent
      (decimalExponent (ratio mantissa exponent).1 (ratio mantissa exponent).2)) with
  | none => exact .inr rfl
  | some decimal =>
    obtain ⟨count, -, reads⟩ := List.exists_of_findSome?_eq_some found
    exact .inl (decimalWith_reads reads)

/-- Without the zeros at its end a positive number has the same first digit. -/
private theorem stripped_leading (positive : n ≠ 0) :
    Leading ((ofNat n).reverse.dropWhile (· == '0')).reverse := by
  have split := List.takeWhile_append_dropWhile (p := (· == '0')) (l := (ofNat n).reverse)
  have whole : ((ofNat n).reverse.dropWhile (· == '0')).reverse ++
      ((ofNat n).reverse.takeWhile (· == '0')).reverse = ofNat n := by
    rw [← List.reverse_append, split, List.reverse_reverse]
  have lead : (ofNat n).head? ≠ some '0' := fun zero => positive (ofNat_head n zero)
  have filled : ((ofNat n).reverse.dropWhile (· == '0')).reverse ≠ [] := by
    intro none
    rw [none, List.nil_append] at whole
    obtain ⟨first, others, shape⟩ := List.exists_cons_of_ne_nil (ofNat_ne_nil n)
    have zero : first ∈ (ofNat n).reverse.takeWhile (· == '0') := by
      rw [← List.mem_reverse, whole, shape]
      exact List.mem_cons_self
    have same : first = '0' := eq_of_beq (List.mem_takeWhile_imp (p := (· == '0')) zero)
    rw [shape, same] at lead
    exact lead rfl
  refine ⟨filled, fun c member => ?_, ?_⟩
  · have among : c ∈ ofNat n := by
      rw [← whole]
      exact List.mem_append_left _ member
    exact ofNat_digits among
  · rwa [← List.head?_append_of_ne_nil _ filled, whole]

/-- Where the point of the shortest decimal stands: behind so many of its digits. -/
private def shortestPoint (mantissa : Nat) (exponent : Int) : Int :=
  (ofNat (shortest mantissa exponent).1).length + (shortest mantissa exponent).2

private theorem magnitudeText_magnitude (mantissa : Nat) (exponent : Int) :
    IsMagnitude (shortestPoint mantissa exponent) (magnitudeText mantissa exponent) := by
  have zero (point : Int) : IsMagnitude point "0.0" :=
    ⟨['0'], ['.', '0'], [], rfl, ⟨.inl rfl, whole_ofNat 0, .inr ⟨_, rfl, (whole_ofNat 0).1⟩, .inl rfl⟩,
      Int.le_max_left 1 point⟩
  unfold magnitudeText
  split_ifs with none
  · exact zero _
  · dsimp only
    by_cases nothing : shortest mantissa exponent = (0, 0)
    · rw [nothing]
      exact zero _
    · have positive : (shortest mantissa exponent).1 ≠ 0 := by
        rcases shortest_cases mantissa exponent with reads | whole
        · exact readsBack_positive none reads
        · rw [whole] at nothing ⊢
          exact fun zero => nothing (Prod.ext zero rfl)
      have leading := stripped_leading positive
      split
      · exact positional_magnitude leading _
      · exact scientific_magnitude leading _

theorem float_number {number : Binary64} (finite : number.isFinite = true) : IsNumber number.text := by
  cases number with
  | nan => cases finite
  | infinite negative => cases finite
  | finite negative mantissa exponent =>
    obtain ⟨whole, fraction, power, same, parts, -⟩ := magnitudeText_magnitude mantissa exponent
    exact number_parts.mpr ⟨_, _, _, _, congrArg _ same, parts.signed negative⟩

/-! ### A fixed number of places -/

/-- A number in units of its last place. -/
private def units (places mantissa : Nat) (exponent : Int) : Nat :=
  roundDiv ((ratio mantissa exponent).1 * 10 ^ places) (ratio mantissa exponent).2

/-- The digits of a number of units in front of the point. -/
private def front (places n : Nat) : Text :=
  (ofNatPadded (places + 1) n).take ((ofNatPadded (places + 1) n).length - places)

/-- The point with the digits behind it. -/
private def back (places n : Nat) : Text :=
  if places = 0 then []
  else '.' :: (ofNatPadded (places + 1) n).drop ((ofNatPadded (places + 1) n).length - places)

private theorem fixed_eq (places : Nat) (negative : Bool) (mantissa : Nat) (exponent : Int) :
    fixed places (.finite negative mantissa exponent) = (if negative then ['-'] else []) ++
      (front places (units places mantissa exponent) ++
        (back places (units places mantissa exponent) ++ [])) := by
  rw [List.append_nil, ← List.append_assoc]
  rfl

private theorem length_padded (places n : Nat) : places < (ofNatPadded (places + 1) n).length := by
  simp only [ofNatPadded, List.length_append, List.length_replicate]
  omega

/-- There is a digit in front of the point, and no zero in front of that. -/
private theorem front_whole (places n : Nat) : IsWhole (front places n) := by
  unfold front
  by_cases short : (ofNat n).length ≤ places
  · have one : (ofNatPadded (places + 1) n).take ((ofNatPadded (places + 1) n).length - places) = ['0'] := by
      have padding : places + 1 - (ofNat n).length = places - (ofNat n).length + 1 := by omega
      have size : (ofNatPadded (places + 1) n).length - places = 1 := by
        simp only [ofNatPadded, List.length_append, List.length_replicate]
        omega
      rw [size, ofNatPadded, padding, List.replicate_succ]
      rfl
    rw [one]
    exact whole_ofNat 0
  · have all : ofNatPadded (places + 1) n = ofNat n := by
      rw [ofNatPadded, Nat.sub_eq_zero_of_le (by omega)]
      rfl
    rw [all]
    refine ⟨⟨?_, fun c member => ofNat_digits (List.mem_of_mem_take member)⟩, fun zero => ?_⟩
    · intro none
      have size := congrArg List.length none
      rw [List.length_take, List.length_nil] at size
      omega
    · rw [List.head?_take, if_neg (by omega)] at zero
      rw [ofNat_head n zero] at short ⊢
      have none : places = 0 := Nat.lt_one_iff.mp (Nat.not_le.mp short)
      rw [none]
      rfl

private theorem fixed_parts (places n : Nat) : Parts [] (front places n) (back places n) [] where
  isMinus := .inl rfl
  isWhole := front_whole places n
  isFraction := by
    unfold back
    split_ifs with none
    · exact .inl rfl
    · refine .inr ⟨_, rfl, ?_, fun c member => ofNatPadded_digits (List.mem_of_mem_drop member)⟩
      have size := length_padded places n
      exact List.ne_nil_of_length_pos (by rw [List.length_drop]; omega)
  isPower := .inl rfl

theorem fixed_number {number : Binary64} (finite : number.isFinite = true) (places : Nat) :
    IsNumber (number.fixed places) := by
  cases number with
  | nan => cases finite
  | infinite negative => cases finite
  | finite negative mantissa exponent =>
    exact number_parts.mpr ⟨_, _, _, _, fixed_eq .., (fixed_parts places _).signed negative⟩

/-! ### Numbers up to the greatest one -/

/-- A text that is read as a finite number. -/
def ReadsFinite (text : Text) : Prop := ∃ number, Layout.numberOf? text = some number ∧ Within number

private theorem digitsValue_lt (are : ∀ c ∈ digits, c.isDigit = true) :
    digitsValue digits < 10 ^ digits.length := by
  rw [digitsValue_eq are]
  induction digits with
  | nil => exact Nat.one_pos
  | cons c digits ih =>
    obtain ⟨first, others⟩ := List.forall_mem_cons.mp are
    have rest := ih others
    have bounds := digit_bounds first
    rw [Nat.ofDigitChars_cons, Nat.ofDigitChars_eq_ofDigitChars_zero, List.length_cons, Nat.pow_succ]
    have lead : 10 ^ digits.length * (10 * 0 + (c.toNat - '0'.toNat)) ≤ 10 ^ digits.length * 9 :=
      Nat.mul_le_mul_left _ (by have : '0'.toNat = 48 := rfl; omega)
    omega

/-- The number of places of the integers that are finite in any case. -/
private def integerPlaces : Nat := 308

/-- A number with few digits in front of its point is read as a finite one. -/
private theorem parts_within {minus : Text} (parts : Parts minus whole fraction power)
    (few : whole.length + (Numeral.power? power).getD 0 ≤ integerPlaces) :
    Within (numeral minus whole fraction power).toBinary64 := by
  have digits : ∀ c ∈ whole ++ fraction.tail, c.isDigit = true := by
    refine List.forall_mem_append.mpr ⟨parts.isWhole.1.2, ?_⟩
    rcases parts.isFraction with rfl | ⟨digits, rfl, -, are⟩
    · exact List.forall_mem_nil _
    · exact are
  have below := (digitsValue_lt digits).le
  have range : 10 ^ integerPlaces ≤ greatest := by decide +kernel
  rw [List.length_append] at below
  refine toBinary64_within ?_
  unfold numeral
  dsimp only
  rcases powRatio_cases 10 ((Numeral.power? power).getD 0 - fraction.tail.length) with
    ⟨count, same, ratio⟩ | ⟨shift, -, same, ratio⟩
  · rw [ratio, Nat.mul_one]
    calc digitsValue (whole ++ fraction.tail) * 10 ^ count
        ≤ 10 ^ (whole.length + fraction.tail.length) * 10 ^ count := Nat.mul_le_mul_right _ below
      _ = 10 ^ (whole.length + fraction.tail.length + count) := (Nat.pow_add ..).symm
      _ ≤ 10 ^ integerPlaces := Nat.pow_le_pow_right (by decide) (by omega)
      _ ≤ greatest := range
  · rw [ratio, Nat.mul_one]
    calc digitsValue (whole ++ fraction.tail) ≤ 10 ^ (whole.length + fraction.tail.length) := below
      _ ≤ 10 ^ (integerPlaces + shift) := Nat.pow_le_pow_right (by decide) (by omega)
      _ = 10 ^ integerPlaces * 10 ^ shift := Nat.pow_add ..
      _ ≤ greatest * 10 ^ shift := Nat.mul_le_mul_right _ range

private theorem front_back (places n : Nat) :
    front places n ++ (back places n).tail = ofNatPadded (places + 1) n := by
  unfold front back
  split_ifs with none
  · rw [none, Nat.sub_zero, List.take_length, List.tail_nil, List.append_nil]
  · rw [List.tail_cons, List.take_append_drop]

private theorem length_back (places n : Nat) : (back places n).tail.length = places := by
  have size := length_padded places n
  unfold back
  split_ifs with none
  · rw [none, List.tail_nil, List.length_nil]
  · rw [List.tail_cons, List.length_drop]
    omega

private theorem powRatio_places (places : Nat) : powRatio 10 (0 - places) = (1, 10 ^ places) := by
  rw [Int.zero_sub]
  rcases Nat.eq_zero_or_pos places with rfl | positive
  · rfl
  · exact powRatio_neg 10 positive

private theorem units_le (within : mantissa * (powRatio 2 exponent).1 ≤ greatest * (powRatio 2 exponent).2)
    (places : Nat) : units places mantissa exponent ≤ greatest * 10 ^ places := by
  refine roundDiv_le ?_
  calc mantissa * (powRatio 2 exponent).1 * 10 ^ places
      ≤ greatest * (powRatio 2 exponent).2 * 10 ^ places := Nat.mul_le_mul_right _ within
    _ = greatest * 10 ^ places * (powRatio 2 exponent).2 := Nat.mul_right_comm ..

/-- A finite number is finite with a fixed number of places, too. -/
theorem fixed_finite {number : Binary64} (within : Within number) (places : Nat) :
    ReadsFinite (number.fixed places) := by
  cases number with
  | nan => cases within
  | infinite negative => cases within
  | finite negative mantissa exponent =>
    have read := ofText_number ((fixed_parts places (units places mantissa exponent)).signed negative)
    rw [← fixed_eq] at read
    have back : Within (numeral (if negative then ['-'] else []) (front places (units places mantissa exponent))
        (back places (units places mantissa exponent)) []).toBinary64 := by
      refine toBinary64_within ?_
      unfold numeral
      dsimp only
      rw [front_back, length_back, digitsValue_ofNatPadded, Numeral.power?, Option.getD_some, powRatio_places,
        Nat.mul_one]
      exact units_le (within_iff.mp within) places
    exact ⟨_, numberOf_within read back, back⟩

/-- The finite numbers that there are. -/
def Representable : Binary64 → Prop
  | .finite _ mantissa exponent => mantissa < 2 ^ 53 ∧ exponent ≤ maxExponent
  | _ => False

theorem integer_finite {n : Int} (small : n.natAbs ≤ greatest) : ReadsFinite (signed n) :=
  ⟨_, numberOf_within (ofText_signed n) (signed_within small), signed_within small⟩

/-- A number with a fraction has few digits in front of its point. -/
private theorem shortestPoint_le (some : mantissa ≠ 0) (small : mantissa < 2 ^ 53) {shift : Nat}
    (part : 0 < shift) : shortestPoint mantissa (-shift) ≤ 17 := by
  unfold shortestPoint
  -- What reads back is at most half a unit of the last place above the number, which is less than one here.
  rcases shortest_cases mantissa (-shift) with reads | whole
  · have unit : powRatio 2 (-(shift : Int) - 2) = (1, 2 ^ (shift + 2)) := by
      have same : -(shift : Int) - 2 = -((shift + 2 : Nat) : Int) := by omega
      rw [same, powRatio_neg 2 (by omega)]
    have above := readsBack_le reads
    rw [unit, Nat.one_mul] at above
    have below : 4 * mantissa + 2 < 10 ^ 17 := by omega
    exact lead_lt (readsBack_positive some reads) below
      (Nat.le_trans (Nat.le_mul_of_pos_right _ (Nat.two_pow_pos _)) above)
  · have integral : (ratio mantissa (-shift)).1 / (ratio mantissa (-shift)).2 ≤ mantissa := by
      rw [ratio, powRatio_neg 2 part]
      exact Nat.le_trans (Nat.div_le_self _ _) (Nat.mul_one mantissa).le
    have few := (length_ofNat_le (by decide : 0 < 17)).mpr (by omega :
      (ratio mantissa (-shift)).1 / (ratio mantissa (-shift)).2 < 10 ^ 17)
    rw [whole]
    dsimp only
    omega

/-- A number with a fraction is read as a finite one. -/
private theorem fraction_finite {number : Binary64} (representable : Representable number)
    (part : number.toInt? = none) : ReadsFinite number.text := by
  cases number with
  | nan => cases representable
  | infinite negative => cases representable
  | finite negative mantissa exponent =>
    have some : mantissa ≠ 0 := by
      rintro rfl
      simp [toInt?] at part
    have few : shortestPoint mantissa exponent ≤ 17 := by
      rcases powRatio_cases 2 exponent with ⟨count, -, ratio⟩ | ⟨shift, positive, rfl, -⟩
      · simp [toInt?, ratio, Nat.mod_one] at part
      · exact shortestPoint_le some representable.1 positive
    obtain ⟨whole, fraction, power, same, parts, bound⟩ := magnitudeText_magnitude mantissa exponent
    have signed := parts.signed negative
    have within : Within (numeral (if negative then ['-'] else []) whole fraction power).toBinary64 := by
      refine parts_within signed ?_
      unfold integerPlaces
      omega
    have text : (Binary64.finite negative mantissa exponent).text =
        (if negative then ['-'] else []) ++ (whole ++ (fraction ++ power)) := congrArg _ same
    exact ⟨_, numberOf_within (text ▸ ofText_number signed) within, within⟩

/-- An integer that is a finite number is at most the greatest one. -/
private theorem toInt_le {number : Binary64} {n : Int} (within : Within number)
    (integral : number.toInt? = some n) : n.natAbs ≤ greatest := by
  cases number with
  | nan => cases integral
  | infinite negative => cases integral
  | finite negative mantissa exponent =>
    have scaled := within_iff.mp within
    rw [Nat.mul_comm greatest] at scaled
    have quotient := Nat.div_le_of_le_mul scaled
    unfold toInt? at integral
    dsimp only at integral
    split at integral
    · generalize mantissa * (powRatio 2 exponent).1 / (powRatio 2 exponent).2 = size at quotient integral
      cases integral
      cases negative <;> simpa using quotient
    · cases integral

/-- A finite number is written, and it is read as a finite one. -/
theorem float_finite {number : Binary64} (representable : Representable number) :
    ∃ text, Column.numberText (.float number) = .ok text ∧ IsNumber text ∧ ReadsFinite text := by
  have within : Within number := by
    cases number with
    | nan => cases representable
    | infinite negative => cases representable
    | finite negative mantissa exponent => exact finite_within negative representable.1 representable.2
  unfold Column.numberText
  dsimp only
  cases integral : number.toInt? with
  | none => exact ⟨_, rfl, float_number within.isFinite, fraction_finite representable integral⟩
  | some n =>
    have small := toInt_le within integral
    have printed : Integer.text n = .ok (signed n) :=
      integer_text_eq_ok.mpr ⟨Nat.le_trans (length_of_le small) (by decide), rfl⟩
    exact ⟨_, printed, integer_number printed, integer_finite small⟩

end TableGate.WrittenNumbers
