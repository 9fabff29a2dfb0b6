import TableGate.Fault
import TableGate.Text.Digit

/-! Integers as decimal texts. Conversions in both directions take a limited number of
digits and refuse more. -/

namespace TableGate.Integer
open ConversionProblem

/-- The digits of a natural number. -/
def textOfNat (n : Nat) : Except Fault Text :=
  let digits := Text.ofNat n
  if digits.length > digitLimit then .error (.conversion (.tooManyDigits none)) else .ok digits

/-- The sign and digits of an integer. -/
def text : Int → Except Fault Text
  | .ofNat n => textOfNat n
  | .negSucc n => (textOfNat (n + 1)).map ('-' :: ·)

/-- The number that decimal digits of any script write. -/
def ofDigits (digits : Text) : Except Fault Nat :=
  if digits.length > digitLimit then .error (.conversion (.tooManyDigits digits.length))
  else .ok (Text.digitsValue digits)

/-- A number with few digits prints. -/
theorem textOfNat_of_length_le {n : Nat} (h : (Text.ofNat n).length ≤ digitLimit) :
    textOfNat n = .ok (Text.ofNat n) := by
  simp [textOfNat, h]

theorem ofDigits_of_length_le {digits : Text} (h : digits.length ≤ digitLimit) :
    ofDigits digits = .ok (Text.digitsValue digits) := by
  simp [ofDigits, h]

end TableGate.Integer
