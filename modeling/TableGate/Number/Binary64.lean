/-! Floating point numbers of 64 bits as exact values. A finite number is a mantissa below
2^53 times a power of two; rounding a quotient gives the nearest such number, and of two
nearest ones that with the even mantissa. No arithmetic of the processor is involved, so
every statement about these numbers is one about natural numbers. -/

namespace TableGate

/-- A floating point number; finite ones stand for `± mantissa * 2 ^ exponent`. -/
inductive Binary64 where
  | nan
  | infinite (negative : Bool)
  | finite (negative : Bool) (mantissa : Nat) (exponent : Int)
  deriving DecidableEq, Repr

/-- The quotient rounded to the nearest number, a half to the even one. -/
def roundDiv (num den : Nat) : Nat :=
  let quotient := num / den
  let rest := num % den
  if den < 2 * rest ∨ (2 * rest = den ∧ quotient % 2 = 1) then quotient + 1 else quotient

/-- A power with an integer exponent, as numerator and denominator. -/
def powRatio (base : Nat) (exponent : Int) : Nat × Nat :=
  if 0 ≤ exponent then (base.pow exponent.toNat, 1) else (1, base.pow (-exponent).toNat)

namespace Binary64

/-- The least exponent. -/
def minExponent : Int := -1074

/-- The greatest exponent. -/
def maxExponent : Int := 971

/-- The least mantissa of 53 bits. -/
def halfMantissa : Nat := Nat.pow 2 52

def zero (negative : Bool) : Binary64 := finite negative 0 minExponent

/-- The exponent at which a positive quotient has a mantissa of 53 bits. -/
def leadExponent (num den : Nat) : Int :=
  let exponent := (num.log2 : Int) - den.log2 - 52
  let (up, down) := powRatio 2 exponent
  if num * down < den * up * halfMantissa then exponent - 1 else exponent

/-- The nearest number to a quotient. -/
def ofRatio (negative : Bool) (num den : Nat) : Binary64 :=
  if num = 0 then zero negative
  else
    let exponent := max (leadExponent num den) minExponent
    let (up, down) := powRatio 2 exponent
    let mantissa := roundDiv (num * down) (den * up)
    let (mantissa, exponent) :=
      if mantissa = 2 * halfMantissa then (halfMantissa, exponent + 1) else (mantissa, exponent)
    if maxExponent < exponent then infinite negative else finite negative mantissa exponent

/-- The nearest number to an integer, unless it lies beyond the finite ones. -/
def ofInt? (n : Int) : Option Binary64 :=
  match ofRatio (n < 0) n.natAbs 1 with
  | finite negative mantissa exponent => some (finite negative mantissa exponent)
  | _ => none

def isFinite : Binary64 → Bool
  | finite _ _ _ => true
  | _ => false

def isZero : Binary64 → Bool
  | finite _ 0 _ => true
  | _ => false

/-- A finite number's integer value, if it is an integer. -/
def toInt? : Binary64 → Option Int
  | finite negative mantissa exponent =>
    let (up, down) := powRatio 2 exponent
    if mantissa * up % down = 0 then
      let n : Int := (mantissa * up / down : Nat)
      some (if negative then -n else n)
    else none
  | _ => none

end Binary64
end TableGate
