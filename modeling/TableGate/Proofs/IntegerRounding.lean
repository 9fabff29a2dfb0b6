import TableGate.Proofs.DecimalReading

/-! Integers as the nearest floating point numbers. A number with more than 53 bits is rounded to a
multiple of a power of two, so that every finite nearest number is an integer again; it is the same
integer for those that have no more than 53 bits in front of their zeros. -/
namespace TableGate.IntegerRounding
open DecimalReading FiniteRange

/-- An integer that is a finite floating point number. -/
def IsDouble (n : Nat) : Prop :=
  ∃ mantissa exponent, mantissa < 2 ^ 53 ∧ exponent ≤ 971 ∧ n = mantissa * 2 ^ exponent

/-- How many bits of an integer a mantissa of 53 bits leaves out. -/
def spare (n : Nat) : Nat := n.log2 - 52

/-- The floating point number next to an integer, whatever its size. -/
def nearest (n : Nat) : Nat := roundDiv n (2 ^ spare n) * 2 ^ spare n

/-- A magnitude with a sign in front of it. -/
def withSign (negative : Bool) (n : Nat) : Int := if negative then -n else n

variable {n : Nat}

/-! ### Places -/

private theorem roundDiv_exact {unit : Nat} (positive : 0 < unit) (count : Nat) :
    roundDiv (count * unit) unit = count := by
  rw [roundDiv, Nat.mul_mod_left, Nat.mul_div_cancel _ positive]
  simp
  omega

private theorem half_eq : Binary64.halfMantissa = 2 ^ 52 := rfl

/-- Where the unit of the last place of an integer stands: at its spare bits, or behind the point
for an integer that a mantissa has room for. -/
inductive Place (n : Nat) : Int → Nat → Nat → Prop where
  | whole (count : Nat) (size : n.log2 = 52 + count) : Place n count (2 ^ count) 1
  | part (shift : Nat) (positive : 0 < shift) (size : n.log2 + shift = 52) : Place n (-shift) 1 (2 ^ shift)

private theorem place_exists (n : Nat) : ∃ up down, Place n (n.log2 - 52) up down := by
  rcases Nat.lt_or_ge n.log2 52 with short | long
  · obtain ⟨shift, size⟩ := Nat.exists_eq_add_of_lt short
    have exponent : (n.log2 : Int) - 52 = -((shift + 1 : Nat) : Int) := by omega
    rw [exponent]
    exact ⟨1, _, .part (shift + 1) (by omega) (by omega)⟩
  · obtain ⟨count, size⟩ := Nat.exists_eq_add_of_le long
    have exponent : (n.log2 : Int) - 52 = (count : Int) := by omega
    rw [exponent]
    exact ⟨_, 1, .whole count size⟩

variable {exponent : Int} {up down : Nat} {negative : Bool}

private theorem place_ratio (place : Place n exponent up down) : powRatio 2 exponent = (up, down) := by
  cases place with
  | whole count => exact powRatio_natCast 2 count
  | part shift positive => exact powRatio_neg 2 positive

private theorem place_mantissa (place : Place n exponent up down) :
    2 ^ n.log2 * down = up * 2 ^ 52 := by
  cases place with
  | whole count size => rw [size, Nat.mul_one, Nat.pow_add, Nat.mul_comm]
  | part shift positive size => rw [← Nat.pow_add, size, Nat.one_mul]

private theorem roundDiv_place (place : Place n exponent up down) :
    roundDiv (n * down) (1 * up) * up = nearest n * down := by
  rw [Nat.one_mul, nearest, spare]
  cases place with
  | whole count size =>
    have count_eq : n.log2 - 52 = count := by omega
    rw [count_eq, Nat.mul_one, Nat.mul_one]
  | part shift positive size =>
    have none : n.log2 - 52 = 0 := by omega
    have left := roundDiv_exact Nat.one_pos (n * 2 ^ shift)
    have right := roundDiv_exact Nat.one_pos n
    rw [Nat.mul_one] at left right
    rw [none, Nat.pow_zero, left, right, Nat.mul_one, Nat.mul_one]

private theorem place_positive (place : Place n exponent up down) : 0 < down := by
  cases place with
  | whole => exact Nat.one_pos
  | part shift => exact Nat.two_pow_pos shift

private theorem toInt_place (place : Place n exponent up down) {mantissa value : Nat}
    (same : mantissa * up = value * down) :
    (Binary64.finite negative mantissa exponent).toInt? = some (withSign negative value) := by
  rw [Binary64.toInt?, place_ratio place]
  dsimp only
  rw [same, Nat.mul_mod_left, if_pos rfl, Nat.mul_div_cancel _ (place_positive place), withSign]

/-! ### Rounding -/

private theorem leadExponent_integer (some : n ≠ 0) :
    Binary64.leadExponent n 1 = (n.log2 : Int) - 52 := by
  obtain ⟨up, down, place⟩ := place_exists n
  have exponent : (n.log2 : Int) - (Nat.log2 1 : Nat) - 52 = n.log2 - 52 := by
    have one : Nat.log2 1 = 0 := by decide
    omega
  have long : up * 2 ^ 52 ≤ n * down := by
    rw [← place_mantissa place]
    exact Nat.mul_le_mul_right down (Nat.log2_self_le some)
  unfold Binary64.leadExponent
  dsimp only
  rw [exponent, place_ratio place]
  dsimp only
  rw [half_eq, Nat.one_mul, if_neg (Nat.not_lt.mpr long)]

/-- The mantissa of an integer before a carry, and its exponent. -/
private theorem ofRatio_integer (some : n ≠ 0) (place : Place n exponent up down)
    (lead : exponent = n.log2 - 52) :
    Binary64.ofRatio negative n 1 =
      if roundDiv (n * down) (1 * up) = 2 * Binary64.halfMantissa then
        if Binary64.maxExponent < exponent + 1 then .infinite negative
        else .finite negative Binary64.halfMantissa (exponent + 1)
      else
        if Binary64.maxExponent < exponent then .infinite negative
        else .finite negative (roundDiv (n * down) (1 * up)) exponent := by
  have above : max (Binary64.leadExponent n 1) Binary64.minExponent = exponent := by
    rw [leadExponent_integer some, Binary64.minExponent]
    omega
  rw [Binary64.ofRatio, if_neg some, above]
  dsimp only
  rw [place_ratio place]
  dsimp only
  split <;> rfl

private theorem nearest_exact (multiple : 2 ^ spare n ∣ n) : nearest n = n := by
  obtain ⟨count, shape⟩ := multiple
  have exact := roundDiv_exact (Nat.two_pow_pos (spare n)) count
  rw [Nat.mul_comm, ← shape] at exact
  rw [nearest, exact, Nat.mul_comm]
  exact shape.symm

theorem nearest_eq_iff : nearest n = n ↔ 2 ^ spare n ∣ n :=
  ⟨fun same => ⟨_, (same.symm.trans (Nat.mul_comm _ _))⟩, nearest_exact⟩

theorem isDouble_iff : IsDouble n ↔ 2 ^ spare n ∣ n ∧ spare n ≤ 971 := by
  constructor
  · rintro ⟨mantissa, exponent, small, bound, shape⟩
    by_cases zero : n = 0
    · subst zero
      exact ⟨Nat.dvd_zero _, by decide⟩
    · have below : n < 2 ^ (53 + exponent) := by
        rw [Nat.pow_add, shape]
        exact Nat.mul_lt_mul_of_pos_right small (Nat.two_pow_pos exponent)
      have log := (Nat.log2_lt zero).mpr below
      have within : spare n ≤ exponent := by
        rw [spare]
        omega
      refine ⟨?_, Nat.le_trans within bound⟩
      have divides := Nat.pow_dvd_pow 2 within
      rw [shape] at divides ⊢
      exact Nat.dvd_trans divides (Nat.dvd_mul_left _ _)
  · rintro ⟨multiple, bound⟩
    refine ⟨n / 2 ^ spare n, spare n, ?_, bound, (Nat.div_mul_cancel multiple).symm⟩
    rw [Nat.div_lt_iff_lt_mul (Nat.two_pow_pos _), ← Nat.pow_add]
    have log : n < 2 ^ (n.log2 + 1) := Nat.lt_log2_self
    refine Nat.lt_of_lt_of_le log (Nat.pow_le_pow_right Nat.two_pos ?_)
    rw [spare]
    omega

/-- An integer without spare bits has a mantissa that is not carried over. -/
private theorem not_carried (place : Place n exponent up down) (kept : nearest n = n) :
    roundDiv (n * down) (1 * up) ≠ 2 * Binary64.halfMantissa := by
  intro carried
  have same := roundDiv_place place
  have below : n * down < 2 ^ (n.log2 + 1) * down :=
    Nat.mul_lt_mul_of_pos_right Nat.lt_log2_self (place_positive place)
  rw [Nat.pow_succ, Nat.mul_right_comm, place_mantissa place] at below
  rw [carried, kept, half_eq] at same
  omega

/-- A mantissa that is carried over counts half as many units of twice the size. -/
private theorem toInt_carried (place : Place n exponent up down)
    (carried : roundDiv (n * down) (1 * up) = 2 * Binary64.halfMantissa) :
    (Binary64.finite negative Binary64.halfMantissa (exponent + 1)).toInt? =
      some (withSign negative (nearest n)) := by
  have same := roundDiv_place place
  rw [carried, half_eq] at same
  cases place with
  | whole count size =>
    have next : (count : Int) + 1 = ((count + 1 : Nat) : Int) := rfl
    have value : 2 ^ 52 * 2 ^ (count + 1) = nearest n := by
      rw [Nat.pow_succ 2 count]
      omega
    rw [Binary64.toInt?, next, powRatio_natCast]
    dsimp only
    rw [half_eq, value, Nat.mod_one, if_pos rfl, Nat.div_one, withSign]
  | part shift positive size =>
    refine absurd carried (not_carried (.part shift positive size) (nearest_exact ?_))
    have none : spare n = 0 := by
      rw [spare]
      omega
    rw [none]
    exact Nat.one_dvd n

/-- An integer becomes an infinity, or the integer next to it, with its sign. -/
private theorem ofRatio_nearest (some : n ≠ 0) (negative : Bool) :
    (Binary64.ofRatio negative n 1 = .infinite negative ∧ ¬ IsDouble n) ∨
      (Binary64.ofRatio negative n 1).toInt? = Option.some (withSign negative (nearest n)) ∧
        (nearest n = n → IsDouble n) := by
  obtain ⟨up, down, place⟩ := place_exists n
  rw [ofRatio_integer some place rfl]
  split
  · rename_i carried
    split
    · exact .inl ⟨rfl, fun double =>
        not_carried place (nearest_exact (isDouble_iff.mp double).1) carried⟩
    · exact .inr ⟨toInt_carried place carried, fun kept => absurd carried (not_carried place kept)⟩
  · split
    · rename_i beyond
      refine .inl ⟨rfl, fun double => ?_⟩
      have bound := (isDouble_iff.mp double).2
      rw [spare] at bound
      rw [Binary64.maxExponent] at beyond
      omega
    · rename_i within
      refine .inr ⟨toInt_place place (roundDiv_place place), fun kept => ?_⟩
      rw [Binary64.maxExponent] at within
      exact isDouble_iff.mpr ⟨nearest_eq_iff.mp kept, by rw [spare]; omega⟩

instance : DecidablePred IsDouble := fun _ => decidable_of_iff _ isDouble_iff.symm

theorem isFinite_of_toInt {number : Binary64} {value : Int} (whole : number.toInt? = some value) :
    number.isFinite = true := by
  cases number with
  | finite => rfl
  | _ => cases whole

/-! ### Reading -/

/-- No finite number is greater. -/
def doubleBound : Nat := 2 ^ 53 * 2 ^ 971

private theorem double_le (double : IsDouble n) : n ≤ doubleBound := by
  obtain ⟨mantissa, exponent, small, bound, shape⟩ := double
  have power (limit : Nat) (within : exponent ≤ limit) : 2 ^ exponent ≤ 2 ^ limit :=
    Nat.pow_le_pow_right Nat.two_pos within
  rw [shape]
  exact Nat.mul_le_mul (Nat.le_of_lt small) (power 971 bound)

theorem length_double (double : IsDouble n) : (Text.ofNat n).length ≤ 309 := by
  have range : doubleBound < 10 ^ 309 := by decide +kernel
  exact (length_ofNat_le (by decide)).mpr (Nat.lt_of_le_of_lt (double_le double) range)

/-- The numeral of an integer is read as an infinity, or as the integer next to it. -/
theorem toBinary64_nearest (negative : Bool) (n : Nat) :
    (Numeral.toBinary64 ⟨negative, n, 0⟩ = .infinite negative ∧ ¬ IsDouble n) ∨
      (Numeral.toBinary64 ⟨negative, n, 0⟩).toInt? = some (withSign negative (nearest n)) ∧
        (nearest n = n → IsDouble n) := by
  have unit : powRatio 10 0 = (1, 1) := by decide
  have long : IsDouble n → (Text.ofNat n).length ≤ 309 := length_double
  unfold Numeral.toBinary64
  dsimp only
  split
  · rename_i zero
    subst zero
    have least : Binary64.minExponent = -((1074 : Nat) : Int) := rfl
    have ratio := powRatio_neg 2 (by decide : 0 < 1074)
    refine .inr ⟨?_, fun _ => ⟨0, 0, by decide⟩⟩
    rw [Binary64.zero, least, Binary64.toInt?, ratio]
    dsimp only
    rw [Nat.zero_mul, Nat.zero_mod, if_pos rfl, Nat.zero_div]
    rfl
  · rename_i some
    split
    · exact .inl ⟨rfl, fun double => absurd (long double) (by omega)⟩
    · rw [if_neg (by omega), unit]
      dsimp only
      rw [Nat.mul_one]
      exact ofRatio_nearest some negative

private theorem withSign_injective {negative : Bool} {m : Nat}
    (same : withSign negative m = withSign negative n) : m = n := by
  unfold withSign at same
  split at same <;> omega

/-- The numeral of an integer is read as the integer exactly where it is a finite number. -/
theorem toBinary64_whole_iff (negative : Bool) (n : Nat) :
    (Numeral.toBinary64 ⟨negative, n, 0⟩).toInt? = some (withSign negative n) ↔ IsDouble n := by
  rcases toBinary64_nearest negative n with ⟨infinite, beyond⟩ | ⟨whole, kept⟩
  · rw [infinite]
    exact iff_of_false nofun beyond
  · rw [whole, Option.some.injEq]
    constructor
    · intro same
      exact kept (withSign_injective same)
    · intro double
      rw [nearest_exact (isDouble_iff.mp double).1]

end TableGate.IntegerRounding
