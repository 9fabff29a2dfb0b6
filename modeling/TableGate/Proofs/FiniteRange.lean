import Mathlib.Algebra.Order.Ring.Nat
import TableGate.Number.Binary64

/-! Quotients up to the greatest finite number. Rounding is monotonic, so that such a quotient is rounded to a
number up to the greatest one, even where its mantissa overflows into the next exponent. -/
namespace TableGate.FiniteRange

/-- The exponent of the greatest finite number. -/
def topExponent : Nat := Binary64.maxExponent.toNat

/-- The greatest finite number. -/
def greatest : Nat := (2 ^ 53 - 1) * 2 ^ topExponent

/-- A finite number up to the greatest one. -/
def Within : Binary64 → Prop
  | .finite _ mantissa exponent => mantissa * (powRatio 2 exponent).1 ≤ greatest * (powRatio 2 exponent).2
  | _ => False

variable {num den base : Nat} {exponent : Int} {number : Binary64}

theorem within_iff {negative : Bool} {mantissa : Nat} : Within (.finite negative mantissa exponent) ↔
    mantissa * (powRatio 2 exponent).1 ≤ greatest * (powRatio 2 exponent).2 := Iff.rfl

theorem Within.isFinite (within : Within number) : number.isFinite = true := by
  cases number with
  | finite => rfl
  | _ => cases within

theorem powRatio_natCast (base count : Nat) : powRatio base count = (base ^ count, 1) := by
  rw [powRatio, if_pos (Int.natCast_nonneg count)]
  rfl

theorem powRatio_neg (base : Nat) {shift : Nat} (positive : 0 < shift) :
    powRatio base (-(shift : Int)) = (1, base ^ shift) := by
  rw [powRatio, if_neg (by omega), Int.neg_neg]
  rfl

/-- A power counts units, or a unit counts its inverse. -/
theorem powRatio_cases (base : Nat) (exponent : Int) :
    (∃ count : Nat, exponent = count ∧ powRatio base exponent = (base ^ count, 1)) ∨
      ∃ shift : Nat, 0 < shift ∧ exponent = -shift ∧ powRatio base exponent = (1, base ^ shift) := by
  rcases Int.lt_or_le exponent 0 with negative | natural
  · obtain ⟨shift, rfl⟩ := Int.exists_eq_neg_ofNat negative.le
    have positive : 0 < shift := by omega
    exact .inr ⟨shift, positive, rfl, powRatio_neg base positive⟩
  · obtain ⟨count, rfl⟩ := Int.eq_ofNat_of_zero_le natural
    exact .inl ⟨count, rfl, powRatio_natCast base count⟩

theorem powRatio_pos (positive : 0 < base) (exponent : Int) :
    0 < (powRatio base exponent).1 ∧ 0 < (powRatio base exponent).2 := by
  unfold powRatio
  split
  · exact ⟨Nat.pow_pos positive, Nat.one_pos⟩
  · exact ⟨Nat.one_pos, Nat.pow_pos positive⟩

/-- A quotient is not rounded beyond an integer that it doesn't exceed. -/
theorem roundDiv_le {limit : Nat} (small : num ≤ limit * den) : roundDiv num den ≤ limit := by
  have whole := Nat.div_add_mod num den
  unfold roundDiv
  dsimp only
  split
  · rename_i upward
    have rest : 0 < num % den := by
      rcases Nat.eq_zero_or_pos den with zero | positive
      · subst zero
        simp at small
        simp [small] at upward
      · omega
    have below : den * (num / den) < den * limit := by
      rw [Nat.mul_comm den limit]
      omega
    exact Nat.lt_of_mul_lt_mul_left below
  · exact Nat.div_le_of_le_mul (by rwa [Nat.mul_comm])

private theorem top_eq : (topExponent : Int) = Binary64.maxExponent := rfl

/-- Beyond all finite numbers. -/
private def ceiling : Nat := 2 ^ (53 + topExponent)

private theorem greatest_lt : greatest < ceiling := by
  have below : 2 ^ 53 - 1 < 2 ^ 53 := by decide
  have unit : 0 < 2 ^ topExponent := Nat.two_pow_pos _
  -- The power is made a variable, so that nobody evaluates it.
  unfold greatest ceiling
  rw [Nat.pow_add]
  generalize 2 ^ topExponent = power at unit ⊢
  exact Nat.mul_lt_mul_of_pos_right below unit

/-- The exponent of a quotient up to the greatest number is one of those of finite numbers. -/
private theorem lead_le (some : num ≠ 0) (positive : 0 < den) (small : num ≤ greatest * den) :
    Binary64.leadExponent num den ≤ Binary64.maxExponent := by
  have below : num < den * ceiling := by
    rw [Nat.mul_comm]
    exact Nat.lt_of_le_of_lt small (Nat.mul_lt_mul_of_pos_right greatest_lt positive)
  have within (count : Nat) (above : den * 2 ^ count ≤ num) : count < 53 + topExponent := by
    by_contra large
    have power : ceiling ≤ 2 ^ count := Nat.pow_le_pow_right Nat.two_pos (Nat.not_lt.mp large)
    have scaled := Nat.mul_le_mul_left den power
    omega
  rw [← top_eq]
  unfold Binary64.leadExponent
  dsimp only
  split
  · -- The first digits of the quotient don't reach the mantissa; the logarithms alone tell its size.
    by_contra beyond
    have size : den < 2 ^ (den.log2 + 1) := Nat.lt_log2_self
    have above : den * 2 ^ (num.log2 - (den.log2 + 1)) ≤ num :=
      calc den * 2 ^ (num.log2 - (den.log2 + 1))
          ≤ 2 ^ (den.log2 + 1) * 2 ^ (num.log2 - (den.log2 + 1)) := Nat.mul_le_mul_right _ size.le
        _ = 2 ^ num.log2 := by rw [← Nat.pow_add]; congr 1; omega
        _ ≤ num := Nat.log2_self_le some
    have := within _ above
    omega
  · rename_i reached
    by_contra beyond
    obtain ⟨count, size⟩ := Int.eq_ofNat_of_zero_le (by omega : 0 ≤ (num.log2 : Int) - den.log2 - 52)
    rw [size, powRatio_natCast] at reached
    have above : den * 2 ^ (count + 52) ≤ num := by
      rw [Nat.pow_add, ← Nat.mul_assoc]
      simpa [Binary64.halfMantissa] using reached
    have := within _ above
    omega

/-- The greatest number is a multiple of each unit of a last place. -/
private theorem unit_divides (last : exponent ≤ Binary64.maxExponent) :
    ∃ count, count * (powRatio 2 exponent).1 = greatest * (powRatio 2 exponent).2 := by
  rcases powRatio_cases 2 exponent with ⟨count, rfl, ratio⟩ | ⟨shift, -, -, ratio⟩
  · have within : count ≤ topExponent := by
      rw [← top_eq] at last
      exact Int.ofNat_le.mp last
    refine ⟨(2 ^ 53 - 1) * 2 ^ (topExponent - count), ?_⟩
    rw [ratio, Nat.mul_assoc, ← Nat.pow_add, Nat.sub_add_cancel within, Nat.mul_one, greatest]
  · rw [ratio]
    exact ⟨greatest * 2 ^ shift, Nat.mul_one _⟩

/-- At the last exponent the mantissa doesn't overflow. -/
private theorem carry_beyond : ¬ 2 * Binary64.halfMantissa * (powRatio 2 Binary64.maxExponent).1 ≤
    greatest * (powRatio 2 Binary64.maxExponent).2 := by
  have unit : 0 < 2 ^ topExponent := Nat.two_pow_pos _
  rw [← top_eq, powRatio_natCast]
  unfold greatest
  generalize 2 ^ topExponent = power at unit ⊢
  intro within
  rw [Nat.mul_one] at within
  exact absurd (Nat.le_of_mul_le_mul_right within unit) (by decide)

/-- The mantissa of a quotient up to the greatest number gives a number up to it. -/
private theorem rounded_within (last : exponent ≤ Binary64.maxExponent) (small : num ≤ greatest * den) :
    roundDiv (num * (powRatio 2 exponent).2) (den * (powRatio 2 exponent).1) * (powRatio 2 exponent).1 ≤
      greatest * (powRatio 2 exponent).2 := by
  obtain ⟨count, multiple⟩ := unit_divides last
  rw [← multiple]
  refine Nat.mul_le_mul_right _ (roundDiv_le ?_)
  calc num * (powRatio 2 exponent).2 ≤ greatest * den * (powRatio 2 exponent).2 :=
        Nat.mul_le_mul_right _ small
    _ = count * (den * (powRatio 2 exponent).1) := by
        rw [Nat.mul_right_comm, ← multiple, Nat.mul_right_comm, Nat.mul_assoc, Nat.mul_comm den]

/-- Finite numbers are up to the greatest one. -/
theorem finite_within {mantissa : Nat} (negative : Bool) (small : mantissa < 2 ^ 53)
    (last : exponent ≤ Binary64.maxExponent) : Within (.finite negative mantissa exponent) := by
  have most : mantissa ≤ 2 ^ 53 - 1 := Nat.le_sub_one_of_lt small
  rw [within_iff]
  rcases powRatio_cases 2 exponent with ⟨count, rfl, ratio⟩ | ⟨shift, -, -, ratio⟩
  · rw [← top_eq] at last
    rw [ratio, Nat.mul_one, greatest]
    exact Nat.mul_le_mul most (Nat.pow_le_pow_right Nat.two_pos (Int.ofNat_le.mp last))
  · rw [ratio, greatest, Nat.mul_assoc]
    exact Nat.mul_le_mul most (Nat.mul_pos (Nat.two_pow_pos _) (Nat.two_pow_pos _))

/-- A quotient up to the greatest finite number is rounded to a number up to it. -/
theorem ofRatio_within (negative : Bool) (positive : 0 < den) (small : num ≤ greatest * den) :
    Within (Binary64.ofRatio negative num den) := by
  unfold Binary64.ofRatio
  split
  · exact finite_within negative (by decide) (by decide)
  · rename_i some
    extract_lets exponent
    have last : exponent ≤ Binary64.maxExponent := Int.max_le.mpr ⟨lead_le some positive small, by decide⟩
    have rounded := rounded_within last small
    have kept : roundDiv (num * (powRatio 2 exponent).2) (den * (powRatio 2 exponent).1) =
        2 * Binary64.halfMantissa → exponent ≠ Binary64.maxExponent := by
      intro carry top
      rw [carry, top] at rounded
      exact carry_beyond rounded
    have settled := @within_iff exponent negative
      (roundDiv (num * (powRatio 2 exponent).2) (den * (powRatio 2 exponent).1))
    -- The power is made a variable, so that nobody evaluates it.
    clear_value exponent
    generalize powRatio 2 exponent = ratio at rounded kept settled ⊢
    obtain ⟨up, down⟩ := ratio
    dsimp only at rounded kept settled ⊢
    generalize roundDiv (num * down) (den * up) = mantissa at rounded kept settled ⊢
    by_cases carry : mantissa = 2 * Binary64.halfMantissa
    · have next := kept carry
      rw [if_pos carry, if_neg (by omega)]
      exact finite_within negative (by decide : Binary64.halfMantissa < 2 ^ 53) (by omega)
    · rw [if_neg carry, if_neg (by omega)]
      exact settled.mpr rounded

end TableGate.FiniteRange

namespace TableGate.FiniteIntegers

/-- The greatest power of ten among the finite numbers. -/
def integerBound : Nat := 10 ^ 308

theorem integerBound_le : integerBound ≤ FiniteRange.greatest := by
  decide +kernel

end TableGate.FiniteIntegers
