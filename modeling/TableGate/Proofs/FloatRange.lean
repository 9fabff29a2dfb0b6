import TableGate.Proofs.DecimalReading

/-! Floating point numbers that are read from decimals. However long the decimal is, the number
that it is rounded to has few digits in front of its point, so that it can always be printed. -/
namespace TableGate.FloatRange
open DecimalReading Text

/-- A number whose integer value, if it is an integer, has a text. -/
def Prints (number : Binary64) : Prop :=
  ∀ n, number.toInt? = some n → ∃ text, Integer.text n = .ok text

variable {number : Binary64} {negative : Bool} {num den mantissa : Nat} {exponent : Int}

/-- Beyond all integers that a decimal is rounded to. -/
def wholeBound : Nat := 10 ^ 401

private theorem prints_of_whole (small : ∀ n, number.toInt? = some n → n.natAbs < wholeBound) :
    Prints number := by
  intro n whole
  have short : (ofNat n.natAbs).length ≤ 401 := (length_ofNat_le (by decide)).mpr (small n whole)
  exact ⟨_, integer_text_eq_ok.mpr ⟨Nat.le_trans short (by decide), rfl⟩⟩

/-- The most digits in front of the point of a decimal that is not read as an infinity. -/
def placeLimit : Nat := 400

/-- The unit of the last place of the largest numbers. -/
def topUnit : Nat := 2 ^ Binary64.maxExponent.toNat

/-- The whole part of a mantissa times a power of two. -/
def wholePart (mantissa : Nat) (exponent : Int) : Nat :=
  mantissa * (powRatio 2 exponent).1 / (powRatio 2 exponent).2

private theorem finite_prints (small : wholePart mantissa exponent < wholeBound) :
    Prints (.finite negative mantissa exponent) := by
  refine prints_of_whole fun n whole => ?_
  have same : n.natAbs = wholePart mantissa exponent := by
    unfold Binary64.toInt? at whole
    dsimp only at whole
    split at whole
    · rw [← Option.some.inj whole]
      cases negative <;> simp only [Bool.false_eq_true, ↓reduceIte, Int.natAbs_neg, Int.natAbs_natCast,
        wholePart]
    · cases whole
  rwa [same]

private theorem roundDiv_le (num den : Nat) : roundDiv num den ≤ num / den + 1 := by
  unfold roundDiv
  dsimp only
  split <;> omega

/-- What a quotient is rounded to is at most a unit of its last place beyond the quotient. -/
private theorem rounded_le (num den : Nat) (exponent : Int) :
    wholePart (roundDiv (num * (powRatio 2 exponent).2) (den * (powRatio 2 exponent).1)) exponent ≤
      num / den + 2 ^ exponent.toNat := by
  unfold wholePart powRatio
  split
  · have up : num / (den * 2 ^ exponent.toNat) * 2 ^ exponent.toNat ≤ num / den := by
      rw [← Nat.div_div_eq_div_mul]
      exact Nat.div_mul_le_self _ _
    have step := Nat.mul_le_mul_right (2 ^ exponent.toNat)
      (roundDiv_le num (den * 2 ^ exponent.toNat))
    rw [Nat.add_mul, Nat.one_mul] at step
    simp only [Nat.mul_one, Nat.div_one, Nat.pow_eq]
    omega
  · generalize shift : Nat.pow 2 (-exponent).toNat = down
    have positive : 0 < down := by rw [← shift]; exact Nat.two_pow_pos _
    have unit : exponent.toNat = 0 := by omega
    have whole : num * down / den / down = num / den := by
      rw [Nat.div_div_eq_div_mul, Nat.mul_div_mul_right _ _ positive]
    have step : (num * down / den + 1) / down ≤ num * down / den / down + 1 := by
      rw [← Nat.add_div_right _ positive]
      exact Nat.div_le_div_right (by omega)
    have most := Nat.div_le_div_right (c := down) (roundDiv_le (num * down) den)
    simp only [Nat.mul_one, unit, Nat.pow_zero]
    omega

/-- A carry into the next power of two changes nothing but where small parts are concerned. -/
private theorem carried_le (exponent : Int) :
    wholePart Binary64.halfMantissa (exponent + 1) ≤
      max (wholePart (2 * Binary64.halfMantissa) exponent) Binary64.halfMantissa := by
  by_cases least : 0 ≤ exponent
  · refine Nat.le_trans (Nat.le_of_eq ?_) (Nat.le_max_left _ _)
    have next : (exponent + 1).toNat = exponent.toNat + 1 := by omega
    simp only [wholePart, powRatio, if_pos least, if_pos (show 0 ≤ exponent + 1 by omega), next,
      Nat.pow_eq, Nat.pow_succ, Nat.div_one]
    rw [Nat.mul_comm (2 ^ exponent.toNat) 2, ← Nat.mul_assoc, Nat.mul_comm _ 2]
  · refine Nat.le_trans ?_ (Nat.le_max_right _ _)
    unfold wholePart powRatio
    split
    · have unit : (exponent + 1).toNat = 0 := by omega
      simp [unit]
    · exact Nat.le_trans (Nat.div_le_self _ _) (by simp)

private theorem zero_prints (negative : Bool) : Prints (.zero negative) := by
  refine finite_prints ?_
  have none : wholePart 0 Binary64.minExponent = 0 := by simp [wholePart]
  rw [none]
  decide +kernel

/-- A quotient with few digits in front of its point is rounded to a number that prints. -/
theorem ofRatio_prints (negative : Bool) (small : num / den < 10 ^ placeLimit) :
    Prints (Binary64.ofRatio negative num den) := by
  have range : 10 ^ placeLimit + topUnit ≤ wholeBound := by decide +kernel
  have half : Binary64.halfMantissa < wholeBound := by decide +kernel
  unfold Binary64.ofRatio
  split
  · exact zero_prints negative
  · extract_lets exponent
    have rounded := rounded_le num den exponent
    -- The power is made a variable, so that nobody evaluates it.
    clear_value exponent
    generalize powRatio 2 exponent = ratio at rounded ⊢
    obtain ⟨up, down⟩ := ratio
    dsimp only at rounded ⊢
    have whole (within : exponent ≤ Binary64.maxExponent) :
        wholePart (roundDiv (num * down) (den * up)) exponent < wholeBound := by
      have unit : 2 ^ exponent.toNat ≤ topUnit :=
        Nat.pow_le_pow_right Nat.two_pos (Int.toNat_le_toNat within)
      omega
    split
    · rename_i carry
      split
      · exact fun _ => nofun
      · rename_i within
        refine finite_prints (Nat.lt_of_le_of_lt (carried_le exponent) (Nat.max_lt.mpr ⟨?_, half⟩))
        rw [← carry]
        exact whole (by omega)
    · split
      · exact fun _ => nofun
      · rename_i within
        exact finite_prints (whole (by omega))

/-- Every decimal is rounded to a number that prints: large ones become an infinity. -/
theorem toBinary64_prints (numeral : Numeral) : Prints numeral.toBinary64 := by
  unfold Numeral.toBinary64
  split
  · exact zero_prints _
  · extract_lets size
    split
    · exact fun _ => nofun
    · rename_i within
      split
      · exact zero_prints _
      · have digits : numeral.digits < 10 ^ (ofNat numeral.digits).length :=
          (length_ofNat_le (List.length_pos_iff.mpr (ofNat_ne_nil _))).mp (Nat.le_refl _)
        show Prints (.ofRatio numeral.negative (numeral.digits * (powRatio 10 numeral.exponent).1)
          (powRatio 10 numeral.exponent).2)
        apply ofRatio_prints
        unfold powRatio
        split
        · rename_i whole
          have places : (ofNat numeral.digits).length + numeral.exponent.toNat ≤ placeLimit := by
            unfold placeLimit
            omega
          rw [Nat.div_one, Nat.pow_eq]
          refine Nat.lt_of_lt_of_le ?_ (Nat.pow_le_pow_right (by decide) places)
          rw [Nat.pow_add]
          exact Nat.mul_lt_mul_of_pos_right digits (Nat.pow_pos (by decide))
        · rename_i part
          have places : (ofNat numeral.digits).length ≤ placeLimit + (-numeral.exponent).toNat := by
            unfold placeLimit
            omega
          rw [Nat.mul_one, Nat.pow_eq]
          rw [Nat.div_lt_iff_lt_mul (Nat.pow_pos (by decide)), ← Nat.pow_add]
          exact Nat.lt_of_lt_of_le digits (Nat.pow_le_pow_right (by decide) places)

private theorem ofAscii_prints {text : Text} (read : Numeral.ofAscii? text = some number) :
    Prints number := by
  unfold Numeral.ofAscii? at read
  obtain ⟨plain, -, read⟩ := Option.bind_eq_some_iff.mp read
  dsimp only at read
  split at read
  · cases read
    exact fun _ => nofun
  · split at read
    · cases read
      exact fun _ => nofun
    · obtain ⟨numeral, -, rfl⟩ := Option.map_eq_some_iff.mp read
      exact toBinary64_prints numeral

/-- The number that a text writes prints. -/
theorem ofText_prints {text : Text} (read : Binary64.ofText? text = some number) : Prints number := by
  obtain ⟨ascii, -, read⟩ := Option.bind_eq_some_iff.mp read
  exact ofAscii_prints read

/-- The number that bytes write prints. -/
theorem ofBytes_prints {bytes : List UInt8} (read : Binary64.ofBytes? bytes = some number) :
    Prints number := by
  unfold Binary64.ofBytes? at read
  split at read
  · exact ofAscii_prints read
  · cases read

end TableGate.FloatRange
