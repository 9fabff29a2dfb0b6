import TableGate.Text.Base64
import TableGate.Text.Blank

/-! Bytes read back from base64. Every group of four characters gives the three bytes that it was
written for, and the padding of the last group tells how many of them there are. -/
namespace TableGate.Base64Reading
open Text

variable {n : Nat} {x y z : UInt8} {rest : Text}

/-- A group of three bytes as a number. -/
private theorem number_bounds (x y z : UInt8) :
    65536 * x.toNat + 256 * y.toNat + z.toNat < 16777216 := by
  have := x.toNat_lt
  have := y.toNat_lt
  have := z.toNat_lt
  omega

private theorem byte_of_number {k : Nat} (same : k = x.toNat) : UInt8.ofNat k = x := by
  rw [same, UInt8.ofNat_toNat]

/-- Four sextets make up the bytes of the number they are taken from. -/
private theorem bytes_of_sextets (number : 65536 * x.toNat + 256 * y.toNat + z.toNat = n) :
    UInt8.ofNat (4 * (n / 262144) + n / 4096 % 64 / 16) = x ∧
      UInt8.ofNat (n / 4096 % 64 % 16 * 16 + n / 64 % 64 / 4) = y ∧
        UInt8.ofNat (n / 64 % 64 % 4 * 64 + n % 64) = z := by
  have := x.toNat_lt
  have := y.toNat_lt
  have := z.toNat_lt
  exact ⟨byte_of_number (by omega), byte_of_number (by omega), byte_of_number (by omega)⟩

/-- A group without padding is read before what follows it. -/
private theorem group_read (number : 65536 * x.toNat + 256 * y.toNat + z.toNat = n) :
    ofBase64? (sextetChar (n / 262144) :: sextetChar (n / 4096 % 64) :: sextetChar (n / 64 % 64) ::
      sextetChar (n % 64) :: rest) =
      if rest.all (· == '=') then some [x, y, z] else (ofBase64? rest).map (x :: y :: z :: ·) := by
  have bound := number_bounds x y z
  obtain ⟨first, second, third⟩ := bytes_of_sextets number
  have a : n / 262144 < 64 := by omega
  have b : n / 4096 % 64 < 64 := by omega
  have c : n / 64 % 64 < 64 := by omega
  have d : n % 64 < 64 := by omega
  have unpadded := sextetChar_ne_padding _ d
  rw [ofBase64?.eq_4 _ _ _ _ _ (fun _ last _ => unpadded last) (fun last _ => unpadded last)]
  simp only [sextet?_sextetChar _ a, sextet?_sextetChar _ b, sextet?_sextetChar _ c,
    sextet?_sextetChar _ d, Option.bind_eq_bind, Option.bind_some, first, second, third]
  cases ofBase64? rest <;> rfl

/-- What is written of some bytes starts with a sextet. -/
private theorem base64_head (x : UInt8) (bytes : List UInt8) :
    ∃ k < 64, ∃ rest, base64 (x :: bytes) = sextetChar k :: rest := by
  have first := x.toNat_lt
  match bytes with
  | [] => exact ⟨x.toNat / 4, by omega, _, rfl⟩
  | [y] =>
    have second := y.toNat_lt
    exact ⟨(256 * x.toNat + y.toNat) / 1024, by omega, _, rfl⟩
  | y :: z :: bytes =>
    have bound := number_bounds x y z
    exact ⟨(65536 * x.toNat + 256 * y.toNat + z.toNat) / 262144, by omega, _, rfl⟩

/-- Only of no bytes nothing but padding is written. -/
private theorem base64_padding {bytes : List UInt8} (padding : (base64 bytes).all (· == '=') = true) :
    bytes = [] := by
  cases bytes with
  | nil => rfl
  | cons x bytes =>
    obtain ⟨k, small, rest, same⟩ := base64_head x bytes
    rw [same, List.all_cons, Bool.and_eq_true] at padding
    exact absurd (eq_of_beq padding.1) (sextetChar_ne_padding k small)

/-- Base64 is written in sextets and padding. -/
theorem base64_chars (bytes : List UInt8) :
    ∀ c ∈ base64 bytes, c = '=' ∨ ∃ k < 64, c = sextetChar k := by
  fun_induction base64 bytes with
  | case1 => simp
  | case2 x n =>
    have bound : n < 256 := x.toNat_lt
    simp only [List.forall_mem_cons, List.not_mem_nil, false_implies, implies_true, and_true]
    exact ⟨.inr ⟨_, by omega, rfl⟩, .inr ⟨_, by omega, rfl⟩, .inl trivial, .inl trivial⟩
  | case3 x y n =>
    have first := x.toNat_lt
    have second := y.toNat_lt
    have number : 256 * x.toNat + y.toNat = n := rfl
    simp only [List.forall_mem_cons, List.not_mem_nil, false_implies, implies_true, and_true]
    exact ⟨.inr ⟨_, by omega, rfl⟩, .inr ⟨_, by omega, rfl⟩, .inr ⟨_, by omega, rfl⟩, .inl trivial⟩
  | case4 x y z rest n ih =>
    have bound : n < 16777216 := number_bounds x y z
    simp only [List.forall_mem_cons]
    exact ⟨.inr ⟨_, by omega, rfl⟩, .inr ⟨_, by omega, rfl⟩, .inr ⟨_, by omega, rfl⟩,
      .inr ⟨_, by omega, rfl⟩, ih⟩

private theorem sextetChar_plain : ∀ k < 64, (sextetChar k).toNat < 128 ∧
    isBlank (sextetChar k) = false ∧ sextetChar k ≠ '-' := by decide

/-- Base64 is ASCII. -/
theorem base64_ascii (bytes : List UInt8) : ∀ c ∈ base64 bytes, c.toNat < 128 := by
  intro c member
  rcases base64_chars bytes c member with rfl | ⟨k, small, rfl⟩
  · decide
  · exact (sextetChar_plain k small).1

/-- Base64 has neither blanks nor hyphens. -/
theorem base64_plain (bytes : List UInt8) : ∀ c ∈ base64 bytes, isBlank c = false ∧ c ≠ '-' := by
  intro c member
  rcases base64_chars bytes c member with rfl | ⟨k, small, rfl⟩
  · decide
  · exact (sextetChar_plain k small).2

/-- Bytes come back from base64. -/
theorem ofBase64_base64 (bytes : List UInt8) : ofBase64? (base64 bytes) = some bytes := by
  fun_induction base64 bytes with
  | case1 => rfl
  | case2 x n =>
    have bound : n < 256 := x.toNat_lt
    have a : n / 4 < 64 := by omega
    have b : n % 4 * 16 < 64 := by omega
    have byte : UInt8.ofNat (4 * (n / 4) + n % 4 * 16 / 16) = x := byte_of_number (by omega)
    rw [ofBase64?]
    simp only [sextet?_sextetChar _ a, sextet?_sextetChar _ b, Option.bind_eq_bind, Option.bind_some, byte]
  | case3 x y n =>
    have first := x.toNat_lt
    have second := y.toNat_lt
    have number : 256 * x.toNat + y.toNat = n := rfl
    have a : n / 1024 < 64 := by omega
    have b : n / 16 % 64 < 64 := by omega
    have c : n % 16 * 4 < 64 := by omega
    have high : UInt8.ofNat (4 * (n / 1024) + n / 16 % 64 / 16) = x := byte_of_number (by omega)
    have low : UInt8.ofNat (n / 16 % 64 % 16 * 16 + n % 16 * 4 / 4) = y := byte_of_number (by omega)
    rw [ofBase64?.eq_3 _ _ _ (sextetChar_ne_padding _ c)]
    simp only [sextet?_sextetChar _ a, sextet?_sextetChar _ b, sextet?_sextetChar _ c,
      Option.bind_eq_bind, Option.bind_some, high, low]
  | case4 x y z rest n ih =>
    rw [group_read rfl, ih]
    split
    · rename_i padding
      rw [base64_padding padding]
    · rfl

end TableGate.Base64Reading
