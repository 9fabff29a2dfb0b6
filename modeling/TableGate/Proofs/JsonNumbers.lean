import TableGate.Proofs.WrittenNumbers

/-! Numbers as JSON. Of the texts that a reader of decimals takes for a finite number only the characters
are known; what is written of one without quotes is a value where the text is spelled as a number. -/
namespace TableGate.JsonNumbers
open Binary64 DecimalReading JsonGrammar Text TextFacts

variable {c : Char} {text : Text}

/-! ### Texts that are read as numbers -/

/-- The characters of a text that is read as a finite number. -/
def IsFigure (c : Char) : Prop :=
  c.isDigit = true ∨ Numeral.isPadding c = true ∨ c ∈ ['_', '-', '+', '.', 'e', 'E'] ∨ 128 ≤ c.toNat

instance : DecidablePred IsFigure := fun c => inferInstanceAs (Decidable (c.isDigit = true ∨
  Numeral.isPadding c = true ∨ c ∈ ['_', '-', '+', '.', 'e', 'E'] ∨ 128 ≤ c.toNat))

private theorem sign_chars : c ∈ text → c ∈ ['-', '+'] ∨ c ∈ (Numeral.sign text).2 := by
  intro member
  unfold Numeral.sign
  split
  · rcases List.mem_cons.mp member with rfl | rest
    · exact .inl (by decide)
    · exact .inr rest
  · rcases List.mem_cons.mp member with rfl | rest
    · exact .inl (by decide)
    · exact .inr rest
  · exact .inr member

private theorem sign_figure (sign : c ∈ ['-', '+']) : IsFigure c := by
  simp only [List.mem_cons, List.not_mem_nil, or_false] at sign
  rcases sign with rfl | rfl <;> exact .inr (.inr (.inl (by decide)))

private theorem power_chars {power : Int} (read : Numeral.power? text = some power) :
    ∀ c ∈ text, IsFigure c := by
  cases text with
  | nil => exact List.forall_mem_nil _
  | cons mark text =>
    unfold Numeral.power? at read
    dsimp only at read
    split at read
    · rename_i isMark
      split at read
      · rename_i isDigits
        refine List.forall_mem_cons.mpr ⟨?_, fun c member => ?_⟩
        · rcases isMark with rfl | rfl <;> exact .inr (.inr (.inl (by decide)))
        · rcases sign_chars member with sign | digit
          · exact sign_figure sign
          · exact .inl (List.all_eq_true.mp (Bool.and_eq_true_iff.mp isDigits).2 c digit)
      · cases read
    · cases read

private theorem places_chars : ∀ c ∈ text, c.isDigit = true ∨ c = '.' ∨ c ∈ (Numeral.places text).2.2 := by
  intro c member
  have whole : text.takeWhile Char.isDigit ++ text.dropWhile Char.isDigit = text :=
    List.takeWhile_append_dropWhile
  rw [← whole] at member
  rcases List.mem_append.mp member with digit | behind
  · exact .inl (List.mem_takeWhile_imp digit)
  · unfold Numeral.places
    dsimp only
    split
    · rename_i rest found
      have fraction : rest.takeWhile Char.isDigit ++ rest.dropWhile Char.isDigit = rest :=
        List.takeWhile_append_dropWhile
      rw [found, ← fraction] at behind
      rcases List.mem_cons.mp behind with point | behind
      · exact .inr (.inl point)
      · rcases List.mem_append.mp behind with digit | behind
        · exact .inl (List.mem_takeWhile_imp digit)
        · exact .inr (.inr behind)
    · exact .inr (.inr behind)

private theorem unsigned_chars {negative : Bool} {numeral : Numeral}
    (read : Numeral.unsigned? negative text = some numeral) : ∀ c ∈ text, IsFigure c := by
  unfold Numeral.unsigned? at read
  dsimp only at read
  split at read
  · cases read
  · obtain ⟨power, found, -⟩ := Option.map_eq_some_iff.mp read
    intro c member
    rcases places_chars c member with digit | rfl | behind
    · exact .inl digit
    · exact .inr (.inr (.inl (by decide)))
    · exact power_chars found c behind

private theorem underscores_chars {afterDigit : Bool} {plain : Text}
    (read : Numeral.dropUnderscores? afterDigit text = some plain) : ∀ c ∈ text, c = '_' ∨ c ∈ plain := by
  induction text generalizing afterDigit plain with
  | nil => exact List.forall_mem_nil _
  | cons c text ih =>
    by_cases mark : c = '_'
    · subst mark
      rw [Numeral.dropUnderscores?] at read
      split at read
      · exact List.forall_mem_cons.mpr ⟨.inl rfl, ih read⟩
      · cases read
    · rw [Numeral.dropUnderscores?.eq_3 _ _ _ mark] at read
      obtain ⟨rest, found, rfl⟩ := Option.map_eq_some_iff.mp read
      refine List.forall_mem_cons.mpr ⟨.inr List.mem_cons_self, fun c member => ?_⟩
      exact (ih found c member).imp_right (List.mem_cons_of_mem _)

private theorem ascii_chars {number : Binary64} (finite : number.isFinite = true)
    (read : Numeral.ofAscii? text = some number) : ∀ c ∈ text, IsFigure c := by
  unfold Numeral.ofAscii? at read
  obtain ⟨plain, found, read⟩ := Option.bind_eq_some_iff.mp read
  dsimp only at read
  split at read
  · cases read
    cases finite
  split at read
  · cases read
    cases finite
  obtain ⟨numeral, unsigned, -⟩ := Option.map_eq_some_iff.mp read
  intro c member
  rcases underscores_chars found c member with rfl | member
  · exact .inr (.inr (.inl (by decide)))
  · rcases sign_chars member with sign | member
    · exact sign_figure sign
    · exact unsigned_chars unsigned c member

private theorem trim_chars (drop : Char → Bool) : ∀ c ∈ text, drop c = true ∨ c ∈ trim drop text := by
  have front (text : Text) : ∀ c ∈ text, drop c = true ∨ c ∈ text.dropWhile drop := by
    intro c member
    rw [← List.takeWhile_append_dropWhile (p := drop) (l := text)] at member
    exact (List.mem_append.mp member).imp_left List.mem_takeWhile_imp
  intro c member
  rcases front text c member with dropped | member
  · exact .inl dropped
  · rw [trim, List.mem_reverse]
    exact front _ c (List.mem_reverse.mpr member)

private theorem toAscii_chars {ascii : Text} (read : Numeral.toAscii? text = some ascii) :
    ∀ c ∈ text, 128 ≤ c.toNat ∨ c ∈ ascii := by
  unfold Numeral.toAscii? at read
  induction text generalizing ascii with
  | nil => exact List.forall_mem_nil _
  | cons c text ih =>
    rw [List.mapM_cons] at read
    obtain ⟨first, own, read⟩ := Option.bind_eq_some_iff.mp read
    obtain ⟨others, rest, same⟩ := Option.bind_eq_some_iff.mp read
    cases same
    refine List.forall_mem_cons.mpr ⟨?_, fun c member => (ih rest c member).imp_right (List.mem_cons_of_mem _)⟩
    split at own
    · cases own
      exact .inr List.mem_cons_self
    · exact .inl (by omega)

/-- A text that is read as a finite number has only the characters of one. -/
theorem figures (number : (Layout.numberOf? text).isSome = true) : ∀ c ∈ text, IsFigure c := by
  obtain ⟨value, found⟩ := Option.isSome_iff_exists.mp number
  obtain ⟨read, finite⟩ := Option.filter_eq_some_iff.mp found
  obtain ⟨ascii, plain, read⟩ := Option.bind_eq_some_iff.mp read
  intro c member
  rcases toAscii_chars plain c member with beyond | member
  · exact .inr (.inr (.inr beyond))
  · rcases trim_chars Numeral.isPadding c member with padding | member
    · exact .inr (.inl padding)
    · exact ascii_chars finite read c member

/-! ### Texts without quotes -/

private theorem control_inline : ∀ n < 32, (hexPadded 4 n).all (fun d => decide (IsInline d)) = true := by
  decide

/-- A character other than a quote stands for itself, or an escape stands for it. -/
private theorem jsonChar_cases (quote : c ≠ '"') : (jsonChar c = [c] ∧ 32 ≤ c.toNat) ∨
    ∃ code, jsonChar c = '\\' :: code ∧ ∀ d ∈ code, IsInline d := by
  unfold jsonChar
  rw [if_neg quote]
  split_ifs with backslash feed carriage tab backspace page control
  · exact .inr ⟨['\\'], rfl, each_of_all (by decide)⟩
  · exact .inr ⟨['n'], rfl, each_of_all (by decide)⟩
  · exact .inr ⟨['r'], rfl, each_of_all (by decide)⟩
  · exact .inr ⟨['t'], rfl, each_of_all (by decide)⟩
  · exact .inr ⟨['b'], rfl, each_of_all (by decide)⟩
  · exact .inr ⟨['f'], rfl, each_of_all (by decide)⟩
  · exact .inr ⟨'u' :: hexPadded 4 c.toNat, rfl,
      List.forall_mem_cons.mpr ⟨by decide, each_of_all (control_inline c.toNat control)⟩⟩
  · exact .inl ⟨rfl, by omega⟩

private theorem figure_apart (figure : IsFigure c) : c ∉ [',', '\x7d', '"', '[', '\x7b', 'n', 't', 'f'] := by
  intro member
  simp only [List.mem_cons, List.not_mem_nil, or_false] at member
  rcases member with rfl | rfl | rfl | rfl | rfl | rfl | rfl | rfl <;> exact absurd figure (by decide)

private theorem figure_inline (figure : IsFigure c) : ∀ d ∈ jsonChar c, IsInline d := by
  have apart := figure_apart figure
  simp only [List.mem_cons, not_or] at apart
  rcases jsonChar_cases apart.2.2.1 with ⟨own, printable⟩ | ⟨code, escape, inline⟩
  · have controls : c ≠ '\t' ∧ c ≠ '\n' ∧ c ≠ '\r' := by
      refine ⟨?_, ?_, ?_⟩ <;> rintro rfl <;> exact absurd printable (by decide)
    rw [own, List.forall_mem_singleton]
    simp [IsInline, apart, controls]
  · rw [escape]
    exact List.forall_mem_cons.mpr ⟨by decide, inline⟩

/-- Behind its spaces the inside of a string starts with a figure or with an escape. -/
private theorem inside_start (each : ∀ c ∈ text, IsFigure c)
    (start : ((jsonInside text).dropWhile (· == ' ')).head? = some c) : c ∉ ['n', 't', 'f'] := by
  induction text with
  | nil => cases start
  | cons x text ih =>
    obtain ⟨figure, others⟩ := List.forall_mem_cons.mp each
    have apart := figure_apart figure
    simp only [List.mem_cons, not_or] at apart
    have shape : jsonInside (x :: text) = jsonChar x ++ jsonInside text := List.flatMap_cons
    rw [shape] at start
    rcases jsonChar_cases apart.2.2.1 with ⟨own, -⟩ | ⟨code, escape, -⟩
    · rw [own, List.singleton_append, List.dropWhile_cons] at start
      split at start
      · exact ih others start
      · rw [List.head?_cons, Option.some.injEq] at start
        subst start
        simp [apart]
    · rw [escape, List.cons_append, List.dropWhile_cons_of_neg (by decide)] at start
      rw [← Option.some.inj start]
      decide

private theorem padded_chars (padded : IsPadded text) : ∀ c ∈ text, c = ' ' ∨ IsNumeral c := by
  obtain ⟨front, word, back, rfl, before, number, behind⟩ := padded
  intro c member
  simp only [List.mem_append] at member
  rcases member with space | inside | space
  · exact .inl (before c space)
  · exact .inr (number_numerals number c inside)
  · exact .inl (behind c space)

/-- What is written of a text is a number with spaces around it exactly if the text is one. -/
private theorem padded_inside_iff (each : ∀ c ∈ text, IsFigure c) :
    IsPadded (jsonInside text) ↔ IsPadded text := by
  constructor
  · intro padded
    have own : jsonInside text = text := by
      refine jsonInside_own fun c member => ?_
      have apart := figure_apart (each c member)
      simp only [List.mem_cons, not_or] at apart
      rcases jsonChar_cases apart.2.2.1 with ⟨own, -⟩ | ⟨code, escape, -⟩
      · exact own
      · have backslash : '\\' ∈ jsonInside text :=
          List.mem_flatMap.mpr ⟨c, member, by rw [escape]; exact List.mem_cons_self⟩
        exact absurd (padded_chars padded _ backslash) (by simp [IsNumeral])
    rwa [own] at padded
  · intro padded
    have own : jsonInside text = text := by
      refine jsonInside_own fun c member => ?_
      rcases padded_chars padded c member with rfl | numeral
      · rfl
      · exact jsonChar_numeral numeral
    rwa [own]

/-- The inside of the string of a text that is read as a number is a value exactly if the text is a number
with spaces around it. -/
theorem settles_figures (each : ∀ c ∈ text, IsFigure c) :
    Settles Value '\x7d' (jsonInside text) (IsPadded text) := by
  have inline : ∀ c ∈ jsonInside text, IsInline c := by
    intro c member
    obtain ⟨source, among, own⟩ := List.mem_flatMap.mp member
    exact figure_inline (each source among) c own
  exact (settles_padded inline fun c => inside_start each).congr (padded_inside_iff each)

end TableGate.JsonNumbers
