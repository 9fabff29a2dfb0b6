import TableGate.Column.Codec

/-! The words of boolean columns. What a text of such a column is sent as, what it is received as and
what it is printed as are decided in three places, and each of them has its own notion of the texts
that are false. They agree on all texts but runs of zeros: one zero is false everywhere, but only
sending takes several of them, or some in front of a line feed, for false. -/
namespace TableGate.BooleanWords
open Text

/-- The texts for false: none at all, the word in any case, and runs of zeros. -/
def IsFalse (text : Text) : Prop :=
  text = [] ∨ text.map Char.toLower = "false" ∨ ∃ n, text = List.replicate (n + 1) '0'

/-- Several zeros, or zeros in front of a line feed. -/
def IsContested (text : Text) : Prop :=
  (∃ n, text = List.replicate (n + 2) '0') ∨ ∃ n, text = List.replicate (n + 1) '0' ++ ['\n']

variable {column : Column} {text : Text}

/-! ### Zeros -/

private theorem isZeros_iff : Column.isZeros text = true ↔
    ∃ n, text = List.replicate (n + 1) '0' ∨ text = List.replicate (n + 1) '0' ++ ['\n'] := by
  constructor
  · intro zeros
    simp only [Column.isZeros, Bool.and_eq_true, beq_iff_eq, Bool.or_eq_true, List.isEmpty_iff] at zeros
    obtain ⟨first, rest⟩ := zeros
    obtain ⟨n, run⟩ : ∃ n, text.takeWhile (· == '0') = List.replicate (n + 1) '0' := by
      cases text with
      | nil => cases first
      | cons c text =>
        obtain rfl : c = '0' := Option.some.inj first
        have each : ∀ c ∈ text.takeWhile (· == '0'), c = '0' := by
          intro c member
          exact eq_of_beq (List.all_eq_true.mp List.all_takeWhile c member)
        exact ⟨_, congrArg _ (List.eq_replicate_of_mem each)⟩
    have whole := List.takeWhile_append_dropWhile (p := (· == '0')) (l := text)
    rw [run] at whole
    refine ⟨n, rest.imp (fun ended => ?_) (fun feed => ?_)⟩
    · rw [← whole, ended, List.append_nil]
    · rw [← whole, feed]
  · rintro ⟨n, rfl | rfl⟩
    · simp [Column.isZeros, List.replicate_succ]
    · simp [Column.isZeros, List.replicate_succ]

/-- A text that is contested is neither empty, nor a word, nor a single zero. -/
private theorem contested_apart (contested : IsContested text) :
    text ≠ [] ∧ text.map Char.toLower ≠ "false" ∧ text ≠ "0" := by
  obtain ⟨n, rfl⟩ | ⟨n, rfl⟩ := contested
  · simp [List.replicate_succ]
  · cases n <;> simp [List.replicate_succ]

/-- What sending takes for false, in words. -/
private theorem sent_false_iff (text : Text) :
    (text.isEmpty || text.map Char.toLower == "false" || Column.isZeros text) = true ↔
      IsFalse text ∨ IsContested text := by
  simp only [Bool.or_eq_true, List.isEmpty_iff, beq_iff_eq, isZeros_iff, IsFalse, IsContested]
  constructor
  · rintro ((empty | word) | ⟨n, run | feed⟩)
    · exact .inl (.inl empty)
    · exact .inl (.inr (.inl word))
    · exact .inl (.inr (.inr ⟨n, run⟩))
    · exact .inr (.inr ⟨n, feed⟩)
  · rintro ((empty | word | ⟨n, run⟩) | ⟨n, run⟩ | ⟨n, feed⟩)
    · exact .inl (.inl empty)
    · exact .inl (.inr word)
    · exact .inr ⟨n, .inl run⟩
    · exact .inr ⟨n + 1, .inl run⟩
    · exact .inr ⟨n, .inr feed⟩

/-- What receiving and printing take for false, in words. -/
private theorem isFalseText_iff (text : Text) :
    Cell.isFalseText text = true ↔ IsFalse text ∧ ¬ IsContested text := by
  simp only [Cell.isFalseText, Bool.or_eq_true, List.isEmpty_iff, beq_iff_eq]
  constructor
  · rintro ((empty | word) | zero)
    · exact ⟨.inl empty, fun contested => (contested_apart contested).1 empty⟩
    · exact ⟨.inr (.inl word), fun contested => (contested_apart contested).2.1 word⟩
    · exact ⟨.inr (.inr ⟨0, zero⟩), fun contested => (contested_apart contested).2.2 zero⟩
  · rintro ⟨empty | word | ⟨n, run⟩, settled⟩
    · exact .inl (.inl empty)
    · exact .inl (.inr word)
    · cases n with
      | zero => exact .inr run
      | succ n => exact absurd (.inl ⟨n, run⟩) settled

/-! ### Columns -/

/-- Of the empty text, which counts for nothing, the word is made without looking at it. -/
private theorem booleanText_text : Column.booleanText (.text text) =
    .ok (if text.isEmpty || text.map Char.toLower == "false" || Column.isZeros text then "false"
      else "true") := by
  cases text <;> rfl

section Columns

variable (kind : column.kind = .boolean) (type : Engine.sqlite.typeClass column.sqlType = .boolean)

include kind in
private theorem received : column.deserialize (.text text) = .ok (.bool !(Cell.isFalseText text)) := by
  simp [Column.deserialize, kind, Cell.toText, bind, Except.bind]

include type in
private theorem printed :
    column.literal .sqlite (.text text) = .ok (if Cell.isFalseText text then "0" else "1") := by
  simp [Column.literal, Engine.literal, type, Engine.booleanLiteral, Cell.isFalse, Cell.toText, bind,
    Except.bind]

include kind type in
private theorem sent (word : text ≠ "NULL") : column.serialize .sqlite (.cell (.text text)) =
    .ok (.text (if text.isEmpty || text.map Char.toLower == "false" || Column.isZeros text then "false"
      else "true")) := by
  have read : Engine.sqlite.readValue (.cell (.text text)) column.sqlType = .ok (.text text) := by
    unfold Engine.readValue
    simp only [DriverValue.toCell, beq_eq_false_iff_ne.mpr word, type]
    rfl
  rw [Column.serialize_of_read (by simp [kind]) read]
  simp only [Column.serializeRead, kind, booleanText_text]
  rfl

include kind type in
/-- A text in a boolean column of SQLite is sent as a word, received as a flag and printed as a digit.
Receiving and printing always agree. All three agree, and take just the texts for false for false,
exactly if the text is not contested; a contested one is sent as false, but received as true. -/
theorem boolean_readings_agree_iff (text : Text) (word : text ≠ "NULL") :
    ∃ wire flag literal, column.serialize .sqlite (.cell (.text text)) = .ok (.text wire) ∧
      column.deserialize (.text text) = .ok (.bool flag) ∧
      column.literal .sqlite (.text text) = .ok literal ∧
      (wire = "true" ∨ wire = "false") ∧ (literal = "1" ∨ literal = "0") ∧
      (flag = false ↔ literal = "0") ∧
      ((wire = "false" ↔ flag = false) ↔ ¬ IsContested text) ∧
      ((wire = "false" ↔ IsFalse text) ∧ (flag = false ↔ IsFalse text) ↔ ¬ IsContested text) ∧
      (IsContested text → wire = "false" ∧ flag = true) := by
  have sends := sent_false_iff text
  have reads := isFalseText_iff text
  refine ⟨_, _, _, sent kind type word, received kind, printed type, ?_⟩
  generalize (text.isEmpty || text.map Char.toLower == "false" || Column.isZeros text) = sentFalse at sends ⊢
  generalize Cell.isFalseText text = readFalse at reads ⊢
  have wire : (if sentFalse then "false" else "true" : Text) = "false" ↔ IsFalse text ∨ IsContested text := by
    rw [← sends]
    cases sentFalse <;> decide
  have flag : (!readFalse) = false ↔ IsFalse text ∧ ¬ IsContested text := by
    rw [Bool.not_eq_false', reads]
  have literal : (!readFalse) = false ↔ (if readFalse then "0" else "1" : Text) = "0" := by
    cases readFalse <;> decide
  refine ⟨?_, ?_, literal, ?_⟩
  · cases sentFalse <;> simp
  · cases readFalse <;> simp
  · rw [wire, ← Bool.not_eq_false (!readFalse), flag]
    by_cases contested : IsContested text <;> simp [contested]

end Columns

/-- A field of flags. -/
def active : Column := { name := "active", kind := .boolean, sqlType := "boolean" }

private theorem active_type : Engine.sqlite.typeClass active.sqlType = .boolean := by decide +kernel

/-- The word in capitals is false on all ways. -/
theorem capitals_agree :
    active.kind = .boolean ∧ Engine.sqlite.typeClass active.sqlType = .boolean ∧
      "FALSE".toList ≠ "NULL".toList ∧ ¬ IsContested "FALSE" ∧
      active.serialize .sqlite (.cell (.text "FALSE")) = .ok (.text "false") ∧
      active.deserialize (.text "FALSE") = .ok (.bool false) ∧
      active.literal .sqlite (.text "FALSE") = .ok "0" := by
  have word : "FALSE".toList ≠ "NULL".toList := by decide
  have settled : ¬ IsContested "FALSE" := by
    rintro (⟨n, same⟩ | ⟨n, same⟩) <;> simp [List.replicate_succ] at same
  have isFalse : IsFalse "FALSE" := .inr (.inl (by decide))
  obtain ⟨wire, flag, literal, sent, received, printed, -, -, receives, -, agree, -⟩ :=
    boolean_readings_agree_iff rfl active_type "FALSE" word
  obtain ⟨sends, reads⟩ := agree.mpr settled
  have own := reads.mpr isFalse
  rw [sends.mpr isFalse] at sent
  rw [own] at received
  rw [receives.mp own] at printed
  exact ⟨rfl, active_type, word, settled, sent, received, printed⟩

/-- Two zeros, and a zero in front of a line feed, are sent as false, but received and printed as true. -/
theorem zeros_sent_alone :
    active.kind = .boolean ∧ Engine.sqlite.typeClass active.sqlType = .boolean ∧
      ∀ text ∈ ["00".toList, "0\n".toList], text ≠ "NULL" ∧
        active.serialize .sqlite (.cell (.text text)) = .ok (.text "false") ∧
        active.deserialize (.text text) = .ok (.bool true) ∧
        active.literal .sqlite (.text text) = .ok "1" := by
  refine ⟨rfl, active_type, ?_⟩
  simp only [List.forall_mem_cons, List.not_mem_nil, false_implies, implies_true, and_true]
  exact ⟨⟨by decide, sent rfl active_type (by decide), received rfl, printed active_type⟩,
    by decide, sent rfl active_type (by decide), received rfl, printed active_type⟩

end TableGate.BooleanWords
