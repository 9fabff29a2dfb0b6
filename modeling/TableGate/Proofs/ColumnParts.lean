import TableGate.Proofs.TableStatements

/-! Parts of a statement that are read as columns. A part that is no constraint is a column exactly where it
starts with a name, blanks and a type; a mark may stand on each side of the name, whether or not the marks
belong together, and what follows the type counts for the length alone. -/
namespace TableGate.ColumnParts
open ConversionProblem CreateTable QueryFaults TableStatements Text TextFacts

/-- The marks that may stand in front of a name and behind it. -/
def openings : List Text := [[], "\"", "[", ['`']]

def closings : List Text := [[], "\"", "]", ['`']]

/-- A part starts with a name, blanks and a type. -/
inductive Headed : Text → Text → Text → Text → Prop where
  | intro (opening closing : Text) (name : Word) (gap : Gap) (type : Word) (rest : Text)
      (opens : opening ∈ openings) (closes : closing ∈ closings) (stops : Stops isWord rest) :
      Headed (opening ++ (name.text ++ (closing ++ (gap.text ++ (type.text ++ rest))))) name.text type.text rest

/-- The digits of the length that follows a type. -/
def lengthOf (rest : Text) : Text := (lengthDigits? rest).getD []

/-- What is read of a column besides its name and its type: whatever the whole part says. -/
def definition (part name sqlType : Text) (maxLength : Nat) : Definition where
  name := name
  sqlType := upper sqlType
  maxLength := maxLength
  isPrimaryKey := hasInfix "PRIMARY KEY" (upper part)
  isForeignKey := hasInfix "REFERENCES" (upper part)
  isAutoIncrement := hasInfix "AUTOINCREMENT" (upper part)
  isNotNull := hasInfix "NOT NULL" (upper part)

/-- The words that a constraint of a table starts with. -/
def reservedWords : List Text := ["primary", "foreign", "constraint", "unique", "check"]

/-- A name that is such a word in some spelling. -/
def Reserved (name : Text) : Prop := ∃ keyword ∈ reservedWords, Spelled keyword name

instance : DecidablePred Reserved := fun name =>
  inferInstanceAs
    (Decidable (∃ keyword ∈ reservedWords, List.Forall₂ (isLetter · · = true) keyword name))

variable {text name sqlType digits rest keyword opening closing : Text} {c : Char}

/-! ### Marks around names -/

private def isOpening (c : Char) : Bool := c == '"' || c == '[' || c == '`'

private def isClosing (c : Char) : Bool := c == '"' || c == ']' || c == '`'

/-- A text without the mark at its start, if there is one. -/
private def unmarked (isMark : Char → Bool) (text : Text) : Text :=
  match text with
  | c :: rest => if isMark c then rest else text
  | [] => []

/-- What is read behind a name. -/
private def typed? (name behind : Text) : Option (Text × Text × Text) :=
  let next := dropBlanks behind
  let sqlType := next.takeWhile isWord
  if name.isEmpty || next.length == behind.length || sqlType.isEmpty then none
  else some (name, sqlType, lengthOf (next.dropWhile isWord))

private theorem column_eq (text : Text) : column? text =
    typed? ((unmarked isOpening text).takeWhile isWord)
      (unmarked isClosing ((unmarked isOpening text).dropWhile isWord)) :=
  rfl

/-- No mark, or one. -/
private def Marks (isMark : Char → Bool) (mark : Text) : Prop :=
  mark = [] ∨ ∃ c, isMark c = true ∧ mark = [c]

private theorem opening_iff : opening ∈ openings ↔ Marks isOpening opening := by
  simp only [openings, isOpening, Marks, List.mem_cons, List.not_mem_nil, or_false, Bool.or_eq_true,
    beq_iff_eq, or_and_right, exists_or, exists_eq_left, or_assoc]
  rfl

private theorem closing_iff : closing ∈ closings ↔ Marks isClosing closing := by
  simp only [closings, isClosing, Marks, List.mem_cons, List.not_mem_nil, or_false, Bool.or_eq_true,
    beq_iff_eq, or_and_right, exists_or, exists_eq_left, or_assoc]
  rfl

private theorem unmarked_append {isMark : Char → Bool} {mark : Text} (marks : Marks isMark mark)
    (stops : Stops isMark rest) : unmarked isMark (mark ++ rest) = rest := by
  rcases marks with rfl | ⟨c, own, rfl⟩
  · cases rest with
    | nil => rfl
    | cons c rest => exact if_neg (by simp [stops c rfl])
  · exact if_pos own

private theorem unmarked_shape (isMark : Char → Bool) (text : Text) :
    ∃ mark, Marks isMark mark ∧ text = mark ++ unmarked isMark text := by
  cases text with
  | nil => exact ⟨[], .inl rfl, rfl⟩
  | cons c rest =>
    by_cases own : isMark c = true
    · exact ⟨[c], .inr ⟨c, own, rfl⟩, by rw [unmarked, if_pos own, List.singleton_append]⟩
    · exact ⟨[], .inl rfl, by rw [unmarked, if_neg own, List.nil_append]⟩

/-- No name starts with a mark. -/
private theorem word_unopened (word : isWord c = true) : isOpening c = false := by
  rw [← Bool.not_eq_true]
  intro mark
  simp only [isOpening, Bool.or_eq_true, beq_iff_eq] at mark
  rcases mark with (rfl | rfl) | rfl <;> cases word

private theorem blank_unclosed (blank : isBlank c = true) : isClosing c = false :=
  each_blank (P := fun c => isClosing c = false) (by decide +kernel) blank

/-! ### Parts that are columns -/

/-- A text is what is taken and what is dropped, which goes on with no more of the class. -/
theorem run_shape (p : Char → Bool) (text : Text) :
    text = text.takeWhile p ++ text.dropWhile p ∧ (∀ c ∈ text.takeWhile p, p c = true) ∧
      Stops p (text.dropWhile p) := by
  refine ⟨List.takeWhile_append_dropWhile.symm, fun c member => List.mem_takeWhile_imp member, ?_⟩
  intro c starts
  have next := List.head?_dropWhile_not p text
  rwa [Option.mem_def.mp starts] at next

private theorem typed_iff {read : Text} : typed? name text = some (read, sqlType, digits) ↔
    name ≠ [] ∧ ∃ (gap : Gap) (type : Word) (rest : Text), text = gap.text ++ (type.text ++ rest) ∧
      Stops isWord rest ∧ read = name ∧ sqlType = type.text ∧ digits = lengthOf rest := by
  constructor
  · intro found
    obtain ⟨gapped, blank, -⟩ := run_shape isBlank text
    obtain ⟨typed, chars, stops⟩ := run_shape isWord (dropBlanks text)
    simp only [typed?, Option.ite_none_left_eq_some, Bool.or_eq_true, not_or, List.isEmpty_iff, beq_iff_eq,
      Option.some.injEq, Prod.mk.injEq] at found
    obtain ⟨⟨⟨named, shorter⟩, filled⟩, rfl, rfl, rfl⟩ := found
    have some : text.takeWhile isBlank ≠ [] := by
      intro none
      rw [none, List.nil_append] at gapped
      exact shorter (congrArg List.length gapped).symm
    refine ⟨named, ⟨_, some, blank⟩, ⟨_, filled, chars⟩, _, ?_, stops, rfl, rfl, rfl⟩
    exact gapped.trans (congrArg _ typed)
  · rintro ⟨named, gap, type, rest, rfl, stops, rfl, rfl, rfl⟩
    have passed : dropBlanks (gap.text ++ (type.text ++ rest)) = type.text ++ rest :=
      dropWhile_run gap.blank (stops_append type.filled (word_stops type))
    simp [typed?, passed, takeWhile_run type.chars stops, dropWhile_run type.chars stops, named, type.filled,
      gap.filled]

private theorem closing_stops (closes : closing ∈ closings) (gap : Gap) :
    Stops isWord (closing ++ (gap.text ++ rest)) := by
  simp only [closings, List.mem_cons, List.not_mem_nil, or_false] at closes
  rcases closes with rfl | rfl | rfl | rfl
  · exact gap_stops gap
  all_goals exact stops_cons (by decide)

/-- A column is read exactly where a part starts with a name, blanks and a type. -/
theorem column_iff : column? text = some (name, sqlType, digits) ↔
    ∃ rest, Headed text name sqlType rest ∧ digits = lengthOf rest := by
  rw [column_eq, typed_iff]
  constructor
  · rintro ⟨filled, gap, type, rest, behind, stops, rfl, rfl, rfl⟩
    obtain ⟨opening, opens, marked⟩ := unmarked_shape isOpening text
    obtain ⟨named, chars, -⟩ := run_shape isWord (unmarked isOpening text)
    obtain ⟨closing, closes, closed⟩ :=
      unmarked_shape isClosing ((unmarked isOpening text).dropWhile isWord)
    have shape := Headed.intro opening closing ⟨_, filled, chars⟩ gap type rest (opening_iff.mpr opens)
      (closing_iff.mpr closes) stops
    rw [← behind, ← closed, ← named, ← marked] at shape
    exact ⟨rest, shape, rfl⟩
  · rintro ⟨rest, headed, rfl⟩
    obtain ⟨opening, closing, name, gap, type, rest, opens, closes, stops⟩ := headed
    have starts : Stops isOpening (name.text ++ (closing ++ (gap.text ++ (type.text ++ rest)))) :=
      stops_append name.filled fun c starts => word_unopened (name.chars c (List.mem_of_mem_head? starts))
    have blank : Stops isClosing (gap.text ++ (type.text ++ rest)) :=
      stops_append gap.filled fun c starts => blank_unclosed (gap.blank c (List.mem_of_mem_head? starts))
    have ends : Stops isWord (closing ++ (gap.text ++ (type.text ++ rest))) := closing_stops closes gap
    rw [unmarked_append (opening_iff.mp opens) starts, takeWhile_run name.chars ends,
      dropWhile_run name.chars ends, unmarked_append (closing_iff.mp closes) blank]
    exact ⟨name.filled, gap, type, rest, rfl, stops, rfl, rfl, rfl⟩

/-! ### Parts that are constraints -/

private theorem word_of_letter {letter : Char} (small : letter ∈ smallLetters)
    (own : isLetter letter c = true) : isWord c = true := by
  have plain : ∀ letter ∈ smallLetters, isWord letter = true ∧ isWord letter.toUpper = true :=
    each_of_all (by decide)
  simp only [isLetter, Bool.or_eq_true, Bool.and_eq_true, beq_iff_eq] at own
  rcases own with ((((rfl | rfl) | ⟨-, rfl | rfl⟩) | ⟨-, rfl⟩) | ⟨-, rfl⟩)
  · exact (plain _ small).1
  · exact (plain _ small).2
  all_goals decide +kernel

/-- Every spelling of a keyword is made of word characters. -/
theorem chars_of_spelled {word : Text} (small : ∀ letter ∈ keyword, letter ∈ smallLetters)
    (spelled : Spelled keyword word) : ∀ c ∈ word, isWord c = true := by
  intro c member
  obtain ⟨letter, among, own⟩ := (Fallible.partners spelled).2 c member
  exact word_of_letter (small letter among) own

/-- The words of a constraint are followed by no word character, and so is the first one. -/
private theorem stops_of_words {first : Text} {others : List Text}
    (starts : startsWithWords (first :: others) text) :
    ∃ word rest, text = word ++ rest ∧ Spelled first word ∧ Stops isWord rest := by
  cases dropped : dropKeyword? first text with
  | none => cases others <;> simp [startsWithWords, dropped] at starts
  | some rest =>
    obtain ⟨word, rfl, spelled⟩ := dropKeyword_iff.mp dropped
    refine ⟨word, rest, rfl, spelled, ?_⟩
    cases others with
    | nil =>
      intro c next
      simpa [startsWithWords, dropped, Option.mem_def.mp next] using starts
    | cons second others =>
      simp only [startsWithWords, dropped, Bool.and_eq_true, decide_eq_true_eq] at starts
      cases rest with
      | nil => exact nofun
      | cons c rest =>
        refine stops_cons (word_of_blank ?_)
        by_contra other
        rw [dropBlanks, List.dropWhile_cons_of_neg other] at starts
        exact absurd starts.1 (lt_irrefl _)

/-- A part that starts with another name is no constraint. -/
theorem constraint_of_name (name : Word) (stops : Stops isWord rest) (unreserved : ¬ Reserved name.text) :
    isConstraint (name.text ++ rest) = false := by
  have listed : ∀ words ∈ constraintWords, words ≠ [] ∧
      ∀ first ∈ words.head?, first ∈ reservedWords ∧ ∀ letter ∈ first, letter ∈ smallLetters := by
    decide
  rw [isConstraint, List.any_eq_false]
  intro words among starts
  obtain ⟨filled, each⟩ := listed words among
  obtain ⟨first, others, rfl⟩ := List.exists_cons_of_ne_nil filled
  obtain ⟨reserved, small⟩ := each first rfl
  obtain ⟨word, behind, same, spelled, ends⟩ := stops_of_words starts
  have own : name.text = word := by
    rw [← takeWhile_run name.chars stops, same, takeWhile_run (chars_of_spelled small spelled) ends]
  exact unreserved ⟨first, reserved, own ▸ spelled⟩

/-- A part that starts with a quoted name is no constraint. -/
theorem constraint_of_quote (quote : c ∈ ['"', '[', '`']) (rest : Text) :
    isConstraint (c :: rest) = false := by
  simp only [List.mem_cons, List.not_mem_nil, or_false] at quote
  rcases quote with rfl | rfl | rfl <;> rfl

/-! ### Definitions -/

/-- A part that is no constraint is a column where a column is read, or its length has too many digits. -/
private theorem part_of_column (free : isConstraint text = false)
    (found : column? text = some (name, sqlType, digits)) :
    part text =
      if digits.length ≤ digitLimit then .ok (.column (definition text name sqlType (digitsValue digits)))
      else .error (.conversion (.tooManyDigits digits.length)) := by
  simp only [part, free, Bool.false_eq_true, ↓reduceIte, found]
  cases digits with
  | nil => rfl
  | cons c digits =>
    rw [List.isEmpty_cons, if_neg Bool.false_ne_true, Integer.ofDigits]
    split_ifs with long short
    · omega
    · rfl
    · rfl
    · omega

/-- A part is a column exactly where it is no constraint and starts with a name, blanks and a type, and the
length behind the type has not too many digits. -/
theorem part_iff {read : Definition} : part text = .ok (.column read) ↔ isConstraint text = false ∧
    ∃ name sqlType rest, Headed text name sqlType rest ∧ (lengthOf rest).length ≤ digitLimit ∧
      read = definition text name sqlType (digitsValue (lengthOf rest)) := by
  constructor
  · intro parsed
    cases constraint : isConstraint text with
    | true =>
      rw [part, if_pos constraint] at parsed
      split at parsed <;> cases parsed
    | false =>
      cases found : column? text with
      | none => simp [part, constraint, found] at parsed
      | some column =>
        obtain ⟨name, sqlType, digits⟩ := column
        obtain ⟨rest, headed, rfl⟩ := column_iff.mp found
        rw [part_of_column constraint found] at parsed
        split_ifs at parsed with short
        cases parsed
        exact ⟨rfl, name, sqlType, rest, headed, short, rfl⟩
  · rintro ⟨free, name, sqlType, rest, headed, short, rfl⟩
    rw [part_of_column free (column_iff.mpr ⟨rest, headed, rfl⟩), if_pos short]

/-- The length of a column has too many digits. -/
theorem part_long (free : isConstraint text = false) (headed : Headed text name sqlType rest)
    (long : digitLimit < (lengthOf rest).length) :
    part text = .error (.conversion (.tooManyDigits (lengthOf rest).length)) := by
  rw [part_of_column free (column_iff.mpr ⟨rest, headed, rfl⟩), if_neg (Nat.not_le_of_lt long)]

end TableGate.ColumnParts
