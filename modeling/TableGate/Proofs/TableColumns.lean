import TableGate.Proofs.ColumnParts

/-! The columns that a statement declares are the fields of its table: each with its name, its type in
capitals, the kind of that type and, where fields of the type have a bound, the first number of its length.
How names are quoted, commas in lengths and whatever follows a type don't change that. -/
namespace TableGate.TableColumns
open BracketBalance BracketBlocks ColumnParts ConversionProblem CreateTable FilterWriting TableStatements Text

/-- The length of a type: one number in brackets, or two. -/
structure Length where
  digits : Text
  scale : Option Text := none
  filled : digits ≠ [] := by decide
  numeric : ∀ c ∈ digits, isDigit c = true := by decide
  scaled : ∀ more ∈ scale, ∀ c ∈ more, isDigit c = true := by decide

def Length.scaleText (length : Length) : Text :=
  match length.scale with
  | none => []
  | some more => ',' :: more

def Length.text (length : Length) : Text := block (length.digits ++ length.scaleText)

/-- What may follow a type and its length: nothing, or blanks and anything that starts with neither a blank
nor a bracket. -/
inductive Trailing : Text → Prop where
  | none : Trailing []
  | some (gap : Gap) (first : Char) (rest : Text) (apart : isBlank first = false) (other : first ≠ '(') :
      Trailing (gap.text ++ first :: rest)

/-- A column as a statement declares it. -/
structure Line where
  name : Identifier
  gap : Gap
  type : Word
  length : Option Length := none
  tail : Text := []
  trailing : Trailing tail := by exact .none
  enclosed : Sealed tail := by decide
  unreserved : name.quotes = .bare → ¬ Reserved name.word.text := by decide

namespace Line

def lengthText (line : Line) : Text :=
  match line.length with
  | none => []
  | some length => length.text

def digits (line : Line) : Text :=
  match line.length with
  | none => []
  | some length => length.digits

/-- A column up to its length. -/
def front (line : Line) : Text :=
  line.name.text ++ (line.gap.text ++ (line.type.text ++ line.lengthText))

def text (line : Line) : Text := line.front ++ line.tail

end Line

/-- The types whose fields have a kind of their own, and those whose fields have a bound. -/
def numberTypes : List Text := ["INTEGER", "INT", "REAL", "FLOAT", "DOUBLE", "NUMERIC", "DECIMAL"]

def dateTypes : List Text := ["DATETIME", "DATE"]

def boundedTypes : List Text := ["BLOB", "TEXT", "VARCHAR", "CHAR", "NVARCHAR", "CLOB"]

/-- The kind of the fields of a type. -/
def kindFor (datesAsString : Bool) (sqlType : Text) : Kind :=
  if sqlType ∈ numberTypes then .number
  else if sqlType = "BLOB" then .blob
  else if sqlType = "BOOLEAN" then .boolean
  else if sqlType ∈ dateTypes ∧ datesAsString = false then .dateTime
  else .string

/-- The first number of a length, where fields of the type have a bound. -/
def boundFor (sqlType digits : Text) : Nat := if sqlType ∈ boundedTypes then digitsValue digits else 0

/-- A field is the one that a column declares. -/
structure Declares (options : TableOptions) (line : Line) (field : Column) : Prop where
  name : field.name = line.name.word.text
  sqlType : field.sqlType = upper line.type.text
  kind : field.kind = kindFor options.useDatesAsString (upper line.type.text)
  maxLength : field.maxLength = boundFor (upper line.type.text) line.digits

variable {options : TableOptions} {line : Line} {text tail sqlType : Text} {c : Char}

/-! ### Kinds -/

private theorem ofList_eq {name : String} : String.ofList text = name ↔ text = name.toList := by
  constructor
  · rintro rfl
    exact String.toList_ofList.symm
  · rintro rfl
    exact String.ofList_toList

private theorem kind_read (datesAsString : Bool) (sqlType digits : Text) :
    kindOf datesAsString sqlType (digitsValue digits) =
      (kindFor datesAsString sqlType, boundFor sqlType digits) := by
  by_cases known : sqlType ∈ numberTypes ++ boundedTypes ++ dateTypes ++ [("BOOLEAN" : Text)]
  · simp only [numberTypes, boundedTypes, dateTypes, List.cons_append, List.nil_append, List.mem_cons,
      List.not_mem_nil, or_false] at known
    rcases known with rfl | rfl | rfl | rfl | rfl | rfl | rfl | rfl | rfl | rfl | rfl | rfl | rfl | rfl |
      rfl | rfl
    all_goals cases datesAsString <;> rfl
  · simp [numberTypes, boundedTypes, dateTypes] at known
    simp [kindOf, kindFor, boundFor, numberTypes, boundedTypes, dateTypes, ofList_eq, known]

/-! ### What stands in a column -/

/-- No digit is a blank. -/
private theorem blank_of_digit (digit : isDigit c = true) : isBlank c = false := by
  rw [← Bool.not_eq_true]
  intro blank
  rw [digit_of_blank blank] at digit
  cases digit

private theorem scale_stops (length : Length) (tail : Text) :
    Stops isDigit (length.scaleText ++ ')' :: tail) := by
  rw [Length.scaleText]
  split
  · exact stops_cons (by decide)
  · exact stops_cons (by decide)

private theorem length_read (length : Length) (tail : Text) :
    lengthOf (length.text ++ tail) = length.digits := by
  have stops := scale_stops length tail
  have start : Stops isBlank (length.digits ++ (length.scaleText ++ ')' :: tail)) := by
    refine stops_append length.filled fun c starts => ?_
    exact blank_of_digit (length.numeric c (List.mem_of_mem_head? starts))
  have opened : length.text ++ tail = '(' :: (length.digits ++ (length.scaleText ++ ')' :: tail)) := by
    simp [Length.text, block]
  have passed : dropBlanks (length.digits ++ (length.scaleText ++ ')' :: tail)) =
      length.digits ++ (length.scaleText ++ ')' :: tail) := dropWhile_stops start
  have first : dropBlanks ('(' :: (length.digits ++ (length.scaleText ++ ')' :: tail))) =
      '(' :: (length.digits ++ (length.scaleText ++ ')' :: tail)) := rfl
  have closed : dropBlanks (')' :: tail) = ')' :: tail := rfl
  have digit : (')' :: tail).dropWhile isDigit = ')' :: tail := rfl
  rw [lengthOf, lengthDigits?, opened, first]
  simp only [passed, takeWhile_run length.numeric stops, dropWhile_run length.numeric stops]
  cases scale : length.scale with
  | none => simp [Length.scaleText, scale, closed, digit, length.filled]
  | some more =>
    have numeric := length.scaled more scale
    have ends : (more ++ ')' :: tail).dropWhile isDigit = ')' :: tail :=
      dropWhile_run numeric (stops_cons (by decide))
    have kept : dropBlanks (more ++ ')' :: tail) = more ++ ')' :: tail := by
      refine dropWhile_stops fun c starts => ?_
      cases more with
      | nil =>
        cases starts
        decide
      | cons first others =>
        cases starts
        exact blank_of_digit (numeric c List.mem_cons_self)
    have cut : dropBlanks (',' :: (more ++ ')' :: tail)) = ',' :: (more ++ ')' :: tail) := rfl
    simp [Length.scaleText, scale, cut, kept, ends, closed, length.filled]

private theorem trailing_stops (trailing : Trailing tail) : Stops isWord tail := by
  cases trailing with
  | none => exact nofun
  | some gap first rest => exact gap_stops gap

private theorem trailing_unread (trailing : Trailing tail) : lengthOf tail = [] := by
  cases trailing with
  | none => rfl
  | some gap first rest apart other =>
    have passed : dropBlanks (gap.text ++ first :: rest) = first :: rest :=
      dropWhile_run gap.blank (stops_cons apart)
    rw [lengthOf, lengthDigits?, passed]
    simp [other]

private theorem digits_read (line : Line) (trailing : Trailing tail) :
    lengthOf (line.lengthText ++ tail) = line.digits := by
  unfold Line.lengthText Line.digits
  split
  · exact trailing_unread trailing
  · exact length_read _ tail

private theorem length_stops (line : Line) (trailing : Trailing tail) :
    Stops isWord (line.lengthText ++ tail) := by
  unfold Line.lengthText
  split
  · exact trailing_stops trailing
  · exact stops_cons (by decide)

private theorem line_headed (line : Line) (trailing : Trailing tail) :
    Headed (line.front ++ tail) line.name.word.text line.type.text (line.lengthText ++ tail) := by
  obtain ⟨opens, closes⟩ :
      line.name.quotes.opening ∈ openings ∧ line.name.quotes.closing ∈ closings := by
    cases line.name.quotes <;> decide
  have shape : line.front ++ tail = line.name.quotes.opening ++ (line.name.word.text ++
      (line.name.quotes.closing ++ (line.gap.text ++ (line.type.text ++ (line.lengthText ++ tail))))) := by
    simp only [Line.front, Identifier.text, List.append_assoc]
  rw [shape]
  exact .intro _ _ _ _ _ _ opens closes (length_stops line trailing)

private theorem line_unconstrained (line : Line) (tail : Text) : isConstraint (line.front ++ tail) = false := by
  have unreserved := line.unreserved
  simp only [Line.front, Identifier.text, List.append_assoc]
  cases quotes : line.name.quotes with
  | bare => exact constraint_of_name line.name.word (gap_stops line.gap) (unreserved quotes)
  | double | square | back => exact constraint_of_quote (by decide) _

/-! ### Blanks behind a column -/

private theorem line_starts (line : Line) (tail : Text) :
    Stops isBlank (line.front ++ tail) ∧ line.front ++ tail ≠ [] := by
  obtain ⟨stops, filled⟩ := identifier_stops line.name
  have some : line.front ≠ [] := by simp [Line.front, filled]
  exact ⟨stops_append some (stops_append filled stops), by simp [some]⟩

private theorem line_ends (line : Line) : Stops isBlank line.front.reverse := by
  simp only [Line.front, Line.lengthText, List.reverse_append, List.append_assoc]
  split
  · rw [List.reverse_nil, List.nil_append]
    exact stops_append (by simp [line.type.filled]) (word_ends line.type)
  · rw [Length.text, block, List.reverse_append]
    exact stops_cons (by decide)

/-- Where blanks are stripped behind a column, no more than the tail gets shorter. -/
private theorem front_stripped (line : Line) (trailing : Trailing tail) :
    ∃ kept, Trailing kept ∧ strip (line.front ++ tail) = line.front ++ kept := by
  cases trailing with
  | none =>
    rw [List.append_nil]
    obtain ⟨starts, -⟩ := line_starts line []
    rw [List.append_nil] at starts
    exact ⟨[], .none, by rw [List.append_nil, strip_self starts (line_ends line)]⟩
  | some gap first rest apart other =>
    obtain ⟨starts, -⟩ := line_starts line (gap.text ++ first :: rest)
    rw [← List.append_assoc] at starts ⊢
    obtain ⟨kept, stripped⟩ := strip_kept starts apart
    exact ⟨gap.text ++ first :: kept, .some gap first kept apart other, by rw [stripped, List.append_assoc]⟩

private theorem length_sealed (length : Length) : Sealed length.text := by
  have numeric {digits : Text} (all : ∀ c ∈ digits, isDigit c = true) : Balanced digits :=
    (sealed_of_class (by decide) all).balanced
  have comma : Balanced [','] := balanced_free (by simp [Free, Filter.depthStep])
  refine sealed_block ((balanced_behind (numeric length.numeric)).mpr ?_)
  rw [Length.scaleText]
  split
  · exact balanced_free (List.forall_mem_nil _)
  · rename_i more scale
    exact (balanced_behind comma).mpr (numeric (length.scaled more scale))

private theorem line_sealed (line : Line) : Sealed line.text := by
  have name : Sealed line.name.text := by
    obtain ⟨opens, closes⟩ : Sealed line.name.quotes.opening ∧ Sealed line.name.quotes.closing := by
      cases line.name.quotes <;> decide
    exact sealed_append opens (sealed_append (sealed_word _) closes)
  have length : Sealed line.lengthText := by
    unfold Line.lengthText
    split
    · decide
    · exact length_sealed _
  exact sealed_append (sealed_append name (sealed_append (sealed_blank line.gap.blank)
    (sealed_append (sealed_word _) length))) line.enclosed

/-! ### Fields -/

/-- A column as it is read: no constraint, but a name, blanks, a type and its length. -/
private theorem line_read (line : Line) : isConstraint (strip line.text) = false ∧
    ∃ rest, Headed (strip line.text) line.name.word.text line.type.text rest ∧
      lengthOf rest = line.digits := by
  obtain ⟨kept, trailing, stripped⟩ := front_stripped line line.trailing
  have text : strip line.text = line.front ++ kept := stripped
  rw [text]
  exact ⟨line_unconstrained line kept, _, line_headed line trailing, digits_read line trailing⟩

/-- What is read of a column whose length has not too many digits. -/
private def read (line : Line) : Definition :=
  definition (strip line.text) line.name.word.text line.type.text (digitsValue line.digits)

private theorem part_of_line (line : Line) (short : line.digits.length ≤ digitLimit) :
    part (strip line.text) = .ok (.column (read line)) := by
  obtain ⟨unconstrained, rest, headed, digits⟩ := line_read line
  rw [part_iff, read]
  rw [← digits] at short ⊢
  exact ⟨unconstrained, _, _, rest, headed, short, rfl⟩

private theorem each_line (lines : List Line) :
    ∀ text ∈ lines.map Line.text, Sealed text ∧ text ≠ [] ∧ Stops isBlank text := by
  rw [List.forall_mem_map]
  intro line _
  obtain ⟨starts, filled⟩ := line_starts line line.tail
  exact ⟨line_sealed line, filled, starts⟩

private theorem served_all {fields : List Column}
    (included : ∀ field ∈ fields, options.includes field.name = true) :
    served options fields = .ok fields := by
  induction fields with
  | nil => rfl
  | cons field fields ih =>
    obtain ⟨own, others⟩ := List.forall_mem_cons.mp included
    rw [served, if_pos own, ih others]
    rfl

private theorem declared (options : TableOptions) (line : Line) :
    Declares options line (field options [] [] (read line)) where
  name := rfl
  sqlType := rfl
  kind := congrArg Prod.fst (kind_read _ _ _)
  maxLength := congrArg Prod.snd (kind_read options.useDatesAsString _ _)

/-- **Columns are recovered.** The fields of a table are the columns that its statement declares, in that
order, however names are quoted and whatever follows the types; lengths have as many digits as numbers may
have. -/
theorem columns_recovered (options : TableOptions) (table : Identifier) {lines : List Line} {pieces : List Text}
    (padded : List.Forall₂ Padded (lines.map Line.text) pieces)
    (short : ∀ line ∈ lines, line.digits.length ≤ digitLimit)
    (included : ∀ line ∈ lines, options.includes line.name.word.text = true) :
    ∃ fields, columns options (statement table pieces) = .ok fields ∧
      List.Forall₂ (Declares options) lines fields := by
  have parts : (lines.map Line.text).mapM (fun text => part (strip text)) =
      .ok (lines.map fun line => .column (read line)) := by
    rw [Fallible.mapM_eq_ok_iff, List.forall₂_map_left_iff, List.forall₂_map_right_iff, List.forall₂_same]
    intro line member
    exact part_of_line line (short line member)
  obtain ⟨defined, primary, foreign⟩ := column_parts read lines
  refine ⟨lines.map fun line => field options [] [] (read line), ?_, ?_⟩
  · rw [columns_read options table padded (each_line lines), parts]
    have all : served options (lines.map fun line => field options [] [] (read line)) = .ok _ :=
      served_all (List.forall_mem_map.mpr included)
    rw [← all]
    simp only [bind, Except.bind, defined, primary, foreign, List.map_map]
    rfl
  · rw [List.forall₂_map_right_iff, List.forall₂_same]
    exact fun line _ => declared options line

/-- The columns of a table of albums. -/
def albumLines : List Line :=
  [{ name := { word := .mk "id", quotes := .double }, gap := .space, type := .mk "integer"
     tail := " PRIMARY KEY", trailing := .some .space 'P' "RIMARY KEY" (by decide) (by decide) },
   { name := { word := .mk "title", quotes := .square }, gap := .mk "  ", type := .mk "NVARCHAR"
     length := some { digits := "160" }, tail := " CHECK (title IN ('a', 'b'))"
     trailing := .some .space 'C' "HECK (title IN ('a', 'b'))" (by decide) (by decide) },
   { name := { word := .mk "price" }, gap := .space, type := .mk "DECIMAL"
     length := some { digits := "10", scale := some "2" } }]

/-- The text of that table, one column a line. -/
def albumPieces : List Text :=
  ["\n  \"id\" integer PRIMARY KEY", "\n  [title]  NVARCHAR(160) CHECK (title IN ('a', 'b'))",
    "\n  price DECIMAL(10,2)\n"]

def albumOptions : TableOptions := { tableName := "albums" }

theorem album_columns_recovered :
    (List.Forall₂ Padded (albumLines.map Line.text) albumPieces ∧
      (∀ line ∈ albumLines, line.digits.length ≤ digitLimit) ∧
        ∀ line ∈ albumLines, albumOptions.includes line.name.word.text = true) ∧
      ∃ fields, columns albumOptions (statement { word := .mk "albums", quotes := .back } albumPieces) =
          .ok fields ∧
        List.Forall₂ (Declares albumOptions) albumLines fields := by
  have padded : List.Forall₂ Padded (albumLines.map Line.text) albumPieces := by
    refine .cons ⟨"\n  ", [], by decide, by decide, by decide⟩ ?_
    refine .cons ⟨"\n  ", [], by decide, by decide, by decide⟩ ?_
    exact .cons ⟨"\n  ", "\n", by decide, by decide, by decide⟩ .nil
  have short : ∀ line ∈ albumLines, line.digits.length ≤ digitLimit := by decide
  have included : ∀ line ∈ albumLines, albumOptions.includes line.name.word.text = true := by decide
  exact ⟨⟨padded, short, included⟩, columns_recovered _ _ padded short included⟩

/-! ### Lengths with too many digits -/

/-- A column whose length has too many digits makes the statement unreadable. -/
theorem length_refused (options : TableOptions) (table : Identifier) (line : Line)
    (long : digitLimit < line.digits.length) :
    columns options (statement table [line.text]) =
      .error (.conversion (.tooManyDigits line.digits.length)) := by
  have padded : List.Forall₂ Padded [line.text] [line.text] := .cons ⟨[], [], nofun, nofun, by simp⟩ .nil
  obtain ⟨unconstrained, rest, headed, digits⟩ := line_read line
  have refused := part_long unconstrained headed (by rwa [digits])
  rw [columns_read options table padded (each_line [line]), List.mapM_cons, refused, digits]
  rfl

/-- A column with a length of 4301 digits. -/
def longLine : Line where
  name := { word := .mk "n" }
  gap := .space
  type := .mk "NUMERIC"
  length := some {
    digits := List.replicate 4301 '1'
    filled := List.cons_ne_nil _ _
    numeric := fun c member => by rw [List.eq_of_mem_replicate member]; rfl }

/-- Columns with lengths that are too long make a statement unreadable, and names that are constraint words
only when case is ignored are not recovered. -/
theorem long_length_refused :
    columns { tableName := "t" } (statement { word := .mk "t" } [longLine.text]) =
      .error (.conversion (.tooManyDigits (some 4301))) ∧
    columns { tableName := "t" } (statement { word := .mk "t" } ["CONſTRAINT TEXT"]) = .ok [] := by
  constructor
  · have digits : longLine.digits.length = 4301 := List.length_replicate
    rw [length_refused _ _ _ (by rw [digits]; decide), digits]
  · decide +kernel

end TableGate.TableColumns
