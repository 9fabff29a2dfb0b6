import TableGate.Proofs.BracketBlocks
import TableGate.Proofs.QueryFaults
import TableGate.Table.CreateTable

/-! Statements that create a table, put together from their parts. Where no part has a comma outside of
brackets and all brackets are closed, the body is cut at the commas between the parts and nowhere else, and
blanks around a part don't count. A part is a column where it starts with a name, blanks and a type. -/
namespace TableGate.TableStatements
open BracketBalance BracketBlocks CreateTable FilterWriting QueryFaults Text TextFacts
open TableGate.Filter (depthStep)

/-- A name or a type: word characters, of which there is at least one. -/
structure Word where
  text : Text
  filled : text ≠ [] := by decide
  chars : ∀ c ∈ text, isWord c = true := by decide

/-- Blanks, of which there is at least one. -/
structure Gap where
  text : Text
  filled : text ≠ [] := by decide
  blank : ∀ c ∈ text, isBlank c = true := by decide

def Gap.space : Gap := .mk " "

/-- How a name is quoted. -/
inductive Quotes where
  | bare | double | square | back
  deriving DecidableEq

namespace Quotes

def opening : Quotes → Text
  | bare => []
  | double => "\""
  | square => "["
  | back => ['`']

def closing : Quotes → Text
  | bare => []
  | double => "\""
  | square => "]"
  | back => ['`']

end Quotes

/-- A name as a statement has it. -/
structure Identifier where
  word : Word
  quotes : Quotes := .bare

def Identifier.text (name : Identifier) : Text :=
  name.quotes.opening ++ (name.word.text ++ name.quotes.closing)

/-- A text whose brackets are balanced, with no comma outside of them. -/
structure Sealed (text : Text) : Prop where
  balanced : Balanced text
  commas : ∀ front rest, text = front ++ ',' :: rest → front.count ')' < front.count '('

/-- A text with blanks around it. -/
def Padded (text piece : Text) : Prop :=
  ∃ before after, (∀ c ∈ before, isBlank c = true) ∧ (∀ c ∈ after, isBlank c = true) ∧
    piece = before ++ (text ++ after)

/-- The statement that creates a table, of the parts of its body. -/
def statement (table : Identifier) (pieces : List Text) : Text :=
  "CREATE TABLE " ++ (table.text ++ (" (" ++ (join "," pieces ++ ")")))

/-- A text does not go on with a character of a class. -/
def Stops (p : Char → Bool) (rest : Text) : Prop := ∀ c ∈ rest.head?, p c = false

/-- The names that the key constraints of a statement list. -/
def primaryKeys (parts : List Part) : List Text :=
  parts.flatMap fun
    | .primaryKey names => names
    | _ => []

def foreignKeys (parts : List Part) : List Text :=
  parts.flatMap fun
    | .foreignKey names => names
    | _ => []

/-- The columns of a statement. -/
def definitions (parts : List Part) : List Definition :=
  parts.filterMap fun
    | .column definition => some definition
    | _ => none

variable {p : Char → Bool} {run rest text piece : Text} {c : Char} {start : Int}

/-! ### Parts of a statement -/

theorem mem_definitions {parts : List Part} {column : Definition} :
    column ∈ definitions parts ↔ .column column ∈ parts := by
  rw [definitions, List.mem_filterMap]
  constructor
  · rintro ⟨part, member, found⟩
    split at found <;> cases found
    exact member
  · intro member
    exact ⟨_, member, rfl⟩

theorem definitions_append (parts others : List Part) :
    definitions (parts ++ others) = definitions parts ++ definitions others :=
  List.filterMap_append

theorem primaryKeys_append (parts others : List Part) :
    primaryKeys (parts ++ others) = primaryKeys parts ++ primaryKeys others :=
  List.flatMap_append

theorem foreignKeys_append (parts others : List Part) :
    foreignKeys (parts ++ others) = foreignKeys parts ++ foreignKeys others :=
  List.flatMap_append

/-- Columns have definitions and list no keys. -/
theorem column_parts {α : Type} (read : α → Definition) (items : List α) :
    definitions (items.map fun item => .column (read item)) = items.map read ∧
      primaryKeys (items.map fun item => .column (read item)) = [] ∧
      foreignKeys (items.map fun item => .column (read item)) = [] := by
  simp [definitions, primaryKeys, foreignKeys, List.filterMap_map]

/-! ### Runs of a class -/

theorem stops_cons (apart : p c = false) : Stops p (c :: rest) := by
  rintro d ⟨⟩
  exact apart

/-- A character that is not of the class is not in a run of it. -/
theorem not_mem_of_class (all : ∀ c ∈ run, p c = true) (other : p c = false) : c ∉ run := by
  intro member
  rw [all c member] at other
  cases other

theorem takeWhile_run (all : ∀ c ∈ run, p c = true) (stops : Stops p rest) :
    (run ++ rest).takeWhile p = run := by
  rw [List.takeWhile_append_of_pos all]
  cases rest with
  | nil => rw [List.takeWhile_nil, List.append_nil]
  | cons c rest => rw [List.takeWhile_cons_of_neg (by simp [stops c rfl]), List.append_nil]

theorem dropWhile_stops (stops : Stops p text) : text.dropWhile p = text := by
  cases text with
  | nil => rfl
  | cons c text => exact List.dropWhile_cons_of_neg (by simp [stops c rfl])

theorem dropWhile_run (all : ∀ c ∈ run, p c = true) (stops : Stops p rest) :
    (run ++ rest).dropWhile p = rest := by
  rw [List.dropWhile_append_of_pos all, dropWhile_stops stops]

/-- The code points of the blanks, run by run: the first one and how many there are. -/
def blankRuns : List (Nat × Nat) :=
  [(9, 5), (28, 5), (0x85, 1), (0xA0, 1), (0x1680, 1), (0x2000, 11), (0x2028, 2), (0x202F, 1), (0x205F, 1),
    (0x3000, 1)]

/-- A property of all blanks is checked run by run. -/
theorem each_blank {P : Char → Prop}
    (checked : ∀ run ∈ blankRuns, ∀ n ∈ List.range' run.1 run.2, P (Char.ofNat n))
    (blank : isBlank c = true) : P c := by
  have listed : ∃ run ∈ blankRuns, c.toNat ∈ List.range' run.1 run.2 := by
    simp only [isBlank, Bool.or_eq_true, Bool.and_eq_true, decide_eq_true_eq, beq_iff_eq] at blank
    simp only [blankRuns, List.mem_cons, List.not_mem_nil, or_false, exists_eq_or_imp, exists_eq_left,
      List.mem_range'_1]
    omega
  obtain ⟨run, among, inside⟩ := listed
  have own := checked run among _ inside
  rwa [Char.ofNat_toNat] at own

theorem word_of_blank (blank : isBlank c = true) : isWord c = false :=
  each_blank (P := fun c => isWord c = false) (by decide +kernel) blank

theorem digit_of_blank (blank : isBlank c = true) : isDigit c = false :=
  each_blank (P := fun c => isDigit c = false) (by decide +kernel) blank

/-- No word character is a blank. -/
theorem blank_of_word (word : isWord c = true) : isBlank c = false := by
  rw [← Bool.not_eq_true]
  intro blank
  rw [word_of_blank blank] at word
  cases word

/-! ### Sealed texts -/

/-- Read from inside `start` brackets on, a text has no comma outside of brackets. -/
def Uncut : Int → Text → Prop
  | _, [] => True
  | start, c :: text => (c = ',' → start ≠ 0) ∧ Uncut (start + depthStep c) text

theorem uncut_append :
    Uncut start (text ++ rest) ↔ Uncut start text ∧ Uncut (start + depth text) rest := by
  induction text generalizing start with
  | nil => simp [Uncut, depth]
  | cons c text ih => simp only [List.cons_append, Uncut, depth, ih, and_assoc, Int.add_assoc]

theorem uncut_iff :
    Uncut start text ↔ ∀ front rest, text = front ++ ',' :: rest → start + depth front ≠ 0 := by
  induction text generalizing start with
  | nil => simp [Uncut]
  | cons c text ih =>
    rw [Uncut, ih]
    constructor
    · rintro ⟨now, later⟩ front rest same
      cases front with
      | nil =>
        cases same
        simpa [depth] using now rfl
      | cons d front =>
        cases same
        have := later front rest rfl
        rwa [depth, ← Int.add_assoc]
    · intro all
      refine ⟨?_, ?_⟩
      · rintro rfl
        simpa [depth] using all [] text rfl
      · rintro front rest rfl
        have := all (c :: front) rest rfl
        rwa [depth, ← Int.add_assoc] at this

theorem sealed_iff : Sealed text ↔ (Above 0 text ∧ depth text = 0) ∧ Uncut 0 text := by
  have inside (balanced : Balanced text) :
      (∀ front rest, text = front ++ ',' :: rest → front.count ')' < front.count '(') ↔ Uncut 0 text := by
    rw [uncut_iff]
    refine forall_congr' fun front => forall_congr' fun rest => forall_congr' fun same => ?_
    have opened := balanced.opened front ⟨',' :: rest, same.symm⟩
    rw [depth_count]
    omega
  rw [← balanced_iff]
  constructor
  · intro enclosed
    exact ⟨enclosed.balanced, (inside enclosed.balanced).mp enclosed.commas⟩
  · rintro ⟨balanced, uncut⟩
    exact ⟨balanced, (inside balanced).mpr uncut⟩

instance decidableAbove : (start : Int) → (text : Text) → Decidable (Above start text)
  | start, [] => inferInstanceAs (Decidable (0 ≤ start))
  | start, c :: text => @instDecidableAnd _ _ _ (decidableAbove (start + depthStep c) text)

instance decidableUncut : (start : Int) → (text : Text) → Decidable (Uncut start text)
  | _, [] => isTrue trivial
  | start, c :: text => @instDecidableAnd _ _ _ (decidableUncut (start + depthStep c) text)

instance : DecidablePred Sealed := fun _ => decidable_of_iff _ sealed_iff.symm

theorem sealed_append (first : Sealed text) (second : Sealed rest) : Sealed (text ++ rest) := by
  rw [sealed_iff, above_append, depth_append, uncut_append] at *
  obtain ⟨⟨above, level⟩, uncut⟩ := first
  obtain ⟨⟨aboveRest, levelRest⟩, uncutRest⟩ := second
  simp only [level, Int.zero_add]
  exact ⟨⟨⟨above, aboveRest⟩, levelRest⟩, uncut, uncutRest⟩

theorem sealed_free (free : Free text) (single : ',' ∉ text) : Sealed text := by
  refine ⟨balanced_free free, fun front rest same => absurd ?_ single⟩
  rw [same]
  simp

/-- Characters of a class that has neither brackets nor commas. -/
theorem sealed_of_class (apart : ∀ c ∈ [',', '(', ')'], p c = false) (all : ∀ c ∈ text, p c = true) :
    Sealed text := by
  have other {mark : Char} (among : mark ∈ [',', '(', ')']) : mark ∉ text :=
    not_mem_of_class all (apart mark among)
  exact sealed_free (free_iff.mpr ⟨other (by decide), other (by decide)⟩) (other (by decide))

/-- In brackets there may be commas. -/
theorem sealed_block (balanced : Balanced text) : Sealed (block text) := by
  refine ⟨balanced_block balanced, fun front rest same => ?_⟩
  have opened : front ≠ [] := by
    rintro rfl
    cases same
  have proper : front ≠ block text := by
    rintro rfl
    simp at same
  have inside := block_inside balanced ⟨',' :: rest, same.symm⟩ opened proper
  rw [depth_count] at inside
  omega

/-! ### Cutting the body -/

/-- A part without commas outside of brackets is passed as a whole. -/
private theorem pieces_uncut (uncut : Uncut start text) (current : Text) :
    piecesOutsideBrackets '(' ')' ',' start current (text ++ rest) =
      piecesOutsideBrackets '(' ')' ',' (start + depth text) (text.reverse ++ current) rest := by
  induction text generalizing start current with
  | nil => simp [depth]
  | cons c text ih =>
    obtain ⟨now, later⟩ := uncut
    have passed := ih later (c :: current)
    rw [List.cons_append, piecesOutsideBrackets, depth, List.reverse_cons, List.append_assoc,
      List.singleton_append, ← Int.add_assoc, ← passed]
    unfold depthStep
    split_ifs with opening closing cut
    · rfl
    · rfl
    · exact absurd cut.2 (now cut.1)
    · rw [Int.add_zero]

/-- The body is cut at the commas between its parts. -/
theorem split_join {pieces : List Text} (each : ∀ piece ∈ pieces, Sealed piece ∧ piece ≠ []) :
    splitOutsideBrackets '(' ')' ',' (join "," pieces) = pieces := by
  induction pieces with
  | nil => rfl
  | cons piece pieces ih =>
    obtain ⟨⟨enclosed, filled⟩, others⟩ := List.forall_mem_cons.mp each
    obtain ⟨⟨-, level⟩, uncut⟩ := sealed_iff.mp enclosed
    cases pieces with
    | nil =>
      have whole : piecesOutsideBrackets '(' ')' ',' 0 [] (piece ++ []) = _ := pieces_uncut uncut []
      rw [level] at whole
      simpa [splitOutsideBrackets, join, piecesOutsideBrackets, filled] using whole
    | cons next pieces =>
      have tail := ih others
      rw [splitOutsideBrackets] at tail
      rw [join, splitOutsideBrackets, List.append_assoc, pieces_uncut uncut, level]
      simpa [piecesOutsideBrackets] using tail

/-! ### Blanks around parts -/

theorem stops_append (filled : text ≠ []) (stops : Stops p text) : Stops p (text ++ rest) := by
  cases text with
  | nil => exact absurd rfl filled
  | cons c text => exact stops_cons (stops c rfl)

theorem trim_self (front : Stops p text) (back : Stops p text.reverse) : trim p text = text := by
  rw [trim, dropWhile_stops front, dropWhile_stops back, List.reverse_reverse]

theorem strip_self (front : Stops isBlank text) (back : Stops isBlank text.reverse) : strip text = text :=
  trim_self front back

/-- Nothing is stripped up to a character that is no blank. -/
theorem strip_kept {front : Text} (starts : Stops isBlank (front ++ c :: rest)) (other : isBlank c = false) :
    ∃ kept, strip (front ++ c :: rest) = front ++ c :: kept := by
  have last : (c :: front.reverse).dropWhile isBlank = c :: front.reverse := dropWhile_stops (stops_cons other)
  rw [strip, trim, dropWhile_stops starts, List.reverse_append, List.reverse_cons, List.append_assoc,
    List.singleton_append, List.dropWhile_append]
  split
  · exact ⟨[], by simp [last]⟩
  · exact ⟨(rest.reverse.dropWhile isBlank).reverse, by simp⟩

/-- Blanks around a part are stripped like those that it ends with. -/
theorem strip_padded (filled : text ≠ []) (front : Stops isBlank text) (padded : Padded text piece) :
    strip piece = strip text := by
  obtain ⟨before, after, blankBefore, blankAfter, rfl⟩ := padded
  rw [strip, strip, trim, trim, dropWhile_run blankBefore (stops_append filled front), dropWhile_stops front,
    List.reverse_append, List.dropWhile_append_of_pos fun c member => blankAfter c (List.mem_reverse.mp member)]

theorem sealed_blank (blank : ∀ c ∈ text, isBlank c = true) : Sealed text :=
  sealed_of_class (by decide) blank

theorem sealed_word (word : Word) : Sealed word.text :=
  sealed_of_class (by decide) word.chars

theorem sealed_padded (enclosed : Sealed text) (padded : Padded text piece) : Sealed piece := by
  obtain ⟨before, after, blankBefore, blankAfter, rfl⟩ := padded
  exact sealed_append (sealed_blank blankBefore) (sealed_append enclosed (sealed_blank blankAfter))

/-! ### Reading a statement -/

theorem word_stops (word : Word) : Stops isBlank word.text := by
  intro c starts
  exact blank_of_word (word.chars c (List.mem_of_mem_head? starts))

theorem word_ends (word : Word) : Stops isBlank word.text.reverse := by
  intro c starts
  exact blank_of_word (word.chars c (List.mem_reverse.mp (List.mem_of_mem_head? starts)))

theorem gap_stops (gap : Gap) : Stops isWord (gap.text ++ rest) := by
  refine stops_append gap.filled fun c starts => ?_
  exact word_of_blank (gap.blank c (List.mem_of_mem_head? starts))

theorem identifier_stops (name : Identifier) : Stops isBlank name.text ∧ name.text ≠ [] := by
  obtain ⟨word, quotes⟩ := name
  cases quotes with
  | bare =>
    have own : (⟨word, .bare⟩ : Identifier).text = word.text := List.append_nil _
    rw [own]
    exact ⟨word_stops word, word.filled⟩
  | double | square | back => exact ⟨stops_cons (by decide), List.cons_ne_nil _ _⟩

/-- What follows the name of a table. -/
private theorem tableName_dropped (table : Identifier) (rest : Text) :
    dropTableName? (table.text ++ (' ' :: rest)) = some (' ' :: rest) := by
  obtain ⟨word, quotes⟩ := table
  have closes (mark : Char) (apart : isWord mark = false) :
      closed? mark (word.text ++ mark :: ' ' :: rest) = some (' ' :: rest) := by
    have other : ∀ c ∈ word.text, decide (c ≠ mark) = true := by
      intro c member
      rw [decide_eq_true_eq]
      rintro rfl
      exact not_mem_of_class word.chars apart member
    have stops : Stops (fun c => decide (c ≠ mark)) (mark :: ' ' :: rest) := stops_cons (by simp)
    obtain ⟨first, others, shape⟩ := List.exists_cons_of_ne_nil word.filled
    rw [closed?, takeWhile_run other stops, dropWhile_run other stops, shape]
  cases quotes with
  | double =>
    simpa [Identifier.text, Quotes.opening, Quotes.closing, dropTableName?] using closes '"' (by decide)
  | square =>
    simpa [Identifier.text, Quotes.opening, Quotes.closing, dropTableName?] using closes ']' (by decide)
  | back =>
    simpa [Identifier.text, Quotes.opening, Quotes.closing, dropTableName?] using closes '`' (by decide)
  | bare =>
    have stops : Stops isWord (' ' :: rest) := stops_cons (by decide)
    have own : (⟨word, .bare⟩ : Identifier).text = word.text := List.append_nil _
    obtain ⟨first, others, shape⟩ := List.exists_cons_of_ne_nil word.filled
    have starts : isWord first = true := word.chars first (by rw [shape]; exact List.mem_cons_self)
    have taken := takeWhile_run word.chars stops
    have dropped := dropWhile_run word.chars stops
    rw [shape] at taken dropped
    rw [own, shape, dropTableName?.eq_def]
    split
    · rename_i same
      cases same
      cases starts
    · rename_i same
      cases same
      cases starts
    · rename_i same
      cases same
      cases starts
    · rw [taken, dropped]
      rfl

/-- No name is taken for the words that may stand in front of it. -/
private theorem tableName_no_option (table : Identifier) (rest : Text) :
    dropKeyword? "if not exists" (table.text ++ (' ' :: '(' :: rest)) = none := by
  obtain ⟨word, quotes⟩ := table
  cases quotes with
  | double | square | back => rfl
  | bare =>
    have own : (⟨word, .bare⟩ : Identifier).text = word.text := List.append_nil _
    have apart {c : Char} (word : isWord c = true) : isLetter ' ' c = false := by
      have other : c ≠ ' ' := by
        rintro rfl
        cases word
      have upper : ' '.toUpper = ' ' := by decide
      simp [isLetter, other, upper]
    have closing : isLetter 'f' ' ' = false ∧ isLetter 'n' '(' = false := by decide
    rw [own]
    have filled := word.filled
    have chars := word.chars
    generalize word.text = name at filled chars
    -- The third character of the option is a blank, which a name doesn't have, and a bracket follows one.
    rcases name with _ | ⟨first, _ | ⟨second, _ | ⟨third, others⟩⟩⟩
    · exact absurd rfl filled
    · simp [dropKeyword?, closing]
    · simp [dropKeyword?, closing]
    · simp [dropKeyword?, apart (chars third (by simp))]

/-- The body is read from the first bracket behind the name of the table to the last one of the text. -/
theorem body_read (table : Identifier) (inner : Text) :
    body? (strip ("CREATE TABLE " ++ (table.text ++ (" (" ++ (inner ++ ")"))))) = some (dropBlanks inner) := by
  have whole : strip ("CREATE TABLE " ++ (table.text ++ (" (" ++ (inner ++ ")")))) =
      "CREATE TABLE " ++ (table.text ++ (" (" ++ (inner ++ ")"))) := by
    refine strip_self (stops_cons (by decide)) ?_
    simp only [List.reverse_append, List.append_assoc]
    exact stops_cons (by decide)
  have named : dropKeyword? "create table" ("CREATE TABLE " ++ (table.text ++ (" (" ++ (inner ++ ")")))) =
      some (' ' :: (table.text ++ (' ' :: '(' :: (inner ++ ")")))) := rfl
  obtain ⟨front, filled⟩ := identifier_stops table
  have start : dropBlanks (table.text ++ (' ' :: '(' :: (inner ++ ")"))) =
      table.text ++ (' ' :: '(' :: (inner ++ ")")) := dropWhile_stops (stops_append filled front)
  have first : dropBlanks (' ' :: (table.text ++ (' ' :: '(' :: (inner ++ ")")))) =
      table.text ++ (' ' :: '(' :: (inner ++ ")")) := start
  have bracket : dropBlanks (' ' :: '(' :: (inner ++ ")")) = '(' :: (inner ++ ")") := rfl
  have last : (dropBlanks (inner ++ ")")).reverse = ')' :: (dropBlanks inner).reverse := by
    have kept : dropBlanks (inner ++ ")") = dropBlanks inner ++ ")" := by
      rw [dropBlanks, dropBlanks, List.dropWhile_append]
      split
      · rename_i empty
        rw [List.isEmpty_iff.mp empty]
        rfl
      · rfl
    rw [kept, List.reverse_append]
    rfl
  rw [whole, body?, named]
  simp only [Option.bind_eq_bind, Option.bind_some, first, tableName_no_option, Option.getD_none, start,
    tableName_dropped, bracket, last]
  rw [List.dropWhile_cons_of_neg (by simp), List.takeWhile_cons_of_neg (by simp)]
  simp only [List.reverse_nil, List.reverse_reverse]
  rfl

/-! ### The columns of a statement -/

/-- Blanks in front of the body belong to those around its first part. -/
private theorem body_padded {texts pieces : List Text} (padded : List.Forall₂ Padded texts pieces)
    (each : ∀ text ∈ texts, text ≠ [] ∧ Stops isBlank text) :
    ∃ others, dropBlanks (join "," pieces) = join "," others ∧ List.Forall₂ Padded texts others := by
  cases padded with
  | nil => exact ⟨[], rfl, .nil⟩
  | @cons text piece texts pieces first rest =>
    obtain ⟨before, after, blankBefore, blankAfter, rfl⟩ := first
    obtain ⟨filled, stops⟩ := each text List.mem_cons_self
    refine ⟨(text ++ after) :: pieces, ?_, .cons ⟨[], after, nofun, blankAfter, rfl⟩ rest⟩
    rw [join_cons, join_cons, dropBlanks, List.append_assoc before,
      dropWhile_run blankBefore (stops_append (by simp [filled]) (stops_append filled stops))]

private theorem parts_stripped {texts pieces : List Text} (padded : List.Forall₂ Padded texts pieces)
    (each : ∀ text ∈ texts, text ≠ [] ∧ Stops isBlank text) :
    pieces.mapM (fun piece => part (strip piece)) = texts.mapM fun text => part (strip text) := by
  induction padded with
  | nil => rfl
  | cons first _ ih =>
    obtain ⟨⟨filled, stops⟩, later⟩ := List.forall_mem_cons.mp each
    rw [List.mapM_cons, List.mapM_cons, ih later, strip_padded filled stops first]

/-- The parts of a statement are read one by one, whatever blanks stand around them. -/
theorem columns_read (options : TableOptions) (table : Identifier) {texts pieces : List Text}
    (padded : List.Forall₂ Padded texts pieces)
    (each : ∀ text ∈ texts, Sealed text ∧ text ≠ [] ∧ Stops isBlank text) :
    columns options (statement table pieces) = (texts.mapM fun text => part (strip text)) >>= fun parts =>
      served options ((definitions parts).map (field options (primaryKeys parts) (foreignKeys parts))) := by
  have starts : ∀ text ∈ texts, text ≠ [] ∧ Stops isBlank text :=
    fun text member => (each text member).2
  obtain ⟨others, body, around⟩ := body_padded padded starts
  have parts : ∀ piece ∈ others, Sealed piece ∧ piece ≠ [] := by
    intro piece member
    obtain ⟨text, among, own⟩ := (Fallible.partners around).2 piece member
    obtain ⟨enclosed, filled, -⟩ := each text among
    refine ⟨sealed_padded enclosed own, ?_⟩
    obtain ⟨before, after, -, -, rfl⟩ := own
    simp [filled]
  have filled : (statement table pieces).isEmpty = false := rfl
  have read : body? (strip (statement table pieces)) = some (join "," others) :=
    (body_read table (join "," pieces)).trans (congrArg some body)
  unfold columns
  rw [filled, read]
  simp only [Bool.false_eq_true, ↓reduceIte]
  rw [split_join parts, parts_stripped around starts]
  rfl

end TableGate.TableStatements
