import TableGate.Proofs.ColumnParts
import TableGate.Proofs.PatternSearch

/-! Columns with clauses behind their types. The words of a clause are looked for in the capitals of the whole
column, so they are found where the column has the clause, but also where they occur in its name, in its type
or in the name of what it refers to. -/
namespace TableGate.ColumnClauses
open BracketBalance BracketBlocks ColumnParts CreateTable FilterWriting PatternSearch TableStatements
open Text TextFacts

/-- The flags of a field. -/
inductive Flag where
  | primaryKey | foreignKey | autoIncrement | notNull
  deriving DecidableEq

namespace Flag

/-- The words that a column is searched for. -/
def phrase : Flag → Text
  | primaryKey => "PRIMARY KEY"
  | foreignKey => "REFERENCES"
  | autoIncrement => "AUTOINCREMENT"
  | notNull => "NOT NULL"

def isSet : Flag → Column → Bool
  | primaryKey, column => column.isPrimaryKey
  | foreignKey, column => column.isForeignKey
  | autoIncrement, column => column.isAutoIncrement
  | notNull, column => column.isNotNull

end Flag

/-- A clause behind the type of a column. -/
inductive Clause where
  | primaryKey | autoIncrement | notNull
  | references (table column : Word)

namespace Clause

def flag : Clause → Flag
  | primaryKey => .primaryKey
  | autoIncrement => .autoIncrement
  | notNull => .notNull
  | references _ _ => .foreignKey

def text : Clause → Text
  | primaryKey => "PRIMARY KEY"
  | autoIncrement => "AUTOINCREMENT"
  | notNull => "NOT NULL"
  | references table column => "REFERENCES " ++ (table.text ++ block column.text)

end Clause

/-- The text of clauses with the blanks in front of each. -/
def clausesText (clauses : List (Gap × Clause)) : Text :=
  clauses.flatMap fun (gap, clause) => gap.text ++ clause.text

/-- A column: its name, its type and its clauses. -/
structure Entry where
  name : Word
  gap : Gap := .space
  type : Word
  clauses : List (Gap × Clause) := []
  unreserved : ¬ Reserved name.text := by decide

namespace Entry

def heading (entry : Entry) : Text := entry.name.text ++ (entry.gap.text ++ entry.type.text)

def text (entry : Entry) : Text := entry.heading ++ clausesText entry.clauses

end Entry

/-- The words of a flag occur in a column outside of its clauses, or in what a clause refers to. -/
def Suggests (entry : Entry) (flag : Flag) : Prop :=
  flag.phrase <:+: upper entry.heading ∨
    ∃ gap table column, (gap, .references table column) ∈ entry.clauses ∧
      (flag.phrase <:+: upper table.text ∨ flag.phrase <:+: upper column.text)

variable {entry : Entry} {flag : Flag} {clauses : List (Gap × Clause)} {pattern front rest text word : Text}
  {c : Char}

/-! ### Capitals -/

private theorem upper_append (text rest : Text) : upper (text ++ rest) = upper text ++ upper rest :=
  List.flatMap_append

/-- The capitals of a word have no space. -/
private theorem space_of_word (word : Word) : ' ' ∉ upper word.text := by
  rw [upper, List.mem_flatMap]
  rintro ⟨c, member, space⟩
  have other : c ≠ ' ' := by
    rintro rfl
    exact not_mem_of_class word.chars (by decide) member
  revert space
  unfold upperChar
  split
  · rename_i ascii
    exact ascii_apart (by decide) ascii other
  · exact image_apart (by decide) (by decide +kernel) (by decide +kernel) other

private theorem upper_gap (gap : Gap) : upper gap.text = gap.text := by
  have own {c : Char} (blank : isBlank c = true) : upperChar c = [c] :=
    each_blank (P := fun c => upperChar c = [c]) (by decide +kernel) blank
  rw [upper, List.flatMap_congr fun c member => own (gap.blank c member), List.flatMap_singleton']

/-! ### Words in a text -/

private theorem blank_apart (apart : ∀ c ∈ pattern, isBlank c = false) (blank : isBlank c = true) :
    c ∉ pattern := by
  intro member
  rw [apart c member] at blank
  cases blank

/-- A pattern does not start among blanks. -/
private theorem infix_behind_blanks (apart : isBlank c = false) {blanks : Text}
    (blank : ∀ c ∈ blanks, isBlank c = true) :
    c :: pattern <:+: blanks ++ rest ↔ c :: pattern <:+: rest :=
  infix_behind (not_mem_of_class blank apart)

/-- A pattern without blanks is on one side of blanks. -/
private theorem infix_gap (apart : ∀ c ∈ pattern, isBlank c = false) (gap : Gap) :
    pattern <:+: front ++ (gap.text ++ rest) ↔ pattern <:+: front ∨ pattern <:+: rest := by
  obtain ⟨blank, blanks, shape⟩ := List.exists_cons_of_ne_nil gap.filled
  obtain ⟨own, others⟩ := List.forall_mem_cons.mp (shape ▸ gap.blank)
  rw [shape, List.cons_append, infix_around (blank_apart apart own)]
  cases pattern with
  | nil => simp
  | cons first pattern => rw [infix_behind_blanks (apart first List.mem_cons_self) others]

/-- Two words with a space between them are behind blanks, or around blanks that are this space. -/
private theorem pair_gap {first second : Text} (some : first ≠ [] ∧ second ≠ [])
    (apart : ∀ c ∈ first ++ second, isBlank c = false) (gap : Gap) (bare : ' ' ∉ front) :
    first ++ ' ' :: second <:+: front ++ (gap.text ++ rest) ↔
      (gap.text = [' '] ∧ first <:+ front ∧ second <+: rest) ∨ first ++ ' ' :: second <:+: rest := by
  obtain ⟨apartFirst, apartSecond⟩ := List.forall_mem_append.mp apart
  obtain ⟨blank, blanks, shape⟩ := List.exists_cons_of_ne_nil gap.filled
  obtain ⟨own, others⟩ := List.forall_mem_cons.mp (shape ▸ gap.blank)
  have later : first ++ ' ' :: second <:+: blanks ++ rest ↔ first ++ ' ' :: second <:+: rest := by
    obtain ⟨c, firstRest, starts⟩ := List.exists_cons_of_ne_nil some.1
    rw [starts, List.cons_append, infix_behind_blanks (apartFirst c (by simp [starts])) others]
  rw [shape, List.cons_append]
  by_cases space : blank = ' '
  · subst space
    rw [infix_across (blank_apart apartFirst own) bare, later]
    refine or_congr_left ?_
    cases blanks with
    | nil => simp
    | cons next blanks =>
      have outside : ¬ second <+: next :: (blanks ++ rest) := by
        obtain ⟨d, secondRest, starts⟩ := List.exists_cons_of_ne_nil some.2
        rw [starts, List.cons_prefix_cons]
        rintro ⟨rfl, -⟩
        exact blank_apart apartSecond (others d List.mem_cons_self) (by simp [starts])
      simp [outside]
  · have absent : blank ∉ first ++ ' ' :: second := by
      rw [List.mem_append, List.mem_cons]
      rintro (inside | same | inside)
      · exact blank_apart apartFirst own inside
      · exact space same
      · exact blank_apart apartSecond own inside
    have outside : ¬ first ++ ' ' :: second <:+: front := fun inside => bare (inside.subset (by simp))
    rw [infix_around absent, later]
    simp [outside, space]

/-! ### Words of clauses -/

private theorem clauses_cons (gap : Gap) (clause : Clause) (clauses : List (Gap × Clause)) :
    upper (clausesText ((gap, clause) :: clauses)) =
      gap.text ++ (upper clause.text ++ upper (clausesText clauses)) := by
  rw [clausesText, List.flatMap_cons, upper_append, upper_append, upper_gap, List.append_assoc]
  rfl

/-- What stands behind a word is no part of what it starts with. -/
private theorem prefix_clauses (apart : ∀ c ∈ pattern, isBlank c = false) :
    pattern <+: word ++ upper (clausesText clauses) ↔ pattern <+: word := by
  cases clauses with
  | nil => rw [clausesText, List.flatMap_nil, upper, List.flatMap_nil, List.append_nil]
  | cons first clauses =>
    obtain ⟨gap, clause⟩ := first
    obtain ⟨blank, blanks, shape⟩ := List.exists_cons_of_ne_nil gap.filled
    have own : isBlank blank = true := gap.blank blank (by simp [shape])
    rw [clauses_cons, shape, List.cons_append, prefix_before (blank_apart apart own)]

/-- The last word of a clause, and the one in front of it. -/
private theorem clause_shape (clause : Clause) :
    ∃ lead last, upper clause.text = lead ++ last ∧ ' ' ∉ last ∧
      (lead = [] ∨ ∃ head, lead = head ++ [' '] ∧ ' ' ∉ head) := by
  cases clause with
  | primaryKey =>
    exact ⟨"PRIMARY ", "KEY", by decide, by decide, .inr ⟨"PRIMARY", by decide, by decide⟩⟩
  | autoIncrement => exact ⟨[], "AUTOINCREMENT", by decide, by decide, .inl rfl⟩
  | notNull => exact ⟨"NOT ", "NULL", by decide, by decide, .inr ⟨"NOT", by decide, by decide⟩⟩
  | references table column =>
    refine ⟨"REFERENCES ", upper (table.text ++ block column.text), ?_, ?_,
      .inr ⟨"REFERENCES", by decide, by decide⟩⟩
    · exact upper_append _ _
    · have brackets : ' ' ∉ upper ['('] ∧ ' ' ∉ upper [')'] := by decide
      rw [block, ← List.singleton_append, List.append_assoc]
      simp only [upper_append, List.mem_append, not_or]
      exact ⟨space_of_word table, brackets.1, space_of_word column, brackets.2⟩

/-- No clause starts with the second word of another one. -/
private theorem clause_starts (clause : Clause) (rest : Text) :
    ¬ ("KEY" : Text) <+: upper clause.text ++ rest ∧ ¬ ("NULL" : Text) <+: upper clause.text ++ rest := by
  have shape : ∃ first ∈ [("PRIMARY" : Text), "AUTOINCREMENT", "NOT ", "REFERENCES"], ∃ others,
      upper clause.text = first ++ others := by
    cases clause with
    | primaryKey => exact ⟨"PRIMARY", by decide, " KEY", by decide⟩
    | autoIncrement => exact ⟨"AUTOINCREMENT", by decide, [], by decide⟩
    | notNull => exact ⟨"NOT ", by decide, "NULL", by decide⟩
    | references table column =>
      refine ⟨"REFERENCES", by decide, ' ' :: upper (table.text ++ block column.text), ?_⟩
      exact upper_append "REFERENCES " _
  have checked : ∀ first ∈ [("PRIMARY" : Text), "AUTOINCREMENT", "NOT ", "REFERENCES"],
      ∀ second ∈ [("KEY" : Text), "NULL"], second.length ≤ first.length ∧ ¬ second <+: first := by
    decide
  obtain ⟨first, among, others, split⟩ := shape
  have apart (second : Text) (listed : second ∈ [("KEY" : Text), "NULL"]) :
      ¬ second <+: upper clause.text ++ rest := by
    obtain ⟨short, other⟩ := checked first among second listed
    rw [split, List.append_assoc]
    exact fun starts => other (List.prefix_of_prefix_length_le starts (List.prefix_append first _) short)
  exact ⟨apart "KEY" (by decide), apart "NULL" (by decide)⟩

private theorem single_clauses (apart : ∀ c ∈ pattern, isBlank c = false) :
    pattern <:+: front ++ upper (clausesText clauses) ↔
      pattern <:+: front ∨ ∃ clause ∈ clauses, pattern <:+: upper clause.2.text := by
  induction clauses generalizing front with
  | nil => simp [clausesText, upper]
  | cons first clauses ih =>
    obtain ⟨gap, clause⟩ := first
    rw [clauses_cons, infix_gap apart, ih, List.exists_mem_cons_iff]

/-- Two words are a clause or in one, where no clause starts with the second one. -/
private theorem pair_clauses {first second : Text} (some : first ≠ [] ∧ second ≠ [])
    (apart : ∀ c ∈ first ++ second, isBlank c = false)
    (other : ∀ (clause : Clause) rest, ¬ second <+: upper clause.text ++ rest) (bare : ' ' ∉ front) :
    first ++ ' ' :: second <:+: front ++ upper (clausesText clauses) ↔
      ∃ clause ∈ clauses, first ++ ' ' :: second <:+: upper clause.2.text := by
  have inside {word : Text} (bare : ' ' ∉ word) : ¬ first ++ ' ' :: second <:+: word :=
    fun found => bare (found.subset (by simp))
  induction clauses generalizing front with
  | nil => simpa [clausesText, upper] using inside bare
  | cons next clauses ih =>
    obtain ⟨gap, clause⟩ := next
    rw [clauses_cons, pair_gap some apart gap bare, List.exists_mem_cons_iff]
    simp only [other, and_false, false_or]
    obtain ⟨lead, last, shape, bareLast, form⟩ := clause_shape clause
    have later : first ++ ' ' :: second <:+: last ++ upper (clausesText clauses) ↔
        ∃ clause ∈ clauses, first ++ ' ' :: second <:+: upper clause.2.text := ih bareLast
    rcases form with rfl | ⟨head, rfl, bareHead⟩
    · rw [shape, List.nil_append, later]
      simp [inside bareLast]
    · have around (rest : Text) : first ++ ' ' :: second <:+: head ++ ([' '] ++ rest) ↔
          ([' '] = [' '] ∧ first <:+ head ∧ second <+: rest) ∨ first ++ ' ' :: second <:+: rest :=
        pair_gap some apart ⟨[' '], by decide, by decide⟩ bareHead
      have passed : second <+: last ++ upper (clausesText clauses) ↔ second <+: last :=
        prefix_clauses fun c member => apart c (List.mem_append_right first member)
      rw [shape, List.append_assoc, List.append_assoc, List.append_assoc, around, around, passed, later]
      simp [inside bareLast]

private theorem upper_references (table column : Word) : upper (Clause.references table column).text =
    "REFERENCES" ++ ' ' :: (upper table.text ++ '(' :: (upper column.text ++ [')'])) := by
  have first : upper "REFERENCES " = "REFERENCES" ++ [' '] := by decide
  have brackets : upper ['('] = ['('] ∧ upper [')'] = [')'] := by decide
  have shape : (Clause.references table column).text =
      "REFERENCES " ++ (table.text ++ (['('] ++ (column.text ++ [')']))) := rfl
  rw [shape, upper_append, upper_append, upper_append, upper_append, first, brackets.1, brackets.2,
    List.append_assoc]
  rfl

/-- Words without spaces and brackets are in a reference where they are in one of its words. -/
private theorem single_references (some : pattern ≠ []) (apart : ∀ c ∈ [' ', '(', ')'], c ∉ pattern)
    (table column : Word) : pattern <:+: upper (Clause.references table column).text ↔
      pattern <:+: "REFERENCES" ∨ pattern <:+: upper table.text ∨ pattern <:+: upper column.text := by
  rw [upper_references, infix_around (apart ' ' (by decide)), infix_around (apart '(' (by decide)),
    infix_around (apart ')' (by decide)), List.infix_nil]
  simp [some]

private theorem pair_references {first second : Text} (apart : ' ' ∉ first)
    (other : ¬ first <:+ ("REFERENCES" : Text)) (table column : Word) :
    ¬ first ++ ' ' :: second <:+: upper (Clause.references table column).text := by
  rw [upper_references, infix_across apart (by decide)]
  rintro (⟨ends, -⟩ | inside)
  · exact other ends
  · have space : ' ' ∈ upper table.text ++ '(' :: (upper column.text ++ [')']) := inside.subset (by simp)
    simp [space_of_word] at space

/-- The words of a flag are in its own clause, and in references to a table or column with these words. -/
private theorem clause_found (flag : Flag) (clause : Clause) : flag.phrase <:+: upper clause.text ↔
    clause.flag = flag ∨ ∃ table column, clause = .references table column ∧
      (flag.phrase <:+: upper table.text ∨ flag.phrase <:+: upper column.text) := by
  cases clause with
  | primaryKey | autoIncrement | notNull => cases flag <;> simp <;> decide
  | references table column =>
    have unpaired (first second : Text) (apart : ' ' ∉ first) (other : ¬ first <:+ ("REFERENCES" : Text))
        (phrase : flag.phrase = first ++ ' ' :: second) (own : flag ≠ .foreignKey) :
        flag.phrase <:+: upper (Clause.references table column).text ↔
          (Clause.references table column).flag = flag ∨
            ∃ t c, Clause.references table column = .references t c ∧
              (flag.phrase <:+: upper t.text ∨ flag.phrase <:+: upper c.text) := by
      have spaceless (word : Word) : ¬ flag.phrase <:+: upper word.text :=
        fun inside => space_of_word word (inside.subset (by simp [phrase]))
      refine iff_of_false (phrase ▸ pair_references apart other table column) ?_
      rintro (same | ⟨_, _, _, inside | inside⟩)
      · exact own same.symm
      · exact spaceless _ inside
      · exact spaceless _ inside
    cases flag with
    | primaryKey => exact unpaired "PRIMARY" "KEY" (by decide) (by decide) rfl (by decide)
    | notNull => exact unpaired "NOT" "NULL" (by decide) (by decide) rfl (by decide)
    | foreignKey =>
      refine (single_references (by decide) (by decide) table column).trans (iff_of_true (.inl ?_) (.inl rfl))
      exact List.infix_rfl
    | autoIncrement =>
      have closed : ¬ Flag.autoIncrement.phrase <:+: ("REFERENCES" : Text) := by decide
      have other : (Clause.references table column).flag ≠ .autoIncrement := nofun
      rw [single_references (by decide) (by decide), or_iff_right closed, or_iff_right other]
      simp

/-! ### Words of columns -/

/-- The words of a flag are in what stands in front of the clauses, or in a clause. -/
private theorem entry_found (flag : Flag) (entry : Entry) : flag.phrase <:+: upper entry.text ↔
    flag.phrase <:+: upper entry.heading ∨
      ∃ clause ∈ entry.clauses, flag.phrase <:+: upper clause.2.text := by
  have whole : upper entry.text = upper entry.heading ++ upper (clausesText entry.clauses) := upper_append _ _
  have heading : upper entry.heading = upper entry.name.text ++ (entry.gap.text ++ upper entry.type.text) := by
    rw [Entry.heading, upper_append, upper_append, upper_gap]
  have paired (first second : Text) (some : first ≠ [] ∧ second ≠ [])
      (apart : ∀ c ∈ first ++ second, isBlank c = false)
      (other : ∀ (clause : Clause) rest, ¬ second <+: upper clause.text ++ rest) :
      first ++ ' ' :: second <:+: upper entry.text ↔ first ++ ' ' :: second <:+: upper entry.heading ∨
        ∃ clause ∈ entry.clauses, first ++ ' ' :: second <:+: upper clause.2.text := by
    have spaceless : ¬ first ++ ' ' :: second <:+: upper entry.type.text :=
      fun inside => space_of_word entry.type (inside.subset (by simp))
    have passed : second <+: upper entry.type.text ++ upper (clausesText entry.clauses) ↔
        second <+: upper entry.type.text :=
      prefix_clauses fun c member => apart c (List.mem_append_right first member)
    rw [whole, heading, List.append_assoc, List.append_assoc, pair_gap some apart _ (space_of_word _),
      pair_gap some apart _ (space_of_word _), passed, pair_clauses some apart other (space_of_word _)]
    simp [spaceless]
  cases flag with
  | primaryKey =>
    exact paired "PRIMARY" "KEY" (by decide) (by decide) fun clause rest => (clause_starts clause rest).1
  | notNull =>
    exact paired "NOT" "NULL" (by decide) (by decide) fun clause rest => (clause_starts clause rest).2
  | foreignKey | autoIncrement => rw [whole, single_clauses (by decide)]

/-- The words of a flag are found in a column that has its clause, and in one that suggests it. -/
theorem flag_found (flag : Flag) (entry : Entry) : flag.phrase <:+: upper entry.text ↔
    (∃ clause ∈ entry.clauses, clause.2.flag = flag) ∨ Suggests entry flag := by
  rw [entry_found, Suggests, or_left_comm]
  refine or_congr_right ?_
  constructor
  · rintro ⟨⟨gap, clause⟩, member, found⟩
    rcases (clause_found flag clause).mp found with own | ⟨table, column, rfl, inside⟩
    · exact .inl ⟨(gap, clause), member, own⟩
    · exact .inr ⟨gap, table, column, member, inside⟩
  · rintro (⟨clause, member, own⟩ | ⟨gap, table, column, member, inside⟩)
    · exact ⟨clause, member, (clause_found flag clause.2).mpr (.inl own)⟩
    · exact ⟨_, member, (clause_found flag _).mpr (.inr ⟨table, column, rfl, inside⟩)⟩

/-! ### Reading columns -/

private theorem entry_shape (entry : Entry) :
    entry.text = entry.name.text ++ (entry.gap.text ++ (entry.type.text ++ clausesText entry.clauses)) := by
  rw [Entry.text, Entry.heading, List.append_assoc, List.append_assoc]

private theorem clauses_stop (clauses : List (Gap × Clause)) :
    Stops isWord (clausesText clauses) ∧ lengthOf (clausesText clauses) = [] := by
  cases clauses with
  | nil => exact ⟨nofun, rfl⟩
  | cons first clauses =>
    obtain ⟨gap, clause⟩ := first
    have shape : clausesText ((gap, clause) :: clauses) = gap.text ++ (clause.text ++ clausesText clauses) :=
      List.append_assoc _ _ _
    obtain ⟨c, others, split, apart, unbracketed⟩ :
        ∃ c others, clause.text = c :: others ∧ isBlank c = false ∧ c ≠ '(' := by
      cases clause <;> exact ⟨_, _, rfl, by decide, by decide⟩
    rw [shape]
    refine ⟨gap_stops gap, ?_⟩
    have passed : dropBlanks (gap.text ++ (clause.text ++ clausesText clauses)) =
        clause.text ++ clausesText clauses := by
      refine dropWhile_run gap.blank ?_
      rw [split]
      exact stops_cons apart
    rw [lengthOf, lengthDigits?, passed, split]
    simp [unbracketed]

theorem entry_starts (entry : Entry) : Stops isBlank entry.text ∧ entry.text ≠ [] := by
  rw [entry_shape]
  exact ⟨stops_append entry.name.filled (word_stops entry.name), by simp [entry.name.filled]⟩

private theorem clause_ends (clause : Clause) :
    Stops isBlank clause.text.reverse ∧ clause.text.reverse ≠ [] := by
  have closed {text : Text} (last : ∀ c ∈ text.getLast?, isBlank c = false) (filled : text ≠ []) :
      Stops isBlank text.reverse ∧ text.reverse ≠ [] := by
    rw [Stops, List.head?_reverse]
    exact ⟨last, by simpa using filled⟩
  cases clause with
  | primaryKey | autoIncrement | notNull => exact closed (by decide) (by decide)
  | references table column =>
    have shape : (Clause.references table column).text =
        "REFERENCES " ++ (table.text ++ ('(' :: column.text ++ [')'])) := rfl
    rw [shape, ← List.append_assoc, ← List.append_assoc, List.reverse_concat]
    exact ⟨stops_cons (by decide), List.cons_ne_nil _ _⟩

private theorem entry_stripped (entry : Entry) : strip entry.text = entry.text := by
  refine strip_self (entry_starts entry).1 ?_
  rw [entry_shape]
  simp only [List.reverse_append, List.append_assoc]
  rcases List.eq_nil_or_concat entry.clauses with none | ⟨others, ⟨gap, clause⟩, last⟩
  · rw [none, clausesText, List.flatMap_nil, List.reverse_nil, List.nil_append]
    exact stops_append (by simp [entry.type.filled]) (word_ends entry.type)
  · obtain ⟨ends, filled⟩ := clause_ends clause
    have shape : clausesText entry.clauses = clausesText others ++ (gap.text ++ clause.text) := by
      rw [last, List.concat_eq_append, clausesText, List.flatMap_append, List.flatMap_singleton]
      rfl
    rw [shape, List.reverse_append, List.reverse_append, List.append_assoc, List.append_assoc]
    exact stops_append filled ends

theorem entry_sealed (entry : Entry) : Sealed entry.text := by
  have clause (clause : Clause) : Sealed clause.text := by
    cases clause with
    | primaryKey | autoIncrement | notNull => decide
    | references table column =>
      exact sealed_append (by decide)
        (sealed_append (sealed_word table) (sealed_block (sealed_word column).balanced))
  have clauses (clauses : List (Gap × Clause)) : Sealed (clausesText clauses) := by
    induction clauses with
    | nil => decide
    | cons first clauses ih =>
      exact sealed_append (sealed_append (sealed_blank first.1.blank) (clause first.2)) ih
  rw [entry_shape]
  exact sealed_append (sealed_word _) (sealed_append (sealed_blank entry.gap.blank)
    (sealed_append (sealed_word _) (clauses _)))

theorem entry_read (entry : Entry) : part (strip entry.text) =
    .ok (.column (definition entry.text entry.name.text entry.type.text 0)) := by
  obtain ⟨stops, unmeasured⟩ := clauses_stop entry.clauses
  have headed : Headed entry.text entry.name.text entry.type.text (clausesText entry.clauses) := by
    have shape := Headed.intro [] [] entry.name entry.gap entry.type (clausesText entry.clauses) (by decide)
      (by decide) stops
    rwa [List.nil_append, List.nil_append, ← entry_shape] at shape
  have unconstrained : isConstraint entry.text = false := by
    rw [entry_shape]
    exact constraint_of_name entry.name (gap_stops entry.gap) entry.unreserved
  rw [entry_stripped, part_iff]
  refine ⟨unconstrained, _, _, _, headed, ?_, ?_⟩
  · rw [unmeasured]
    exact Nat.zero_le _
  · rw [unmeasured]
    rfl

end TableGate.ColumnClauses
