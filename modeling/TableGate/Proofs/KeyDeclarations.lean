import TableGate.Proofs.ColumnClauses

/-! Keys and flags that a statement declares, by clauses of its columns and by keys of the whole table. A flag
is set where it is declared, but also where the words of its clause are found in the column for another
reason. -/
namespace TableGate.KeyDeclarations
open BracketBalance BracketBlocks ColumnClauses ColumnParts CreateTable FilterWriting PatternSearch QueryFaults
open TableStatements Text TextFacts

/-- Names with commas between them. -/
def listing (names : List Word) : Text := join ", " (names.map Word.text)

/-- A key that a statement declares for the whole table, over one name or more. -/
inductive Constraint where
  | primaryKey (first : Word) (others : List Word)
  | foreignKey (first : Word) (others : List Word) (table : Word) (columns : List Word)

namespace Constraint

def flag : Constraint → Flag
  | primaryKey _ _ => .primaryKey
  | foreignKey _ _ _ _ => .foreignKey

def names : Constraint → List Text
  | primaryKey first others => (first :: others).map Word.text
  | foreignKey first others _ _ => (first :: others).map Word.text

def text : Constraint → Text
  | primaryKey first others => "PRIMARY KEY " ++ block (listing (first :: others))
  | foreignKey first others table columns => "FOREIGN KEY " ++ (block (listing (first :: others)) ++
      (" REFERENCES " ++ (table.text ++ block (listing columns))))

/-- What is read of a key. -/
def part : Constraint → Part
  | primaryKey first others => .primaryKey ((first :: others).map Word.text)
  | foreignKey first others _ _ => .foreignKey ((first :: others).map Word.text)

end Constraint

/-- A flag is declared for a column, by a clause of its own or by a key of the table. -/
def Declared (constraints : List Constraint) (entry : Entry) (flag : Flag) : Prop :=
  (∃ clause ∈ entry.clauses, clause.2.flag = flag) ∨
    ∃ key ∈ constraints, key.flag = flag ∧ entry.name.text ∈ key.names

variable {entry : Entry} {flag : Flag} {rest text word : Text} {c : Char}

/-! ### Reading keys -/

private theorem listing_chars {names : List Word} (member : c ∈ listing names) :
    isWord c = true ∨ c = ',' ∨ c = ' ' := by
  rcases mem_join member with mark | ⟨text, among, inside⟩
  · simpa using Or.inr mark
  · obtain ⟨name, -, rfl⟩ := List.mem_map.mp among
    exact .inl (name.chars c inside)

private theorem listing_free (names : List Word) : Free (listing names) := by
  rw [free_iff]
  constructor <;> intro member <;> rcases listing_chars member with own | own | own <;> cases own

private theorem listing_stops (names : List Word) (rest : Text) :
    (∀ c ∈ listing names, decide (c ≠ ')') = true) ∧
      Stops (fun c => decide (c ≠ ')')) (')' :: rest) := by
  refine ⟨fun c member => ?_, stops_cons (by decide)⟩
  rw [decide_eq_true_eq]
  rintro rfl
  exact (free_iff.mp (listing_free names)).2 member

private theorem listing_split (first : Word) (others : List Word) :
    List.Forall₂ Padded ((first :: others).map Word.text) (splitOn ',' (listing (first :: others))) := by
  have behind : listing (first :: others) =
      join "," (first.text :: others.map fun other => ' ' :: other.text) := by
    rw [listing, List.map_cons, join_cons, join_cons, List.flatMap_map, List.flatMap_map]
    rfl
  have single (word : Word) : ',' ∉ word.text := not_mem_of_class word.chars (by decide)
  have free : ∀ piece ∈ first.text :: others.map (fun other => ' ' :: other.text), ',' ∉ piece := by
    simp [single]
  have cut : splitOn ',' (listing (first :: others)) =
      first.text :: others.map fun other => ' ' :: other.text := by
    rw [behind]
    exact splitOn_join (List.cons_ne_nil _ _) free
  rw [cut, List.map_cons]
  refine .cons ⟨[], [], nofun, nofun, (List.append_nil _).symm⟩ ?_
  rw [List.forall₂_map_left_iff, List.forall₂_map_right_iff, List.forall₂_same]
  exact fun other _ => ⟨[' '], [], by decide, nofun, by rw [List.append_nil]; rfl⟩

/-- Names in brackets are read as they are. -/
private theorem names_read {names pieces : List Text} (padded : List.Forall₂ Padded names pieces)
    (words : ∀ name ∈ names, ∃ word : Word, name = word.text) :
    ((pieces.filter fun name => !(strip name).isEmpty).map fun name =>
      trim (fun c => c == '"' || c == '[' || c == ']' || c == '`') (strip name)) = names := by
  have apart {c : Char} (word : isWord c = true) : (c == '"' || c == '[' || c == ']' || c == '`') = false := by
    rw [← Bool.not_eq_true]
    intro marked
    simp only [Bool.or_eq_true, beq_iff_eq] at marked
    rcases marked with ((rfl | rfl) | rfl) | rfl <;> cases word
  induction padded with
  | nil => rfl
  | @cons name piece names pieces first _ ih =>
    obtain ⟨⟨word, rfl⟩, later⟩ := List.forall_mem_cons.mp words
    have own : strip piece = word.text := by
      rw [strip_padded word.filled (word_stops word) first, strip_self (word_stops word) (word_ends word)]
    have unmarked : trim (fun c => c == '"' || c == '[' || c == ']' || c == '`') word.text = word.text := by
      refine trim_self (fun c starts => apart (word.chars c (List.mem_of_mem_head? starts))) fun c starts => ?_
      exact apart (word.chars c (List.mem_reverse.mp (List.mem_of_mem_head? starts)))
    rw [List.filter_cons_of_pos (by simp [own, word.filled]), List.map_cons, own, unmarked, ih later]

/-- The names behind a keyword at the start of a text. -/
private theorem names_found {keyword : Text} (first : Word) (others : List Word)
    (starts : dropKeyword? keyword text = some (' ' :: (block (listing (first :: others)) ++ rest))) :
    namesAfter? keyword text = some ((first :: others).map Word.text) := by
  cases text with
  | nil => cases keyword <;> cases starts
  | cons c text =>
    obtain ⟨inside, ends⟩ := listing_stops (first :: others) rest
    have opened : dropBlanks (' ' :: (block (listing (first :: others)) ++ rest)) =
        '(' :: (listing (first :: others) ++ ')' :: rest) := by
      rw [block, List.append_assoc]
      rfl
    obtain ⟨n, names, shape⟩ : ∃ n names, listing (first :: others) = n :: names := by
      refine List.exists_cons_of_ne_nil ?_
      rw [listing, List.map_cons, join_cons]
      simp [first.filled]
    have split := names_read (listing_split first others) (by simp)
    have taken := takeWhile_run inside ends
    have dropped := dropWhile_run inside ends
    rw [shape] at starts opened split taken dropped
    rw [namesAfter?, starts]
    simp only [Option.bind_eq_bind, Option.bind_some, opened, taken, dropped, split]

/-- No names are found where no spelling of the keyword occurs. -/
private theorem names_missing {keyword : Text} (absent : ∀ word, Spelled keyword word → ¬ word <:+: text) :
    namesAfter? keyword text = none := by
  induction text with
  | nil => rfl
  | cons c text ih =>
    have here : dropKeyword? keyword (c :: text) = none := by
      rw [Option.eq_none_iff_forall_ne_some]
      intro rest dropped
      obtain ⟨word, split, spelled⟩ := dropKeyword_iff.mp dropped
      exact absent word spelled (split ▸ (List.prefix_append word rest).isInfix)
    have later := ih fun word spelled inside => absent word spelled (List.infix_cons inside)
    rw [namesAfter?, here]
    exact later

/-- What is spelled by two keywords, one behind the other. -/
private theorem spelled_append (first second : Text) {word : Text} (spelled : Spelled (first ++ second) word) :
    ∃ front rest, word = front ++ rest ∧ Spelled first front ∧ Spelled second rest := by
  induction first generalizing word with
  | nil => exact ⟨[], word, rfl, .nil, spelled⟩
  | cons letter first ih =>
    cases spelled with
    | cons own spelled =>
      obtain ⟨front, rest, rfl, head, tail⟩ := ih spelled
      exact ⟨_ :: front, rest, rfl, .cons own head, tail⟩

/-- A spelling of two words occurs in no names with commas between them. -/
private theorem listing_apart {second : Text} (some : word ≠ []) (comma : ',' ∉ word ++ ' ' :: second)
    (space : ' ' ∉ word) (names : List Word) : ¬ word ++ ' ' :: second <:+: listing names := by
  have bare {text : Text} (free : ' ' ∉ text) : ¬ word ++ ' ' :: second <:+: text :=
    fun inside => free (inside.subset (by simp))
  have single (word : Word) : ' ' ∉ word.text := not_mem_of_class word.chars (by decide)
  have behind_space {rest : Text} (inside : word ++ ' ' :: second <:+: ' ' :: rest) :
      word ++ ' ' :: second <:+: rest := by
    have start : word ++ ' ' :: second <:+: [] ++ ' ' :: rest ↔
        (word <:+ [] ∧ second <+: rest) ∨ word ++ ' ' :: second <:+: rest :=
      infix_across space List.not_mem_nil
    rcases start.mp inside with ⟨none, -⟩ | later
    · exact absurd (List.suffix_nil.mp none) some
    · exact later
  have behind (first : Word) (others : List Word) :
      ¬ word ++ ' ' :: second <:+: first.text ++ others.flatMap fun other => ',' :: ' ' :: other.text := by
    induction others generalizing first with
    | nil => simpa using bare (single first)
    | cons other others ih =>
      rw [List.flatMap_cons, List.cons_append, infix_around comma, not_or]
      exact ⟨bare (single first), fun inside => ih other (behind_space inside)⟩
  cases names with
  | nil => exact bare (by simp [listing, join])
  | cons first others =>
    rw [listing, List.map_cons, join_cons, List.flatMap_map]
    exact behind first others

/-- The words that a key of the own rows starts with: the first one ends with a letter y. -/
private theorem key_spelled (spelled : Spelled "primary key" word) : ∃ front y second,
    word = (front ++ [y]) ++ ' ' :: second ∧ isLetter 'y' y = true ∧ second ≠ [] ∧
      (∀ c ∈ front ++ [y], isWord c = true) ∧ ∀ c ∈ second, isWord c = true := by
  obtain ⟨first, rest, rfl, head, tail⟩ := spelled_append "primary" " key" spelled
  obtain ⟨front, last, rfl, -, ends⟩ := spelled_append "primar" "y" head
  have firstChars := chars_of_spelled (by decide) head
  cases ends with
  | cons own ends =>
    cases ends
    cases tail with
    | cons blank tail =>
      have secondChars := chars_of_spelled (by decide) tail
      have space : ∀ {c : Char}, isLetter ' ' c = true → c = ' ' := by
        intro c spelled
        have capital : ' '.toUpper = ' ' := by decide
        simpa [isLetter, capital] using spelled
      obtain rfl := space blank
      refine ⟨front, _, _, rfl, own, ?_, firstChars, secondChars⟩
      rintro rfl
      cases tail

private theorem foreign_shape (first : Word) (others : List Word) (table : Word) (columns : List Word) :
    (Constraint.foreignKey first others table columns).text =
      ("FOREIGN" ++ ' ' :: ("KEY" ++ [' '])) ++ '(' :: (listing (first :: others) ++
        ')' :: (([] ++ ' ' :: ("REFERENCES" ++ ' ' :: table.text)) ++
          '(' :: (listing columns ++ [')']))) := by
  have opened (inner rest : Text) : block inner ++ rest = '(' :: (inner ++ ')' :: rest) := by simp [block]
  have whole : (Constraint.foreignKey first others table columns).text =
      ("FOREIGN KEY " : Text) ++ (block (listing (first :: others)) ++
        ((" REFERENCES " : Text) ++ (table.text ++ (block (listing columns) ++ [])))) := by
    rw [List.append_nil]
    rfl
  rw [whole, opened, opened]
  simp

/-- A word that ends with a letter is not the end of a text that ends with another one. -/
private theorem letter_ends {letter y : Char} {front : Text} (own : isLetter letter y = true)
    (other : ∀ c ∈ text.getLast?, isLetter letter c = false) : ¬ front ++ [y] <:+ text := by
  rintro ⟨before, rfl⟩
  rw [← List.append_assoc, List.getLast?_concat] at other
  rw [other y rfl] at own
  cases own

/-- No key that refers to another table is taken for one of the own rows. -/
private theorem foreign_apart (first : Word) (others : List Word) (table : Word) (columns : List Word) :
    namesAfter? "primary key" (Constraint.foreignKey first others table columns).text = none := by
  refine names_missing fun word spelled inside => ?_
  obtain ⟨front, y, second, rfl, own, some, firstChars, secondChars⟩ := key_spelled spelled
  have apart {mark : Char} (other : isWord mark = false) : mark ∉ front ++ [y] ∧ mark ∉ second :=
    ⟨not_mem_of_class firstChars other, not_mem_of_class secondChars other⟩
  have around (mark : Char) (other : isWord mark = false) (differs : mark ≠ ' ') :
      mark ∉ (front ++ [y]) ++ ' ' :: second := by
    rw [List.mem_append, List.mem_cons]
    rintro (inside | same | inside)
    · exact (apart other).1 inside
    · exact differs same
    · exact (apart other).2 inside
  have space : ' ' ∉ front ++ [y] := (apart (by decide)).1
  have bare (word : Word) : ¬ (front ++ [y]) ++ ' ' :: second <:+: word.text :=
    fun found => not_mem_of_class (c := ' ') word.chars (by decide) (found.subset (by simp))
  have listed (names : List Word) : ¬ (front ++ [y]) ++ ' ' :: second <:+: listing names :=
    listing_apart (by simp) (around ',' (by decide) (by decide)) space names
  -- Wherever a space follows a word of the key, that word does not end with the letter.
  have keyword : ¬ (front ++ [y]) ++ ' ' :: second <:+: ("FOREIGN" ++ ' ' :: ("KEY" ++ [' ']) : Text) := by
    rw [infix_across space (by decide), infix_across space (by decide)]
    rintro (⟨other, -⟩ | ⟨-, none⟩ | none)
    · exact letter_ends own (by decide) other
    · exact some (List.prefix_nil.mp none)
    · simp at none
  have reference : ¬ (front ++ [y]) ++ ' ' :: second <:+:
      ([] ++ ' ' :: ("REFERENCES" ++ ' ' :: table.text) : Text) := by
    rw [infix_across space (by decide), infix_across space (by decide)]
    rintro (⟨other, -⟩ | ⟨other, -⟩ | other)
    · exact letter_ends own (by decide) other
    · exact letter_ends own (by decide) other
    · exact bare table other
  have opening := around '(' (by decide) (by decide)
  have closing := around ')' (by decide) (by decide)
  rw [foreign_shape, infix_around opening, infix_around closing, infix_around opening,
    infix_around closing] at inside
  rcases inside with found | found | found | found | found
  · exact keyword found
  · exact listed _ found
  · exact reference found
  · exact listed _ found
  · simp at found

/-- A part that starts with the two words of a key is a constraint. -/
private theorem constraint_of_words (first second : Text) {behind : Text}
    (listed : [first, second] ∈ constraintWords)
    (one : dropKeyword? first text = some (' ' :: rest)) (starts : Stops isBlank rest)
    (two : dropKeyword? second rest = some behind) (stops : Stops isWord behind) :
    isConstraint text = true := by
  have passed : dropBlanks (' ' :: rest) = rest := by
    have run : dropBlanks ([' '] ++ rest) = rest := dropWhile_run (by decide) starts
    exact run
  have ended : (behind.head?.map isWord).getD false = false := by
    cases behind with
    | nil => rfl
    | cons c behind => exact stops c rfl
  rw [isConstraint, List.any_eq_true]
  exact ⟨_, listed, by simp [startsWithWords, one, passed, two, ended]⟩

private theorem key_read (key : Constraint) : CreateTable.part key.text = .ok key.part := by
  cases key with
  | primaryKey first others =>
    have starts : dropKeyword? "primary key" (Constraint.primaryKey first others).text =
        some (' ' :: (block (listing (first :: others)) ++ [])) := by
      rw [List.append_nil]
      rfl
    have constraint : isConstraint (Constraint.primaryKey first others).text = true :=
      constraint_of_words "primary" "key" (by decide) rfl (stops_cons (by decide)) rfl (stops_cons (by decide))
    rw [CreateTable.part, if_pos constraint, names_found first others starts]
    rfl
  | foreignKey first others table columns =>
    have starts : dropKeyword? "foreign key" (Constraint.foreignKey first others table columns).text =
        some (' ' :: (block (listing (first :: others)) ++ _)) := rfl
    have constraint : isConstraint (Constraint.foreignKey first others table columns).text = true :=
      constraint_of_words "foreign" "key" (by decide) rfl (stops_cons (by decide)) rfl (stops_cons (by decide))
    rw [CreateTable.part, if_pos constraint, names_found first others starts, foreign_apart]
    rfl

private theorem key_starts (key : Constraint) : Stops isBlank key.text ∧ key.text ≠ [] := by
  cases key <;> exact ⟨stops_cons (by decide), List.cons_ne_nil _ _⟩

private theorem key_stripped (key : Constraint) : strip key.text = key.text := by
  have ends : ∃ front, key.text = front ++ [')'] := by
    cases key with
    | primaryKey first others =>
      exact ⟨"PRIMARY KEY " ++ '(' :: listing (first :: others), (List.append_assoc _ _ _).symm⟩
    | foreignKey first others table columns =>
      refine ⟨"FOREIGN KEY " ++ (block (listing (first :: others)) ++
        (" REFERENCES " ++ (table.text ++ '(' :: listing columns))), ?_⟩
      simp only [List.append_assoc]
      rfl
  obtain ⟨front, shape⟩ := ends
  refine strip_self (key_starts key).1 ?_
  rw [shape, List.reverse_concat]
  exact stops_cons (by decide)

private theorem key_sealed (key : Constraint) : Sealed key.text := by
  have listed (names : List Word) : Sealed (block (listing names)) :=
    sealed_block (balanced_free (listing_free names))
  cases key with
  | primaryKey first others => exact sealed_append (by decide) (listed _)
  | foreignKey first others table columns =>
    exact sealed_append (by decide) (sealed_append (listed _)
      (sealed_append (by decide) (sealed_append (sealed_word table) (listed _))))

/-! ### Flags -/

/-- A column is marked with the flags that are declared for it, and no others. -/
def AsDeclared (constraints : List Constraint) (entry : Entry) (column : Column) : Prop :=
  ∀ flag : Flag, flag.isSet column = true ↔ Declared constraints entry flag

/-- No flag is suggested for a column without being declared. -/
def Quiet (constraints : List Constraint) (entry : Entry) : Prop :=
  ∀ flag : Flag, Suggests entry flag → Declared constraints entry flag

/-- The parts of a statement of columns and keys. -/
private def partsOf (entries : List Entry) (constraints : List Constraint) : List Part :=
  entries.map (fun entry => .column (definition entry.text entry.name.text entry.type.text 0)) ++
    constraints.map Constraint.part

private theorem parts_read (entries : List Entry) (constraints : List Constraint) :
    (entries.map Entry.text ++ constraints.map Constraint.text).mapM (fun text => part (strip text)) =
      .ok (partsOf entries constraints) := by
  rw [Fallible.mapM_eq_ok_iff, partsOf]
  refine List.rel_append ?_ ?_
  · rw [List.forall₂_map_left_iff, List.forall₂_map_right_iff, List.forall₂_same]
    exact fun entry _ => entry_read entry
  · rw [List.forall₂_map_left_iff, List.forall₂_map_right_iff, List.forall₂_same]
    intro key _
    rw [key_stripped, key_read]

private theorem parts_defined (entries : List Entry) (constraints : List Constraint) :
    definitions (partsOf entries constraints) =
      entries.map fun entry => definition entry.text entry.name.text entry.type.text 0 := by
  have keys : definitions (constraints.map Constraint.part) = [] := by
    rw [definitions, List.filterMap_map, List.filterMap_eq_nil_iff]
    intro key _
    cases key <;> rfl
  rw [partsOf, definitions_append, keys, List.append_nil, (column_parts _ entries).1]

private theorem parts_keys (entries : List Entry) (constraints : List Constraint) (name : Text) :
    (name ∈ primaryKeys (partsOf entries constraints) ↔
      ∃ key ∈ constraints, key.flag = .primaryKey ∧ name ∈ key.names) ∧
    (name ∈ foreignKeys (partsOf entries constraints) ↔
      ∃ key ∈ constraints, key.flag = .foreignKey ∧ name ∈ key.names) := by
  obtain ⟨-, primary, foreign⟩ := column_parts
    (fun entry : Entry => definition entry.text entry.name.text entry.type.text 0) entries
  rw [partsOf, primaryKeys_append, foreignKeys_append, primary, foreign, List.nil_append, List.nil_append,
    primaryKeys, foreignKeys, List.flatMap_map, List.flatMap_map, List.mem_flatMap, List.mem_flatMap]
  constructor <;> refine exists_congr fun key => and_congr_right fun _ => ?_
  · cases key with
    | primaryKey first others => simp [Constraint.part, Constraint.flag, Constraint.names]
    | foreignKey first others table columns => simp [Constraint.part, Constraint.flag]
  · cases key with
    | primaryKey first others => simp [Constraint.part, Constraint.flag]
    | foreignKey first others table columns => simp [Constraint.part, Constraint.flag, Constraint.names]

private theorem each_part (entries : List Entry) (constraints : List Constraint) :
    ∀ text ∈ entries.map Entry.text ++ constraints.map Constraint.text,
      Sealed text ∧ text ≠ [] ∧ Stops isBlank text := by
  rw [List.forall_mem_append, List.forall_mem_map, List.forall_mem_map]
  refine ⟨fun entry _ => ?_, fun key _ => ?_⟩
  · obtain ⟨starts, filled⟩ := entry_starts entry
    exact ⟨entry_sealed entry, filled, starts⟩
  · obtain ⟨starts, filled⟩ := key_starts key
    exact ⟨key_sealed key, filled, starts⟩

/-- The field of a column among the columns and keys of a statement. -/
private def fieldOf (options : TableOptions) (entries : List Entry) (constraints : List Constraint)
    (entry : Entry) : Column :=
  field options (primaryKeys (partsOf entries constraints)) (foreignKeys (partsOf entries constraints))
    (definition entry.text entry.name.text entry.type.text 0)

/-- A flag is set where its words are found in the column, or a key of the table has the name. -/
private theorem marked_iff (options : TableOptions) (entries : List Entry) (constraints : List Constraint)
    (entry : Entry) (flag : Flag) :
    flag.isSet (fieldOf options entries constraints entry) = true ↔
      Declared constraints entry flag ∨ Suggests entry flag := by
  obtain ⟨primary, foreign⟩ := parts_keys entries constraints entry.name.text
  have found : hasInfix flag.phrase (upper entry.text) = true ↔
      (∃ clause ∈ entry.clauses, clause.2.flag = flag) ∨ Suggests entry flag := by
    rw [← flag_found, hasInfix_iff]
  have unlisted (other : flag ≠ .primaryKey ∧ flag ≠ .foreignKey) :
      ¬ ∃ key ∈ constraints, key.flag = flag ∧ entry.name.text ∈ key.names := by
    rintro ⟨key, -, rfl, -⟩
    cases key with
    | primaryKey first others => exact other.1 rfl
    | foreignKey first others table columns => exact other.2 rfl
  rw [Declared, or_right_comm, ← found]
  cases flag with
  | primaryKey =>
    rw [← primary, ← List.contains_iff_mem]
    exact Bool.or_eq_true_iff
  | foreignKey =>
    rw [← foreign, ← List.contains_iff_mem]
    exact Bool.or_eq_true_iff
  | autoIncrement =>
    rw [or_iff_left (unlisted ⟨nofun, nofun⟩)]
    rfl
  | notNull =>
    rw [or_iff_left (unlisted ⟨nofun, nofun⟩)]
    rfl

/-- **Flags are those declared.** The columns of a table are read in the order of the statement, and each is
marked with exactly the flags that its clauses and the keys of the table declare for it just where no column
suggests one that is not declared. -/
theorem flags_declared_iff (options : TableOptions) (table : Identifier) {entries : List Entry}
    {constraints : List Constraint} {pieces : List Text}
    (padded : List.Forall₂ Padded (entries.map Entry.text ++ constraints.map Constraint.text) pieces) :
    ∃ marked, columns options (statement table pieces) = served options marked ∧
      marked.map Column.name = entries.map (fun entry => entry.name.text) ∧
      (List.Forall₂ (AsDeclared constraints) entries marked ↔
        ∀ entry ∈ entries, Quiet constraints entry) := by
  refine ⟨entries.map (fieldOf options entries constraints), ?_, ?_, ?_⟩
  · rw [columns_read options table padded (each_part entries constraints), parts_read]
    simp only [bind, Except.bind, parts_defined, List.map_map]
    rfl
  · rw [List.map_map]
    rfl
  · rw [List.forall₂_map_right_iff, List.forall₂_same]
    refine forall₂_congr fun entry _ => forall_congr' fun flag => ?_
    rw [marked_iff, or_iff_left_iff_imp]

/-- A table of orders with a key of its own and two of other tables. -/
def orderEntries : List Entry :=
  [{ name := .mk "number", type := .mk "INT"
     clauses := [(.space, .primaryKey), (.space, .autoIncrement), (.space, .notNull)] },
   { name := .mk "customer", gap := .mk "\t", type := .mk "INT"
     clauses := [(.mk "\t\t", .references (.mk "customers") (.mk "number"))] },
   { name := .mk "product", type := .mk "CHAR" }]

def orderKeys : List Constraint := [.foreignKey (.mk "product") [] (.mk "products") [.mk "name"]]

def orderPieces : List Text :=
  ["number INT PRIMARY KEY AUTOINCREMENT NOT NULL", "\n  customer\tINT\t\tREFERENCES customers(number)",
    "\n  product CHAR", "\n  FOREIGN KEY (product) REFERENCES products(name)\n"]

def orderOptions : TableOptions := { tableName := "orders" }

theorem order_flags_declared :
    List.Forall₂ Padded (orderEntries.map Entry.text ++ orderKeys.map Constraint.text) orderPieces ∧
    ∃ marked, columns orderOptions (statement { word := .mk "orders" } orderPieces) =
        served orderOptions marked ∧
      marked.map Column.name = orderEntries.map (fun entry => entry.name.text) ∧
      (List.Forall₂ (AsDeclared orderKeys) orderEntries marked ↔
        ∀ entry ∈ orderEntries, Quiet orderKeys entry) := by
  have padded : List.Forall₂ Padded (orderEntries.map Entry.text ++ orderKeys.map Constraint.text)
      orderPieces := by
    refine .cons ⟨[], [], by decide, by decide, by decide⟩ ?_
    refine .cons ⟨"\n  ", [], by decide, by decide, by decide⟩ ?_
    refine .cons ⟨"\n  ", [], by decide, by decide, by decide⟩ ?_
    exact .cons ⟨"\n  ", "\n", by decide, by decide, by decide⟩ .nil
  exact ⟨padded, flags_declared_iff _ _ padded⟩

/-- A column without any clause. -/
def preferences : Entry := { name := .mk "preferences", type := .mk "CHAR" }

/-- The name of a column makes it a foreign key that nothing declares. -/
theorem preferences_refer : ¬ Declared [] preferences .foreignKey ∧
    columns { tableName := "t" } (statement { word := .mk "t" } [preferences.text]) =
      .ok [{ name := "preferences", kind := .string, sqlType := "CHAR", isForeignKey := true }] := by
  constructor
  · rintro (⟨clause, member, -⟩ | ⟨key, member, -⟩) <;> cases member
  · decide +kernel

end TableGate.KeyDeclarations
