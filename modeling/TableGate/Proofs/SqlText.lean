import TableGate.Proofs.BracketBalance
import TableGate.Proofs.LiteralContainment
import TableGate.Text.Word
import Mathlib.Data.List.TakeWhile

/-! Texts of SQL as each engine reads them. The reader knows how an engine quotes names and
literals, and where brackets open and close; it does not know how statements are printed. It tells
the characters outside quotes from those inside, and cuts a text at the marks that stand outside
both quotes and brackets. A text that closes its quotes is read alike wherever it stands between
characters that have no part in quoting. -/
namespace TableGate.SqlText
open BracketBalance LiteralContainment NumberText QuotedRuns TextFacts TableGate.Filter

/-! ### The reader -/

/-- What closes the quoted run that a character opens. -/
def closer? : Engine → Char → Option Char
  | .sqlite, c => if c = '\'' ∨ c = '"' ∨ c = '`' then some c else if c = '[' then some ']' else none
  | .postgresql, c => if c = '\'' ∨ c = '"' then some c else none
  | .mariadb, c => if c = '\'' ∨ c = '"' ∨ c = '`' then some c else none
  | .mssql, c => if c = '\'' ∨ c = '"' then some c else if c = '[' then some ']' else none

/-- In the string literals of MariaDB a backslash guards the character behind it. -/
def guards (engine : Engine) (closer : Char) : Bool := engine == .mariadb && closer != '`'

/-- A closing mark that is written twice stands for itself; only the brackets of SQLite have no such
form. -/
def doubles (engine : Engine) (closer : Char) : Bool := !(engine == .sqlite && closer == ']')

/-- Where a reader stands behind a character that it has met outside the runs. -/
def enter (engine : Engine) (c : Char) : Place :=
  match closer? engine c with
  | some closer => .inside closer
  | none => .outside

/-- One character read. A character is outside quotes exactly where the reader is behind it. -/
def step (engine : Engine) : Place → Char → Place
  | .outside, c => enter engine c
  | .inside closer, c =>
    if c = '\\' ∧ guards engine closer then .escaped closer
    else if c = closer then .closed closer
    else .inside closer
  | .escaped closer, _ => .inside closer
  | .closed closer, c => if c = closer ∧ doubles engine closer then .inside closer else enter engine c

/-- Where a reader stands behind a text. -/
def behind (engine : Engine) (place : Place) (text : Text) : Place := text.foldl (step engine) place

/-- The characters of a text that a reader finds outside quotes. -/
def bareFrom (engine : Engine) : Place → Text → Text
  | _, [] => []
  | place, c :: text =>
    let next := step engine place c
    if next = .outside then c :: bareFrom engine next text else bareFrom engine next text

/-- The characters of a text outside its quotes. -/
def bare (engine : Engine) (text : Text) : Text := bareFrom engine .outside text

/-- The parts of a text between the marks outside quotes and brackets, for a reader that has come to
a place and a depth of brackets. -/
def cutFrom (engine : Engine) (mark : Char) : Place → Int → Text → List Text
  | _, _, [] => [[]]
  | place, depth, c :: text =>
    let next := step engine place c
    if next = .outside ∧ c = mark ∧ depth = 0 then [] :: cutFrom engine mark .outside 0 text
    else
      (cutFrom engine mark next (if next = .outside then depth + depthStep c else depth) text).modifyHead
        (c :: ·)

/-- The parts of a text between the marks outside quotes and brackets. -/
def cut (engine : Engine) (mark : Char) (text : Text) : List Text := cutFrom engine mark .outside 0 text

/-- The items of a list with commas between them; an empty text is a list without items. -/
def items (engine : Engine) (text : Text) : List Text :=
  if text.isEmpty then [] else cut engine ',' text

/-- The inside of a text in brackets. -/
def unbracket? : Text → Option Text
  | '(' :: text => if text.getLast? = some ')' then some text.dropLast else none
  | _ => none

/-- One statement without the semicolon at its end: all quotes are closed, and no other semicolon
stands outside them. -/
def sentence? (engine : Engine) (text : Text) : Option Text :=
  if behind engine .outside text = .outside ∧ text.getLast? = some ';' ∧
    (bare engine text).count ';' = 1 then some text.dropLast else none

/-! ### Texts that close their quotes -/

/-- The characters that have a part in quoting. -/
def quoteMarks : List Char := ['\'', '"', '`', '[', ']']

/-- A text without any of them. -/
def Plain (text : Text) : Prop := ∀ c ∈ text, c ∉ quoteMarks

instance : DecidablePred Plain := fun text => List.decidableBAll (fun c => c ∉ quoteMarks) text

instance : DecidablePred Free := fun text => List.decidableBAll (fun c => depthStep c = 0) text

/-- A text that stands between others and changes nothing of how they are read: it is not empty, and it
has no part in quotes or brackets. -/
structure Separator (text : Text) : Prop where
  filled : text ≠ []
  plain : Plain text
  free : Free text

instance : DecidablePred Separator := fun text =>
  decidable_of_iff (text ≠ [] ∧ Plain text ∧ Free text)
    ⟨fun ⟨filled, plain, free⟩ => ⟨filled, plain, free⟩,
      fun apart => ⟨apart.filled, apart.plain, apart.free⟩⟩

/-- A reader has left all quotes as soon as the next character is none of them. -/
def Settled : Place → Prop
  | .outside => True
  | .closed closer => closer ∈ quoteMarks
  | .inside _ | .escaped _ => False

/-- A text that closes the quotes that it opens. -/
def Closed (engine : Engine) (text : Text) : Prop := Settled (behind engine .outside text)

/-- A closed text that closes the brackets that it opens outside quotes, and no others. -/
structure Matched (engine : Engine) (text : Text) : Prop where
  closed : Closed engine text
  above : Above 0 (bare engine text)
  level : depth (bare engine text) = 0

variable {engine : Engine} {place : Place} {text rest separator inner literal : Text} {mark c : Char}
  {start height : Int} {pieces : List Text} {allowed wider : Char → Prop}

theorem behind_append (engine : Engine) (place : Place) (text rest : Text) :
    behind engine place (text ++ rest) = behind engine (behind engine place text) rest :=
  List.foldl_append

theorem bareFrom_append (engine : Engine) (place : Place) (text rest : Text) :
    bareFrom engine place (text ++ rest) =
      bareFrom engine place text ++ bareFrom engine (behind engine place text) rest := by
  induction text generalizing place with
  | nil => rfl
  | cons c text ih =>
    simp only [List.cons_append, bareFrom, behind, List.foldl_cons] at ih ⊢
    split <;> simp [ih]

private theorem enter_plain (plain : c ∉ quoteMarks) : enter engine c = .outside := by
  simp only [quoteMarks, List.mem_cons, List.not_mem_nil, or_false, not_or] at plain
  cases engine <;> simp [enter, closer?, plain]

/-- Behind a closed run and outside of all runs, a plain character is read alike. -/
theorem step_plain (settled : Settled place) (plain : c ∉ quoteMarks) :
    step engine place c = .outside := by
  cases place with
  | outside => exact enter_plain plain
  | closed closer =>
    have other : c ≠ closer := by
      rintro rfl
      exact plain settled
    simp [step, other, enter_plain plain]
  | inside closer => cases settled
  | escaped closer => cases settled

theorem read_plain (settled : Settled place) (plain : Plain text) :
    bareFrom engine place text = text ∧ (text ≠ [] → behind engine place text = .outside) := by
  induction text generalizing place with
  | nil => simp [bareFrom]
  | cons c text ih =>
    obtain ⟨first, others⟩ := List.forall_mem_cons.mp plain
    have here : step engine place c = .outside := step_plain settled first
    obtain ⟨same, later⟩ := @ih .outside trivial others
    constructor
    · simp [bareFrom, here, same]
    · intro _
      rw [behind, List.foldl_cons, here]
      cases text with
      | nil => rfl
      | cons d text => exact later (List.cons_ne_nil d text)

theorem closed_nil : Closed engine [] := trivial

theorem closed_plain (plain : Plain text) : Closed engine text := by
  have settled : Settled .outside := trivial
  by_cases none : text = []
  · subst none
    exact closed_nil
  · rw [Closed, (read_plain settled plain).2 none]
    exact settled

theorem bare_plain (plain : Plain text) : bare engine text = text := by
  have settled : Settled .outside := trivial
  exact (read_plain settled plain).1

/-- Behind a closed text and some plain characters a reader is where it has begun. -/
theorem behind_separator (closed : Closed engine text) (some : separator ≠ [])
    (plain : Plain separator) : behind engine .outside (text ++ separator) = .outside := by
  rw [behind_append]
  exact (read_plain closed plain).2 some

theorem closed_append (first : Closed engine text) (some : separator ≠ []) (plain : Plain separator)
    (second : Closed engine rest) : Closed engine (text ++ (separator ++ rest)) := by
  rw [← List.append_assoc, Closed, behind_append, behind_separator first some plain]
  exact second

theorem bare_append (first : Closed engine text) (some : separator ≠ []) (plain : Plain separator) :
    bare engine (text ++ (separator ++ rest)) = bare engine text ++ (separator ++ bare engine rest) := by
  have same : bareFrom engine (behind engine .outside text) separator = separator :=
    (read_plain first plain).1
  rw [← List.append_assoc, bare, bareFrom_append, bareFrom_append, behind_separator first some plain,
    same, List.append_assoc]
  rfl

theorem closed_lead (plain : Plain separator) (second : Closed engine rest) :
    Closed engine (separator ++ rest) := by
  by_cases none : separator = []
  · rwa [none]
  · exact closed_append closed_nil none plain second

theorem bare_lead (plain : Plain separator) :
    bare engine (separator ++ rest) = separator ++ bare engine rest := by
  by_cases none : separator = []
  · simp [none]
  · exact bare_append closed_nil none plain

theorem bare_trail (first : Closed engine text) (plain : Plain separator) :
    bare engine (text ++ separator) = bare engine text ++ separator := by
  by_cases none : separator = []
  · simp [none]
  · have joined : bare engine (text ++ (separator ++ [])) = bare engine text ++ (separator ++ bare engine []) :=
      bare_append first none plain
    have empty : bare engine [] = [] := rfl
    rwa [empty, List.append_nil] at joined

theorem bare_join (apart : Separator separator)
    (each : ∀ piece ∈ pieces, Closed engine piece) :
    bare engine (Text.join separator pieces) = Text.join separator (pieces.map (bare engine)) := by
  induction pieces with
  | nil => rfl
  | cons piece pieces ih =>
    obtain ⟨first, others⟩ := List.forall_mem_cons.mp each
    cases pieces with
    | nil => rfl
    | cons next pieces =>
      have tail := ih others
      rw [List.map_cons] at tail
      rw [Text.join, List.append_assoc, bare_append first apart.filled apart.plain, tail, List.map_cons,
        List.map_cons, Text.join, List.append_assoc]

/-! ### Brackets -/

theorem matched_nil : Matched engine [] := ⟨trivial, Int.le_refl 0, rfl⟩

/-- A plain text without brackets. -/
theorem matched_plain (plain : Plain text) (free : Free text) : Matched engine text where
  closed := closed_plain plain
  above := by
    rw [bare_plain plain]
    exact free_above free (Int.le_refl 0)
  level := by
    rw [bare_plain plain]
    exact free_depth free

/-- A closed text that has no brackets outside its quotes. -/
theorem matched_free (closed : Closed engine text) (free : Free (bare engine text)) : Matched engine text :=
  ⟨closed, free_above free (Int.le_refl 0), free_depth free⟩

theorem matched_append (first : Matched engine text) (apart : Separator separator)
    (second : Matched engine rest) : Matched engine (text ++ (separator ++ rest)) where
  closed := closed_append first.closed apart.filled apart.plain second.closed
  above := by
    rw [bare_append first.closed apart.filled apart.plain, above_append, first.level, Int.add_zero]
    exact ⟨first.above, (above_behind apart.free).mpr second.above⟩
  level := by
    rw [bare_append first.closed apart.filled apart.plain, depth_append, depth_append, first.level,
      free_depth apart.free, second.level]
    rfl

theorem matched_lead (apart : Separator separator) (second : Matched engine rest) :
    Matched engine (separator ++ rest) := matched_append matched_nil apart second

theorem matched_join (apart : Separator separator) (each : ∀ piece ∈ pieces, Matched engine piece) :
    Matched engine (Text.join separator pieces) := by
  induction pieces with
  | nil => exact matched_nil
  | cons piece pieces ih =>
    obtain ⟨first, others⟩ := List.forall_mem_cons.mp each
    cases pieces with
    | nil => exact first
    | cons next pieces =>
      rw [Text.join, List.append_assoc]
      exact matched_append first apart (ih others)

/-- What is read of a closed text in brackets. -/
theorem bare_enclosed (closed : Closed engine inner) :
    bare engine ('(' :: inner ++ [')']) = '(' :: bare engine inner ++ [')'] := by
  have front : bare engine (['('] ++ (inner ++ [')'])) = ['('] ++ bare engine (inner ++ [')']) :=
    bare_lead (by decide)
  rw [bare_trail closed (by decide)] at front
  exact front

theorem behind_enclosed (closed : Closed engine inner) :
    behind engine .outside ('(' :: inner ++ [')']) = .outside :=
  behind_separator (closed_lead (by decide : Plain ['(']) closed) (by simp) (by decide)

theorem matched_enclosed (inside : Matched engine inner) : Matched engine ('(' :: inner ++ [')']) where
  closed := by
    rw [Closed, behind_enclosed inside.closed]
    trivial
  above := by
    rw [bare_enclosed inside.closed]
    exact above_block inside.above inside.level (Int.le_refl 0)
  level := by
    rw [bare_enclosed inside.closed, depth_block, inside.level]
    rfl

/-! ### What a text shows -/

/-- A matched text that shows only characters of some class outside its quotes. -/
structure Shows (engine : Engine) (allowed : Char → Prop) (text : Text) : Prop where
  level : Matched engine text
  each : ∀ c ∈ bare engine text, allowed c

theorem Shows.mono (shows : Shows engine allowed text) (weaker : ∀ c, allowed c → wider c) :
    Shows engine wider text :=
  ⟨shows.level, fun c member => weaker c (shows.each c member)⟩

theorem shows_plain (plain : Plain text) (free : Free text) (each : ∀ c ∈ text, allowed c) :
    Shows engine allowed text where
  level := matched_plain plain free
  each := by rwa [bare_plain plain]

/-- A text that is quoted as a whole shows nothing. -/
theorem shows_nothing (closed : Closed engine text) (none : bare engine text = []) :
    Shows engine allowed text := by
  have nothing : ∀ c, c ∉ bare engine text := by simp [none]
  exact ⟨matched_free closed fun c member => absurd member (nothing c),
    fun c member => absurd member (nothing c)⟩

theorem shows_append (first : Shows engine allowed text) (apart : Separator separator)
    (between : ∀ c ∈ separator, allowed c) (second : Shows engine allowed rest) :
    Shows engine allowed (text ++ (separator ++ rest)) where
  level := matched_append first.level apart second.level
  each := by
    rw [bare_append first.level.closed apart.filled apart.plain]
    exact List.forall_mem_append.mpr ⟨first.each, List.forall_mem_append.mpr ⟨between, second.each⟩⟩

theorem shows_lead (apart : Separator separator) (front : ∀ c ∈ separator, allowed c)
    (second : Shows engine allowed rest) : Shows engine allowed (separator ++ rest) where
  level := matched_lead apart second.level
  each := by
    rw [bare_lead apart.plain]
    exact List.forall_mem_append.mpr ⟨front, second.each⟩

theorem shows_join (apart : Separator separator) (between : ∀ c ∈ separator, allowed c)
    (each : ∀ piece ∈ pieces, Shows engine allowed piece) :
    Shows engine allowed (Text.join separator pieces) where
  level := matched_join apart fun piece member => (each piece member).level
  each := by
    rw [bare_join apart fun piece member => (each piece member).level.closed]
    intro c member
    rcases mem_join member with mark | ⟨shown, listed, inside⟩
    · exact between c mark
    · obtain ⟨piece, among, rfl⟩ := List.mem_map.mp listed
      exact (each piece among).each c inside

theorem shows_enclosed (inside : Shows engine allowed inner) (brackets : allowed '(' ∧ allowed ')') :
    Shows engine allowed ('(' :: inner ++ [')']) where
  level := matched_enclosed inside.level
  each := by
    rw [bare_enclosed inside.level.closed, List.cons_append, List.forall_mem_cons]
    refine ⟨brackets.1, List.forall_mem_append.mpr ⟨inside.each, ?_⟩⟩
    exact List.forall_mem_singleton.mpr brackets.2

/-! ### Cuts -/

/-- A reader that has come to a place and a depth finds no mark outside quotes and brackets. -/
def Whole (engine : Engine) (mark : Char) : Place → Int → Text → Prop
  | _, _, [] => True
  | place, height, c :: text =>
    let next := step engine place c
    ¬ (next = .outside ∧ c = mark ∧ height = 0) ∧
      Whole engine mark next (if next = .outside then height + depthStep c else height) text

/-- A part that a cut at a mark leaves whole. -/
structure Piece (engine : Engine) (mark : Char) (text : Text) : Prop where
  closed : Closed engine text
  level : depth (bare engine text) = 0
  whole : Whole engine mark .outside 0 text

theorem whole_of_free (free : mark ∉ bareFrom engine place text) : Whole engine mark place height text := by
  induction text generalizing place height with
  | nil => trivial
  | cons c text ih =>
    by_cases outside : step engine place c = .outside
    · simp only [bareFrom, outside, if_true, List.mem_cons, not_or] at free
      refine ⟨fun found => free.1 found.2.1.symm, ?_⟩
      rw [outside]
      exact ih free.2
    · simp only [bareFrom, outside, if_false] at free
      exact ⟨fun found => outside found.1, ih free⟩

/-- Inside brackets that stay open nothing is cut. -/
theorem whole_inside (above : Above start (bareFrom engine place text)) (deeper : start < height) :
    Whole engine mark place height text := by
  induction text generalizing place start height with
  | nil => trivial
  | cons c text ih =>
    by_cases outside : step engine place c = .outside
    · simp only [bareFrom, outside, if_true, Above] at above
      refine ⟨fun found => by omega, ?_⟩
      rw [if_pos outside, outside]
      exact ih above.2 (by omega)
    · simp only [bareFrom, outside, if_false] at above
      refine ⟨fun found => outside found.1, ?_⟩
      rw [if_neg outside]
      exact ih above deeper

theorem whole_append (first : Whole engine mark place height text)
    (second : Whole engine mark (behind engine place text)
      (height + depth (bareFrom engine place text)) rest) :
    Whole engine mark place height (text ++ rest) := by
  induction text generalizing place height with
  | nil => simpa [bareFrom, depth, behind] using second
  | cons c text ih =>
    obtain ⟨here, later⟩ := first
    refine ⟨here, ih later ?_⟩
    by_cases outside : step engine place c = .outside
    · simpa only [bareFrom, outside, if_true, depth, ← Int.add_assoc, behind, List.foldl_cons] using second
    · simpa only [bareFrom, outside, if_false, behind, List.foldl_cons] using second

/-- What does not show a mark is a part. -/
theorem Shows.piece (shows : Shows engine allowed text) (apart : ¬ allowed mark) : Piece engine mark text :=
  ⟨shows.level.closed, shows.level.level, whole_of_free fun member => apart (shows.each mark member)⟩

/-- A text in brackets is a part, whatever stands inside of the brackets. -/
theorem piece_enclosed (inside : Matched engine inner) (other : mark ≠ '(' ∧ mark ≠ ')') :
    Piece engine mark ('(' :: inner ++ [')']) := by
  have enclosed := matched_enclosed inside
  refine ⟨enclosed.closed, enclosed.level, ?_⟩
  have opened : step engine .outside '(' = .outside := step_plain trivial (by decide)
  refine ⟨fun found => other.1 found.2.1.symm, ?_⟩
  rw [if_pos opened, opened]
  refine whole_append (whole_inside inside.above (by decide)) ⟨fun found => other.2 found.2.1.symm, trivial⟩

private theorem cutFrom_whole (whole : Whole engine mark place height text) :
    cutFrom engine mark place height text = [text] := by
  induction text generalizing place height with
  | nil => rfl
  | cons c text ih =>
    obtain ⟨here, later⟩ := whole
    simp only [cutFrom, if_neg here, ih later, List.modifyHead_cons]

private theorem cutFrom_append (plain : mark ∉ quoteMarks) (whole : Whole engine mark place height text)
    (settled : Settled (behind engine place text))
    (level : height + depth (bareFrom engine place text) = 0) :
    cutFrom engine mark place height (text ++ mark :: rest) = text :: cut engine mark rest := by
  induction text generalizing place height with
  | nil =>
    have outside : step engine place mark = .outside := step_plain settled plain
    have zero : height = 0 := by simpa [bareFrom, depth] using level
    simp only [List.nil_append, cutFrom, outside, zero, and_self, if_true]
    rfl
  | cons c text ih =>
    obtain ⟨here, later⟩ := whole
    rw [behind, List.foldl_cons] at settled
    have even : (if step engine place c = .outside then height + depthStep c else height) +
        depth (bareFrom engine (step engine place c) text) = 0 := by
      by_cases outside : step engine place c = .outside
      · simpa only [bareFrom, outside, if_true, depth, ← Int.add_assoc] using level
      · simpa only [bareFrom, outside, if_false] using level
    simp only [List.cons_append, cutFrom, if_neg here, ih later settled even, List.modifyHead_cons]

/-- A cut undoes the joining of whole parts. -/
theorem cut_join (plain : mark ∉ quoteMarks) (some : pieces ≠ [])
    (each : ∀ piece ∈ pieces, Piece engine mark piece) :
    cut engine mark (Text.join [mark] pieces) = pieces := by
  induction pieces with
  | nil => exact absurd rfl some
  | cons piece pieces ih =>
    obtain ⟨first, others⟩ := List.forall_mem_cons.mp each
    cases pieces with
    | nil => exact cutFrom_whole first.whole
    | cons next pieces =>
      have level : 0 + depth (bareFrom engine .outside piece) = 0 := by
        rw [Int.zero_add]
        exact first.level
      have tail := ih (List.cons_ne_nil next pieces) others
      rw [Text.join, List.append_assoc, List.singleton_append, cut,
        cutFrom_append plain first.whole first.closed level, tail]

/-- The items of a list are read as they were joined, if none of them is empty. -/
theorem items_join (each : ∀ piece ∈ pieces, Piece engine ',' piece ∧ piece ≠ []) :
    items engine (Text.join "," pieces) = pieces := by
  cases pieces with
  | nil => rfl
  | cons piece pieces =>
    have filled : (Text.join [','] (piece :: pieces)).isEmpty = false := by
      obtain ⟨c, front, shape⟩ := List.exists_cons_of_ne_nil (each piece (by simp)).2
      cases pieces <;> simp [Text.join, shape]
    have joined : cut engine ',' (Text.join [','] (piece :: pieces)) = piece :: pieces :=
      cut_join (by decide) (List.cons_ne_nil piece pieces) fun other member => (each other member).1
    exact (if_neg (by simp [filled])).trans joined

@[simp] theorem unbracket_enclosed (inner : Text) : unbracket? ('(' :: inner ++ [')']) = some inner := by
  simp [unbracket?]

/-- A text that shows no semicolon is a statement with one behind it. -/
theorem sentence_eq (shows : Shows engine allowed text) (apart : ¬ allowed ';') :
    sentence? engine (text ++ [';']) = some text := by
  have plain : Plain [';'] := by decide
  have ended := behind_separator shows.level.closed (by simp) plain
  have single : ';' ∉ bare engine text := fun member => apart (shows.each _ member)
  have counted : (bare engine (text ++ [';'])).count ';' = 1 := by
    rw [bare_trail shows.level.closed plain, List.count_append, List.count_eq_zero.mpr single]
    rfl
  simp [sentence?, ended, counted]

/-! ### Names -/

/-- A run is read as one if its body, read inside, ends inside. -/
private theorem run_read {opener closer : Char} {body : Text} (opens : closer? engine opener = some closer)
    (inside : behind engine (.inside closer) body = .inside closer)
    (none : bareFrom engine (.inside closer) body = []) (closes : closer ≠ '\\') :
    behind engine .outside (opener :: body ++ [closer]) = .closed closer ∧
      bare engine (opener :: body ++ [closer]) = [] := by
  have opened : step engine .outside opener = .inside closer := by simp [step, enter, opens]
  have closed : step engine (.inside closer) closer = .closed closer := by simp [step, closes]
  constructor
  · rw [List.cons_append, behind, List.foldl_cons, opened, ← behind, behind_append, inside, behind,
      List.foldl_cons, closed, List.foldl_nil]
  · rw [List.cons_append, bare, bareFrom, opened, if_neg (by simp), bareFrom_append, none, inside]
    simp [bareFrom, closed]

/-- A name between quotes has nothing outside of them, if it has no closing mark and no backslash that
guards. -/
private theorem name_read {opener closer : Char} {name : Text} (opens : closer? engine opener = some closer)
    (mark : closer ∈ quoteMarks)
    (apart : ∀ c ∈ name, c ≠ closer ∧ (c ≠ '\\' ∨ guards engine closer = false)) :
    Closed engine (opener :: name ++ [closer]) ∧ bare engine (opener :: name ++ [closer]) = [] := by
  have stays : behind engine (.inside closer) name = .inside closer ∧
      bareFrom engine (.inside closer) name = [] := by
    clear opens mark
    induction name with
    | nil => exact ⟨rfl, rfl⟩
    | cons c name ih =>
      obtain ⟨⟨other, unguarded⟩, others⟩ := List.forall_mem_cons.mp apart
      have here : step engine (.inside closer) c = .inside closer := by
        rcases unguarded with plain | none
        · simp [step, other, plain]
        · simp [step, other, none]
      obtain ⟨inside, none⟩ := ih others
      constructor
      · rw [behind, List.foldl_cons, here]
        exact inside
      · rw [bareFrom, here, if_neg (by simp)]
        exact none
  have closes : closer ≠ '\\' := by
    rintro rfl
    exact absurd mark (by decide)
  obtain ⟨closed, bare⟩ := run_read opens stays.1 stays.2 closes
  refine ⟨?_, bare⟩
  rw [Closed, closed]
  exact mark

private theorem word_apart {name : Text} (word : ∀ c ∈ name, Text.isWord c = true) :
    ∀ c ∈ name, c ∉ quoteMarks ∧ c ≠ '\\' := by
  have outside : ∀ mark ∈ '\\' :: quoteMarks, Text.isWord mark = false := each_of_all (by decide)
  intro c member
  constructor
  · intro marked
    exact absurd (word c member) (by simp [outside c (by simp [marked])])
  · rintro rfl
    exact absurd (word _ member) (by decide)

private theorem word_read {opener closer : Char} {name : Text} (opens : closer? engine opener = some closer)
    (mark : closer ∈ quoteMarks) (word : ∀ c ∈ name, Text.isWord c = true) :
    Closed engine (opener :: name ++ [closer]) ∧ bare engine (opener :: name ++ [closer]) = [] := by
  apply name_read opens mark
  intro c member
  obtain ⟨unmarked, plain⟩ := word_apart word c member
  refine ⟨?_, .inl plain⟩
  rintro rfl
  exact unmarked mark

private theorem column_read {name : Text} (word : ∀ c ∈ name, Text.isWord c = true) :
    Closed engine (engine.quoteColumn name) ∧ bare engine (engine.quoteColumn name) = [] := by
  cases engine with
  | sqlite => exact word_read rfl (by decide) word
  | postgresql => exact word_read rfl (by decide) word
  | mariadb => exact word_read rfl (by decide) word
  | mssql => exact word_read rfl (by decide) word

/-- The quoted name of a column. -/
theorem column_shows {name : Text} (word : ∀ c ∈ name, Text.isWord c = true) :
    Shows engine allowed (engine.quoteColumn name) :=
  shows_nothing (column_read word).1 (column_read word).2

theorem column_filled (name : Text) : engine.quoteColumn name ≠ [] := by
  cases engine <;> exact List.cons_ne_nil _ _

/-- No other character has a double quote in its lower case. -/
private theorem lowerChar_apart (other : c ≠ '"') : '"' ∉ Text.lowerChar c := by
  unfold Text.lowerChar
  split
  · rename_i ascii
    exact ascii_apart (by decide) ascii other
  · exact image_apart (by decide) (by decide +kernel) (by decide +kernel) other

private theorem lower_apart {before : Text} (apart : '"' ∉ text) : '"' ∉ Text.lowerAfter before text := by
  induction text generalizing before with
  | nil => simp [Text.lowerAfter]
  | cons c text ih =>
    simp only [List.mem_cons, not_or] at apart
    rw [Text.lowerAfter, List.mem_append, not_or]
    refine ⟨?_, ih apart.2⟩
    split
    · split <;> decide
    · exact lowerChar_apart (Ne.symm apart.1)

private theorem table_read {name : Text} (word : ∀ c ∈ name, Text.isWord c = true) :
    Closed engine (engine.quoteTable name) ∧ bare engine (engine.quoteTable name) = [] := by
  cases engine with
  | sqlite => exact word_read rfl (by decide) word
  | postgresql =>
    have lowered : '"' ∉ Text.lower name := lower_apart fun member => (word_apart word _ member).1 (by decide)
    apply name_read rfl (by decide)
    intro c member
    refine ⟨?_, .inr rfl⟩
    rintro rfl
    exact lowered member
  | mariadb => exact word_read rfl (by decide) word
  | mssql => exact word_read rfl (by decide) word

/-- The quoted name of a table. -/
theorem table_shows {name : Text} (word : ∀ c ∈ name, Text.isWord c = true) :
    Shows engine allowed (engine.quoteTable name) :=
  shows_nothing (table_read word).1 (table_read word).2

/-! ### Literals -/

/-- What opens the run of a literal is read alike in statements. -/
private theorem literal_mark (opens : (literalQuoting engine).closer mark = some mark) :
    closer? engine mark = some mark ∧ mark ∈ quoteMarks ∧ doubles engine mark = true ∧
      guards engine mark = (literalQuoting engine).guarded := by
  have known : mark = '\'' ∨ engine = .mariadb ∧ mark = '"' := by
    by_contra other
    cases engine <;> simp_all [literalQuoting]
  rcases known with rfl | ⟨rfl, rfl⟩
  · cases engine <;> decide
  · decide

/-- The places of a reader that has not left a run. -/
private def Within (mark : Char) (place : Place) : Prop :=
  place = .inside mark ∨ place = .escaped mark ∨ place = .closed mark

/-- A reader of literals that stays in a run takes the same step as a reader of statements; one that
leaves the run has seen something. -/
private theorem literal_step (opens : (literalQuoting engine).closer mark = some mark)
    (within : Within mark place) (c : Char) :
    (Within mark (step engine place c) ∧
      (literalQuoting engine).read ⟨place, 0, []⟩ c = ⟨step engine place c, 0, []⟩) ∨
    0 < ((literalQuoting engine).read ⟨place, 0, []⟩ c).seen := by
  obtain ⟨-, marked, doubled, guarded⟩ := literal_mark opens
  rcases within with rfl | rfl | rfl
  · left
    by_cases closes : c = mark
    · have plain : mark ≠ '\\' := by
        rintro rfl
        exact absurd marked (by decide)
      simp [Within, step, Quoting.read, closes, plain]
    · by_cases guard : c = '\\' ∧ (literalQuoting engine).guarded = true
      · simp [Within, step, Quoting.read, guarded, guard]
      · simp [Within, step, Quoting.read, guarded, guard, closes]
  · left
    simp [Within, step, Quoting.read]
  · by_cases again : c = mark
    · left
      simp [Within, step, Quoting.read, again, doubled]
    · right
      have more : 0 < ((literalQuoting engine).readOutside ⟨.closed mark, 0, []⟩ c).seen :=
        Nat.zero_lt_of_lt (seen_readOutside _ c)
      simpa [Quoting.read, again] using more

private theorem literal_body {body : Text} (opens : (literalQuoting engine).closer mark = some mark)
    (within : Within mark place)
    (read : body.foldl (literalQuoting engine).read ⟨place, 0, []⟩ = ⟨.inside mark, 0, []⟩) :
    behind engine place body = .inside mark ∧ bareFrom engine place body = [] := by
  induction body generalizing place with
  | nil =>
    cases read
    exact ⟨rfl, rfl⟩
  | cons c body ih =>
    rw [List.foldl_cons] at read
    rcases literal_step opens within c with ⟨next, same⟩ | left
    · rw [same] at read
      obtain ⟨inside, none⟩ := ih next read
      have apart : step engine place c ≠ .outside := by
        rcases next with here | here | here <;> simp [here]
      exact ⟨inside, by rw [bareFrom, if_neg apart]; exact none⟩
    · exact absurd (unseen_of_inside read) (Nat.ne_of_gt left)

private theorem isBare_plain (only : isBare c = true) : c ∉ quoteMarks := by
  have apart : ∀ mark ∈ quoteMarks, isBare mark = false := each_of_all (by decide)
  intro marked
  simp [apart c marked] at only

/-- A literal is read as bare characters with one run behind them at most. -/
theorem literal_read (form : Form engine literal) :
    Closed engine literal ∧ bare engine literal = literal.takeWhile isBare := by
  have unquoted {text : Text} (only : ∀ c ∈ text, isBare c = true) :
      Closed engine text ∧ bare engine text = text.takeWhile isBare := by
    have plain : Plain text := fun c member => isBare_plain (only c member)
    rw [List.takeWhile_eq_self_iff.mpr only]
    exact ⟨closed_plain plain, bare_plain plain⟩
  cases form with
  | word letters =>
    apply unquoted
    intro c member
    simp [isBare, (letters c member).1]
  | number spelled => exact unquoted (number_bare spelled)
  | run lead body mark letters opens inert =>
    obtain ⟨own, marked, -, -⟩ := literal_mark opens
    have only : ∀ c ∈ lead, isBare c = true := by
      intro c member
      simp [isBare, Char.isAlphanum, letters c member]
    have plain : Plain lead := fun c member => isBare_plain (only c member)
    have stops : isBare mark = false := by
      by_contra bare
      exact isBare_plain (by simpa using bare) marked
    have closes : mark ≠ '\\' := by
      rintro rfl
      exact absurd marked (by decide)
    obtain ⟨inside, none⟩ := literal_body opens (.inl rfl) (inert 0 [])
    obtain ⟨closed, empty⟩ := run_read own inside none closes
    have front : (lead ++ mark :: body ++ [mark]).takeWhile isBare = lead := by
      rw [List.append_assoc, List.takeWhile_append_of_pos only]
      simp [stops]
    rw [front, List.append_assoc]
    constructor
    · apply closed_lead plain
      rw [Closed, closed]
      exact marked
    · rw [bare_lead plain, empty, List.append_nil]

/-- A literal shows letters, digits and signs. -/
theorem literal_shows (form : Form engine literal) : Shows engine (isBare · = true) literal := by
  obtain ⟨closed, front⟩ := literal_read form
  have only : ∀ c ∈ bare engine literal, isBare c = true := by
    rw [front]
    exact List.all_eq_true.mp List.all_takeWhile
  refine ⟨matched_free closed fun c member => ?_, only⟩
  have opening : c ≠ '(' := by
    rintro rfl
    exact absurd (only _ member) (by decide)
  have closing : c ≠ ')' := by
    rintro rfl
    exact absurd (only _ member) (by decide)
  simp [depthStep, opening, closing]

end TableGate.SqlText
