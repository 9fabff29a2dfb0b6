import Mathlib.Data.List.TakeWhile
import TableGate.Proofs.BracketBalance

/-! Filters as texts. A filter is written with brackets around every name, value and part, and is
read back from that text as it was: whatever stands inside of a bracket block is passed over until
the block is closed, so that each form of a filter is told from the others by what is outside of
its blocks. -/
namespace TableGate.FilterWriting
open Text TableGate.Filter BracketBalance

/-- A name or value that a comparison can hold: there is one, without quotes, brackets and line
breaks. -/
structure Plain (text : Text) : Prop where
  present : text ≠ []
  characters : ∀ c ∈ text, isPlain c = true ∧ c ≠ '\n'

/-- No part of a filter is empty, and all its names and values are plain. -/
def Writable : Filter → Prop
  | .empty => False
  | .compare field _ value => Plain field ∧ Plain value
  | .not inner => Writable inner
  | .join left _ right => Writable left ∧ Writable right

theorem plain_iff {text : Text} :
    text ≠ [] ∧ text.all (fun c => isPlain c && c != '\n') = true ↔ Plain text := by
  constructor
  · rintro ⟨present, all⟩
    exact ⟨present, fun c member => by simpa using List.all_eq_true.mp all c member⟩
  · rintro ⟨present, characters⟩
    exact ⟨present, List.all_eq_true.mpr fun c member => by simpa using characters c member⟩

instance : DecidablePred Plain := fun _ => decidable_of_iff _ plain_iff

instance decidableWritable : (filter : Filter) → Decidable (Writable filter)
  | .empty => inferInstanceAs (Decidable False)
  | .compare field _ value => inferInstanceAs (Decidable (Plain field ∧ Plain value))
  | .not inner => decidableWritable inner
  | .join left _ right => @instDecidableAnd _ _ (decidableWritable left) (decidableWritable right)

/-- A text in brackets. -/
def block (inner : Text) : Text := '(' :: inner ++ [')']

/-- The text of a filter. -/
def write : Filter → Text
  | .empty => []
  | .compare field op value => block field ++ '-' :: op.word ++ block value
  | .not inner => '-' :: "not" ++ block (write inner)
  | .join left op right => block (write left) ++ '-' :: op.word ++ block (write right)

/-- A text spells a filter if it is the text of the filter, up to the word of each negation, which
may be left out. -/
inductive Spells : Filter → Text → Prop where
  | compare {field value : Text} (op : Comparator) (name : Plain field) (content : Plain value) :
      Spells (.compare field op value) (block field ++ '-' :: op.word ++ block value)
  | named {filter : Filter} {inner : Text} (spelled : Spells filter inner) :
      Spells (.not filter) ('-' :: "not" ++ block inner)
  | short {filter : Filter} {inner : Text} (spelled : Spells filter inner) :
      Spells (.not filter) ('-' :: block inner)
  | join {left right : Filter} {first second : Text} (op : Connective) (front : Spells left first)
      (back : Spells right second) :
      Spells (.join left op right) (block first ++ '-' :: op.word ++ block second)

variable {text rest inner field value : Text} {start : Int} {filter : Filter}

/-! ### What every spelled text has -/

/-- A text on one line that closes the brackets that it opens, and no others. -/
structure Closed (text : Text) : Prop where
  above : Above 0 text
  level : depth text = 0
  line : '\n' ∉ text

/-- A closed text whose first block has nothing but plain characters in front of it. -/
structure Nested (text : Text) : Prop extends Closed text where
  opens : ∃ front more, text = front ++ '(' :: more ∧ ∀ c ∈ front, isPlain c = true

private theorem plain_outside {text : Text} (plain : Plain text) : Free text := by
  intro c member
  have outside := (plain.characters c member).1
  simp only [isPlain, Bool.not_eq_true', Bool.or_eq_false_iff, beq_eq_false_iff_ne] at outside
  simp [depthStep, outside.1.2, outside.2]

private theorem plain_closed (plain : Plain text) : Closed text where
  above := free_above (plain_outside plain) (Int.le_refl 0)
  level := free_depth (plain_outside plain)
  line := fun member => (plain.characters _ member).2 rfl

private theorem closed_append (front : Closed text) (back : Closed rest) : Closed (text ++ rest) where
  above := above_append.mpr ⟨front.above, by rw [front.level]; exact back.above⟩
  level := by rw [depth_append, front.level, back.level, Int.add_zero]
  line := by simp [front.line, back.line]

private theorem closed_block (closed : Closed inner) : Closed (block inner) where
  above := above_block closed.above closed.level (Int.le_refl 0)
  level := by rw [block, depth_block, closed.level]; rfl
  line := by simp [block, closed.line]

/-- Two blocks with a word between them. -/
private theorem nested_joined {first second sign : Text} (plain : Plain sign) (front : Closed first)
    (back : Closed second) : Nested (block first ++ sign ++ block second) where
  toClosed := closed_append (closed_append (closed_block front) (plain_closed plain)) (closed_block back)
  opens := ⟨[], _, rfl, by simp⟩

/-- A block with a word in front of it. -/
private theorem nested_behind {sign : Text} (plain : Plain sign) (closed : Closed inner) :
    Nested (sign ++ block inner) where
  toClosed := closed_append (plain_closed plain) (closed_block closed)
  opens := ⟨sign, _, rfl, fun c member => (plain.characters c member).1⟩

theorem spelled_nested (spelled : Spells filter text) : Nested text := by
  induction spelled with
  | compare op name content =>
    have plain : Plain ('-' :: op.word) := by cases op <;> decide
    exact nested_joined plain (plain_closed name) (plain_closed content)
  | named _ nested => exact nested_behind (by decide : Plain "-not") nested.toClosed
  | short _ nested => exact nested_behind (by decide : Plain "-") nested.toClosed
  | join op _ _ front back =>
    have plain : Plain ('-' :: op.word) := by cases op <;> decide
    exact nested_joined plain front.toClosed back.toClosed

/-! ### Blocks are passed over -/

/-- Inside of brackets no connective cuts. -/
private theorem split_inside (above : Above start inner) (rest : Text) :
    splitConnective? false (start + 1) (inner ++ rest) =
      (splitConnective? false (start + 1 + depth inner) rest).map fun cut =>
        (inner ++ cut.1, cut.2) := by
  induction inner generalizing start with
  | nil => simp [depth]
  | cons c inner ih =>
    obtain ⟨now, later⟩ := above
    have apart : start + 1 ≠ 0 := by omega
    have next : start + 1 + depthStep c = start + depthStep c + 1 := by omega
    have total : start + depthStep c + 1 + depth inner = start + 1 + depth (c :: inner) := by
      simp only [depth]
      omega
    simp only [List.cons_append, splitConnective?, apart, false_and, if_false]
    rw [next, ih later, total, Option.map_map]
    rfl

/-- Nor does one cut in front of a block or in it. -/
private theorem split_block (atStart : Bool) (closed : Closed inner) (rest : Text) :
    splitConnective? atStart 0 (block inner ++ rest) =
      (splitConnective? false 0 rest).map fun cut => (block inner ++ cut.1, cut.2) := by
  have inside := split_inside closed.above (')' :: rest)
  rw [closed.level] at inside
  simp only [block, List.cons_append, List.append_assoc, List.nil_append, splitConnective?,
    Char.reduceEq, or_self, and_false, if_false]
  simp only [depthStep, if_true, inside, splitConnective?, Char.reduceEq, if_false]
  simp [Option.map_map, Function.comp_def]

private theorem split_closed (closed : Closed inner) :
    splitConnective? true 0 (block inner) = none := by
  have := split_block true closed []
  simpa [splitConnective?] using this

private theorem split_joined (op : Connective) {first second : Text} (closed : Closed first) :
    splitConnective? true 0 (block first ++ '-' :: op.word ++ block second) =
      some (block first, op, block second) := by
  have signed : connective? ('-' :: op.word ++ block second) = some (op, block second) := by
    cases op <;> rfl
  rw [List.append_assoc, split_block true closed]
  rw [List.cons_append] at signed ⊢
  simp [splitConnective?, signed]

private theorem split_negation (closed : Closed inner) :
    splitConnective? true 0 ('-' :: "not" ++ block inner) = none ∧
      splitConnective? true 0 ('-' :: block inner) = none := by
  have uncut := split_block false closed []
  simp only [List.append_nil, splitConnective?, Option.map_none] at uncut
  constructor
  · simp [splitConnective?, depthStep, uncut]
  · simp [splitConnective?, depthStep, uncut]

/-- Nor does a bracket inside of a block end it. -/
private theorem pieces_inside (current : Text) (above : Above start inner) (rest : Text) :
    piecesByBrackets '(' ')' true false (start + 1) current (inner ++ rest) =
      piecesByBrackets '(' ')' true false (start + 1 + depth inner) (inner.reverse ++ current) rest := by
  induction inner generalizing start current with
  | nil => simp [depth]
  | cons c inner ih =>
    obtain ⟨now, later⟩ := above
    have from_zero : 0 ≤ start + depthStep c := by
      cases inner with
      | nil => exact later
      | cons d inner => exact later.1
    have step := ih (c :: current) later
    have next : start + depthStep c + 1 = start + 1 + depthStep c := by omega
    have total : start + 1 + depthStep c + depth inner = start + 1 + depth (c :: inner) := by
      simp only [depth]
      omega
    rw [next, total] at step
    rw [List.reverse_cons, List.append_assoc, List.singleton_append, ← step, List.cons_append,
      piecesByBrackets]
    by_cases opening : c = '('
    · have apart : start + 1 ≠ 0 := by omega
      simp [opening, apart, depthStep]
    · by_cases closing : c = ')'
      · have apart : start + 1 ≠ 1 := by
          intro one
          have zero : start = 0 := by omega
          simp [zero, closing, depthStep] at from_zero
        have down : depthStep c = -1 := by simp [depthStep, closing]
        rw [down, ← Int.sub_eq_add_neg]
        simp [closing, apart]
      · simp [opening, closing, depthStep]

private theorem grouped_block (closed : Closed inner) (present : inner ≠ []) :
    grouped? (block inner) = some inner := by
  have pieces := pieces_inside [] closed.above [')']
  rw [closed.level] at pieces
  have one : splitByBrackets '(' ')' true false (block inner) = [inner] := by
    simp only [splitByBrackets, block, List.cons_append, piecesByBrackets, if_true]
    simpa [piecesByBrackets] using pieces
  have ends : (block inner).getLast? = some ')' := List.getLast?_concat
  have starts : (block inner).head? = some '(' := rfl
  simp [grouped?, one, ends, starts, present]

/-! ### The forms of a filter -/

/-- One block on one line behind a hyphen, with or without the word, is the inside of a negation. -/
theorem negated_opened (opened : (dropKeyword? "not" rest).getD rest = block inner)
    (line : '\n' ∉ inner) (present : inner ≠ []) : negated? ('-' :: rest) = some inner := by
  have oneLine : ∀ c ∈ inner ++ [')'], (!decide (c = '\n')) = true := by
    intro c member
    rcases List.mem_append.mp member with member | last
    · have apart : c ≠ '\n' := fun same => line (same ▸ member)
      simp [apart]
    · obtain rfl := List.mem_singleton.mp last
      decide
  have taken := List.takeWhile_eq_self_iff.mpr oneLine
  have dropped := List.dropWhile_eq_nil_iff.mpr oneLine
  rw [negated?, opened]
  simp [block, taken, dropped, atEnd, present]

private theorem negated_block (line : '\n' ∉ inner) (present : inner ≠ []) :
    negated? ('-' :: "not" ++ block inner) = some inner ∧
      negated? ('-' :: block inner) = some inner :=
  ⟨negated_opened rfl line present, negated_opened rfl line present⟩

private theorem bracketed_block (plain : Plain text) (rest : Text) :
    bracketed? (block text ++ rest) = some (text, rest) := by
  have taken : (text ++ ')' :: rest).takeWhile isPlain = text := by
    rw [List.takeWhile_append_of_pos fun c member => (plain.characters c member).1,
      List.takeWhile_cons_of_neg (by decide), List.append_nil]
  have dropped : (text ++ ')' :: rest).dropWhile isPlain = ')' :: rest := by
    rw [List.dropWhile_append_of_pos fun c member => (plain.characters c member).1,
      List.dropWhile_cons_of_neg (by decide)]
  obtain ⟨c, name, rfl⟩ := List.exists_cons_of_ne_nil plain.present
  have shape : block (c :: name) ++ rest = '(' :: (c :: name ++ ')' :: rest) := by simp [block]
  rw [shape, bracketed?, taken, dropped]
  rfl

private theorem comparator_word (op : Comparator) :
    comparator? (op.word ++ '(' :: rest) = some (op.word, '(' :: rest) := by
  cases op <;> rfl

private theorem comparison_written (op : Comparator) (name : Plain field) (content : Plain value) :
    comparison? (block field ++ '-' :: op.word ++ block value) = some (field, op.word, value) := by
  have front := bracketed_block name ('-' :: (op.word ++ block value))
  have spelled : comparator? (op.word ++ block value) = some (op.word, block value) := comparator_word op
  have back := bracketed_block content []
  rw [List.append_nil] at back
  have gap : dropBlank ('-' :: (op.word ++ block value)) = '-' :: (op.word ++ block value) := rfl
  have behind : dropBlank (block value) = block value := rfl
  rw [List.append_assoc, List.cons_append, comparison?, front]
  simp [gap, spelled, behind, back, atEnd]

private theorem comparison_block (nested : Nested inner) (rest : Text) :
    comparison? (block inner ++ rest) = none := by
  obtain ⟨front, more, rfl, plain⟩ := nested.opens
  have taken : (front ++ '(' :: (more ++ ')' :: rest)).dropWhile isPlain = '(' :: (more ++ ')' :: rest) := by
    rw [List.dropWhile_append_of_pos plain, List.dropWhile_cons_of_neg (by decide)]
  have shape : block (front ++ '(' :: more) ++ rest = '(' :: (front ++ '(' :: (more ++ ')' :: rest)) := by
    simp [block]
  rw [shape]
  simp [comparison?, bracketed?, taken]

/-! ### Reading -/

theorem parse_comparison {word : Text} {op : Comparator}
    (found : comparison? text = some (field, word, value))
    (known : Comparator.ofWord? (lower word) = some op) : parse text = .ok (.compare field op value) := by
  fun_cases parse text with
  | case1 empty =>
    obtain rfl := List.isEmpty_iff.mp empty
    cases found
  | _ => simp_all

private theorem parse_joined {op : Connective} {first second : Text} {left right : Filter}
    (uncompared : comparison? text = none)
    (cut : splitConnective? true 0 text = some (first, op, second))
    (single : splitConnective? true 0 second = none)
    (front : parse first = .ok left) (back : parse second = .ok right) :
    parse text = .ok (.join left op right) := by
  fun_cases parse text with
  | case1 empty =>
    obtain rfl := List.isEmpty_iff.mp empty
    cases cut
  | case5 _ _ _ _ _ found _ =>
    rw [cut] at found
    cases found
    rw [front, back]
    rfl
  | _ => simp_all

private theorem parse_negated (uncompared : comparison? text = none)
    (uncut : splitConnective? true 0 text = none) (negated : negated? text = some inner)
    (read : parse inner = .ok filter) : parse text = .ok (.not filter) := by
  fun_cases parse text with
  | case1 empty =>
    obtain rfl := List.isEmpty_iff.mp empty
    cases negated
  | case6 _ _ _ _ found =>
    rw [negated] at found
    cases found
    rw [read]
    rfl
  | _ => simp_all

private theorem parse_grouped (nested : Nested inner) (present : inner ≠ []) :
    parse (block inner) = parse inner := by
  have uncompared := comparison_block nested []
  rw [List.append_nil] at uncompared
  have uncut := split_closed nested.toClosed
  have unnegated : negated? (block inner) = none := rfl
  have grouped := grouped_block nested.toClosed present
  fun_cases parse (block inner) with
  | case1 empty => cases empty
  | _ => simp_all

private theorem nested_present (nested : Nested inner) : inner ≠ [] := by
  obtain ⟨front, more, rfl, -⟩ := nested.opens
  simp

/-- Each form of a filter is read back from each of its spellings. -/
theorem spelled_read (spelled : Spells filter text) : parse text = .ok filter := by
  induction spelled with
  | compare op name content =>
    refine parse_comparison (comparison_written op name content) ?_
    cases op <;> decide
  | named spelled read =>
    have nested := spelled_nested spelled
    have negated := negated_block nested.line (nested_present nested)
    exact parse_negated rfl (split_negation nested.toClosed).1 negated.1 read
  | short spelled read =>
    have nested := spelled_nested spelled
    have negated := negated_block nested.line (nested_present nested)
    exact parse_negated rfl (split_negation nested.toClosed).2 negated.2 read
  | join op front back readFront readBack =>
    have nestedFront := spelled_nested front
    have nestedBack := spelled_nested back
    have groupedFront := parse_grouped nestedFront (nested_present nestedFront)
    have groupedBack := parse_grouped nestedBack (nested_present nestedBack)
    refine parse_joined ?_ (split_joined op nestedFront.toClosed) (split_closed nestedBack.toClosed)
      (groupedFront.trans readFront) (groupedBack.trans readBack)
    rw [List.append_assoc]
    exact comparison_block nestedFront _

theorem write_spells (writable : Writable filter) : Spells filter (write filter) := by
  induction filter with
  | empty => cases writable
  | compare field op value => exact .compare op writable.1 writable.2
  | not inner ih => exact .named (ih writable)
  | join left op right ihLeft ihRight => exact .join op (ihLeft writable.1) (ihRight writable.2)

/-- No text spells two filters. -/
theorem spelling_unambiguous {other : Filter} (one : Spells filter text) (two : Spells other text) :
    filter = other := by
  have read := spelled_read one
  rw [spelled_read two] at read
  exact (Except.ok.inj read).symm

/-- A filter without empty parts and with plain names and values is read back from its text, with
any of its negations written in short. -/
theorem written_filter_read (filter : Filter) (writable : Writable filter) :
    parse (write filter) = .ok filter ∧ ∀ text, Spells filter text → parse text = .ok filter :=
  ⟨spelled_read (write_spells writable), fun _ => spelled_read⟩

/-- Values that look like operators, and one of two negations in short. -/
theorem nested_filter_read :
    parse "-not((-not((a)-eq(-not)))-or((b c)-like(x-and)))" =
        .ok (.not (.join (.not (.compare "a" .eq "-not")) .or (.compare "b c" .like "x-and"))) ∧
      parse "-not((-((a)-eq(-not)))-or((b c)-like(x-and)))" =
        .ok (.not (.join (.not (.compare "a" .eq "-not")) .or (.compare "b c" .like "x-and"))) := by
  have name : Plain "a" ∧ Plain "-not" ∧ Plain "b c" ∧ Plain "x-and" := by decide
  have read := written_filter_read
    (.not (.join (.not (.compare "a" .eq "-not")) .or (.compare "b c" .like "x-and"))) (by decide)
  have spelled := Spells.named (.join .or (.short (.compare .eq name.1 name.2.1))
    (.compare .like name.2.2.1 name.2.2.2))
  exact ⟨read.1, read.2 _ spelled⟩

end TableGate.FilterWriting
