import TableGate.Proofs.Fallible
import TableGate.Proofs.TextFacts
import TableGate.Query.FilterParser

/-! The brackets of filters. A filter that is read from a text with as many opening as closing
brackets is read from a balanced one, since every form of a filter cuts its text at depth zero.
Where the counts differ, the brackets that are left over stand behind a group and are passed
over. -/
namespace TableGate.BracketBalance
open Text TableGate.Filter Fallible TextFacts

/-- No bracket closes that is not open, and all that are opened are closed. -/
structure Balanced (text : Text) : Prop where
  opened : ∀ front, front <+: text → front.count ')' ≤ front.count '('
  closed : text.count '(' = text.count ')'

/-- How many brackets a text opens beyond those that it closes. -/
def depth : Text → Int
  | [] => 0
  | c :: text => depthStep c + depth text

/-- Read from inside `start` brackets on, a text closes none that is not open. -/
def Above : Int → Text → Prop
  | start, [] => 0 ≤ start
  | start, c :: text => 0 ≤ start ∧ Above (start + depthStep c) text

/-- A text without brackets. -/
def Free (text : Text) : Prop := ∀ c ∈ text, depthStep c = 0

variable {text rest inner left right front : Text} {start : Int}

/-! ### Depth -/

theorem depth_append (text rest : Text) : depth (text ++ rest) = depth text + depth rest := by
  induction text with
  | nil => simp [depth]
  | cons c text ih => simp only [List.cons_append, depth, ih]; omega

theorem depth_count (text : Text) : depth text = text.count '(' - text.count ')' := by
  induction text with
  | nil => rfl
  | cons c text ih =>
    simp only [depth, depthStep, ih, List.count_cons, beq_iff_eq]
    by_cases opening : c = '('
    · subst opening
      simp
      omega
    · by_cases closing : c = ')'
      · subst closing
        simp
        omega
      · simp [opening, closing]

theorem above_append : Above start (text ++ rest) ↔ Above start text ∧ Above (start + depth text) rest := by
  induction text generalizing start with
  | nil =>
    simp only [List.nil_append, depth, Int.add_zero, Above]
    constructor
    · intro above
      refine ⟨?_, above⟩
      cases rest with
      | nil => exact above
      | cons c rest => exact above.1
    · exact And.right
  | cons c text ih => simp only [List.cons_append, Above, depth, ih, and_assoc, Int.add_assoc]

theorem above_iff : Above start text ↔ ∀ front, front <+: text → 0 ≤ start + depth front := by
  induction text generalizing start with
  | nil => simp [Above, depth]
  | cons c text ih =>
    simp only [Above, ih, List.prefix_cons_iff]
    constructor
    · rintro ⟨now, later⟩ front (rfl | ⟨front, rfl, short⟩)
      · simpa [depth] using now
      · have := later front short
        simp only [depth]
        omega
    · intro all
      refine ⟨by simpa [depth] using all [] (.inl rfl), fun front short => ?_⟩
      have := all (c :: front) (.inr ⟨front, rfl, short⟩)
      simp only [depth] at this
      omega

theorem balanced_iff : Balanced text ↔ Above 0 text ∧ depth text = 0 := by
  rw [above_iff, depth_count]
  constructor
  · rintro ⟨opened, closed⟩
    refine ⟨fun front short => ?_, by omega⟩
    have := opened front short
    rw [depth_count]
    omega
  · rintro ⟨above, closed⟩
    refine ⟨fun front short => ?_, by omega⟩
    have := above front short
    rw [depth_count] at this
    omega

theorem above_mono {later : Int} (le : start ≤ later) (above : Above start text) : Above later text := by
  rw [above_iff] at above ⊢
  intro front short
  have := above front short
  omega

theorem free_append : Free (text ++ rest) ↔ Free text ∧ Free rest := List.forall_mem_append

theorem free_iff : Free text ↔ '(' ∉ text ∧ ')' ∉ text := by
  constructor
  · intro free
    constructor
    · intro member
      cases free '(' member
    · intro member
      cases free ')' member
  · rintro ⟨opening, closing⟩ c member
    have apart : c ≠ '(' ∧ c ≠ ')' := by
      constructor
      · rintro rfl
        exact opening member
      · rintro rfl
        exact closing member
    simp [depthStep, apart]

theorem free_depth (free : Free text) : depth text = 0 := by
  induction text with
  | nil => rfl
  | cons c text ih =>
    obtain ⟨first, others⟩ := List.forall_mem_cons.mp free
    simp only [depth, first, ih others, Int.add_zero]

theorem free_above (free : Free text) (from_zero : 0 ≤ start) : Above start text := by
  induction text with
  | nil => exact from_zero
  | cons c text ih =>
    obtain ⟨first, others⟩ := List.forall_mem_cons.mp free
    exact ⟨from_zero, by rw [first, Int.add_zero]; exact ih others⟩

/-! ### The forms of a filter -/

/-- A class of characters that has neither bracket. -/
private theorem step_of_class {p : Char → Bool} {c : Char} (apart : p '(' = false ∧ p ')' = false)
    (holds : p c = true) : depthStep c = 0 := by
  have opening : c ≠ '(' := by
    rintro rfl
    exact absurd holds (by simp [apart])
  have closing : c ≠ ')' := by
    rintro rfl
    exact absurd holds (by simp [apart])
  simp [depthStep, opening, closing]

theorem plain_free (plain : ∀ c ∈ text, isPlain c = true) : Free text := by
  intro c member
  exact step_of_class (p := isPlain) (by decide) (plain c member)

theorem dropBlank_eq (text : Text) : ∃ gap, text = gap ++ dropBlank text ∧ Free gap := by
  cases text with
  | nil => exact ⟨[], rfl, by simp [Free]⟩
  | cons c text =>
    by_cases blank : isBlank c = true
    · refine ⟨[c], by simp [dropBlank, blank], ?_⟩
      simpa [Free] using step_of_class (p := isBlank) (by decide) blank
    · exact ⟨[], by simp [dropBlank, blank], by simp [Free]⟩

/-- No letter of a keyword is a bracket in any spelling. -/
def Unbracketed (keyword : Text) : Prop :=
  ∀ letter ∈ keyword, isLetter letter '(' = false ∧ isLetter letter ')' = false

instance : DecidablePred Unbracketed := fun keyword =>
  List.decidableBAll (fun letter => isLetter letter '(' = false ∧ isLetter letter ')' = false) keyword

/-- The characters of a keyword in any spelling are no brackets if its letters are none. -/
theorem dropKeyword_eq {keyword : Text} (letters : Unbracketed keyword)
    (dropped : dropKeyword? keyword text = some rest) : ∃ word, text = word ++ rest ∧ Free word := by
  induction keyword generalizing text with
  | nil =>
    cases dropped
    exact ⟨[], rfl, by simp [Free]⟩
  | cons letter keyword ih =>
    obtain ⟨apart, others⟩ := List.forall_mem_cons.mp letters
    cases text with
    | nil => cases dropped
    | cons c text =>
      rw [dropKeyword?] at dropped
      split at dropped
      · rename_i spelled
        obtain ⟨word, rfl, free⟩ := ih others dropped
        exact ⟨c :: word, rfl, List.forall_mem_cons.mpr ⟨step_of_class apart spelled, free⟩⟩
      · cases dropped

private theorem comparator_eq {word : Text} (found : comparator? text = some (word, rest)) :
    ∃ front, text = front ++ rest ∧ Free front := by
  obtain ⟨op, member, dropped⟩ := List.exists_of_findSome?_eq_some found
  obtain ⟨behind, dropped, same⟩ := Option.map_eq_some_iff.mp dropped
  cases same
  have letters : ∀ op ∈ Comparator.all, Unbracketed op.word := by decide
  exact dropKeyword_eq (letters op member) dropped

/-- A name or value that a comparison can have: there is one, without quotes and brackets. -/
structure Compared (text : Text) : Prop where
  present : text ≠ []
  plain : ∀ c ∈ text, isPlain c = true

private theorem bracketed_eq {name : Text} (found : bracketed? text = some (name, rest)) :
    text = '(' :: name ++ ')' :: rest ∧ Compared name := by
  unfold bracketed? at found
  split at found
  · rename_i inner
    split at found
    · rename_i c taken behind name_eq rest_eq
      cases found
      have whole := List.takeWhile_append_dropWhile (p := isPlain) (l := inner)
      rw [name_eq, rest_eq] at whole
      refine ⟨by rw [← whole]; rfl, List.cons_ne_nil _ _, ?_⟩
      rw [← name_eq]
      exact List.all_eq_true.mp List.all_takeWhile
    · cases found
  · cases found

theorem atEnd_free (ended : atEnd text = true) : Free text := by
  simp only [atEnd, Bool.or_eq_true, List.isEmpty_iff, beq_iff_eq] at ended
  rcases ended with rfl | rfl
  · simp [Free]
  · simp [Free, depthStep]

/-- A comparison has one pair of brackets around the field and one around the value. -/
theorem comparison_eq {field word value : Text} (found : comparison? text = some (field, word, value)) :
    ∃ sign tail, text = '(' :: field ++ ')' :: (sign ++ '(' :: value ++ ')' :: tail) ∧
      Compared field ∧ Free sign ∧ Compared value ∧ atEnd tail = true := by
  unfold comparison? at found
  obtain ⟨⟨name, behind⟩, first, compared⟩ := Option.bind_eq_some_iff.mp found
  obtain ⟨rfl, nameCompared⟩ := bracketed_eq first
  obtain ⟨gap, behind_eq, gapFree⟩ := dropBlank_eq behind
  dsimp only at compared
  split at compared
  · rename_i written hyphen
    obtain ⟨⟨op, behindOp⟩, spelled, valued⟩ := Option.bind_eq_some_iff.mp compared
    obtain ⟨opText, rfl, opFree⟩ := comparator_eq spelled
    obtain ⟨⟨content, tail⟩, second, finished⟩ := Option.bind_eq_some_iff.mp valued
    obtain ⟨content_eq, contentCompared⟩ := bracketed_eq second
    obtain ⟨between, behindOp_eq, betweenFree⟩ := dropBlank_eq behindOp
    dsimp only at finished
    split at finished
    · rename_i ended
      cases finished
      refine ⟨gap ++ '-' :: (opText ++ between), tail, ?_, nameCompared, ?_, contentCompared, ended⟩
      · rw [behind_eq, hyphen, behindOp_eq, content_eq]
        simp
      · refine free_append.mpr ⟨gapFree, List.forall_mem_cons.mpr ⟨rfl, ?_⟩⟩
        exact free_append.mpr ⟨opFree, betweenFree⟩
    · cases finished
  · cases compared

private theorem connective_eq {op : Connective} (found : connective? text = some (op, right)) :
    ∃ sign, text = sign ++ right ∧ Free sign := by
  unfold connective? at found
  obtain ⟨gap, text_eq, gapFree⟩ := dropBlank_eq text
  split at found
  · rename_i written hyphen
    obtain ⟨joined, -, found⟩ := List.exists_of_findSome?_eq_some found
    split at found
    · rename_i side dropped
      cases found
      obtain ⟨behind, keyword, blank⟩ := Option.map_eq_some_iff.mp dropped
      have letters : ∀ op : Connective, Unbracketed op.word := by
        rintro (_ | _) <;> decide
      obtain ⟨word, rfl, wordFree⟩ := dropKeyword_eq (letters op) keyword
      obtain ⟨between, behind_eq, betweenFree⟩ := dropBlank_eq behind
      refine ⟨gap ++ '-' :: (word ++ between), ?_, ?_⟩
      · rw [text_eq, hyphen, behind_eq, blank]
        simp
      · refine free_append.mpr ⟨gapFree, List.forall_mem_cons.mpr ⟨rfl, ?_⟩⟩
        exact free_append.mpr ⟨wordFree, betweenFree⟩
    · cases found
  · cases found

/-- A connective cuts a text where as many brackets are closed as opened. -/
theorem splitConnective_eq {atStart : Bool} {op : Connective}
    (found : splitConnective? atStart start text = some (left, op, right)) :
    ∃ sign, text = left ++ (sign ++ right) ∧ Free sign ∧ start + depth left = 0 := by
  induction text generalizing atStart start left with
  | nil => cases found
  | cons c text ih =>
    rw [splitConnective?] at found
    split at found
    · rename_i cutOp cutRight cut
      cases found
      split at cut
      · rename_i place
        obtain ⟨sign, text_eq, free⟩ := connective_eq cut
        exact ⟨sign, text_eq, free, by simp [depth, place.1]⟩
      · cases cut
    · obtain ⟨⟨front, behindOp, behind⟩, cut, same⟩ := Option.map_eq_some_iff.mp found
      cases same
      obtain ⟨sign, rfl, free, balanced⟩ := ih cut
      exact ⟨sign, rfl, free, by simp only [depth]; omega⟩

/-- A negation is a hyphen, the word or nothing, and something on one line in brackets, the last of
which ends the text, or stands in front of a line break there. -/
theorem negated_eq (found : negated? text = some inner) :
    ∃ word tail, text = '-' :: (word ++ ('(' :: inner ++ ')' :: tail)) ∧
      (word = [] ∨ dropKeyword? "not" (word ++ ('(' :: inner ++ ')' :: tail)) =
        some ('(' :: inner ++ ')' :: tail)) ∧
      atEnd tail = true ∧ inner ≠ [] ∧ '\n' ∉ inner := by
  unfold negated? at found
  split at found
  · rename_i behind
    split at found
    · rename_i body opened
      dsimp only at found
      split at found
      · rename_i closes
        cases found
        simp only [Bool.and_eq_true, beq_iff_eq, decide_eq_true_eq] at closes
        obtain ⟨⟨ended, last⟩, long⟩ := closes
        have line := List.dropLast_append_getLast? ')' last
        have whole : '(' :: body = '(' :: (body.takeWhile (· ≠ '\n')).dropLast ++
            ')' :: body.dropWhile (· ≠ '\n') := by
          have cut := List.takeWhile_append_dropWhile (p := (· ≠ '\n')) (l := body)
          rw [← line, List.append_assoc, List.singleton_append] at cut
          rw [List.cons_append]
          exact congrArg ('(' :: ·) cut.symm
        have word : ∃ word, behind = word ++ '(' :: body ∧
            (word = [] ∨ dropKeyword? "not" (word ++ '(' :: body) = some ('(' :: body)) := by
          cases dropped : dropKeyword? "not" behind with
          | none =>
            rw [dropped, Option.getD_none] at opened
            exact ⟨[], opened, .inl rfl⟩
          | some remaining =>
            rw [dropped, Option.getD_some] at opened
            subst opened
            obtain ⟨word, rfl, -⟩ := dropKeyword_eq (by decide) dropped
            exact ⟨word, rfl, .inr dropped⟩
        obtain ⟨word, rfl, spelled⟩ := word
        rw [whole] at spelled ⊢
        refine ⟨word, _, rfl, spelled, ended, ?_, ?_⟩
        · intro none
          have short := congrArg List.length none
          simp only [List.length_dropLast, List.length_nil] at short
          omega
        · intro member
          have inline := List.all_eq_true.mp (List.all_takeWhile (p := (· ≠ '\n')) (l := body))
          have own := inline '\n' (List.dropLast_subset _ member)
          simp at own
      · cases found
    · cases found
  · cases found

/-- Neither a missing word nor that of a negation has brackets. -/
theorem word_free {word : Text} (spelled : word = [] ∨ dropKeyword? "not" (word ++ rest) = some rest) :
    Free word := by
  rcases spelled with rfl | dropped
  · simp [Free]
  · obtain ⟨same, spelling, free⟩ := dropKeyword_eq (by decide) dropped
    rwa [List.append_cancel_right spelling]

/-! ### Groups -/

/-- The pieces of a text that groups are taken from: bracket blocks and what is between them. -/
private abbrev pieces (start : Int) (current text : Text) : List Text :=
  piecesByBrackets '(' ')' true false start current text

private theorem unclosed_above {current : Text} (inside : 0 < start)
    (none : pieces start current text = []) : 0 < start + depth text := by
  induction text generalizing start current with
  | nil => simpa [depth] using inside
  | cons c text ih =>
    have apart : start ≠ 0 := by omega
    simp only [pieces, piecesByBrackets, apart, ↓reduceIte] at none
    simp only [depth, depthStep]
    split at none
    · have := ih (by omega) none
      rw [if_pos (by assumption)]
      omega
    · rename_i opening
      rw [if_neg opening]
      split at none
      · split at none
        · cases none
        · have := ih (by omega) none
          rw [if_pos (by assumption)]
          omega
      · have := ih inside none
        rw [if_neg (by assumption)]
        omega

private theorem overclosed_below {current : Text} (outside : start ≤ 0) (some : current ≠ [])
    (none : pieces start current text = []) : start + depth text < 0 := by
  have present : current.isEmpty = false := by simpa using some
  induction text generalizing start current with
  | nil =>
    simp only [pieces, piecesByBrackets, present, Bool.not_false, Bool.true_and, Bool.false_and,
      Bool.or_false, beq_iff_eq] at none
    split at none
    · cases none
    · simp only [depth]
      omega
  | cons c text ih =>
    have apart : start ≠ 1 := by omega
    simp only [pieces, piecesByBrackets, present, apart, Bool.not_false, Bool.and_true,
      ↓reduceIte] at none
    simp only [depth, depthStep]
    split at none
    · rw [if_pos (by assumption)]
      split at none
      · cases none
      · have := ih (by omega) (List.cons_ne_nil _ _) none rfl
        omega
    · rename_i opening
      rw [if_neg opening]
      split at none
      · have := ih (by omega) (List.cons_ne_nil _ _) none rfl
        rw [if_pos (by assumption)]
        omega
      · have := ih outside (List.cons_ne_nil _ _) none rfl
        rw [if_neg (by assumption)]
        omega

/-- Behind a group either nothing follows, or brackets that are not balanced. -/
private theorem behind_group (none : pieces 0 [] text = []) : text = [] ∨ depth text ≠ 0 := by
  cases text with
  | nil => exact .inl rfl
  | cons c text =>
    right
    simp only [pieces, piecesByBrackets, List.isEmpty_nil, Bool.not_true, Bool.and_false,
      Bool.false_eq_true, ↓reduceIte, Int.reduceEq] at none
    simp only [depth, depthStep]
    split at none
    · have := unclosed_above (by omega) none
      rw [if_pos (by assumption)]
      omega
    · rename_i opening
      rw [if_neg opening]
      split at none
      · have := overclosed_below (by omega) (List.cons_ne_nil _ _) none
        rw [if_pos (by assumption)]
        omega
      · have := overclosed_below (by omega) (List.cons_ne_nil _ _) none
        rw [if_neg (by assumption)]
        omega

private theorem first_block {current part : Text} (inside : 0 < start)
    (one : pieces start current text = [part]) :
    ∃ block rest, text = block ++ ')' :: rest ∧ part = current.reverse ++ block ∧
      start + depth block = 1 ∧ pieces 0 [] rest = [] := by
  induction text generalizing start current with
  | nil =>
    have apart : start ≠ 0 := by omega
    simp [pieces, piecesByBrackets, apart] at one
  | cons c text ih =>
    have apart : start ≠ 0 := by omega
    -- A character of the block goes to the current piece, the rest is the block of the tail.
    have grown (next : Int) (step : next = start + depthStep c) (above : 0 < next)
        (later : pieces next (c :: current) text = [part]) :
        ∃ block rest, c :: text = block ++ ')' :: rest ∧ part = current.reverse ++ block ∧
          start + depth block = 1 ∧ pieces 0 [] rest = [] := by
      obtain ⟨block, rest, rfl, rfl, balanced, behind⟩ := ih above later
      refine ⟨c :: block, rest, rfl, by simp, ?_, behind⟩
      simp only [depth]
      omega
    simp only [pieces, piecesByBrackets, apart, ↓reduceIte] at one
    split at one
    · rename_i opening
      subst opening
      exact grown (start + 1) rfl (by omega) one
    · split at one
      · rename_i closing
        subst closing
        split at one
        · rename_i single
          obtain ⟨rfl, behind⟩ := List.cons.inj one
          exact ⟨[], text, rfl, by simp, by simp [depth, single], behind⟩
        · exact grown (start - 1) rfl (by omega) one
      · rename_i opening closing
        exact grown start (by simp [depthStep, opening, closing]) inside one

/-- A group is a balanced block at the front. What is behind it is passed over, and is empty if
the text closes as many brackets as it opens. -/
theorem grouped_eq (found : grouped? text = some inner) :
    ∃ rest, text = '(' :: inner ++ ')' :: rest ∧ inner ≠ [] ∧ depth inner = 0 ∧
      (depth text = 0 → rest = []) := by
  unfold grouped? at found
  split at found
  · rename_i ends
    simp only [Bool.and_eq_true, beq_iff_eq] at ends
    obtain ⟨behind, rfl⟩ := List.head?_eq_some_iff.mp ends.1
    split at found
    · rename_i one
      split at found
      · cases found
      · rename_i filled
        cases found
        have started : pieces 1 [] behind = [inner] := by
          simpa [splitByBrackets, piecesByBrackets] using one
        obtain ⟨block, rest, rfl, rfl, balanced, passed⟩ := first_block Int.one_pos started
        have level : depth inner = 0 := by omega
        refine ⟨rest, rfl, by simpa using filled, level, fun even => ?_⟩
        rw [depth, depth_append, depth] at even
        refine (behind_group passed).resolve_right fun uneven => uneven ?_
        simp only [depthStep, ↓reduceIte, Char.reduceEq] at even
        omega
    · cases found
  · cases found

/-! ### Filters -/

/-- A bracket block in front of a text that closes nothing too early. -/
theorem above_block (inside : Above 0 inner) (even : depth inner = 0) (behind : Above 0 rest) :
    Above 0 ('(' :: inner ++ ')' :: rest) := by
  have opened : Above 1 inner := above_mono (by omega) inside
  have closed : Above (1 + depth inner) (')' :: rest) := by
    rw [even]
    exact ⟨by omega, behind⟩
  exact ⟨Int.le_refl 0, above_append.mpr ⟨opened, closed⟩⟩

/-- A text without brackets in front of another one changes nothing. -/
theorem above_behind (free : Free front) : Above 0 (front ++ rest) ↔ Above 0 rest := by
  rw [above_append, free_depth free, Int.add_zero]
  exact and_iff_right (free_above free (Int.le_refl 0))

theorem depth_behind (free : Free front) : depth (front ++ rest) = depth rest := by
  rw [depth_append, free_depth free, Int.zero_add]

theorem depth_block : depth ('(' :: inner ++ ')' :: rest) = depth inner + depth rest := by
  rw [List.cons_append, depth, depth_append, depth]
  simp only [depthStep, ↓reduceIte, Char.reduceEq]
  omega

/-- Where a filter is read from a text that closes as many brackets as it opens, none of them
closes too early. -/
theorem parsed_above {filter : Filter} (read : parse text = .ok filter) (even : depth text = 0) :
    Above 0 text := by
  fun_induction parse text generalizing filter with
  | case1 text empty =>
    obtain rfl := List.isEmpty_iff.mp empty
    exact Int.le_refl 0
  | case2 text _ field word value found =>
    obtain ⟨sign, tail, rfl, fieldCompared, signFree, valueCompared, ended⟩ := comparison_eq found
    have fieldFree := plain_free fieldCompared.plain
    have valueFree := plain_free valueCompared.plain
    have second : Above 0 ('(' :: value ++ ')' :: tail) :=
      above_block (free_above valueFree (Int.le_refl 0)) (free_depth valueFree)
        (free_above (atEnd_free ended) (Int.le_refl 0))
    refine above_block (free_above fieldFree (Int.le_refl 0)) (free_depth fieldFree) ?_
    rw [List.append_assoc]
    exact (above_behind signFree).mpr second
  | case3 => cases read
  | case4 => cases read
  | case5 text _ _ left op right cut _ ihLeft ihRight =>
    obtain ⟨leftFilter, readLeft, read⟩ := bind_eq_ok.mp read
    obtain ⟨rightFilter, readRight, -⟩ := bind_eq_ok.mp read
    obtain ⟨sign, rfl, free, level⟩ := splitConnective_eq cut
    rw [Int.zero_add] at level
    rw [depth_append, level, Int.zero_add, depth_behind free] at even
    rw [above_append, level, Int.add_zero, above_behind free]
    exact ⟨ihLeft readLeft level, ihRight readRight even⟩
  | case6 text _ _ _ inner negated ih =>
    obtain ⟨innerFilter, readInner, -⟩ := bind_eq_ok.mp read
    obtain ⟨word, tail, rfl, spelled, ended, -, -⟩ := negated_eq negated
    have frontFree : Free ('-' :: word) := List.forall_mem_cons.mpr ⟨rfl, word_free spelled⟩
    have tailFree := atEnd_free ended
    rw [← List.cons_append, depth_behind frontFree, depth_block, free_depth tailFree,
      Int.add_zero] at even
    rw [← List.cons_append, above_behind frontFree]
    exact above_block (ih readInner even) even (free_above tailFree (Int.le_refl 0))
  | case7 text _ _ _ _ inner grouped ih =>
    obtain ⟨rest, rfl, -, level, passed⟩ := grouped_eq grouped
    obtain rfl := passed even
    exact above_block (ih read level) level (Int.le_refl 0)
  | case8 => cases read

/-- A filter that is read leaves brackets unbalanced only where their counts differ: the text of
an accepted filter is balanced exactly if it has as many closing brackets as opening ones. -/
theorem accepted_text_balanced_iff {filter : Filter} (read : parse text = .ok filter) :
    Balanced text ↔ text.count '(' = text.count ')' := by
  constructor
  · exact Balanced.closed
  · intro same
    have even : depth text = 0 := by
      rw [depth_count]
      omega
    exact balanced_iff.mpr ⟨parsed_above read even, even⟩

/-- Blocks inside negations and joined filters close where the counts agree. -/
theorem nested_text_balanced :
    parse "-not(((age)-gt(18))-and((name)-like(B%)))" =
        .ok (.not (.join (.compare "age" .gt "18") .and (.compare "name" .like "B%"))) ∧
      Balanced "-not(((age)-gt(18))-and((name)-like(B%)))" := by
  have read : parse "-not(((age)-gt(18))-and((name)-like(B%)))" =
      .ok (.not (.join (.compare "age" .gt "18") .and (.compare "name" .like "B%"))) := by
    decide +kernel
  exact ⟨read, (accepted_text_balanced_iff read).mpr (by decide)⟩

/-- Behind a group a bracket may close that was never opened. -/
theorem unopened_bracket_accepted :
    parse "((age)-gt(18)))" = .ok (.compare "age" .gt "18") ∧ ¬ Balanced "((age)-gt(18)))" := by
  refine ⟨by decide +kernel, fun balanced => ?_⟩
  exact absurd balanced.closed (by decide)

end TableGate.BracketBalance
