import TableGate.Proofs.BracketBlocks
import TableGate.Proofs.ConnectivePlaces

/-! Chains of connectives. A text with several connectives outside of its brackets is cut at the first
of them that is not at its start, and then the right side would be cut again, or the left side would
start with a connective: either way it is refused. So no level of an accepted text has a chain. -/
namespace TableGate.ConnectiveChains
open Text TableGate.Filter BracketBalance BracketBlocks ConnectivePlaces Fallible FilterWriting QueryFaults

/-- At most one connective stands outside of the brackets of a text. -/
def Unchained (text : Text) : Prop :=
  ∀ first second, ConnectiveAt 0 text first → ConnectiveAt 0 text second → first = second

/-- A level of a text: the text itself, or the inside of one of its bracket blocks. -/
def IsLevel (text level : Text) : Prop := level = text ∨ Balanced level ∧ block level <:+: text

variable {text inner first more sign rest field word value left right gap : Text} {op : Connective}
  {filter : Filter}

/-! ### Several connectives -/

/-- Of two places one is behind the other. -/
theorem places_ordered {second : Text} (early : ConnectiveAt 0 text first)
    (late : ConnectiveAt 0 text second) (apart : first ≠ second) :
    ∃ front more, more ≠ [] ∧ ConnectiveAt 0 text front ∧ ConnectiveAt 0 text (front ++ more) := by
  have ⟨rest, same, _⟩ := early
  have ⟨tail, again, _⟩ := late
  rcases List.prefix_or_prefix_of_prefix ⟨rest, same.symm⟩ ⟨tail, again.symm⟩ with
    ⟨more, rfl⟩ | ⟨more, rfl⟩
  · exact ⟨first, more, fun none => apart (by simp [none]), early, late⟩
  · exact ⟨second, more, fun none => apart (by simp [none]), late, early⟩

/-- Each of two connectives has a bracket behind it. -/
private theorem places_brackets (early : ConnectiveAt 0 text first)
    (late : ConnectiveAt 0 text (first ++ more)) (apart : more ≠ []) :
    first.count '(' + 2 ≤ text.count '(' := by
  obtain ⟨rest, rfl, -, op, sign, inside, spelled, rfl⟩ := early
  obtain ⟨tail, same, -, opens⟩ := late
  rw [List.append_assoc] at same
  obtain ⟨behind, -, rfl⟩ := opens_apart spelled (List.append_cancel_left same) opens apart
  obtain ⟨_, _, _, -, rfl⟩ := opens
  simp only [List.count_append, List.count_cons_self]
  omega

theorem comparison_brackets (found : comparison? text = some (field, word, value)) :
    text.head? = some '(' ∧ text.count '(' = 2 := by
  obtain ⟨sign, tail, rfl, name, free, content, ended⟩ := comparison_eq found
  have none (part : Text) (free : Free part) : part.count '(' = 0 :=
    List.count_eq_zero.mpr (free_iff.mp free).1
  refine ⟨rfl, ?_⟩
  simp [none _ (plain_free name.plain), none _ (plain_free content.plain), none _ free,
    none _ (atEnd_free ended)]

/-- A comparison has no more brackets than those of its name and its value. -/
private theorem comparison_ordered (found : comparison? text = some (field, word, value))
    (early : ConnectiveAt 0 text first) (late : ConnectiveAt 0 text (first ++ more)) : more = [] := by
  by_contra apart
  have several := places_brackets early late apart
  obtain ⟨bracket, two⟩ := comparison_brackets found
  obtain ⟨rest, rfl, -, opens⟩ := early
  cases first with
  | nil =>
    have hyphen := opens_head opens
    rw [List.nil_append, hyphen] at bracket
    cases bracket
  | cons c first =>
    obtain rfl : c = '(' := by simpa using bracket
    rw [List.count_cons_self] at several
    omega

/-- A text that starts with a hyphen and is not cut is a negation or no filter. -/
theorem parse_hyphen (uncut : splitConnective? true 0 ('-' :: text) = none) :
    parse ('-' :: text) = match negated? ('-' :: text) with
      | some inner => parse inner >>= fun filter => .ok (.not filter)
      | none => .error (.query (.invalidFilter ('-' :: text))) := by
  have uncompared : comparison? ('-' :: text) = none := rfl
  have ungrouped : grouped? ('-' :: text) = none := by simp [grouped?]
  fun_cases parse ('-' :: text) with
  | case1 empty => cases empty
  | case6 _ _ _ inner negated => rw [negated]
  | case8 _ _ _ negated => rw [negated]
  | _ => simp_all

/-- A connective at the very start joins nothing. -/
private theorem parse_stray (spelled : IsSign op sign)
    (alone : ∀ front, ConnectiveAt 0 (sign ++ '(' :: rest) front → front = []) :
    parse (sign ++ '(' :: rest) = .error (.query (.invalidFilter (sign ++ '(' :: rest))) := by
  have uncut : splitConnective? true 0 (sign ++ '(' :: rest) = none :=
    split_none_iff.mpr fun front place => ⟨rfl, alone front place⟩
  obtain ⟨tail, shape, -, free⟩ := sign_shape spelled
  obtain ⟨word, trail, rfl, letters, blank⟩ := spelled
  have negated : negated? ('-' :: (word ++ trail ++ '(' :: rest)) = none := by
    cases found : negated? ('-' :: (word ++ trail ++ '(' :: rest)) with
    | none => rfl
    | some inner =>
      obtain ⟨named, tail, same, spelling, -⟩ := negated_eq found
      obtain ⟨-, behind⟩ := List.cons.inj same
      rcases spelling with rfl | dropped
      · -- Without the word a bracket would stand where the connective has its first letter.
        cases word with
        | nil => cases op <;> cases letters
        | cons c word =>
          obtain ⟨rfl, -⟩ := List.cons.inj behind
          cases free '(' (by simp)
      · rw [← behind, List.append_assoc, no_negation letters] at dropped
        cases dropped
  rw [List.cons_append] at uncut ⊢
  rw [parse_hyphen uncut, negated]

/-- Where one connective stands at the start of a text that is cut at another one, the left side is
the one at the start with what its bracket opens. -/
private theorem front_opens (lead : gap = [] ∨ gap = [' ']) (early : ConnectiveAt 0 text [])
    (joined : [] ++ more = left ++ gap) (late : ConnectiveAt 0 text ([] ++ more)) (apart : more ≠ []) :
    ∃ op sign inside, IsSign op sign ∧ left = sign ++ '(' :: inside := by
  obtain ⟨_, rfl, -, op, sign, inside, spelled, rfl⟩ := early
  obtain ⟨tail, same, -, opens⟩ := late
  obtain ⟨behind, rfl, -⟩ := opens_apart spelled same opens apart
  rw [List.nil_append] at joined
  rcases lead with rfl | rfl
  · exact ⟨op, sign, behind, spelled, by simpa using joined.symm⟩
  · rcases List.eq_nil_or_concat behind with rfl | ⟨behind, last, rfl⟩
    · cases (List.append_inj' joined rfl).2
    · rw [List.concat_eq_append, ← List.cons_append, ← List.append_assoc] at joined
      exact ⟨op, sign, behind, spelled, (List.append_inj_left' joined rfl).symm⟩

/-- Where the right side of a cut is not cut again, no other connective stands outside of the
brackets, but at the very start. -/
theorem single_place (cut : splitConnective? true 0 text = some (left, op, '(' :: rest))
    (single : splitConnective? true 0 ('(' :: rest) = none) (lead : gap = [] ∨ gap = [' '])
    (spelled : IsSign op sign) (same : text = left ++ (gap ++ (sign ++ '(' :: rest)))
    (level : 0 + depth left = 0) (place : ConnectiveAt 0 text first) (later : first ≠ []) :
    first = left ++ gap := by
  have behind := split_first cut place fun _ => later
  rw [same] at place
  refine (place_behind_cut lead spelled level place behind).resolve_right ?_
  rintro ⟨more, some, deeper⟩
  exact some (split_none_iff.mp single more deeper).2

/-- A text with two connectives outside of its brackets is no filter. -/
theorem chain_refused (early : ConnectiveAt 0 text first)
    (late : ConnectiveAt 0 text (first ++ more)) (apart : more ≠ []) :
    ∃ problem, parse text = .error (.query problem) := by
  have later : first ++ more ≠ [] := by simp [apart]
  fun_cases parse text with
  | case1 empty =>
    obtain rfl := List.isEmpty_iff.mp empty
    exact absurd (place_short early) (by simp)
  | case2 _ _ _ _ found => exact absurd (comparison_ordered found early late) apart
  | case3 _ _ _ _ found => exact absurd (comparison_ordered found early late) apart
  | case4 => exact ⟨_, rfl⟩
  | case5 _ _ left op right cut single =>
    have single : splitConnective? true 0 right = none := by simpa using single
    obtain ⟨gap, sign, rest, lead, spelled, rfl, same, level, -⟩ := split_shape cut
    have last (place : Text) (here : ConnectiveAt 0 text place) (inner : place ≠ []) :
        place = left ++ gap := single_place cut single lead spelled same level here inner
    have joined := last _ late later
    by_cases start : first = []
    · subst start
      obtain ⟨stray, mark, inside, written, rfl⟩ := front_opens lead early joined late apart
      have refused := parse_stray written fun front place => by
        by_contra inner
        have short := place_short place
        have whole := place_front place (gap ++ (sign ++ '(' :: rest))
        rw [← same] at whole
        have long := (split_first cut whole fun _ => inner).length_le
        omega
      exact ⟨_, by rw [refused]; rfl⟩
    · rw [last _ early start] at joined
      exact absurd (List.append_right_eq_self.mp joined) apart
  | case6 _ _ uncut => exact absurd (split_none_iff.mp uncut _ late).2 later
  | case7 _ _ uncut => exact absurd (split_none_iff.mp uncut _ late).2 later
  | case8 _ _ uncut => exact absurd (split_none_iff.mp uncut _ late).2 later

/-! ### Levels -/

theorem parsed_unchained (read : parse text = .ok filter) : Unchained text := by
  intro first second early late
  by_contra apart
  obtain ⟨front, more, some, early, late⟩ := places_ordered early late apart
  obtain ⟨problem, refused⟩ := chain_refused early late some
  rw [refused] at read
  cases read

/-- A text has two brackets at least if it has two connectives. -/
private theorem few_unchained (few : text.count '(' ≤ 1) : Unchained text := by
  intro first second early late
  by_contra apart
  obtain ⟨front, more, some, early, late⟩ := places_ordered early late apart
  have several := places_brackets early late some
  omega

/-- A negation in its parts. -/
theorem negated_shape (found : negated? text = some inner) (even : depth text = 0) :
    ∃ word tail, text = '-' :: (word ++ (block inner ++ tail)) ∧ (word = [] ∨ Spelled "not" word) ∧
      atEnd tail = true ∧ inner ≠ [] ∧ depth inner = 0 := by
  obtain ⟨word, tail, rfl, named, ended, filled, -⟩ := negated_eq found
  refine ⟨word, tail, by simp [block], ?_, ended, filled, ?_⟩
  · refine named.imp_right fun dropped => ?_
    obtain ⟨same, spelling, spelled⟩ := dropKeyword_iff.mp dropped
    rwa [List.append_cancel_right spelling]
  · have free : Free ('-' :: word) := List.forall_mem_cons.mpr ⟨rfl, word_free named⟩
    rw [← List.cons_append, depth_behind free, depth_block, free_depth (atEnd_free ended)] at even
    omega

/-- A group in its brackets. -/
theorem grouped_shape (found : grouped? text = some inner) (even : depth text = 0) :
    text = block inner ∧ inner ≠ [] ∧ depth inner = 0 := by
  obtain ⟨rest, rfl, filled, level, passed⟩ := grouped_eq found
  obtain rfl := passed even
  exact ⟨rfl, filled, level⟩

/-- The two sides of a connective, of which the left one is balanced. -/
theorem sides_level (lead : gap = [] ∨ gap = [' ']) (spelled : IsSign op sign)
    (level : depth left = 0) (even : depth (left ++ (gap ++ (sign ++ right))) = 0) : depth right = 0 := by
  obtain ⟨-, -, -, free⟩ := sign_shape spelled
  rw [depth_append, level, Int.zero_add, depth_behind (gap_free (gap_of_space lead)),
    depth_behind free] at even
  exact even

private theorem block_joined (whole : Balanced inner) (lead : gap = [] ∨ gap = [' '])
    (spelled : IsSign op sign) (balanced : Balanced left)
    (inside : block inner <:+: left ++ (gap ++ (sign ++ right))) :
    block inner <:+: left ∨ block inner <:+: right := by
  obtain ⟨-, -, -, free⟩ := sign_shape spelled
  have space := gap_free (gap_of_space lead)
  refine (block_apart balanced whole inside).imp_right fun inside => ?_
  have inside := (block_apart (balanced_free space) whole inside).resolve_left (block_not_free space)
  exact (block_apart (balanced_free free) whole inside).resolve_left (block_not_free free)

/-- The word of a negation has no hyphens and no brackets. -/
theorem named_apart (named : word = [] ∨ Spelled "not" word) :
    '-' ∉ word ∧ Free ('-' :: word) := by
  rcases named with rfl | spelled
  · exact ⟨List.not_mem_nil, by simp [Free, depthStep]⟩
  · have opening : '(' ∉ word := spelled_avoids spelled (by decide)
    have closing : ')' ∉ word := spelled_avoids spelled (by decide)
    refine ⟨spelled_avoids spelled (by decide), List.forall_mem_cons.mpr ⟨rfl, ?_⟩⟩
    exact free_iff.mpr ⟨opening, closing⟩

private theorem block_negated {tail : Text} (whole : Balanced inner) (around : Balanced right)
    (named : word = [] ∨ Spelled "not" word) (ended : atEnd tail = true)
    (inside : block inner <:+: '-' :: (word ++ (block right ++ tail))) :
    inner = right ∨ block inner <:+: right := by
  obtain ⟨-, free⟩ := named_apart named
  rw [← List.cons_append] at inside
  have inside := (block_apart (balanced_free free) whole inside).resolve_left (block_not_free free)
  have inside := (block_apart (balanced_block around) whole inside).resolve_right
    (block_not_free (atEnd_free ended))
  exact block_nested whole around inside

/-- In the blocks of an accepted balanced text there are no chains. -/
theorem block_unchained (read : parse text = .ok filter) (even : depth text = 0)
    (whole : Balanced inner) (inside : block inner <:+: text) : Unchained inner := by
  fun_induction parse text generalizing filter with
  | case1 text empty =>
    obtain rfl := List.isEmpty_iff.mp empty
    exact absurd inside (block_not_free (by simp [Free]))
  | case2 text _ field word value found =>
    obtain ⟨before, after, rfl⟩ := inside
    have two := (comparison_brackets found).2
    simp only [block, List.cons_append, List.count_append, List.count_cons_self] at two
    exact few_unchained (by omega)
  | case3 => cases read
  | case4 => cases read
  | case5 text _ _ left op right cut _ ihLeft ihRight =>
    obtain ⟨first, readLeft, read⟩ := bind_eq_ok.mp read
    obtain ⟨second, readRight, -⟩ := bind_eq_ok.mp read
    obtain ⟨gap, sign, rest, lead, spelled, rfl, rfl, level, -⟩ := split_shape cut
    rw [Int.zero_add] at level
    have balanced := balanced_iff.mpr ⟨parsed_above readLeft level, level⟩
    rcases block_joined whole lead spelled balanced inside with inside | inside
    · exact ihLeft readLeft level inside
    · exact ihRight readRight (sides_level lead spelled level even) inside
  | case6 text _ _ _ inner negated ih =>
    obtain ⟨filter, readInner, -⟩ := bind_eq_ok.mp read
    obtain ⟨word, tail, rfl, named, ended, -, level⟩ := negated_shape negated even
    have balanced := balanced_iff.mpr ⟨parsed_above readInner level, level⟩
    rcases block_negated whole balanced named ended inside with rfl | inside
    · exact parsed_unchained readInner
    · exact ih readInner level inside
  | case7 text _ _ _ _ inner grouped ih =>
    obtain ⟨rfl, -, level⟩ := grouped_shape grouped even
    have balanced := balanced_iff.mpr ⟨parsed_above read level, level⟩
    rcases block_nested whole balanced inside with rfl | inside
    · exact parsed_unchained read
    · exact ih read level inside
  | case8 => cases read

end TableGate.ConnectiveChains
