import TableGate.Proofs.ConnectiveChains

/-! Readings of filters. By the grammar alone a text with several connectives outside of its brackets
can be read in several ways, since each of them may be the one that joins the whole. The parser has
no rule of precedence that would choose between them: it refuses such a text, and a text that it
accepts has no reading but its own. -/
namespace TableGate.FilterReadings
open Text TableGate.Filter BracketBalance BracketBlocks ConnectiveChains ConnectivePlaces Fallible
open FilterWriting QueryFaults

/-- The filters that a text can be read as by the grammar. Any connective with a filter on both of
its sides may join them, whether or not the sides have connectives of their own. -/
inductive Derives : Text → Filter → Prop where
  | comparison {text field word value : Text} {op : Comparator}
      (found : comparison? text = some (field, word, value))
      (known : Comparator.ofWord? (lower word) = some op) : Derives text (.compare field op value)
  | negation {word inner tail : Text} {filter : Filter} (named : word = [] ∨ Spelled "not" word)
      (ended : atEnd tail = true) (inside : Derives inner filter) :
      Derives ('-' :: (word ++ (block inner ++ tail))) (.not filter)
  | junction {left gap sign right : Text} {first second : Filter} {op : Connective}
      (lead : gap = [] ∨ gap = [' ']) (spelled : IsSign op sign) (front : Derives left first)
      (back : Derives ('(' :: right) second) :
      Derives (left ++ (gap ++ (sign ++ '(' :: right))) (.join first op second)
  | group {inner : Text} {filter : Filter} (inside : Derives inner filter) :
      Derives (block inner) filter

variable {text inner first sign rest field word value left right gap : Text} {op : Connective}
  {filter other : Filter}

/-! ### Readings -/

theorem parsed_derives (read : parse text = .ok filter) (even : depth text = 0) (filled : text ≠ []) :
    Derives text filter := by
  fun_induction parse text generalizing filter with
  | case1 text empty => exact absurd (List.isEmpty_iff.mp empty) filled
  | case2 text _ field word value found op known =>
    cases read
    exact .comparison found known
  | case3 => cases read
  | case4 => cases read
  | case5 text _ _ left op right cut _ ihLeft ihRight =>
    obtain ⟨first, readLeft, read⟩ := bind_eq_ok.mp read
    obtain ⟨second, readRight, same⟩ := bind_eq_ok.mp read
    cases same
    obtain ⟨gap, sign, rest, lead, spelled, rfl, rfl, level, some⟩ := split_shape cut
    rw [Int.zero_add] at level
    have front := ihLeft readLeft level (some rfl)
    have back := ihRight readRight (sides_level lead spelled level even) (by simp)
    exact .junction lead spelled front back
  | case6 text _ _ _ inner negated ih =>
    obtain ⟨filter, readInner, same⟩ := bind_eq_ok.mp read
    cases same
    obtain ⟨word, tail, rfl, named, ended, some, level⟩ := negated_shape negated even
    exact .negation named ended (ih readInner level some)
  | case7 text _ _ _ _ inner grouped ih =>
    obtain ⟨rfl, some, level⟩ := grouped_shape grouped even
    exact .group (ih read level some)
  | case8 => cases read

theorem derived_balanced (derived : Derives text filter) : Balanced text := by
  induction derived with
  | comparison found _ =>
    obtain ⟨sign, tail, rfl, name, free, content, ended⟩ := comparison_eq found
    have named := balanced_block (balanced_free (plain_free name.plain))
    have valued := balanced_block (balanced_free (plain_free content.plain))
    have behind := (balanced_behind valued).mpr (balanced_free (atEnd_free ended))
    have whole := (balanced_behind named).mpr ((balanced_behind (balanced_free free)).mpr behind)
    simpa [block] using whole
  | negation named ended _ inner =>
    obtain ⟨-, free⟩ := named_apart named
    rw [← List.cons_append]
    refine (balanced_behind (balanced_free free)).mpr ?_
    exact (balanced_behind (balanced_block inner)).mpr (balanced_free (atEnd_free ended))
  | junction lead spelled _ _ first second =>
    obtain ⟨-, -, -, free⟩ := sign_shape spelled
    refine (balanced_behind first).mpr ?_
    refine (balanced_behind (balanced_free (gap_free (gap_of_space lead)))).mpr ?_
    exact (balanced_behind (balanced_free free)).mpr second
  | group _ inner => exact balanced_block inner

/-- Every filter has a name and a value in brackets. -/
private theorem derived_brackets (derived : Derives text filter) : 2 ≤ text.count '(' := by
  induction derived with
  | comparison found _ => exact (comparison_brackets found).2.ge
  | negation _ _ _ inner =>
    simp only [block, List.count_append, List.count_cons]
    omega
  | junction _ _ _ _ first _ =>
    rw [List.count_append]
    omega
  | group _ inner =>
    simp only [block, List.cons_append, List.count_append, List.count_cons_self]
    omega

private theorem end_no_space {tail : Text} (ended : atEnd tail = true) :
    (text ++ ')' :: tail).getLast? ≠ some ' ' := by
  simp only [atEnd, Bool.or_eq_true, List.isEmpty_iff, beq_iff_eq] at ended
  rcases ended with rfl | rfl
  · simp
  · simp

/-- No filter ends with a space: one in front of a connective belongs to the connective. -/
private theorem derived_ends (derived : Derives text filter) : text.getLast? ≠ some ' ' := by
  induction derived with
  | comparison found _ =>
    obtain ⟨sign, tail, rfl, -, -, -, ended⟩ := comparison_eq found
    rw [List.append_cons _ ')', ← List.append_assoc]
    exact end_no_space ended
  | @negation word inner tail _ named ended _ _ =>
    have shape : '-' :: (word ++ (block inner ++ tail)) = ('-' :: (word ++ '(' :: inner)) ++ ')' :: tail := by
      simp [block]
    rw [shape]
    exact end_no_space ended
  | @junction left gap sign right _ _ _ _ _ _ _ _ back =>
    have some : '(' :: right ≠ [] := List.cons_ne_nil _ _
    rwa [← List.append_assoc, ← List.append_assoc, List.getLast?_append_of_ne_nil _ some]
  | group _ _ =>
    intro space
    rw [block, List.getLast?_concat] at space
    cases space

/-- Where neither side ends with a space, a space is all that can stand between it and its end. -/
private theorem gap_unique {before otherGap : Text} (lead : gap = [] ∨ gap = [' '])
    (otherLead : otherGap = [] ∨ otherGap = [' ']) (ends : left.getLast? ≠ some ' ')
    (otherEnds : before.getLast? ≠ some ' ') (joined : left ++ gap = before ++ otherGap) :
    left = before ∧ gap = otherGap := by
  rcases lead with rfl | rfl
  · rcases otherLead with rfl | rfl
    · exact ⟨by simpa using joined, rfl⟩
    · rw [List.append_nil] at joined
      rw [joined] at ends
      exact absurd List.getLast?_concat ends
  · rcases otherLead with rfl | rfl
    · rw [List.append_nil] at joined
      rw [← joined] at otherEnds
      exact absurd List.getLast?_concat otherEnds
    · exact ⟨List.append_inj_left' joined rfl, rfl⟩

private theorem derived_filled (derived : Derives text filter) : text ≠ [] := by
  rintro rfl
  exact absurd (derived_brackets derived) (by simp)

/-- A sign has one of the words. -/
private theorem sign_unique {otherOp : Connective} (spelled : IsSign op sign)
    (again : IsSign otherOp sign) : op = otherOp := by
  obtain ⟨word, gap, rfl, letters, -⟩ := spelled
  obtain ⟨otherWord, otherGap, same, otherLetters, -⟩ := again
  have same : word ++ gap = otherWord ++ otherGap := (List.cons.inj same).2
  have front : dropKeyword? op.word (word ++ gap) = some gap := dropKeyword_iff.mpr ⟨word, rfl, letters⟩
  have otherFront : dropKeyword? otherOp.word (otherWord ++ otherGap) = some otherGap :=
    dropKeyword_iff.mpr ⟨otherWord, rfl, otherLetters⟩
  cases op <;> cases otherOp
  · rfl
  · rw [same, no_conjunction otherLetters] at front
    cases front
  · rw [← same, no_conjunction letters] at otherFront
    cases otherFront
  · rfl

/-- The first bracket of a text stands at one place. -/
private theorem first_bracket {lead tail : Text} (free : Free lead) (otherFree : Free sign)
    (same : lead ++ '(' :: tail = sign ++ '(' :: rest) : lead = sign ∧ tail = rest := by
  have none (part : Text) (free : Free part) : part.takeWhile (· ≠ '(') = part := by
    rw [List.takeWhile_eq_self_iff]
    intro c member
    have apart : c ≠ '(' := fun bracket => (free_iff.mp free).1 (bracket ▸ member)
    simpa using apart
  have leads := congrArg (List.takeWhile (· ≠ '(')) same
  rw [List.takeWhile_append, List.takeWhile_append, none lead free, none sign otherFree] at leads
  obtain rfl : lead = sign := by simpa using leads
  exact ⟨rfl, (List.cons.inj (List.append_cancel_left same)).2⟩

/-! ### Texts without connectives -/

private theorem place_block (balanced : Balanced inner) (place : ConnectiveAt 0 (block inner ++ text) first) :
    ∃ behind, ConnectiveAt 0 text behind := by
  obtain ⟨rest, same, level, opens⟩ := place
  rw [Int.zero_add] at level
  rcases List.append_eq_append_iff.mp same with ⟨behind, rfl, shape⟩ | ⟨cut, shape, rfl⟩
  · rw [depth_append, block_level balanced] at level
    exact ⟨behind, rest, shape, level, opens⟩
  · have hyphen := opens_head opens
    by_cases none : first = []
    · subst none
      rw [← List.nil_append cut, ← shape] at hyphen
      cases hyphen
    · by_cases full : first = block inner
      · rw [full] at shape
        rw [List.self_eq_append_right.mp shape, List.nil_append] at opens
        exact ⟨[], text, rfl, rfl, opens⟩
      · have opened := block_inside balanced ⟨cut, shape.symm⟩ none full
        omega

/-- In a negation there is no connective outside of the brackets. -/
private theorem negation_uncut {tail : Text} (named : word = [] ∨ Spelled "not" word)
    (balanced : Balanced inner) (ended : atEnd tail = true) :
    splitConnective? true 0 ('-' :: (word ++ (block inner ++ tail))) = none := by
  obtain ⟨apart, free⟩ := named_apart named
  refine split_none_iff.mpr fun front place => ⟨rfl, ?_⟩
  rcases place_cons.mp place with ⟨rfl, -⟩ | ⟨behind, rfl, later⟩
  · rfl
  · obtain ⟨_, inside⟩ := place_passes (List.forall_mem_cons.mp free).2 apart later
    obtain ⟨_, last⟩ := place_block balanced inside
    exact absurd last (place_not_free (atEnd_free ended))

private theorem group_uncut (balanced : Balanced inner) : splitConnective? true 0 (block inner) = none := by
  refine split_none_iff.mpr fun front place => ?_
  rw [← List.append_nil (block inner)] at place
  obtain ⟨_, last⟩ := place_block balanced place
  exact absurd last (place_not_free (by simp [Free]))

/-! ### No other readings -/

private theorem negation_parsed {tail : Text} (named : word = [] ∨ Spelled "not" word)
    (ended : atEnd tail = true) (inside : Derives inner other)
    (read : parse ('-' :: (word ++ (block inner ++ tail))) = .ok filter) :
    ∃ part, parse inner = .ok part ∧ filter = .not part := by
  have balanced := derived_balanced inside
  have even := (balanced_iff.mp (derived_balanced (.negation named ended inside))).2
  rw [parse_hyphen (negation_uncut named balanced ended)] at read
  split at read
  · rename_i content found
    obtain ⟨part, readInner, same⟩ := bind_eq_ok.mp read
    cases same
    obtain ⟨otherWord, otherTail, shape, otherNamed, -, -, level⟩ := negated_shape found even
    obtain ⟨-, behind⟩ := first_bracket (named_apart named).2 (named_apart otherNamed).2 shape
    have again := balanced_iff.mpr ⟨parsed_above readInner level, level⟩
    obtain ⟨rfl, -⟩ := block_cancel balanced again (congrArg ('(' :: ·) behind)
    exact ⟨part, readInner, rfl⟩
  · cases read

private theorem group_parsed (inside : Derives inner other) (read : parse (block inner) = .ok filter) :
    parse inner = .ok filter := by
  have balanced := derived_balanced inside
  have uncompared : comparison? (block inner) = none := by
    rw [Option.eq_none_iff_forall_ne_some]
    rintro ⟨field, word, value⟩ found
    have two := (comparison_brackets found).2
    have brackets := derived_brackets inside
    simp only [block, List.cons_append, List.count_append, List.count_cons_self] at two
    omega
  have uncut := group_uncut balanced
  revert read
  fun_cases parse (block inner) with
  | case1 empty => cases empty
  | case6 _ _ _ _ negated => cases negated
  | case7 _ _ _ _ part grouped =>
    intro read
    obtain ⟨same, -, level⟩ := grouped_shape grouped (block_level balanced)
    have again := balanced_iff.mpr ⟨parsed_above read level, level⟩
    have ends : block inner ++ [] = block part ++ [] := congrArg (· ++ []) same
    rwa [(block_cancel balanced again ends).1]
  | case8 =>
    intro read
    cases read
  | _ => simp_all

/-- A connective between two filters is the one that a text is cut at. -/
private theorem junction_parsed {second : Filter} (shape : text = left ++ (gap ++ (sign ++ '(' :: right)))
    (lead : gap = [] ∨ gap = [' ']) (spelled : IsSign op sign) (front : Derives left other)
    (back : Derives ('(' :: right) second) (read : parse text = .ok filter) :
    ∃ one two, parse left = .ok one ∧ parse ('(' :: right) = .ok two ∧ filter = .join one op two := by
  have level : depth left = 0 := (balanced_iff.mp (derived_balanced front)).2
  have place : ConnectiveAt 0 text (left ++ gap) := by
    refine ⟨sign ++ '(' :: right, by simp [shape], ?_, op, sign, right, spelled, rfl⟩
    rw [depth_append, level, free_depth (gap_free (gap_of_space lead))]
    rfl
  have later : left ++ gap ≠ [] := by simp [derived_filled front]
  revert read
  fun_cases parse text with
  | case1 empty =>
    obtain rfl := List.isEmpty_iff.mp empty
    exact absurd (place_short place) (by simp)
  | case2 _ _ _ _ found =>
    have two := (comparison_brackets found).2
    have first := derived_brackets front
    have last := derived_brackets back
    rw [shape, List.count_append, List.count_append, List.count_append] at two
    omega
  | case3 =>
    intro read
    cases read
  | case4 =>
    intro read
    cases read
  | case5 _ _ before otherOp behind cut single =>
    intro read
    have single : splitConnective? true 0 behind = none := by simpa using single
    obtain ⟨one, readLeft, read⟩ := bind_eq_ok.mp read
    obtain ⟨two, readRight, same⟩ := bind_eq_ok.mp read
    cases same
    obtain ⟨otherGap, otherSign, rest, otherLead, otherSpelled, rfl, same, even, filled⟩ :=
      split_shape cut
    have joined := single_place cut single otherLead otherSpelled same even place later
    rw [Int.zero_add] at even
    have otherEnds := derived_ends (parsed_derives readLeft even (filled rfl))
    obtain ⟨rfl, rfl⟩ := gap_unique lead otherLead (derived_ends front) otherEnds joined
    rw [shape] at same
    have signs := List.append_cancel_left (List.append_cancel_left same)
    obtain ⟨-, -, -, free⟩ := sign_shape spelled
    obtain ⟨-, -, -, otherFree⟩ := sign_shape otherSpelled
    obtain ⟨rfl, rfl⟩ := first_bracket free otherFree signs
    obtain rfl := sign_unique spelled otherSpelled
    exact ⟨one, two, readLeft, readRight, rfl⟩
  | case6 _ _ uncut => exact absurd (split_none_iff.mp uncut _ place).2 later
  | case7 _ _ uncut => exact absurd (split_none_iff.mp uncut _ place).2 later
  | case8 _ _ uncut => exact absurd (split_none_iff.mp uncut _ place).2 later

/-- An accepted text has no other reading than that of the parser. -/
theorem derived_parsed (derived : Derives text other) (read : parse text = .ok filter) :
    other = filter := by
  induction derived generalizing filter with
  | comparison found known =>
    rw [parse_comparison found known] at read
    exact Except.ok.inj read
  | negation named ended inside ih =>
    obtain ⟨part, readInner, rfl⟩ := negation_parsed named ended inside read
    rw [ih readInner]
  | junction lead spelled front back ihFront ihBack =>
    obtain ⟨one, two, readFront, readBack, rfl⟩ := junction_parsed rfl lead spelled front back read
    rw [ihFront readFront, ihBack readBack]
  | group inside ih => exact ih (group_parsed inside read)

/-- By the grammar alone, either connective of a chain may be the one that joins the whole. -/
theorem chain_ambiguous {mark : Text} {last : Connective} {one two three : Filter}
    (spelled : IsSign op sign) (again : IsSign last mark) (front : Derives left one)
    (middle : Derives ('(' :: right) two) (back : Derives ('(' :: rest) three) :
    Derives (left ++ (sign ++ '(' :: (right ++ (mark ++ '(' :: rest))))
        (.join one op (.join two last three)) ∧
      Derives (left ++ (sign ++ '(' :: (right ++ (mark ++ '(' :: rest))))
        (.join (.join one op two) last three) := by
  constructor
  · exact .junction (.inl rfl) spelled front (.junction (.inl rfl) again middle back)
  · have joined := Derives.junction (.inl rfl) again (.junction (.inl rfl) spelled front middle) back
    simpa using joined

/-- A text with more than one connective outside of its brackets is refused for its grammar. No level
of an accepted text has more than one, and the grammar has no other reading of the text. -/
theorem chained_connectives_refused (balanced : Balanced text) :
    (∀ first second, ConnectiveAt 0 text first → ConnectiveAt 0 text second → first ≠ second →
      ∃ problem, parse text = .error (.query problem)) ∧
    ∀ filter, parse text = .ok filter →
      (∀ level, IsLevel text level → Unchained level) ∧
        ∀ other, Derives text other ↔ text ≠ [] ∧ other = filter := by
  have even := (balanced_iff.mp balanced).2
  refine ⟨fun first second early late apart => ?_, fun filter read => ⟨?_, fun other => ?_⟩⟩
  · obtain ⟨front, more, some, early, late⟩ := places_ordered early late apart
    exact chain_refused early late some
  · rintro level (rfl | ⟨whole, inside⟩)
    · exact parsed_unchained read
    · exact block_unchained read even whole inside
  · constructor
    · intro derived
      exact ⟨derived_filled derived, derived_parsed derived read⟩
    · rintro ⟨filled, rfl⟩
      exact parsed_derives read even filled

/-- Two connectives side by side, and the same two with the second one in brackets. -/
theorem side_by_side_refused :
    (∃ problem, parse "(a)-eq(1)-and((b)-eq(2))-OR ((c)-eq(3))" = .error (.query problem)) ∧
      parse "(a)-eq(1)-and(((b)-eq(2))-OR ((c)-eq(3)))" =
          .ok (.join (.compare "a" .eq "1") .and (.join (.compare "b" .eq "2") .or (.compare "c" .eq "3"))) ∧
        Unchained "(a)-eq(1)-and(((b)-eq(2))-OR ((c)-eq(3)))" := by
  have read (text field word value : Text) (op : Comparator) :=
    @Derives.comparison text field word value op
  have front := read "(a)-eq(1)" "a" "eq" "1" .eq rfl rfl
  have middle := Derives.group (read "(b)-eq(2)" "b" "eq" "2" .eq rfl rfl)
  have back := Derives.group (read "(c)-eq(3)" "c" "eq" "3" .eq rfl rfl)
  have conjoined : IsSign .and "-and" :=
    ⟨"and", [], rfl, .cons rfl (.cons rfl (.cons rfl .nil)), .inl rfl⟩
  have disjoined : IsSign .or "-OR " :=
    ⟨"OR", " ", rfl, .cons rfl (.cons rfl .nil), .inr ⟨' ', rfl, rfl⟩⟩
  have grouped := Derives.group (.junction (.inl rfl) disjoined middle back)
  have chain := derived_balanced (chain_ambiguous conjoined disjoined front middle back).1
  have nested := derived_balanced (.junction (.inl rfl) conjoined front grouped)
  refine ⟨(chained_connectives_refused chain).1 "(a)-eq(1)" "(a)-eq(1)-and((b)-eq(2))" ?_ ?_ (by decide), ?_⟩
  · exact ⟨_, rfl, by decide, .and, "-and", _, conjoined, rfl⟩
  · exact ⟨_, rfl, by decide, .or, "-OR ", _, disjoined, rfl⟩
  · have read : parse "(a)-eq(1)-and(((b)-eq(2))-OR ((c)-eq(3)))" =
        .ok (.join (.compare "a" .eq "1") .and (.join (.compare "b" .eq "2") .or (.compare "c" .eq "3"))) := by
      decide +kernel
    exact ⟨read, ((chained_connectives_refused nested).2 _ read).1 _ (.inl rfl)⟩

end TableGate.FilterReadings
