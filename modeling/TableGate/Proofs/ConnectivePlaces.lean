import TableGate.Proofs.BracketBalance
import TableGate.Proofs.QueryFaults

/-! Where connectives stand in the text of a filter. A connective is a hyphen with one of the words
in any case, and a bracket opens behind it; it joins what is in front of it where as many brackets
are closed there as were opened. The parser cuts a text at the first place of this kind that is
not the start of the text, and not at all where there is none. -/
namespace TableGate.ConnectivePlaces
open Text TableGate.Filter BracketBalance QueryFaults

/-- Nothing, or one blank of any kind. -/
def IsGap (gap : Text) : Prop := gap = [] ∨ ∃ c, isBlank c = true ∧ gap = [c]

/-- A connective as it is written: a hyphen, its word in any case, and at most one blank. -/
def IsSign (op : Connective) (sign : Text) : Prop :=
  ∃ word gap, sign = '-' :: (word ++ gap) ∧ Spelled op.word word ∧ IsGap gap

/-- A text starts with a connective and the bracket behind it. -/
def Opens (text : Text) : Prop := ∃ op sign rest, IsSign op sign ∧ text = sign ++ '(' :: rest

/-- A connective stands behind the front of a text that is read from inside `start` brackets on, and
outside of all brackets there. -/
def ConnectiveAt (start : Int) (text front : Text) : Prop :=
  ∃ rest, text = front ++ rest ∧ start + depth front = 0 ∧ Opens rest

variable {text rest front more left right gap sign word : Text} {op : Connective} {start : Int}
  {atStart : Bool} {c mark : Char}

/-! ### Signs -/

/-- A word has no character that is no spelling of a letter of its keyword. -/
theorem spelled_avoids {keyword : Text} (spelled : Spelled keyword word)
    (apart : keyword.all (!isLetter · mark) = true) : mark ∉ word := by
  intro member
  obtain ⟨letter, listed, own⟩ := (Fallible.partners spelled).2 mark member
  have foreign := List.all_eq_true.mp apart letter listed
  rw [own] at foreign
  cases foreign

theorem gap_of_space (lead : gap = [] ∨ gap = [' ']) : IsGap gap := by
  rcases lead with rfl | rfl
  · exact .inl rfl
  · exact .inr ⟨' ', rfl, rfl⟩

theorem gap_avoids (blank : IsGap gap) (ink : isBlank mark = false) : mark ∉ gap := by
  rcases blank with rfl | ⟨c, blank, rfl⟩
  · simp
  · intro member
    obtain rfl := List.mem_singleton.mp member
    rw [blank] at ink
    cases ink

theorem gap_free (blank : IsGap gap) : Free gap :=
  free_iff.mpr ⟨gap_avoids blank (by decide), gap_avoids blank (by decide)⟩

/-- Behind its hyphen a sign has no hyphen, and it has no brackets. -/
theorem sign_shape (spelled : IsSign op sign) : ∃ tail, sign = '-' :: tail ∧ '-' ∉ tail ∧ Free sign := by
  obtain ⟨word, gap, rfl, letters, blank⟩ := spelled
  have avoids (mark : Char) (apart : op.word.all (!isLetter · mark) = true) (ink : isBlank mark = false) :
      mark ∉ word ++ gap := by
    rw [List.mem_append, not_or]
    exact ⟨spelled_avoids letters apart, gap_avoids blank ink⟩
  have hyphen := avoids '-' (by cases op <;> decide) (by decide)
  have opening := avoids '(' (by cases op <;> decide) (by decide)
  have closing := avoids ')' (by cases op <;> decide) (by decide)
  refine ⟨word ++ gap, rfl, hyphen, List.forall_mem_cons.mpr ⟨rfl, ?_⟩⟩
  exact free_iff.mpr ⟨opening, closing⟩

theorem opens_head (opens : Opens text) : text.head? = some '-' := by
  obtain ⟨op, sign, rest, spelled, rfl⟩ := opens
  obtain ⟨tail, rfl, -⟩ := sign_shape spelled
  rfl

/-- A connective that stands behind another one stands behind the bracket of that one. -/
theorem opens_apart (spelled : IsSign op sign) (same : sign ++ '(' :: text = more ++ rest)
    (opens : Opens rest) (later : more ≠ []) :
    ∃ behind, more = sign ++ '(' :: behind ∧ text = behind ++ rest := by
  have hyphen := opens_head opens
  rcases List.append_eq_append_iff.mp same with ⟨behind, rfl, tail⟩ | ⟨behind, rfl, rfl⟩
  · cases behind with
    | nil =>
      obtain rfl : '(' :: text = rest := by simpa using tail
      cases hyphen
    | cons c behind =>
      obtain ⟨rfl, rfl⟩ := List.cons.inj tail
      exact ⟨behind, by simp, rfl⟩
  · cases behind with
    | nil => cases hyphen
    | cons c behind =>
      obtain rfl : c = '-' := by simpa using hyphen
      obtain ⟨tail, shape, single, -⟩ := sign_shape spelled
      cases more with
      | nil => exact absurd rfl later
      | cons d more =>
        obtain ⟨-, rfl⟩ := List.cons.inj shape
        exact absurd (List.mem_append_right more (List.mem_cons_self)) single

/-! ### Connectives that are read -/

/-- At most one blank is passed over in front of a character that is none. -/
theorem dropBlank_iff (ink : isBlank c = false) :
    dropBlank text = c :: rest ↔ ∃ gap, IsGap gap ∧ text = gap ++ c :: rest := by
  constructor
  · intro dropped
    cases text with
    | nil => cases dropped
    | cons d text =>
      by_cases blank : isBlank d = true
      · obtain rfl : text = c :: rest := by simpa [dropBlank, blank] using dropped
        exact ⟨[d], .inr ⟨d, blank, rfl⟩, rfl⟩
      · exact ⟨[], .inl rfl, by simpa [dropBlank, blank] using dropped⟩
  · rintro ⟨gap, rfl | ⟨d, blank, rfl⟩, rfl⟩
    · simp [dropBlank, ink]
    · simp [dropBlank, blank]

private theorem letter_cases {letter : Char} (plain : letter ∉ ['i', 's', 'k'])
    (own : isLetter letter c = true) : c = letter ∨ c = letter.toUpper := by
  simp only [List.mem_cons, List.not_mem_nil, or_false, not_or] at plain
  simpa [isLetter, plain] using own

/-- No text starts with two words that have different letters in front. -/
private theorem words_apart {letter initial : Char} {keyword others : Text}
    (plain : letter ∉ ['i', 's', 'k']) (apart : isLetter initial letter = false)
    (capital : isLetter initial letter.toUpper = false) (spelled : Spelled (letter :: keyword) word)
    (rest : Text) : dropKeyword? (initial :: others) (word ++ rest) = none := by
  cases spelled with
  | @cons _ c _ _ own _ =>
    have foreign : isLetter initial c = false := by
      rcases letter_cases plain own with rfl | rfl
      · exact apart
      · exact capital
    simp [dropKeyword?, foreign]

theorem no_conjunction (spelled : Spelled Connective.or.word word) (rest : Text) :
    dropKeyword? Connective.and.word (word ++ rest) = none := by
  have letters : Spelled ['o', 'r'] word := spelled
  exact words_apart (by decide) (by decide) (by decide) letters rest

theorem no_negation (spelled : Spelled op.word word) (rest : Text) :
    dropKeyword? "not" (word ++ rest) = none := by
  cases op with
  | and =>
    have letters : Spelled ['a', 'n', 'd'] word := spelled
    exact words_apart (by decide) (by decide) (by decide) letters rest
  | or =>
    have letters : Spelled ['o', 'r'] word := spelled
    exact words_apart (by decide) (by decide) (by decide) letters rest

/-- The parser finds a connective at the front of a text exactly where one is written, with at most
one blank in front of it. -/
theorem connective_iff : connective? text = some (op, right) ↔
    ∃ gap sign rest, IsGap gap ∧ IsSign op sign ∧ right = '(' :: rest ∧ text = gap ++ (sign ++ right) := by
  unfold connective?
  constructor
  · intro found
    split at found
    · rename_i behind hyphen
      obtain ⟨gap, lead, rfl⟩ := (dropBlank_iff (by decide)).mp hyphen
      obtain ⟨joined, -, found⟩ := List.exists_of_findSome?_eq_some found
      split at found
      · rename_i inside dropped
        cases found
        obtain ⟨remaining, keyword, blank⟩ := Option.map_eq_some_iff.mp dropped
        obtain ⟨word, rfl, spelled⟩ := dropKeyword_iff.mp keyword
        obtain ⟨between, trail, rfl⟩ := (dropBlank_iff (by decide)).mp blank
        refine ⟨gap, '-' :: (word ++ between), inside, lead, ⟨word, between, rfl, spelled, trail⟩, rfl, ?_⟩
        simp
      · cases found
    · cases found
  · rintro ⟨gap, sign, rest, lead, ⟨word, between, rfl, spelled, trail⟩, rfl, rfl⟩
    have hyphen : dropBlank (gap ++ ('-' :: (word ++ between) ++ '(' :: rest)) =
        '-' :: (word ++ (between ++ '(' :: rest)) :=
      (dropBlank_iff (by decide)).mpr ⟨gap, lead, by simp⟩
    have bracket : dropBlank (between ++ '(' :: rest) = '(' :: rest :=
      (dropBlank_iff (by decide)).mpr ⟨between, trail, rfl⟩
    have keyword : dropKeyword? op.word (word ++ (between ++ '(' :: rest)) =
        some (between ++ '(' :: rest) := dropKeyword_iff.mpr ⟨word, rfl, spelled⟩
    rw [hyphen]
    cases op with
    | and => simp [keyword, bracket]
    | or => simp [no_conjunction spelled, keyword, bracket]

theorem opens_found (opens : Opens text) : ∃ op right, connective? text = some (op, right) := by
  obtain ⟨op, sign, rest, spelled, rfl⟩ := opens
  exact ⟨op, '(' :: rest, connective_iff.mpr ⟨[], sign, rest, .inl rfl, spelled, rfl, rfl⟩⟩

/-! ### Places -/

theorem place_cons : ConnectiveAt start (c :: text) front ↔
    (front = [] ∧ start = 0 ∧ Opens (c :: text)) ∨
      ∃ behind, front = c :: behind ∧ ConnectiveAt (start + depthStep c) text behind := by
  constructor
  · rintro ⟨rest, same, level, opens⟩
    cases front with
    | nil =>
      obtain rfl : c :: text = rest := same
      exact .inl ⟨rfl, by simpa [depth] using level, opens⟩
    | cons d behind =>
      obtain ⟨rfl, rfl⟩ := List.cons.inj same
      refine .inr ⟨behind, rfl, rest, rfl, ?_, opens⟩
      simp only [depth] at level
      omega
  · rintro (⟨rfl, rfl, opens⟩ | ⟨behind, rfl, rest, rfl, level, opens⟩)
    · exact ⟨c :: text, rfl, by simp [depth], opens⟩
    · refine ⟨rest, rfl, ?_, opens⟩
      simp only [depth]
      omega

/-- A connective keeps its place when a text is continued. -/
theorem place_front (place : ConnectiveAt start text front) (rest : Text) :
    ConnectiveAt start (text ++ rest) front := by
  obtain ⟨behind, rfl, level, op, sign, inside, spelled, rfl⟩ := place
  exact ⟨sign ++ '(' :: (inside ++ rest), by simp, level, op, sign, inside ++ rest, spelled, rfl⟩

theorem place_short (place : ConnectiveAt start text front) : front.length < text.length := by
  obtain ⟨rest, rfl, -, opens⟩ := place
  have filled : rest ≠ [] := by
    rintro rfl
    cases opens_head opens
  have := List.length_pos_iff.mpr filled
  simp only [List.length_append]
  omega

/-- No connective stands in a text without hyphens and brackets, or starts in it. -/
theorem place_passes (free : Free word) (apart : '-' ∉ word)
    (place : ConnectiveAt 0 (word ++ text) front) : ∃ behind, ConnectiveAt 0 text behind := by
  induction word generalizing front with
  | nil => exact ⟨front, place⟩
  | cons c word ih =>
    obtain ⟨step, others⟩ := List.forall_mem_cons.mp free
    rcases place_cons.mp place with ⟨-, -, opens⟩ | ⟨behind, rfl, later⟩
    · obtain rfl : c = '-' := by simpa using opens_head opens
      exact absurd List.mem_cons_self apart
    · rw [step] at later
      exact ih others (fun member => apart (List.mem_cons_of_mem c member)) later

theorem place_not_free (free : Free text) : ¬ ConnectiveAt start text front := by
  rintro ⟨rest, rfl, -, op, sign, inside, -, rfl⟩
  exact (free_iff.mp free).1 (by simp)

/-- The parser cuts a text at no place exactly where no connective stands but at its very start. -/
theorem split_none_iff : splitConnective? atStart start text = none ↔
    ∀ front, ConnectiveAt start text front → atStart = true ∧ front = [] := by
  induction text generalizing atStart start with
  | nil =>
    refine iff_of_true rfl fun front place => ?_
    exact absurd (place_short place) (by simp)
  | cons c text ih =>
    rw [splitConnective?]
    constructor
    · intro uncut front place
      split at uncut
      · cases uncut
      · rename_i here
        rcases place_cons.mp place with ⟨rfl, rfl, opens⟩ | ⟨behind, rfl, inside⟩
        · by_cases first : atStart = true
          · exact ⟨first, rfl⟩
          · obtain rfl : c = '-' := by simpa using opens_head opens
            obtain ⟨op, right, found⟩ := opens_found opens
            simp [first, found] at here
        · cases (ih.mp (Option.map_eq_none_iff.mp uncut) behind inside).1
    · intro none
      split
      · rename_i op right here
        split at here
        · rename_i place
          obtain ⟨rfl, rfl, mark⟩ := place
          obtain ⟨gap, sign, rest, lead, spelled, rfl, same⟩ := connective_iff.mp here
          have opens : Opens (sign ++ '(' :: rest) := ⟨op, sign, rest, spelled, rfl⟩
          have level : (0 : Int) + depth gap = 0 := by rw [free_depth (gap_free lead)]; rfl
          cases (none gap ⟨_, same, level, opens⟩).1
        · cases here
      · rw [Option.map_eq_none_iff, ih]
        intro front place
        cases (none (c :: front) (place_cons.mpr (.inr ⟨front, rfl, place⟩))).2

/-- The parser cuts a text around a connective, outside of all brackets and not at the start. -/
theorem split_shape (found : splitConnective? atStart start text = some (left, op, right)) :
    ∃ gap sign rest, (gap = [] ∨ gap = [' ']) ∧ IsSign op sign ∧ right = '(' :: rest ∧
      text = left ++ (gap ++ (sign ++ right)) ∧ start + depth left = 0 ∧ (atStart = true → left ≠ []) := by
  induction text generalizing atStart start left with
  | nil => cases found
  | cons c text ih =>
    rw [splitConnective?] at found
    split at found
    · rename_i here
      cases found
      split at here
      · rename_i place
        obtain ⟨rfl, rfl, mark⟩ := place
        obtain ⟨gap, sign, rest, lead, spelled, rfl, same⟩ := connective_iff.mp here
        refine ⟨gap, sign, rest, ?_, spelled, rfl, same, by simp [depth], by simp⟩
        rcases lead with rfl | ⟨blank, space, rfl⟩
        · exact .inl rfl
        · obtain ⟨rfl, -⟩ := List.cons.inj same
          rcases mark with rfl | rfl
          · exact .inr rfl
          · cases space
      · cases here
    · obtain ⟨⟨before, cutOp, behind⟩, cut, same⟩ := Option.map_eq_some_iff.mp found
      cases same
      obtain ⟨gap, sign, rest, lead, spelled, bracket, rfl, level, -⟩ := ih cut
      refine ⟨gap, sign, rest, lead, spelled, bracket, rfl, ?_, by simp⟩
      simp only [depth]
      omega

/-- No connective stands in front of the one that a text is cut at, but at the very start. -/
theorem split_first (found : splitConnective? atStart start text = some (left, op, right))
    (place : ConnectiveAt start text front) (later : atStart = true → front ≠ []) : left <+: front := by
  induction text generalizing atStart start left front with
  | nil => cases found
  | cons c text ih =>
    rw [splitConnective?] at found
    split at found
    · cases found
      exact List.nil_prefix
    · rename_i here
      obtain ⟨⟨before, cutOp, behind⟩, cut, same⟩ := Option.map_eq_some_iff.mp found
      cases same
      rcases place_cons.mp place with ⟨rfl, rfl, opens⟩ | ⟨tail, rfl, deeper⟩
      · have inside : atStart = false := by
          by_contra first
          exact later (by simpa using first) rfl
        obtain rfl : c = '-' := by simpa using opens_head opens
        obtain ⟨op, right, found⟩ := opens_found opens
        simp [inside, found] at here
      · exact List.cons_prefix_cons.mpr ⟨rfl, ih cut deeper (by simp)⟩

/-- From where a text is cut on, the next place is that of the cut itself, and all others are places
in the right side. -/
theorem place_behind_cut (lead : gap = [] ∨ gap = [' ']) (spelled : IsSign op sign)
    (level : start + depth left = 0)
    (place : ConnectiveAt start (left ++ (gap ++ (sign ++ '(' :: rest))) front) (later : left <+: front) :
    front = left ++ gap ∨ ∃ behind, behind ≠ [] ∧ ConnectiveAt 0 ('(' :: rest) behind := by
  obtain ⟨more, rfl⟩ := later
  obtain ⟨tail, same, here, opens⟩ := place
  rw [List.append_assoc] at same
  have following := List.append_cancel_left same
  have blank := gap_of_space lead
  have split : ∃ beyond, more = gap ++ beyond ∧ sign ++ '(' :: rest = beyond ++ tail := by
    have hyphen := opens_head opens
    rcases lead with rfl | rfl
    · exact ⟨more, rfl, following⟩
    · cases more with
      | nil =>
        obtain rfl : ' ' :: (sign ++ '(' :: rest) = tail := following
        cases hyphen
      | cons c beyond =>
        obtain ⟨rfl, others⟩ := List.cons.inj following
        exact ⟨beyond, rfl, others⟩
  obtain ⟨beyond, rfl, signed⟩ := split
  by_cases none : beyond = []
  · subst none
    exact .inl (by simp)
  · obtain ⟨behind, rfl, rfl⟩ := opens_apart spelled signed opens none
    refine .inr ⟨'(' :: behind, by simp, tail, rfl, ?_, opens⟩
    obtain ⟨-, -, -, free⟩ := sign_shape spelled
    rw [depth_append, depth_behind (gap_free blank), depth_behind free] at here
    omega

end TableGate.ConnectivePlaces
