import TableGate.Proofs.ConnectiveChains

/-! Negations of texts that are read as filters. The inside of a negation has to be on one line, and
no connective may stand behind a bracket that closes the block of the negation too early. Values of
comparisons may have line breaks, and groups may have brackets behind them that were never opened:
such texts are read on their own, but their negations are not. -/
namespace TableGate.FilterNegation
open Text TableGate.Filter BracketBalance ConnectiveChains ConnectivePlaces Fallible FilterWriting QueryFaults

variable {text rest inner word front : Text} {filter : Filter} {start : Int}

/-! ### Connectives in negations -/

/-- A closing bracket at the end of a text is behind every connective with its bracket. -/
private theorem place_closed (place : ConnectiveAt start (text ++ [')']) front) :
    ConnectiveAt start text front := by
  obtain ⟨rest, same, level, op, sign, inside, spelled, rfl⟩ := place
  rcases List.eq_nil_or_concat inside with rfl | ⟨inside, last, rfl⟩
  · rw [← List.append_assoc] at same
    cases (List.append_inj' same rfl).2
  · have shape : text ++ [')'] = front ++ (sign ++ '(' :: inside) ++ [last] := by
      rw [same]
      simp
    exact ⟨sign ++ '(' :: inside, List.append_inj_left' shape rfl, level, op, sign, inside, spelled, rfl⟩

/-- A negation is cut exactly where a connective stands in its inside behind one closing bracket
more than were opened there. -/
theorem negation_uncut_iff (named : word = [] ∨ Spelled "not" word) :
    splitConnective? true 0 ('-' :: (word ++ block text)) = none ↔
      ∀ front, ¬ ConnectiveAt 1 text front := by
  obtain ⟨apart, free⟩ := named_apart named
  rw [split_none_iff]
  constructor
  · rintro start front ⟨rest, rfl, level, op, sign, inside, spelled, rfl⟩
    have place : ConnectiveAt 0 ('-' :: (word ++ block (front ++ (sign ++ '(' :: inside))))
        ('-' :: word ++ '(' :: front) := by
      refine ⟨sign ++ '(' :: (inside ++ [')']), by simp [block], ?_, op, sign, _, spelled, rfl⟩
      rw [depth_behind free, depth, Int.zero_add]
      exact level
    cases (start _ place).2
  · intro none front place
    refine ⟨rfl, ?_⟩
    rcases place_cons.mp place with ⟨rfl, -⟩ | ⟨behind, rfl, later⟩
    · rfl
    · obtain ⟨opened, inside⟩ := place_passes (List.forall_mem_cons.mp free).2 apart later
      rcases place_cons.mp inside with ⟨-, -, opens⟩ | ⟨within, -, deeper⟩
      · cases opens_head opens
      · exact absurd (place_closed deeper) (none within)

/-- A text whose brackets are balanced closes no bracket before it. -/
theorem balanced_no_place (balanced : Balanced text) (front : Text) : ¬ ConnectiveAt 1 text front := by
  rintro ⟨rest, rfl, level, -⟩
  have kept := above_iff.mp (balanced_iff.mp balanced).1 front (List.prefix_append front rest)
  omega

/-! ### Insides of negations -/

private theorem named_opened (named : word = [] ∨ Spelled "not" word) :
    (dropKeyword? "not" (word ++ block text)).getD (word ++ block text) = block text := by
  rcases named with rfl | spelled
  · rfl
  · rw [dropKeyword_iff.mpr ⟨word, rfl, spelled⟩]
    rfl

/-- The inside of a negation has no line breaks. -/
private theorem negated_line (opened : (dropKeyword? "not" rest).getD rest = block text)
    (found : negated? ('-' :: rest) = some inner) : '\n' ∉ text := by
  have ended : atEnd ((text ++ [')']).dropWhile (· ≠ '\n')) = true := by
    rw [negated?, opened] at found
    split at found
    · rename_i body shape
      obtain ⟨-, rfl⟩ := List.cons.inj (shape : '(' :: (text ++ [')']) = '(' :: body)
      dsimp only at found
      split at found
      · rename_i closes
        simp only [Bool.and_eq_true] at closes
        exact closes.1.1
      · cases found
    · cases found
  intro member
  have broken : text.dropWhile (· ≠ '\n') ≠ [] := by
    intro none
    have inline := List.dropWhile_eq_nil_iff.mp none '\n' member
    simp at inline
  rw [List.dropWhile_append, if_neg (by simpa using broken)] at ended
  simp only [atEnd, Bool.or_eq_true, List.isEmpty_iff, beq_iff_eq] at ended
  rcases ended with none | same
  · cases List.append_ne_nil_of_right_ne_nil _ (List.cons_ne_nil _ _) none
  · have last := congrArg List.getLast? same
    rw [List.getLast?_concat] at last
    cases last

/-- What is read as a negation behind a hyphen. -/
theorem negation_read_iff : parse ('-' :: rest) = .ok (.not filter) ↔
    splitConnective? true 0 ('-' :: rest) = none ∧
      ∃ inner, negated? ('-' :: rest) = some inner ∧ parse inner = .ok filter := by
  have uncompared : comparison? ('-' :: rest) = none := rfl
  cases cut : splitConnective? true 0 ('-' :: rest) with
  | none =>
    rw [parse_hyphen cut]
    cases found : negated? ('-' :: rest) with
    | none => simp
    | some inner =>
      simp [bind_eq_ok]
  | some parts =>
    refine iff_of_false ?_ (by simp)
    fun_cases parse ('-' :: rest) with
    | case1 empty => cases empty
    | case4 =>
      intro read
      cases read
    | case5 =>
      intro read
      obtain ⟨_, _, read⟩ := bind_eq_ok.mp read
      obtain ⟨_, _, read⟩ := bind_eq_ok.mp read
      cases read
    | _ => simp_all

/-- The negation of a filter is read from the text of the filter in brackets, behind a hyphen with or
without the word, exactly if the text is on one line and no connective of it stands behind one
closing bracket more than were opened. There is none of the kind in a balanced text. -/
theorem negation_accepted_iff (filled : text ≠ []) (read : parse text = .ok filter) :
    (∀ word, word = [] ∨ Spelled "not" word →
      (parse ('-' :: (word ++ block text)) = .ok (.not filter) ↔
        '\n' ∉ text ∧ ∀ front, ¬ ConnectiveAt 1 text front)) ∧
    (Balanced text → ∀ front, ¬ ConnectiveAt 1 text front) := by
  refine ⟨fun word named => ?_, balanced_no_place⟩
  rw [negation_read_iff, negation_uncut_iff named]
  constructor
  · rintro ⟨uncut, inner, found, -⟩
    exact ⟨negated_line (named_opened named) found, uncut⟩
  · rintro ⟨line, uncut⟩
    exact ⟨uncut, text, negated_opened (named_opened named) line filled, read⟩

/-- A negation with its word, and the same one without it. -/
theorem joined_filters_negated :
    parse "-not((a)-eq(1)-and((b)-eq(2)))" =
        .ok (.not (.join (.compare "a" .eq "1") .and (.compare "b" .eq "2"))) ∧
      parse "-((a)-eq(1)-and((b)-eq(2)))" =
        .ok (.not (.join (.compare "a" .eq "1") .and (.compare "b" .eq "2"))) := by
  have read : parse "(a)-eq(1)-and((b)-eq(2))" =
      .ok (.join (.compare "a" .eq "1") .and (.compare "b" .eq "2")) := by decide +kernel
  obtain ⟨accepted, level⟩ := negation_accepted_iff (by decide) read
  have alone : '\n' ∉ "(a)-eq(1)-and((b)-eq(2))".toList ∧
      ∀ front, ¬ ConnectiveAt 1 "(a)-eq(1)-and((b)-eq(2))" front := by
    exact ⟨by decide, level ((accepted_text_balanced_iff read).mpr (by decide))⟩
  have spelled : Spelled "not" "not" := .cons rfl (.cons rfl (.cons rfl .nil))
  exact ⟨(accepted "not" (.inr spelled)).mpr alone, (accepted [] (.inl rfl)).mpr alone⟩

/-- A value may have a line break, and a bracket behind a group may be one that was never opened, but
neither is accepted behind a negation. -/
theorem accepted_alone_only :
    (parse "(a)-eq(x\ny)" = .ok (.compare "a" .eq "x\ny") ∧
      parse "-not((a)-eq(x\ny))" = .error (.query (.invalidFilter "-not((a)-eq(x\ny))")) ∧
      parse "-((a)-eq(x\ny))" = .error (.query (.invalidFilter "-((a)-eq(x\ny))"))) ∧
    parse "((a)-eq(1)))-and(x))" = .ok (.compare "a" .eq "1") ∧
      parse "-not(((a)-eq(1)))-and(x)))" = .error (.query (.invalidFilter "x")) ∧
      parse "-(((a)-eq(1)))-and(x)))" = .error (.query (.invalidFilter "x")) := by
  refine ⟨⟨?_, ?_, ?_⟩, ?_, ?_, ?_⟩
  all_goals decide +kernel

end TableGate.FilterNegation
