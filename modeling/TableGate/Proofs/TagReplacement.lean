import TableGate.Answer.Html
import TableGate.Proofs.PatternSearch

/-! Replacing a pattern in a text, and what it does to the tags of a template. A pattern that
stands nowhere leaves a text as it is; one that starts with a mark of its own is replaced where
it stands and nowhere else. -/
namespace TableGate.TagReplacement
open Text

variable {old new text front rest : Text} {mark : Char}

private theorem skip_replaced (passed rest : Text) :
    replaceFrom old new passed.length (passed ++ rest) = replaceFrom old new 0 rest := by
  induction passed with
  | nil => rfl
  | cons c passed ih => exact ih

private theorem replaceFrom_absent (absent : ¬ old <:+: text) : replaceFrom old new 0 text = text := by
  induction text with
  | nil => rfl
  | cons c text ih =>
    have here : ¬ old.isPrefixOf (c :: text) = true :=
      fun found => absent (List.isPrefixOf_iff_prefix.mp found).isInfix
    have later : ¬ old <:+: text := fun found => absent (List.infix_cons found)
    rw [replaceFrom, if_neg here, ih later]

/-- A pattern that stands nowhere is not replaced. -/
theorem replace_absent (absent : ¬ old <:+: text) : replace old new text = text := by
  unfold replace
  split
  · rfl
  · exact replaceFrom_absent absent

private theorem marked_absent (free : mark ∉ text) : ¬ (mark :: old) <:+: text :=
  fun found => free (found.subset (by simp))

private theorem replaceFrom_front (free : mark ∉ front) :
    replaceFrom (mark :: old) new 0 (front ++ rest) = front ++ replaceFrom (mark :: old) new 0 rest := by
  induction front with
  | nil => rfl
  | cons c front ih =>
    simp only [List.mem_cons, not_or] at free
    have here : ¬ (mark :: old).isPrefixOf (c :: (front ++ rest)) = true := by
      simp [free.1]
    rw [List.cons_append, replaceFrom, if_neg here, ih free.2, List.cons_append]

/-- A pattern is replaced where it stands if its first character stands nowhere else. -/
theorem replace_once (before : mark ∉ front) (after : mark ∉ rest) :
    replace (mark :: old) new (front ++ mark :: old ++ rest) = front ++ new ++ rest := by
  have here : (mark :: old).isPrefixOf (mark :: (old ++ rest)) = true := by
    simp [List.isPrefixOf_iff_prefix]
  rw [replace, if_neg (by simp), List.append_assoc, replaceFrom_front before, List.cons_append,
    replaceFrom, if_pos here, List.length_cons, Nat.add_sub_cancel, skip_replaced,
    replaceFrom_absent (marked_absent after), List.append_assoc]

/-! ### Texts side by side -/

/-- Where no occurrence goes across, both sides are replaced on their own. -/
private theorem replaceFrom_append {left right : Text} {skipped : Nat}
    (apart : ∀ c text, old <+: c :: text ++ right → old <+: c :: text)
    (inside : skipped ≤ left.length) :
    replaceFrom old new skipped (left ++ right) =
      replaceFrom old new skipped left ++ replaceFrom old new 0 right := by
  induction left generalizing skipped with
  | nil =>
    obtain rfl : skipped = 0 := Nat.le_zero.mp inside
    rfl
  | cons c left ih =>
    cases skipped with
    | succ skipped => exact ih (Nat.le_of_succ_le_succ inside)
    | zero =>
      rw [List.cons_append, replaceFrom, replaceFrom]
      by_cases starts : old <+: c :: left
      · have shorter := starts.length_le
        rw [List.length_cons] at shorter
        have longer : old <+: c :: (left ++ right) := starts.trans (List.prefix_append (c :: left) right)
        rw [if_pos (List.isPrefixOf_iff_prefix.mpr starts), if_pos (List.isPrefixOf_iff_prefix.mpr longer),
          ih (by omega), List.append_assoc]
      · have longer : ¬ old <+: c :: (left ++ right) := fun across => starts (apart c left across)
        rw [if_neg (mt List.isPrefixOf_iff_prefix.mp starts), if_neg (mt List.isPrefixOf_iff_prefix.mp longer),
          ih (Nat.zero_le _), List.cons_append]

/-- A character that the pattern doesn't have stands between two texts of their own. -/
theorem replace_around {c : Char} (absent : c ∉ old) :
    replace old new (front ++ c :: rest) = replace old new front ++ c :: replace old new rest := by
  unfold replace
  split
  · rfl
  · rename_i filled
    have here : ¬ old.isPrefixOf (c :: rest) = true := by
      intro starts
      have within : old <+: [] ++ c :: rest := List.isPrefixOf_iff_prefix.mp starts
      have start : old <+: [] := (PatternSearch.prefix_before absent).mp within
      exact filled (by simpa using start)
    rw [replaceFrom_append (fun _ _ => (PatternSearch.prefix_before absent).mp) (Nat.zero_le _),
      replaceFrom.eq_3, if_neg here]

/-- A pattern that ends with a mark does not reach into a text without marks. -/
private theorem prefix_within (after : mark ∉ rest) (starts : old ++ [mark] <+: text ++ rest) :
    old ++ [mark] <+: text := by
  rcases List.prefix_or_prefix_of_prefix starts (List.prefix_append text rest) with inside | ⟨behind, same⟩
  · exact inside
  · rcases List.eq_nil_or_concat behind with rfl | ⟨behind, last, rfl⟩
    · rw [List.append_nil] at same
      exact same ▸ List.prefix_rfl
    · rw [List.concat_eq_append, ← List.append_assoc] at same
      obtain ⟨rfl, ends⟩ := List.append_inj' same rfl
      obtain rfl : last = mark := List.singleton_inj.mp ends
      rw [List.append_assoc, List.prefix_append_right_inj] at starts
      have member : last ∈ rest := starts.subset (by simp)
      exact absurd member after

/-- Of a text between texts without marks, a pattern between two marks is replaced in itself. -/
theorem replace_inside (before : mark ∉ front) (after : mark ∉ rest) :
    replace (mark :: old ++ [mark]) new (front ++ text ++ rest) =
      front ++ replace (mark :: old ++ [mark]) new text ++ rest := by
  have filled : ¬ (mark :: old ++ [mark]).isEmpty = true := Bool.false_ne_true
  rw [replace, if_neg filled, replace, if_neg filled, List.append_assoc, List.cons_append,
    replaceFrom_front before, ← List.cons_append,
    replaceFrom_append (fun _ _ => prefix_within after) (Nat.zero_le _), List.cons_append,
    replaceFrom_absent (marked_absent after), List.append_assoc]

/-! ### Pieces -/

private theorem splitFrom_ne_nil (skipped : Nat) (text : Text) : splitFrom old skipped text ≠ [] := by
  induction text generalizing skipped with
  | nil => simp [splitFrom]
  | cons c text ih =>
    cases skipped with
    | succ skipped => exact ih skipped
    | zero =>
      unfold splitFrom
      split
      · simp
      · cases pieces : splitFrom old 0 text with
        | nil => exact absurd pieces (ih 0)
        | cons piece others => simp

private theorem replaceFrom_eq_join (skipped : Nat) (text : Text) :
    replaceFrom old new skipped text = join new (splitFrom old skipped text) := by
  induction text generalizing skipped with
  | nil => cases skipped <;> rfl
  | cons c text ih =>
    cases skipped with
    | succ skipped => exact ih skipped
    | zero =>
      unfold replaceFrom splitFrom
      split
      · rw [ih]
        cases pieces : splitFrom old (old.length - 1) text with
        | nil => exact absurd pieces (splitFrom_ne_nil _ _)
        | cons piece others => simp [join]
      · rw [ih]
        cases pieces : splitFrom old 0 text with
        | nil => exact absurd pieces (splitFrom_ne_nil _ _)
        | cons piece others => cases others <;> simp [join]

/-- Replacing a pattern joins the pieces between its occurrences. -/
theorem replace_eq_join (some : old ≠ []) : replace old new text = join new (splitOnText old text) := by
  rw [replace, if_neg (by simpa using some)]
  exact replaceFrom_eq_join 0 text

/-! ### Tags -/

private theorem tag_marks (name : Text) : (Layout.htmlTag name).count '#' = name.count '#' + 6 := by
  have ends : ("###" : Text).count '#' = 3 := by decide
  rw [Layout.htmlTag, List.count_append, List.count_append, ends]
  omega

private theorem front_of_mark {before later : Text} (left : mark ∉ front) (right : mark ∉ before)
    (same : front ++ mark :: rest = before ++ mark :: later) : front = before := by
  have marked (text tail : Text) (free : mark ∉ text) :
      (text ++ mark :: tail).takeWhile (· != mark) = text := by
    rw [List.takeWhile_append_of_pos]
    · simp
    · intro c member
      simp only [bne_iff_ne, ne_eq]
      rintro rfl
      exact free member
  rw [← marked front rest left, same, marked before later right]

/-- Of texts that start and end with a mark, one stands between two texts without it. -/
private theorem marked_unique {before later inner outer : Text} (left : mark ∉ front)
    (right : mark ∉ rest) (first : mark ∉ before) (last : mark ∉ later)
    (same : front ++ (mark :: inner ++ [mark]) ++ rest = before ++ (mark :: outer ++ [mark]) ++ later) :
    mark :: inner ++ [mark] = mark :: outer ++ [mark] := by
  have fronts : front = before := front_of_mark left first (by simpa using same)
  subst fronts
  rw [List.append_assoc front, List.append_assoc front] at same
  have behind := List.append_cancel_left same
  have mirrored := congrArg List.reverse behind
  have ends : rest.reverse = later.reverse :=
    front_of_mark (by simpa using right) (by simpa using last) (by simpa using mirrored)
  rw [List.reverse_inj.mp ends] at behind
  exact List.append_cancel_right behind

theorem tag_shape (name : Text) :
    Layout.htmlTag name = '#' :: (['#', '#'] ++ name ++ ['#', '#']) ++ ['#'] := by
  have ends : ("###" : Text) = ['#', '#', '#'] := by decide
  simp [Layout.htmlTag, ends]

theorem placeholder_tag : Layout.idPlaceholder = Layout.htmlTag "sqlrest_temporary_row_id" := by decide

/-- Where the tag of a name without hashes is the only text with hashes, no other tag is found. -/
theorem other_tag_absent {name other : Text} (plain : '#' ∉ other)
    (apart : Layout.htmlTag name ≠ Layout.htmlTag other) (before : '#' ∉ front) (after : '#' ∉ rest) :
    ¬ Layout.htmlTag name <:+: front ++ Layout.htmlTag other ++ rest := by
  rintro ⟨left, right, same⟩
  have marks := congrArg (List.count '#') same
  simp only [List.count_append, tag_marks, List.count_eq_zero_of_not_mem plain,
    List.count_eq_zero_of_not_mem before, List.count_eq_zero_of_not_mem after] at marks
  have leftFree : '#' ∉ left := List.count_eq_zero.mp (by omega)
  have rightFree : '#' ∉ right := List.count_eq_zero.mp (by omega)
  rw [tag_shape, tag_shape] at same apart
  exact apart (marked_unique leftFree rightFree before after same)

/-! ### Templates -/

/-- Filling in the fields leaves the placeholder alone if no field has its name. -/
private theorem fillFields_placeholder (layout : Layout) {columns : List Column}
    {fields : List WrittenField} (before : '#' ∉ front) (after : '#' ∉ rest)
    (others : ∀ column ∈ columns, Layout.htmlTag column.name ≠ Layout.idPlaceholder) :
    layout.fillFields (front ++ Layout.idPlaceholder ++ rest) columns fields =
      front ++ Layout.idPlaceholder ++ rest := by
  induction columns generalizing fields with
  | nil => rfl
  | cons column columns ih =>
    have kept (field : Option WrittenField) :
        Layout.fillField (front ++ Layout.idPlaceholder ++ rest) column field =
          front ++ Layout.idPlaceholder ++ rest := by
      have other := others column List.mem_cons_self
      rw [placeholder_tag] at other ⊢
      exact replace_absent (other_tag_absent (by decide) other before after)
    have later {fields : List WrittenField} :
        layout.fillFields (front ++ Layout.idPlaceholder ++ rest) columns fields =
          front ++ Layout.idPlaceholder ++ rest :=
      ih fun other member => others other (List.mem_cons_of_mem _ member)
    unfold Layout.fillFields
    split
    · rw [kept, later]
    · rw [kept, later]

/-- The row id stands in the place of its tag. -/
theorem htmlRow_of_tag (layout : Layout) (written : WrittenRow) (before : '#' ∉ front)
    (after : '#' ∉ rest)
    (others : ∀ column ∈ layout.table.columns, Layout.htmlTag column.name ≠ Layout.idPlaceholder) :
    layout.htmlRow (front ++ Layout.htmlTag layout.table.settings.idField ++ rest) written =
      front ++ markup written.id ++ rest ++ "\r\n" := by
  have started : replace (Layout.htmlTag layout.table.settings.idField) Layout.idPlaceholder
      (front ++ Layout.htmlTag layout.table.settings.idField ++ rest) =
        front ++ Layout.idPlaceholder ++ rest := by
    rw [tag_shape]
    exact replace_once before after
  have finished : replace Layout.idPlaceholder (markup written.id) (front ++ Layout.idPlaceholder ++ rest) =
      front ++ markup written.id ++ rest := by
    rw [placeholder_tag, tag_shape]
    exact replace_once before after
  rw [Layout.htmlRow, started, fillFields_placeholder layout before after others, finished]

/-- Whatever the template, the row id is shown in the same places, and only as markup. -/
theorem htmlRow_pieces (layout : Layout) (template : Text) (fields : List WrittenField) :
    ∃ pieces, ∀ id, layout.htmlRow template ⟨fields, id⟩ = join (markup id) pieces ++ "\r\n" := by
  have some : Layout.idPlaceholder ≠ [] := by decide
  refine ⟨splitOnText Layout.idPlaceholder (layout.fillFields (replace
    (Layout.htmlTag layout.table.settings.idField) Layout.idPlaceholder template)
    layout.table.columns fields), fun id => ?_⟩
  rw [Layout.htmlRow, replace_eq_join some]

end TableGate.TagReplacement
