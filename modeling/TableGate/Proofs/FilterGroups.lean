import TableGate.Proofs.SelectClosure
import TableGate.Proofs.SqlText

/-! A printed filter determines its tree. Every node prints as one group, whose first bracket is
closed by its last character and not before, whatever brackets the literals contain; so no group is a
proper front of another one, and the text says where each part of a node ends. No precedence of
operators has a say in how a condition is grouped. -/
namespace TableGate.FilterGroups
open BracketBalance Fallible KeyCondition LiteralContainment SelectClosure SqlText

/-- A filter without an empty one, itself included. -/
def Filled : Filter → Prop
  | .empty => False
  | .compare _ _ _ => True
  | .not inner => Filled inner
  | .join left _ right => Filled left ∧ Filled right

/-- Two filters of the same shape, with the same operator at each node and the same printed text at
each leaf. -/
inductive Alike (table : Table) : Filter → Filter → Prop
  | compare {field other : Text} {op otherOp : Comparator} {value otherValue : Text} (leaf : Text)
      (first : (Filter.compare field op value).sql table = .ok leaf)
      (second : (Filter.compare other otherOp otherValue).sql table = .ok leaf) :
      Alike table (.compare field op value) (.compare other otherOp otherValue)
  | not {inner other : Filter} (inside : Alike table inner other) : Alike table (.not inner) (.not other)
  | join {left right otherLeft otherRight : Filter} (op : Connective)
      (first : Alike table left otherLeft) (second : Alike table right otherRight) :
      Alike table (.join left op right) (.join otherLeft op otherRight)

/-- A text is one group to an engine: it starts with a bracket, and this bracket is closed by the last
character and not before. Only characters outside quotes count. -/
structure OneGroup (engine : Engine) (text : Text) : Prop where
  opened : text.head? = some '('
  outside : behind engine .outside text = .outside
  closed : depth (bare engine text) = 0
  inside : ∀ front, front <+: text → front ≠ [] → front ≠ text → 0 < depth (bare engine front)

variable {table : Table} {engine : Engine} {filter other : Filter} {text rest inner : Text}

/-! ### Groups -/

/-- Matched text in brackets is one group. -/
theorem group_enclosed (level : Matched engine inner) : OneGroup engine ('(' :: inner ++ [')']) where
  opened := rfl
  outside := behind_enclosed level.closed
  closed := (matched_enclosed level).level
  inside := by
    intro front short some other
    have within : front <+: '(' :: inner := by
      rw [List.prefix_concat_iff] at short
      exact short.resolve_left other
    rw [List.prefix_cons_iff] at within
    obtain ⟨before, rfl, ⟨behind, rfl⟩⟩ := within.resolve_left some
    have lead : bare engine (['('] ++ before) = ['('] ++ bare engine before := bare_lead (by decide)
    have above := level.above
    rw [bare, bareFrom_append, above_append] at above
    have kept := above_iff.mp above.1 _ List.prefix_rfl
    rw [← List.singleton_append, lead, depth_append]
    change 0 < 1 + depth (bareFrom engine .outside before)
    omega

/-- No group is a proper front of another one. -/
theorem group_unique (first : OneGroup engine text) (second : OneGroup engine rest)
    (short : text <+: rest) : text = rest := by
  by_contra other
  have some : text ≠ [] := by
    rintro rfl
    cases first.opened
  have deep := second.inside text short some other
  rw [first.closed] at deep
  exact absurd deep (Int.lt_irrefl 0)

/-! ### Printed filters -/

/-- What the inside of a filter starts with: the opening quote of a name, the word of a negation, or
the group of a left side. -/
def sign (engine : Engine) : Filter → Option Char
  | .empty => none
  | .compare _ _ _ => (engine.quoteColumn []).head?
  | .not _ => some 'N'
  | .join _ _ _ => some '('

private theorem comparator_separates (op : Comparator) : Separator op.sql := by
  cases op <;> decide

private theorem connective_separates (op : Connective) : Separator op.sql := by
  cases op <;> decide

/-- Where two sides print the same text around their connectives, both sides and the connective are
the same. -/
private theorem sides_same {op otherOp : Connective} {left right otherLeft otherRight : Text}
    (first : OneGroup engine left) (second : OneGroup engine otherLeft)
    (same : left ++ (op.sql ++ right) = otherLeft ++ (otherOp.sql ++ otherRight)) :
    left = otherLeft ∧ op = otherOp ∧ right = otherRight := by
  have front : left <+: otherLeft ++ (otherOp.sql ++ otherRight) := by
    rw [← same]
    exact List.prefix_append left _
  have sides : left = otherLeft := by
    rcases List.prefix_or_prefix_of_prefix front (List.prefix_append otherLeft _) with short | short
    · exact group_unique first second short
    · exact (group_unique second first short).symm
  subst sides
  have behind := List.append_cancel_left same
  have ops : op = otherOp := by
    cases op <;> cases otherOp
    · rfl
    · cases behind
    · cases behind
    · rfl
  subst ops
  exact ⟨rfl, rfl, List.append_cancel_left behind⟩

section
variable (words : ∀ column ∈ table.columns, ∀ c ∈ column.name, Text.isWord c = true)
include words

/-- A filter that is printed is matched text in brackets. -/
theorem filled_enclosed (filled : Filled filter) (printed : filter.sql table = .ok text) :
    ∃ inner, text = '(' :: inner ++ [')'] ∧ Matched table.engine inner := by
  induction filter generalizing text with
  | empty => cases filled
  | compare field op value =>
    obtain ⟨column, literal, found, form, rfl⟩ := compare_printed printed
    have name : Shows table.engine (isBare · = true) (column.quoted table.engine) :=
      column_shows (words column (field_eq_ok found).1)
    exact ⟨_, rfl, matched_append name.level (comparator_separates op) (literal_shows form).level⟩
  | not inner ih =>
    obtain ⟨inside, printedInner, rfl⟩ := not_printed printed
    obtain ⟨content, rfl, level⟩ := ih filled printedInner
    exact ⟨_, rfl, matched_lead (by decide) (matched_enclosed level)⟩
  | join left op right ihLeft ihRight =>
    obtain ⟨leftText, rightText, printedLeft, printedRight, rfl⟩ := join_printed printed
    obtain ⟨leftInner, rfl, leftLevel⟩ := ihLeft filled.1 printedLeft
    obtain ⟨rightInner, rfl, rightLevel⟩ := ihRight filled.2 printedRight
    exact ⟨_, rfl, matched_append (matched_enclosed leftLevel) (connective_separates op)
      (matched_enclosed rightLevel)⟩

theorem filled_group (filled : Filled filter) (printed : filter.sql table = .ok text) :
    OneGroup table.engine text := by
  obtain ⟨inner, rfl, level⟩ := filled_enclosed words filled printed
  exact group_enclosed level

theorem sign_printed (filled : Filled filter) (printed : filter.sql table = .ok text) :
    text.tail.head? = sign table.engine filter := by
  cases filter with
  | empty => cases filled
  | compare field op value =>
    obtain ⟨column, literal, -, -, rfl⟩ := compare_printed printed
    unfold sign Column.quoted
    cases table.engine <;> rfl
  | not inner =>
    obtain ⟨inside, -, rfl⟩ := not_printed printed
    rfl
  | join left op right =>
    obtain ⟨leftText, rightText, printedLeft, -, rfl⟩ := join_printed printed
    obtain ⟨content, rfl, -⟩ := filled_enclosed words filled.1 printedLeft
    rfl

private theorem signs_same (filled : Filled filter) (otherFilled : Filled other)
    (printed : filter.sql table = .ok text) (same : other.sql table = .ok text) :
    sign table.engine filter = sign table.engine other := by
  rw [← sign_printed words filled printed, sign_printed words otherFilled same]

private theorem printed_alike (filled : Filled filter) (otherFilled : Filled other)
    (printed : filter.sql table = .ok text) (same : other.sql table = .ok text) : Alike table filter other := by
  have name_no_word : (table.engine.quoteColumn []).head? ≠ some 'N' := by
    cases table.engine <;> simp [Engine.quoteColumn]
  have name_no_group : (table.engine.quoteColumn []).head? ≠ some '(' := by
    cases table.engine <;> simp [Engine.quoteColumn]
  induction filter generalizing other text with
  | empty => cases filled
  | compare field op value =>
    have signs := signs_same words filled otherFilled printed same
    cases other with
    | empty => cases otherFilled
    | compare otherField otherOp otherValue => exact .compare text printed same
    | not inner => exact absurd signs name_no_word
    | join left otherOp right => exact absurd signs name_no_group
  | not inner ih =>
    have signs := signs_same words filled otherFilled printed same
    cases other with
    | empty => cases otherFilled
    | compare otherField otherOp otherValue => exact absurd signs.symm name_no_word
    | not otherInner =>
      obtain ⟨inside, printedInner, rfl⟩ := not_printed printed
      obtain ⟨otherInside, otherPrinted, shape⟩ := not_printed same
      have inner_same : inside = otherInside :=
        List.append_cancel_left (List.cons.inj (List.append_cancel_right shape)).2
      subst inner_same
      exact .not (ih filled otherFilled printedInner otherPrinted)
    | join left otherOp right => cases signs
  | join left op right ihLeft ihRight =>
    have signs := signs_same words filled otherFilled printed same
    cases other with
    | empty => cases otherFilled
    | compare otherField otherOp otherValue => exact absurd signs.symm name_no_group
    | not otherInner => cases signs
    | join otherLeft otherOp otherRight =>
      obtain ⟨leftText, rightText, printedLeft, printedRight, rfl⟩ := join_printed printed
      obtain ⟨otherLeftText, otherRightText, otherPrintedLeft, otherPrintedRight, shape⟩ :=
        join_printed same
      have between := (List.cons.inj (List.append_cancel_right shape)).2
      obtain ⟨rfl, rfl, rfl⟩ := sides_same (filled_group words filled.1 printedLeft)
        (filled_group words otherFilled.1 otherPrintedLeft) between
      exact .join op (ihLeft filled.1 otherFilled.1 printedLeft otherPrintedLeft)
        (ihRight filled.2 otherFilled.2 printedRight otherPrintedRight)

end

/-- Filters that print the same text are alike up to the spelling of their leaves, and the text is
one group, for every engine. -/
theorem printed_filters_unambiguous
    (words : ∀ column ∈ table.columns, ∀ c ∈ column.name, Text.isWord c = true)
    (filled : Filled filter) (otherFilled : Filled other) (printed : filter.sql table = .ok text)
    (same : other.sql table = .ok text) : Alike table filter other ∧ OneGroup table.engine text :=
  ⟨printed_alike words filled otherFilled printed same, filled_group words filled printed⟩

/-- A filter whose value looks like the end of a group with another one behind it. -/
def groupInQuotes (amount : Text) : Filter :=
  .join (.compare "line" .eq "x') OR (y") .and (.not (.compare "amount" .gt amount))

theorem group_in_quotes_unambiguous :
    ∃ text, (groupInQuotes "1").sql orderLines = .ok text ∧
      Alike orderLines (groupInQuotes "1") (groupInQuotes "1.0") ∧ OneGroup .sqlite text :=
  have words : WordNames orderLines := by decide +kernel
  have printed : ∀ amount ∈ ["1".toList, "1.0".toList], (groupInQuotes amount).sql orderLines =
      .ok "((\"line\" = 'x'') OR (y') AND (NOT (\"amount\" > 1)))" := by
    decide +kernel
  have once := printed "1" (by simp)
  have again := printed "1.0" (by simp)
  ⟨_, once, printed_filters_unambiguous words.columns ⟨trivial, trivial⟩ ⟨trivial, trivial⟩ once again⟩

end TableGate.FilterGroups
