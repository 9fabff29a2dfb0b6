import TableGate.Proofs.ConnectivePlaces
import TableGate.Proofs.SelectClosure

/-! The shape of the filters that come from texts and from each other. Each form of a text leaves
something for all of its parts, and what is combined with a missing or empty filter stays as it was;
so the empty filter is never a part of another one, and no condition is printed with an operator
that has nothing beside it. -/
namespace TableGate.FilterShape
open Text TableGate.Filter BracketBalance ConnectivePlaces Fallible KeyCondition LiteralContainment
open SelectClosure

/-- A filter that is read from a text, or combined from two others of which each may be missing. -/
inductive Obtained : Option Filter → Prop where
  | missing : Obtained none
  | parsed {text : Text} {filter : Filter} (read : parse text = .ok filter) : Obtained (some filter)
  | combined {left right : Option Filter} (op : Connective) (first : Obtained left)
      (second : Obtained right) : Obtained (combine left op right)

/-- The operands in a filter, on all of its levels. -/
def operands : Filter → List Filter
  | .empty => []
  | .compare _ _ _ => []
  | .not inner => inner :: operands inner
  | .join left _ right => (left :: operands left) ++ (right :: operands right)

/-- There is a text, and it has no quotes and no brackets. -/
structure Bare (text : Text) : Prop where
  present : text ≠ []
  free : ∀ mark ∈ ['\'', '"', '(', ')'], mark ∉ text

/-- All names and values of a filter are bare, and none of its operands is empty. -/
structure WellFormed (filter : Filter) : Prop where
  compared : ∀ field op value, .compare field op value ∈ filter :: operands filter →
    Bare field ∧ Bare value
  filled : .empty ∉ operands filter

/-- The texts of conditions on a table: each operator has its operands beside it. -/
inductive Condition (table : Table) : Text → Prop where
  | comparison {column : Column} {literal : Text} (op : Comparator) (known : column ∈ table.columns)
      (form : Form table.engine literal) :
      Condition table ('(' :: (column.quoted table.engine ++ (op.sql ++ literal)) ++ [')'])
  | negation {operand : Text} (present : operand ≠ []) (condition : Condition table operand) :
      Condition table ('(' :: ("NOT ".toList ++ operand) ++ [')'])
  | junction {left right : Text} (op : Connective) (leftPresent : left ≠ []) (rightPresent : right ≠ [])
      (first : Condition table left) (second : Condition table right) :
      Condition table ('(' :: (left ++ (op.sql ++ right)) ++ [')'])

variable {table : Table} {text : Text} {filter part : Filter} {given : Option Filter}

/-! ### Filters without empty parts -/

/-- A filter that is not empty, nor are its operands, with bare names and values. -/
def Solid : Filter → Prop
  | .empty => False
  | .compare field _ value => Bare field ∧ Bare value
  | .not inner => Solid inner
  | .join left _ right => Solid left ∧ Solid right

private theorem solid_operand (solid : Solid filter) (member : part ∈ operands filter) : Solid part := by
  induction filter with
  | empty => cases solid
  | compare => cases member
  | not inner ih =>
    rcases List.mem_cons.mp member with rfl | deeper
    · exact solid
    · exact ih solid deeper
  | join left op right ihLeft ihRight =>
    obtain ⟨first, second⟩ := solid
    rcases List.mem_append.mp member with member | member
    · rcases List.mem_cons.mp member with rfl | deeper
      · exact first
      · exact ihLeft first deeper
    · rcases List.mem_cons.mp member with rfl | deeper
      · exact second
      · exact ihRight second deeper

theorem solid_well_formed (shape : filter = .empty ∨ Solid filter) : WellFormed filter := by
  rcases shape with rfl | solid
  · exact ⟨by simp [operands], by simp [operands]⟩
  · constructor
    · intro field op value member
      rcases List.mem_cons.mp member with rfl | deeper
      · exact solid
      · exact (solid_operand solid deeper : Solid (.compare field op value))
    · intro member
      exact solid_operand solid member

/-! ### Filters from texts -/

private theorem compared_bare (compared : Compared text) : Bare text where
  present := compared.present
  free := by
    intro mark listed member
    have quoting : ['\'', '"', '(', ')'].all (!isPlain ·) = true := by decide
    have foreign := List.all_eq_true.mp quoting mark listed
    rw [compared.plain mark member] at foreign
    cases foreign

/-- A text that is not empty is read as a filter that has no empty parts. -/
theorem parsed_solid (read : parse text = .ok filter) (filled : text ≠ []) : Solid filter := by
  fun_induction parse text generalizing filter with
  | case1 text empty => exact absurd (List.isEmpty_iff.mp empty) filled
  | case2 text _ field word value found op _ =>
    cases read
    obtain ⟨-, -, -, name, -, content, -⟩ := comparison_eq found
    exact ⟨compared_bare name, compared_bare content⟩
  | case3 => cases read
  | case4 => cases read
  | case5 text _ _ left op right cut _ ihLeft ihRight =>
    obtain ⟨first, readLeft, read⟩ := bind_eq_ok.mp read
    obtain ⟨second, readRight, same⟩ := bind_eq_ok.mp read
    cases same
    obtain ⟨-, -, rest, -, -, rfl, -, -, front⟩ := split_shape cut
    exact ⟨ihLeft readLeft (front rfl), ihRight readRight (List.cons_ne_nil '(' rest)⟩
  | case6 text _ _ _ inner negated ih =>
    obtain ⟨part, readInner, same⟩ := bind_eq_ok.mp read
    cases same
    obtain ⟨-, -, -, -, -, inside, -⟩ := negated_eq negated
    have solid := ih readInner inside
    exact solid
  | case7 text _ _ _ _ inner grouped ih =>
    obtain ⟨-, -, inside, -⟩ := grouped_eq grouped
    exact ih read inside
  | case8 => cases read

/-! ### Combined filters -/

private theorem present_iff : ofOption? given = some filter ↔ given = some filter ∧ filter ≠ .empty := by
  rw [ofOption?, Option.filter_eq_some_iff]
  cases filter <;> simp [isEmpty]

/-- Combined filters are joined only if neither of them is missing or empty. -/
theorem combine_cases {left right : Option Filter} {op : Connective}
    (joined : combine left op right = some filter) :
    (∃ first second, left = some first ∧ right = some second ∧ first ≠ .empty ∧ second ≠ .empty ∧
        filter = .join first op second) ∨
      (left = some filter ∨ right = some filter) ∧ filter ≠ .empty := by
  unfold combine at joined
  split at joined
  · rename_i first second front back
    cases joined
    obtain ⟨rfl, firstFilled⟩ := present_iff.mp front
    obtain ⟨rfl, secondFilled⟩ := present_iff.mp back
    exact .inl ⟨first, second, rfl, rfl, firstFilled, secondFilled, rfl⟩
  · rename_i first front _
    cases joined
    obtain ⟨rfl, filled⟩ := present_iff.mp front
    exact .inr ⟨.inl rfl, filled⟩
  · obtain ⟨rfl, filled⟩ := present_iff.mp joined
    exact .inr ⟨.inr rfl, filled⟩

private theorem obtained_solid (obtained : Obtained given) (present : given = some filter) :
    filter = .empty ∨ Solid filter := by
  induction obtained generalizing filter with
  | missing => cases present
  | @parsed text _ read =>
    cases present
    by_cases none : text = []
    · subst none
      rw [parse] at read
      exact .inl (Except.ok.inj read).symm
    · exact .inr (parsed_solid read none)
  | combined op _ _ ihLeft ihRight =>
    rcases combine_cases present with ⟨first, second, left, right, some, more, rfl⟩ | ⟨side, _⟩
    · have front := (ihLeft left).resolve_left some
      have back := (ihRight right).resolve_left more
      exact .inr ⟨front, back⟩
    · rcases side with left | right
      · exact ihLeft left
      · exact ihRight right

/-! ### Printed conditions -/

theorem condition_present (condition : Condition table text) : text ≠ [] := by
  cases condition with
  | _ => exact List.cons_ne_nil _ _

/-- A filter without empty parts is printed with something beside each of its operators. -/
theorem solid_printed (solid : Solid filter) (printed : filter.sql table = .ok text) :
    Condition table text := by
  induction filter generalizing text with
  | empty => cases solid
  | compare field op value =>
    obtain ⟨column, literal, found, form, rfl⟩ := compare_printed printed
    exact .comparison op (field_eq_ok found).1 form
  | not inner ih =>
    obtain ⟨operand, printedInner, rfl⟩ := not_printed printed
    have condition := ih solid printedInner
    exact .negation (condition_present condition) condition
  | join left op right ihLeft ihRight =>
    obtain ⟨first, second⟩ := solid
    obtain ⟨leftText, rightText, printedLeft, printedRight, rfl⟩ := join_printed printed
    have front := ihLeft first printedLeft
    have back := ihRight second printedRight
    exact .junction op (condition_present front) (condition_present back) front back

/-- Filters that are read from texts and combined in any order are well formed. What is printed of one
is either nothing, for the empty filter, or a condition all of whose operators have their operands. -/
theorem obtained_well_formed (obtained : Obtained (some filter)) :
    WellFormed filter ∧ ∀ table text, filter.sql table = .ok text →
      (filter = .empty ∧ text = []) ∨ Condition table text := by
  have shape := obtained_solid obtained rfl
  refine ⟨solid_well_formed shape, fun table text printed => ?_⟩
  rcases shape with rfl | solid
  · cases printed
    exact .inl ⟨rfl, rfl⟩
  · exact .inr (solid_printed solid printed)

/-- A negation combined with nothing, and then with a comparison. -/
theorem combined_lines_well_formed :
    ∃ filter, combine (combine (some (.not (.compare "line" .eq "b"))) .or none) .and
        (some (.compare "amount" .gt "1")) = some filter ∧ WellFormed filter ∧
      filter.sql orderLines = .ok "((NOT (\"line\" = 'b')) AND (\"amount\" > 1))" ∧
      Condition orderLines "((NOT (\"line\" = 'b')) AND (\"amount\" > 1))" := by
  have negation : parse "-not((line)-eq(b))" = .ok (.not (.compare "line" .eq "b")) := by
    decide +kernel
  have comparison : parse "(amount)-gt(1)" = .ok (.compare "amount" .gt "1") := by decide +kernel
  have obtained := Obtained.combined .and (.combined .or (.parsed negation) .missing) (.parsed comparison)
  have printed : (Filter.join (.not (.compare "line" .eq "b")) .and (.compare "amount" .gt "1")).sql
      orderLines = .ok "((NOT (\"line\" = 'b')) AND (\"amount\" > 1))" := by
    decide +kernel
  obtain ⟨formed, shown⟩ := obtained_well_formed obtained
  exact ⟨_, rfl, formed, printed, (shown _ _ printed).resolve_left nofun⟩

end TableGate.FilterShape
