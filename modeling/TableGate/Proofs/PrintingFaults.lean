import TableGate.Proofs.ConsistentAnswers
import TableGate.Proofs.KeyCondition

/-! The faults of printing that are not the sender's. Names that are no fields and values that do not
fit are faults of the request; there are two more ways in which a statement is not printed, a text that
bytes can't be read from and a number with too many digits. They are stated of the parts of a request,
in the order in which these are printed. -/
namespace TableGate.PrintingFaults
open Contracts Fallible SpelledCells BodyRows KeyCondition ConsistentAnswers ConversionProblem

/-- A statement or a part of one is not printed, and the fault is not the sender's. -/
abbrev Breaks {α : Type} (result : Except Fault α) : Prop := FailsWith (faultCode · = 500) result

/-- A number with more digits than a conversion takes. -/
def Overlong (n : Nat) : Prop := digitLimit < (Text.ofNat n).length

/-- A limit whose number of rows, or the offset of whose page, has too many digits. -/
inductive LimitBreaks (limit : Limit) : Prop where
  | size (n : Nat) (asked : limit.size = some n) (long : Overlong n) : LimitBreaks limit
  | offset (n page : Nat) (asked : limit.size = some n) (paged : limit.page = some (page + 1))
      (long : Overlong (n * page + 1)) : LimitBreaks limit

/-- A filter with a comparison of a field of bytes with a text that is none, behind conditions that
print. -/
inductive FilterBreaks (table : Table) : Filter → Prop where
  | value (name : Text) (op : Comparator) (value : Text) (column : Column)
      (found : table.find? name = some column) (alien : Alien column value) :
      FilterBreaks table (.compare name op value)
  | negated (inner : Filter) (breaks : FilterBreaks table inner) : FilterBreaks table (.not inner)
  | left (left : Filter) (op : Connective) (right : Filter) (breaks : FilterBreaks table left) :
      FilterBreaks table (.join left op right)
  | right (left : Filter) (op : Connective) (right : Filter) (printed : Text)
      (first : left.sql table = .ok printed) (breaks : FilterBreaks table right) :
      FilterBreaks table (.join left op right)

/-- A row id with a part for each key field, one of which is for a field of bytes and is a text that
is none, behind parts that stand for values. -/
def IdBreaks (table : Table) (id : Text) : Prop :=
  (table.settings.splitId id).length = table.keys.length ∧
    ∃ before column part after,
      table.keys.zip (table.settings.splitId id) = before ++ (column, part) :: after ∧
      (∀ key ∈ before, ∃ literal, Stands table key.1 key.2 literal) ∧ Alien column part

/-- Every name of a query is the name of a field. -/
structure Named (table : Table) (query : Query) : Prop where
  select : ∀ select, query.select = some select →
    ∀ name ∈ select.columns, table.find? name ≠ none
  aggregate : ∀ aggregate, Table.activeAggregate? query = some aggregate →
    ∀ name ∈ aggregate.fields, table.find? name ≠ none
  order : ∀ order, query.order = some order → ∀ key ∈ order.keys, table.find? key.field ≠ none

/-- A query all of whose names are fields, but one of whose parts breaks behind parts that print: the
limit, then the filter, then the row id. -/
inductive QueryBreaks (table : Table) (id : Text) (query : Query) : Prop where
  | limit (named : Named table query) (limit : Limit) (asked : query.limit = some limit)
      (some : limit.isEmpty = false) (breaks : LimitBreaks limit) : QueryBreaks table id query
  | filter (named : Named table query)
      (limited : ∀ limit, query.limit = some limit → limit.isEmpty = false → ¬ LimitBreaks limit)
      (filter : Filter) (asked : query.filter = some filter) (breaks : FilterBreaks table filter) :
      QueryBreaks table id query
  | id (named : Named table query)
      (limited : ∀ limit, query.limit = some limit → limit.isEmpty = false → ¬ LimitBreaks limit)
      (filtered : ∀ filter, query.filter = some filter → ∃ printed, filter.sql table = .ok printed)
      (some : id ≠ []) (breaks : IdBreaks table id) : QueryBreaks table id query

/-- The cells that an update writes. -/
def assigned (table : Table) (row : Row) : List (Column × Cell) :=
  (cellsOf table.columns row).filter fun field => !field.1.isPrimaryKey && !field.2.isUndefined

/-- A row with cells to write, each of which has a literal. -/
def Assigns (table : Table) (row : Row) : Prop :=
  assigned table row ≠ [] ∧
    ∀ field ∈ assigned table row, ∃ literal, field.1.literal table.engine field.2 = .ok literal

variable {table : Table} {column : Column} {id name part text : Text} {query : Query} {row : Row}

/-! ### Faults of the sender -/

/-- A sequence breaks with its first operation, or with the second one behind a value. -/
theorem breaks_bind {α β : Type} {first : Except Fault α} {next : α → Except Fault β} :
    Breaks (first >>= next) ↔ Breaks first ∨ ∃ value, first = .ok value ∧ Breaks (next value) :=
  FailsWith.bind_iff

theorem breaks_mapM {α β : Type} {f : α → Except Fault β} {items : List α} :
    Breaks (items.mapM f) ↔ ∃ before item after, items = before ++ item :: after ∧
      (∀ earlier ∈ before, ∃ value, f earlier = .ok value) ∧ Breaks (f item) :=
  FailsWith.mapM_iff

private theorem printed_breaks {α β : Type} {result : Except Fault α} {f : α → β} :
    Breaks (result >>= fun printed => .ok (f printed)) ↔ Breaks result :=
  FailsWith.made_iff

/-- What only fails with values that do not fit does not break. -/
theorem values_unbroken {α : Type} {good : α → Prop} {result : Except Fault α}
    (holds : Ensures good IsValue result) : ¬ Breaks result := by
  refine holds.not_failsWith ?_
  rintro _ ⟨problem, rfl⟩
  simp [faultCode, Fault.isRequestFault]

private theorem field_iff {clause : Clause} :
    table.field clause name = .ok column ↔ table.find? name = some column := by
  unfold Table.field
  cases table.find? name <;> simp

private theorem field_breaks {clause : Clause} : ¬ Breaks (table.field clause name) := by
  unfold Table.field
  cases table.find? name <;> simp [faultCode, Fault.isRequestFault]

/-! ### Numbers and limits -/

private theorem number_breaks {n : Nat} : Breaks (Integer.textOfNat n) ↔ Overlong n := by
  unfold Integer.textOfNat Overlong
  dsimp only
  split
  · rename_i long
    simpa [faultCode, Fault.isRequestFault] using long
  · rename_i short
    simpa using short

private theorem number_total {n : Nat} (short : ¬ Overlong n) : ∃ text, Integer.textOfNat n = .ok text :=
  ⟨_, Integer.textOfNat_of_length_le (Nat.le_of_not_lt short)⟩

/-- A limit breaks with its numbers. -/
theorem limit_breaks {limit : Limit} : Breaks limit.sql ↔ LimitBreaks limit := by
  obtain ⟨size, page⟩ := limit
  cases size with
  | none =>
    have prints : Limit.sql ⟨none, page⟩ = .ok "-1" := rfl
    rw [prints]
    refine iff_of_false (by simp) ?_
    rintro (⟨n, asked, -⟩ | ⟨n, page, asked, -, -⟩) <;> cases asked
  | some n =>
    constructor
    · intro breaks
      rcases breaks_bind.mp breaks with long | ⟨printed, -, later⟩
      · exact .size n rfl (number_breaks.mp long)
      · match page with
        | none => simp at later
        | some 0 => simp at later
        | some (page + 1) => exact .offset n page rfl rfl (number_breaks.mp (printed_breaks.mp later))
    · rintro (⟨_, asked, long⟩ | ⟨_, page, asked, paged, long⟩)
      · cases asked
        exact breaks_bind.mpr (.inl (number_breaks.mpr long))
      · cases asked
        cases paged
        refine breaks_bind.mpr ?_
        by_cases size : Overlong n
        · exact .inl (number_breaks.mpr size)
        · obtain ⟨printed, prints⟩ := number_total size
          exact .inr ⟨printed, prints, printed_breaks.mpr (number_breaks.mpr long)⟩

/-! ### Values -/

/-- A text for a field breaks where the field is of bytes and the text is none, whatever is printed of
the value that it is read as. -/
private theorem value_breaks {refused : ValueProblem} {print : Text → Text} :
    Breaks (column.deserialize (.text text) >>= fun cell =>
        if cell.isEmpty then .error (.value refused)
        else column.literal table.engine cell >>= fun literal => .ok (print literal)) ↔
      Alien column text := by
  by_cases alien : Alien column text
  · rw [deserialize_alien alien]
    exact iff_of_true (breaks_bind.mpr (.inl (by simp [faultCode, Fault.isRequestFault]))) alien
  · refine iff_of_false ?_ alien
    have holds : Ensures (fun _ => True) IsValue (column.deserialize (.text text) >>= fun cell =>
        if cell.isEmpty then .error (.value refused)
        else column.literal table.engine cell >>= fun literal => .ok (print literal)) := by
      refine (deserialize_ensures alien).bind fun cell spelled => ?_
      split
      · exact ⟨_, rfl⟩
      · exact (literal_ensures spelled).bind fun _ _ => trivial
    exact values_unbroken holds

/-- A filter breaks at the first comparison that does, if everything in front of it prints. -/
theorem filter_breaks {filter : Filter} : Breaks (filter.sql table) ↔ FilterBreaks table filter := by
  induction filter with
  | empty =>
    refine iff_of_false (by simp [Filter.sql]) ?_
    rintro ⟨⟩
  | compare name op value =>
    rw [Filter.sql, breaks_bind, or_iff_right field_breaks]
    constructor
    · rintro ⟨column, found, breaks⟩
      exact .value name op value column (field_iff.mp found) (value_breaks.mp breaks)
    · rintro ⟨_, _, _, column, found, alien⟩
      exact ⟨column, field_iff.mpr found, value_breaks.mpr alien⟩
  | not inner ih =>
    rw [Filter.sql, printed_breaks, ih]
    constructor
    · exact .negated inner
    · rintro ⟨⟩
      assumption
  | join left op right first second =>
    rw [Filter.sql, breaks_bind, first]
    simp only [printed_breaks, second]
    constructor
    · rintro (breaks | ⟨printed, prints, breaks⟩)
      · exact .left left op right breaks
      · exact .right left op right printed prints breaks
    · rintro ⟨⟩
      · exact .inl ‹_›
      · exact .inr ⟨_, ‹_›, ‹_›⟩

/-! ### Row ids -/

/-- What is read of the part for a field of bytes is the part itself. -/
private theorem alien_reveal : Alien column (reveal table column part) ↔ Alien column part := by
  have own (blob : column.kind = .blob) : reveal table column part = part := by
    unfold reveal
    cases table.hasher with
    | none => rfl
    | some hasher => simp [blob]
  constructor
  · intro alien
    rwa [own alien.1] at alien
  · intro alien
    rwa [own alien.1]

/-- The condition on a row id breaks at the first part that stands for no value, where this part is a
text that bytes can't be read from. -/
theorem id_breaks : Breaks (table.idCondition id) ↔ IdBreaks table id := by
  unfold Table.idCondition IdBreaks
  dsimp only
  by_cases arity : (table.settings.splitId id).length = table.keys.length
  · rw [if_neg (not_not_intro arity), printed_breaks, breaks_mapM, and_iff_right arity]
    constructor
    · rintro ⟨before, ⟨column, part⟩, after, same, fine, own⟩
      refine ⟨before, column, part, after, same, fun key member => ?_, ?_⟩
      · obtain ⟨condition, printed⟩ := fine key member
        obtain ⟨literal, stands, -⟩ := key_condition_eq_ok.mp printed
        exact ⟨literal, stands⟩
      · exact alien_reveal.mp (value_breaks.mp own)
    · rintro ⟨before, column, part, after, same, fine, alien⟩
      refine ⟨before, (column, part), after, same, fun key member => ?_, ?_⟩
      · obtain ⟨literal, stands⟩ := fine key member
        exact ⟨_, key_condition_eq_ok.mpr ⟨literal, stands, rfl⟩⟩
      · exact value_breaks.mpr (alien_reveal.mpr alien)
  · rw [if_pos arity]
    exact iff_of_false (by simp [faultCode, Fault.isRequestFault]) fun breaks => arity breaks.1

/-- A deletion breaks with its row id. -/
theorem delete_breaks : Breaks (table.deleteSql id) ↔ IdBreaks table id := by
  rw [Table.deleteSql, printed_breaks, id_breaks]

/-! ### Queries -/

private theorem fragment_breaks {α : Type} {part : Option α} {print : α → Except Fault Text} :
    Breaks (Table.fragment part print) ↔ ∃ value, part = some value ∧ Breaks (print value) := by
  cases part <;> simp [Table.fragment]

private theorem fragment_total {α : Type} {part : Option α} {print : α → Except Fault Text} :
    (∃ text, Table.fragment part print = .ok text) ↔
      ∀ value, part = some value → ∃ text, print value = .ok text := by
  cases part <;> simp [Table.fragment]

private theorem check_total {clause : Clause} {names : List Text} :
    (∃ passed, (names.forM fun name => (table.field clause name).map fun _ => ()) = .ok passed) ↔
      ∀ name ∈ names, table.find? name ≠ none := by
  have single : (∃ passed, (names.forM fun name => (table.field clause name).map fun _ => ()) = .ok passed) ↔
      (names.forM fun name => (table.field clause name).map fun _ => ()) = .ok ⟨⟩ :=
    ⟨fun ⟨_, passed⟩ => passed, fun passed => ⟨_, passed⟩⟩
  rw [single, forM_eq_ok]
  refine forall₂_congr fun name _ => ?_
  rw [map_eq_ok, Option.ne_none_iff_exists']
  simp [field_iff]

private theorem check_unbroken {clause : Clause} {names : List Text} :
    ¬ Breaks (names.forM fun name => (table.field clause name).map fun _ => ()) := by
  have each : Ensures (fun _ => True) (¬ faultCode · = 500)
      (names.forM fun name => (table.field clause name).map fun _ => ()) := by
    refine Ensures.forM fun name _ => ?_
    unfold Table.field
    cases table.find? name with
    | some column => trivial
    | none => simp [Except.map, Ensures, faultCode, Fault.isRequestFault]
  exact each.not_failsWith fun _ => id

private theorem select_part :
    ((∃ passed, (query.select.map (·.validate table)).getD (.ok ()) = .ok passed) ↔
      ∀ select, query.select = some select → ∀ name ∈ select.columns, table.find? name ≠ none) ∧
    ¬ Breaks ((query.select.map (·.validate table)).getD (.ok ())) := by
  cases query.select with
  | none => simp
  | some select =>
    simp only [Option.map_some, Option.getD_some, Option.some.injEq, forall_eq']
    exact ⟨check_total, check_unbroken⟩

private theorem projection_part :
    ((∃ columns, table.projection query = .ok columns) ↔
      ∀ aggregate, Table.activeAggregate? query = some aggregate →
        ∀ name ∈ aggregate.fields, table.find? name ≠ none) ∧
    ¬ Breaks (table.projection query) := by
  unfold Table.projection
  cases Table.activeAggregate? query with
  | none => simp
  | some aggregate =>
    simp only [Option.some.injEq, forall_eq', Aggregate.projection, printed_breaks, Aggregate.validate]
    refine ⟨?_, check_unbroken⟩
    have checked : (∃ passed, aggregate.validate table = .ok passed) ↔
        ∀ name ∈ aggregate.fields, table.find? name ≠ none := check_total
    rw [← checked]
    simp [bind_eq_ok, Aggregate.validate]

private theorem group_part (fields : ∀ aggregate, Table.activeAggregate? query = some aggregate →
      ∀ name ∈ aggregate.fields, table.find? name ≠ none) :
    ∃ grouping, Table.fragment (Table.activeAggregate? query)
      (Aggregate.groupBy table · query.select) = .ok grouping := by
  refine fragment_total.mpr fun aggregate active => ?_
  obtain ⟨passed, checked⟩ := check_total.mpr (fields aggregate active)
  exact ⟨_, bind_eq_ok.mpr ⟨passed, checked, rfl⟩⟩

private theorem order_part :
    ((∃ order, Table.fragment (query.order.filter (!·.isEmpty)) (Order.sql table) = .ok order) ↔
      ∀ order, query.order = some order → ∀ key ∈ order.keys, table.find? key.field ≠ none) ∧
    ¬ Breaks (Table.fragment (query.order.filter (!·.isEmpty)) (Order.sql table)) := by
  have key (key : OrderKey) : Ensures (fun _ => True) (¬ faultCode · = 500) (do
      let column ← table.field .order key.field
      .ok (column.quoted table.engine ++ (if key.descending then " DESC" else " ASC" : Text))) := by
    unfold Table.field
    cases table.find? key.field with
    | some column => trivial
    | none => simp [bind, Except.bind, Ensures, faultCode, Fault.isRequestFault]
  constructor
  · rw [fragment_total]
    constructor
    · intro prints order asked other member
      have some : order.isEmpty = false := by
        rw [Order.isEmpty, List.isEmpty_eq_false_iff]
        exact List.ne_nil_of_mem member
      obtain ⟨text, printed⟩ := prints order (by simp [asked, some])
      obtain ⟨keys, each, -⟩ := bind_eq_ok.mp printed
      obtain ⟨written, -, own⟩ := (partners (mapM_eq_ok_iff.mp each)).1 other member
      obtain ⟨column, found, -⟩ := bind_eq_ok.mp own
      simp [field_iff.mp found]
    · intro named order asked
      obtain ⟨asked, -⟩ := Option.filter_eq_some_iff.mp asked
      have each : ∃ keys, (order.keys.mapM fun key => do
          let column ← table.field .order key.field
          .ok (column.quoted table.engine ++ (if key.descending then " DESC" else " ASC" : Text))) =
            .ok keys := by
        refine mapM_total fun other member => ?_
        obtain ⟨column, found⟩ := Option.ne_none_iff_exists'.mp (named order asked other member)
        exact ⟨_, bind_eq_ok.mpr ⟨column, field_iff.mpr found, rfl⟩⟩
      obtain ⟨keys, each⟩ := each
      exact ⟨_, bind_eq_ok.mpr ⟨keys, each, rfl⟩⟩
  · rw [fragment_breaks]
    rintro ⟨order, -, breaks⟩
    rw [Order.sql, printed_breaks] at breaks
    exact (Ensures.mapM fun other _ => key other).not_failsWith (fun _ => id) breaks

private theorem limit_total {limit : Limit} :
    (∃ printed, limit.sql = .ok printed) ↔ ¬ LimitBreaks limit := by
  have number (n : Nat) : Ensures (fun _ => True) (faultCode · = 500) (Integer.textOfNat n) := by
    unfold Integer.textOfNat
    dsimp only
    split
    · rfl
    · trivial
  have holds : Ensures (fun _ => True) (faultCode · = 500) limit.sql := by
    obtain ⟨size, page⟩ := limit
    cases size with
    | none => trivial
    | some n =>
      refine (number n).bind fun printed _ => ?_
      match page with
      | none => trivial
      | some 0 => trivial
      | some (page + 1) => exact (number _).bind fun _ _ => trivial
  rw [← limit_breaks]
  cases printed : limit.sql with
  | ok text => simp
  | error fault => simp [holds.fault printed]

private theorem asked_limit {limit : Limit} : query.limit.filter (!·.isEmpty) = some limit ↔
    query.limit = some limit ∧ limit.isEmpty = false := by
  rw [Option.filter_eq_some_iff, Bool.not_eq_true']

private theorem limit_part :
    (Breaks (Table.fragment (query.limit.filter (!·.isEmpty)) Limit.sql) ↔
      ∃ limit, query.limit = some limit ∧ limit.isEmpty = false ∧ LimitBreaks limit) ∧
    ((∃ limit, Table.fragment (query.limit.filter (!·.isEmpty)) Limit.sql = .ok limit) ↔
      ∀ limit, query.limit = some limit → limit.isEmpty = false → ¬ LimitBreaks limit) := by
  simp only [fragment_breaks, fragment_total, asked_limit, limit_breaks, limit_total, and_assoc, and_imp,
    true_and]

private theorem filter_part :
    (Breaks (Table.fragment (Filter.ofOption? query.filter) (Filter.sql table)) ↔
      ∃ filter, query.filter = some filter ∧ FilterBreaks table filter) ∧
    ((∃ filter, Table.fragment (Filter.ofOption? query.filter) (Filter.sql table) = .ok filter) ↔
      ∀ filter, query.filter = some filter → ∃ printed, filter.sql table = .ok printed) := by
  rw [fragment_breaks, fragment_total]
  cases query.filter with
  | none => simp [Filter.ofOption?]
  | some filter =>
    cases filter with
    | empty =>
      have prints : ∃ printed, Filter.empty.sql table = .ok printed := ⟨[], rfl⟩
      have whole : ¬ FilterBreaks table .empty := nofun
      simp [Filter.ofOption?, Filter.isEmpty, prints, whole]
    | _ => simp [Filter.ofOption?, Filter.isEmpty, filter_breaks]

private theorem engine_unbroken (engine : Engine) (f : SelectFragments) : ¬ Breaks (engine.select f) := by
  cases engine with
  | mssql =>
    simp only [Engine.select, SelectFragments.withTop]
    split
    · simp
    · split <;> simp [faultCode, Fault.isRequestFault]
    · simp
  | _ => simp [Engine.select]

/-- Whatever is made of the condition on a row id that is not empty breaks with it. -/
private theorem located_breaks {α : Type} {print : Text → α} :
    Breaks (if id.isEmpty then do
        let located ← (.ok [] : Except Fault Text)
        .ok (print located)
      else do
        let located ← table.idCondition id
        .ok (print located)) ↔ id ≠ [] ∧ IdBreaks table id := by
  cases id with
  | nil => simp [printed_breaks]
  | cons c id => simp [printed_breaks, id_breaks]

/-- A query breaks with the first of its parts that does, if all its names are fields. -/
theorem select_breaks : Breaks (table.selectSql id query) ↔ QueryBreaks table id query := by
  have sequence : Breaks (table.selectSql id query) ↔ Breaks (table.selectFragments id query) := by
    simp only [Table.selectSql, breaks_bind, engine_unbroken, and_false, exists_false, or_false]
  rw [sequence, Table.selectFragments]
  simp only [located_breaks, breaks_bind, select_part.2, projection_part.2, order_part.2, false_or]
  constructor
  · rintro ⟨_, selected, columns, projected, ordering, ordered, rest⟩
    have named : Named table query :=
      ⟨select_part.1.mp ⟨_, selected⟩, projection_part.1.mp ⟨_, projected⟩, order_part.1.mp ⟨_, ordered⟩⟩
    rcases rest with breaks | ⟨limit, limited, breaks | ⟨filter, filtered, rest⟩⟩
    · obtain ⟨limit, asked, some, breaks⟩ := limit_part.1.mp breaks
      exact .limit named limit asked some breaks
    · obtain ⟨filter, asked, breaks⟩ := filter_part.1.mp breaks
      exact .filter named (limit_part.2.mp ⟨_, limited⟩) filter asked breaks
    · obtain ⟨grouping, grouped⟩ := group_part named.aggregate
      rcases rest with breaks | ⟨_, -, some, breaks⟩
      · rw [grouped] at breaks
        simp at breaks
      · exact .id named (limit_part.2.mp ⟨_, limited⟩) (filter_part.2.mp ⟨_, filtered⟩) some breaks
  · intro breaks
    have behind (named : Named table query) {rest : Prop} (holds : rest) :
        ∃ passed, (query.select.map (·.validate table)).getD (.ok ()) = .ok passed ∧
          ∃ columns, table.projection query = .ok columns ∧
            ∃ order, Table.fragment (query.order.filter (!·.isEmpty)) (Order.sql table) = .ok order ∧
              rest := by
      obtain ⟨passed, selected⟩ := select_part.1.mpr named.select
      obtain ⟨columns, projected⟩ := projection_part.1.mpr named.aggregate
      obtain ⟨order, ordered⟩ := order_part.1.mpr named.order
      exact ⟨passed, selected, columns, projected, order, ordered, holds⟩
    cases breaks with
    | limit named limit asked some breaks =>
      exact behind named (.inl (limit_part.1.mpr ⟨limit, asked, some, breaks⟩))
    | filter named limited filter asked breaks =>
      obtain ⟨limit, limited⟩ := limit_part.2.mpr limited
      exact behind named (.inr ⟨limit, limited, .inl (filter_part.1.mpr ⟨filter, asked, breaks⟩)⟩)
    | id named limited filtered some breaks =>
      obtain ⟨limit, limited⟩ := limit_part.2.mpr limited
      obtain ⟨filter, filtered⟩ := filter_part.2.mpr filtered
      obtain ⟨grouping, grouped⟩ := group_part named.aggregate
      exact behind named
        (.inr ⟨limit, limited, .inr ⟨filter, filtered, .inr ⟨grouping, grouped, some, breaks⟩⟩⟩)

/-! ### Rows -/

private theorem cells_spelled {columns : List Column} (spelled : RowSpelled row) :
    ∀ field ∈ cellsOf columns row, Spelled field.2 := by
  induction columns generalizing row with
  | nil => exact nofun
  | cons column columns ih =>
    cases row with
    | nil => exact List.forall_mem_cons.mpr ⟨trivial, ih nofun⟩
    | cons cell row =>
      obtain ⟨head, tail⟩ := List.forall_mem_cons.mp spelled
      exact List.forall_mem_cons.mpr ⟨head, ih tail⟩

/-- The constraints of a row whose cells have texts can be checked. -/
theorem problems_total (requireKey : Bool) (spelled : RowSpelled row) :
    ∃ problems, table.rowProblems requireKey row = .ok problems := by
  have measured {cell : Cell} (spelled : Spelled cell) : ∃ length, cell.textLength = .ok length := by
    obtain ⟨text, shown⟩ := spelled_text spelled
    unfold Cell.textLength
    split
    · exact ⟨_, rfl⟩
    · exact ⟨_, rfl⟩
    · exact ⟨_, map_eq_ok.mpr ⟨text, shown, rfl⟩⟩
  have checked (field : Column × Cell) (spelled : Spelled field.2) :
      ∃ problem, table.cellProblem requireKey field.1 field.2 = .ok problem := by
    obtain ⟨length, long⟩ := measured spelled
    unfold Table.cellProblem
    dsimp only
    repeat' split
    all_goals first
      | exact ⟨_, rfl⟩
      | exact ⟨_, bind_eq_ok.mpr ⟨length, long, rfl⟩⟩
  have each : ∃ problems, ((cellsOf table.columns row).mapM fun field =>
      (table.cellProblem requireKey field.1 field.2).map fun (problem : Option CellProblem) =>
        problem.map (field.1.name, ·)) = .ok problems := by
    refine mapM_total fun field member => ?_
    obtain ⟨problem, found⟩ := checked field (cells_spelled spelled field member)
    exact ⟨_, map_eq_ok.mpr ⟨problem, found, rfl⟩⟩
  obtain ⟨problems, each⟩ := each
  exact ⟨_, bind_eq_ok.mpr ⟨problems, each, rfl⟩⟩

/-- The key of a row whose cells have texts is refused only as a value. -/
theorem keyValues_ensures (hash : Bool) (spelled : RowSpelled row) :
    Ensures (fun _ => True) IsValue (table.keyValues hash row) := by
  refine Ensures.each fun field member => ?_
  have own := cells_spelled spelled field (List.mem_of_mem_filter member)
  have text : Ensures (fun _ => True) IsValue (table.keyText field.1 field.2) := by
    refine (serialize_ensures own).bind fun wire _ => ?_
    split <;> trivial
  exact text.bind fun _ _ => trivial

/-- An insertion of a row whose cells have texts is refused only as a value. -/
theorem insert_ensures (spelled : RowSpelled row) :
    Ensures (fun _ => True) IsValue (table.insertSql row) := by
  refine (Ensures.each fun field member => ?_).bind fun _ _ => trivial
  exact literal_ensures (cells_spelled spelled field (List.mem_of_mem_filter member))

/-- One assignment of an update. -/
private def assignment (table : Table) (field : Column × Cell) : Except Fault Text := do
  let literal ← field.1.literal table.engine field.2
  .ok (field.1.quoted table.engine ++ '=' :: literal)

private theorem update_parts : table.updateSql id row =
    (assigned table row).mapM (assignment table) >>= fun assignments =>
      if assignments.isEmpty then .error (.value (.nothingToUpdate id))
      else table.idCondition id >>= fun condition =>
        .ok ("UPDATE " ++ table.engine.quoteTable table.options.tableName ++
          " SET " ++ Text.join "," assignments ++ " WHERE " ++ condition ++ ";") := rfl

private theorem assigns_iff : Assigns table row ↔
    ∃ assignments, (assigned table row).mapM (assignment table) = .ok assignments ∧ assignments ≠ [] := by
  have total (field : Column × Cell) : (∃ literal, field.1.literal table.engine field.2 = .ok literal) ↔
      ∃ text, assignment table field = .ok text := by
    simp [assignment, bind_eq_ok]
  unfold Assigns
  simp only [total]
  constructor
  · rintro ⟨some, each⟩
    obtain ⟨assignments, printed⟩ := mapM_total each
    refine ⟨assignments, printed, fun none => some ?_⟩
    have paired := (mapM_eq_ok_iff.mp printed).length_eq
    rw [none] at paired
    exact List.length_eq_zero_iff.mp paired
  · rintro ⟨assignments, printed, some⟩
    have paired := mapM_eq_ok_iff.mp printed
    refine ⟨fun none => some ?_, fun field member => ?_⟩
    · rw [none] at paired
      exact List.length_eq_zero_iff.mp paired.length_eq.symm
    · obtain ⟨text, -, own⟩ := (partners paired).1 field member
      exact ⟨text, own⟩

/-- An update of a row whose cells have texts breaks with the row id, if there is something to write. -/
theorem update_breaks (spelled : RowSpelled row) :
    Breaks (table.updateSql id row) ↔ Assigns table row ∧ IdBreaks table id := by
  have unbroken : ¬ Breaks ((assigned table row).mapM (assignment table)) := by
    refine values_unbroken (Ensures.each fun field member => ?_)
    have own := cells_spelled spelled field (List.mem_of_mem_filter member)
    exact (literal_ensures own).bind fun _ _ => trivial
  rw [update_parts, breaks_bind, or_iff_right unbroken, assigns_iff, exists_and_right.symm]
  refine exists_congr fun assignments => ?_
  rw [and_assoc]
  refine and_congr_right fun _ => ?_
  cases assignments with
  | nil => simp [faultCode, Fault.isRequestFault]
  | cons first assignments => simp [printed_breaks, id_breaks]

end TableGate.PrintingFaults
