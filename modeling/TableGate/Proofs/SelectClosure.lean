import TableGate.Proofs.KeyCondition
import TableGate.Proofs.StatementReading

/-! Questions do not reach beyond the table. Every name that a query uses is the name of a field,
and every text of the query is either looked up as such a name or printed as a literal; so the
statement for SQLite has no other name in quotes and ends where its only semicolon stands. -/
namespace TableGate.SelectClosure
open Fallible KeyCondition LiteralContainment NumberText StatementReading

/-- A name is that of a field. -/
def IsField (table : Table) (name : Text) : Prop := ∃ column ∈ table.columns, column.name = name

/-- The names in the comparisons of a filter. -/
def namesOf : Filter → List Text
  | .empty => []
  | .compare field _ _ => [field]
  | .not inner => namesOf inner
  | .join left _ right => namesOf left ++ namesOf right

/-- Every name that a query uses is that of a field. -/
structure NamesFields (table : Table) (query : Query) : Prop where
  filter : ∀ filter, query.filter = some filter → ∀ name ∈ namesOf filter, IsField table name
  order : ∀ order, query.order = some order → ∀ key ∈ order.keys, IsField table key.field
  aggregate : ∀ aggregate, query.aggregate = some aggregate →
    ∀ name ∈ aggregate.fields, IsField table name
  select : ∀ select, query.select = some select → ∀ name ∈ select.columns, IsField table name

/-- The names of the table and of its fields are made of word characters. -/
structure WordNames (table : Table) : Prop where
  whole : ∀ c ∈ table.options.tableName, Text.isWord c = true
  columns : ∀ column ∈ table.columns, ∀ c ∈ column.name, Text.isWord c = true

instance : DecidablePred WordNames := fun table =>
  decidable_of_iff (table.options.tableName.all Text.isWord = true ∧
      table.columns.all (fun column => column.name.all Text.isWord) = true) (by
    simp only [List.all_eq_true]
    exact ⟨fun words => ⟨words.1, words.2⟩, fun words => ⟨words.whole, words.columns⟩⟩)

/-- The names that a statement may have in quotes. -/
def Allowed (table : Table) (name : Text) : Prop := name = table.options.tableName ∨ IsField table name

/-- A text is one statement on a table to its reader: all quotes are closed, no names in quotes
are others than those of the table and its fields, and the only semicolon outside quotes is the
last character. -/
structure OneStatement (table : Table) (text : Text) : Prop where
  closed : (scan text).position = .outside
  names : ∀ name ∈ (scan text).identifiers, Allowed table name
  single : (scan text).outside.count ';' = 1
  last : ∃ front, text = front ++ [';'] ∧ (scan front).position = .outside ∧
    ';' ∉ (scan front).outside

variable {table : Table} {query : Query} {column : Column} {id name text : Text}

/-! ### Fields -/

theorem field_eq_ok {clause : Clause} (found : table.field clause name = .ok column) :
    column ∈ table.columns ∧ column.name = name := by
  unfold Table.field at found
  split at found
  · rename_i same
    cases found
    have member := List.mem_filter.mp (List.mem_of_getLast? same)
    exact ⟨member.1, by simpa using member.2⟩
  · cases found

private theorem is_field {clause : Clause} (found : table.field clause name = .ok column) :
    IsField table name := ⟨column, field_eq_ok found⟩

/-- Names that are looked up one after the other are names of fields. -/
private theorem names_checked {clause : Clause} {names : List Text}
    (checked : names.forM (fun name => (table.field clause name).map fun _ => ()) = .ok ()) :
    ∀ name ∈ names, IsField table name := by
  intro name member
  obtain ⟨column, found, -⟩ := map_eq_ok.mp (forM_eq_ok.mp checked name member)
  exact is_field found

private theorem word_free {mark : Char} (outside : Text.isWord mark = false)
    (word : ∀ c ∈ text, Text.isWord c = true) : mark ∉ text := by
  intro member
  rw [word _ member] at outside
  cases outside

theorem quoted_fragment (sqlite : table.engine = .sqlite) (words : WordNames table)
    (member : column ∈ table.columns) : Fragment (Allowed table) (column.quoted table.engine) := by
  rw [sqlite]
  exact name_fragment rfl (word_free (by decide) (words.columns column member))
    (.inr ⟨column, member, rfl⟩)

theorem table_fragment (sqlite : table.engine = .sqlite) (words : WordNames table) :
    Fragment (Allowed table) (table.engine.quoteTable table.options.tableName) := by
  rw [sqlite]
  exact name_fragment rfl (word_free (by decide) words.whole) (.inl rfl)

/-- A list with an item for each of some fields. -/
private theorem list_fragment {write : Column → Text} {columns : List Column}
    (among : ∀ column ∈ columns, column ∈ table.columns)
    (each : ∀ column ∈ table.columns, Fragment (Allowed table) (write column)) :
    Fragment (Allowed table) (Text.join "," (columns.map write)) := by
  refine fragment_join (by simp) (by decide) fun piece member => ?_
  obtain ⟨column, listed, rfl⟩ := List.mem_map.mp member
  exact each column (among column listed)

/-! ### Conditions -/

/-- What is printed of a comparison. -/
theorem compare_printed {field value : Text} {op : Comparator}
    (printed : (Filter.compare field op value).sql table = .ok text) :
    ∃ column literal, table.field .filter field = .ok column ∧ Form table.engine literal ∧
      text = '(' :: (column.quoted table.engine ++ (op.sql ++ literal)) ++ [')'] := by
  obtain ⟨column, found, printed⟩ := bind_eq_ok.mp printed
  obtain ⟨cell, decoded, printed⟩ := bind_eq_ok.mp printed
  split at printed
  · cases printed
  · rename_i present
    obtain ⟨literal, written, same⟩ := bind_eq_ok.mp printed
    refine ⟨column, literal, found, cell_form decoded (by simpa using present) written, ?_⟩
    rw [← Except.ok.inj same, List.cons_append, List.cons_append, List.append_assoc _ op.sql literal]
    rfl

/-- What is printed of a negation. -/
theorem not_printed {inner : Filter} (printed : (Filter.not inner).sql table = .ok text) :
    ∃ inside, inner.sql table = .ok inside ∧ text = '(' :: ("NOT ".toList ++ inside) ++ [')'] := by
  obtain ⟨inside, printedInner, same⟩ := bind_eq_ok.mp printed
  exact ⟨inside, printedInner, (Except.ok.inj same).symm⟩

/-- What is printed of two sides. -/
theorem join_printed {left right : Filter} {op : Connective}
    (printed : (Filter.join left op right).sql table = .ok text) :
    ∃ leftText rightText, left.sql table = .ok leftText ∧ right.sql table = .ok rightText ∧
      text = '(' :: (leftText ++ (op.sql ++ rightText)) ++ [')'] := by
  obtain ⟨leftText, printedLeft, printed⟩ := bind_eq_ok.mp printed
  obtain ⟨rightText, printedRight, same⟩ := bind_eq_ok.mp printed
  refine ⟨leftText, rightText, printedLeft, printedRight, ?_⟩
  rw [← Except.ok.inj same, List.cons_append, List.cons_append, List.append_assoc _ op.sql rightText]
  rfl

/-- A filter prints as a fragment, and its comparisons name fields. -/
theorem filter_closed (sqlite : table.engine = .sqlite) (words : WordNames table) {filter : Filter}
    (printed : filter.sql table = .ok text) :
    (∀ name ∈ namesOf filter, IsField table name) ∧ Fragment (Allowed table) text := by
  induction filter generalizing text with
  | empty =>
    cases printed
    exact ⟨by simp [namesOf], plain_fragment (by decide)⟩
  | compare field op value =>
    obtain ⟨column, literal, found, form, rfl⟩ := compare_printed printed
    rw [sqlite] at form
    have operator : op.sql ≠ [] ∧ PlainText op.sql := by
      cases op <;> decide
    have compared := fragment_append (quoted_fragment sqlite words (field_eq_ok found).1) operator.1
      operator.2 (literal_fragment form)
    exact ⟨by simpa [namesOf] using is_field found, fragment_enclosed compared⟩
  | not inner ih =>
    obtain ⟨inside, printedInner, rfl⟩ := not_printed printed
    obtain ⟨known, fragment⟩ := ih printedInner
    exact ⟨known, fragment_enclosed (fragment_lead (by decide) fragment)⟩
  | join left op right ihLeft ihRight =>
    obtain ⟨leftText, rightText, printedLeft, printedRight, rfl⟩ := join_printed printed
    obtain ⟨leftKnown, leftFragment⟩ := ihLeft printedLeft
    obtain ⟨rightKnown, rightFragment⟩ := ihRight printedRight
    have operator : op.sql ≠ [] ∧ PlainText op.sql := by
      cases op <;> decide
    have joined := fragment_append leftFragment operator.1 operator.2 rightFragment
    exact ⟨List.forall_mem_append.mpr ⟨leftKnown, rightKnown⟩, fragment_enclosed joined⟩

/-- The condition on a key is a fragment. -/
theorem key_fragment (sqlite : table.engine = .sqlite) (words : WordNames table)
    (printed : table.idCondition id = .ok text) : Fragment (Allowed table) text := by
  obtain ⟨-, literals, stands, rfl⟩ := id_condition_eq_ok.mp printed
  refine fragment_enclosed (fragment_join (by simp) (by decide) ?_)
  intro compared member
  obtain ⟨column, keyed, literal, listed, rfl⟩ := comparison_mem member
  have form : Form .sqlite literal := by
    rw [← sqlite]
    exact all_stand stands literal listed
  exact fragment_append (quoted_fragment sqlite words (List.mem_filter.mp keyed).1)
    (List.cons_ne_nil '=' []) (by decide) (literal_fragment form)

/-! ### Projections -/

/-- A constant in the place of a field. -/
private theorem constant_fragment (sqlite : table.engine = .sqlite) :
    Fragment (Allowed table) (table.engine.stringLiteral []) := by
  rw [sqlite]
  exact literal_fragment (string_form .sqlite [])

/-- Something that is given the name of a field. -/
private theorem alias_fragment (sqlite : table.engine = .sqlite) (words : WordNames table)
    (member : column ∈ table.columns) {separator : Text} (some : separator ≠ [])
    (plain : PlainText separator) (value : Fragment (Allowed table) text) :
    Fragment (Allowed table) (text ++ separator ++ column.quoted table.engine) := by
  rw [List.append_assoc]
  exact fragment_append value some plain (quoted_fragment sqlite words member)

theorem item_fragment (sqlite : table.engine = .sqlite) (words : WordNames table)
    (aggregate : Aggregate) (select : Option Select) (member : column ∈ table.columns) :
    Fragment (Allowed table) (aggregate.item table select column) := by
  have quoted := quoted_fragment sqlite words member
  have word : ∀ f : AggregateFunction, PlainText (f.word ++ ['(']) := by
    intro f
    cases f <;> decide
  unfold Aggregate.item
  dsimp only
  split
  · exact alias_fragment sqlite words member (by simp) (by decide)
      (fragment_lead (by decide) (constant_fragment sqlite))
  · split
    · rename_i f _
      have applied := fragment_lead (word f) quoted
      rw [List.append_assoc] at applied
      exact alias_fragment sqlite words member (by simp) (by decide) applied
    · exact quoted

/-- The functions in the columns of a statement are applied to fields. -/
theorem projection_named (printed : table.projection query = .ok text) :
    ∀ aggregate, query.aggregate = some aggregate → ∀ name ∈ aggregate.fields, IsField table name := by
  intro aggregate given
  unfold Table.projection at printed
  split at printed
  · rename_i active found
    obtain ⟨_, valid, -⟩ := bind_eq_ok.mp printed
    obtain ⟨same, -⟩ := Option.filter_eq_some_iff.mp found
    cases given.symm.trans same
    exact names_checked valid
  · rename_i none
    intro name member
    -- An aggregate that is not active has no functions.
    rw [Table.activeAggregate?, given] at none
    simp only [Option.filter_some_eq_none, Bool.not_eq_true] at none
    simp_all [Aggregate.isEmpty, Aggregate.fields]

/-- The columns of a statement are a fragment, and the functions in them are applied to fields. -/
theorem projection_closed (sqlite : table.engine = .sqlite) (words : WordNames table)
    (printed : table.projection query = .ok text) :
    (∀ aggregate, query.aggregate = some aggregate → ∀ name ∈ aggregate.fields, IsField table name) ∧
      Fragment (Allowed table) text := by
  refine ⟨projection_named printed, ?_⟩
  have self : ∀ column ∈ table.columns, column ∈ table.columns := fun _ => id
  unfold Table.projection at printed
  split at printed
  · rename_i active found
    obtain ⟨-, -, same⟩ := bind_eq_ok.mp printed
    cases same
    exact list_fragment self fun column member => item_fragment sqlite words active query.select member
  · cases printed
    refine list_fragment self fun column member => ?_
    dsimp only
    split
    · exact quoted_fragment sqlite words member
    · exact alias_fragment sqlite words member (by simp) (by decide) (constant_fragment sqlite)

/-! ### The other clauses -/

/-- An optional part that is passed over where it is empty: what it names are fields, and it is
a fragment, if this holds of what is printed. -/
private theorem optional_closed {α : Type} {part : Option α} {empty : α → Bool}
    {print : α → Except Fault Text} (names : α → List Text)
    (printed : Table.fragment (part.filter (!empty ·)) print = .ok text)
    (bare : ∀ given, empty given = true → names given = [])
    (closed : ∀ given, print given = .ok text →
      (∀ name ∈ names given, IsField table name) ∧ Fragment (Allowed table) text) :
    (∀ given, part = some given → ∀ name ∈ names given, IsField table name) ∧
      Fragment (Allowed table) text := by
  have missing : Fragment (Allowed table) [] := plain_fragment (by decide)
  cases part with
  | none =>
    cases printed
    exact ⟨by simp, missing⟩
  | some given =>
    cases blank : empty given with
    | true =>
      simp only [Option.filter_some, blank, Bool.not_true, Bool.false_eq_true, ↓reduceIte] at printed
      cases printed
      exact ⟨by simp [bare given blank], missing⟩
    | false =>
      simp only [Option.filter_some, blank, Bool.not_false, ↓reduceIte] at printed
      obtain ⟨known, fragment⟩ := closed given printed
      exact ⟨by simpa using known, fragment⟩

theorem order_closed (sqlite : table.engine = .sqlite) (words : WordNames table) {order : Order}
    (printed : order.sql table = .ok text) :
    (∀ name ∈ order.keys.map (·.field), IsField table name) ∧ Fragment (Allowed table) text := by
  obtain ⟨keys, each, same⟩ := bind_eq_ok.mp printed
  cases same
  have key_closed {key : OrderKey} {item : Text}
      (written : (table.field .order key.field >>= fun column => .ok (column.quoted table.engine ++
        (if key.descending then " DESC".toList else " ASC".toList))) = .ok item) :
      IsField table key.field ∧ Fragment (Allowed table) item := by
    obtain ⟨column, found, same⟩ := bind_eq_ok.mp written
    cases same
    refine ⟨is_field found, fragment_trail (quoted_fragment sqlite words (field_eq_ok found).1) ?_⟩
    cases key.descending <;> decide
  obtain ⟨checked, origin⟩ := partners (mapM_eq_ok_iff.mp each)
  constructor
  · refine List.forall_mem_map.mpr fun key member => ?_
    obtain ⟨item, -, written⟩ := checked key member
    exact (key_closed written).1
  · refine fragment_join (by simp) (by decide) fun item member => ?_
    obtain ⟨key, -, written⟩ := origin item member
    exact (key_closed written).2

private theorem digits_plain {n : Nat} (printed : Integer.textOfNat n = .ok text) :
    PlainText text := by
  intro c member
  simp only [Integer.textOfNat] at printed
  split at printed
  · cases printed
  · cases printed
    exact bare_plain (by simp [isBare, Char.isAlphanum, ofNat_digits member])

theorem limit_fragment {limit : Limit} (printed : limit.sql = .ok text) :
    Fragment (Allowed table) text := by
  obtain ⟨size, page⟩ := limit
  refine plain_fragment ?_
  cases size with
  | none =>
    cases printed
    decide
  | some n =>
    obtain ⟨size, counted, printed⟩ := bind_eq_ok.mp printed
    have plain := digits_plain counted
    cases page with
    | none =>
      cases printed
      exact plain
    | some page =>
      cases page with
      | zero =>
        cases printed
        exact plain
      | succ page =>
        obtain ⟨offset, skipped, same⟩ := bind_eq_ok.mp printed
        cases same
        have mark : PlainText " OFFSET " := by decide
        exact List.forall_mem_append.mpr
          ⟨List.forall_mem_append.mpr ⟨plain, mark⟩, digits_plain skipped⟩

/-- The list of fields to group by. -/
theorem grouping_fragment (sqlite : table.engine = .sqlite) (words : WordNames table)
    {aggregate : Aggregate} {select : Option Select}
    (printed : aggregate.groupBy table select = .ok text) : Fragment (Allowed table) text := by
  obtain ⟨-, -, same⟩ := bind_eq_ok.mp printed
  cases same
  exact list_fragment (fun column member => (List.mem_filter.mp member).1)
    fun column member => quoted_fragment sqlite words member

/-! ### Statements -/

/-- A condition is made of two fragments, of which either may be empty. -/
private theorem condition_fragment {located filter : Text} (key : Fragment (Allowed table) located)
    (rows : Fragment (Allowed table) filter) :
    Fragment (Allowed table) (Text.join " AND " ([located, filter].filter (!·.isEmpty))) := by
  refine fragment_join (by simp) (by decide) fun piece member => ?_
  have among := (List.mem_filter.mp member).1
  simp only [List.mem_cons, List.not_mem_nil, or_false] at among
  rcases among with rfl | rfl
  · exact key
  · exact rows

/-- The parts of a statement are fragments. -/
private structure ClosedParts (table : Table) (parts : SelectFragments) : Prop where
  source : Fragment (Allowed table) parts.table
  columns : Fragment (Allowed table) parts.columns
  condition : Fragment (Allowed table) parts.condition
  order : Fragment (Allowed table) parts.order
  limit : Fragment (Allowed table) parts.limit
  groupBy : Fragment (Allowed table) parts.groupBy

private theorem parts_closed (sqlite : table.engine = .sqlite) (words : WordNames table)
    {parts : SelectFragments} (printed : table.selectFragments id query = .ok parts) :
    NamesFields table query ∧ ClosedParts table parts := by
  unfold Table.selectFragments at printed
  obtain ⟨_, selected, printed⟩ := bind_eq_ok.mp printed
  obtain ⟨columns, projected, printed⟩ := bind_eq_ok.mp printed
  obtain ⟨order, ordered, printed⟩ := bind_eq_ok.mp printed
  obtain ⟨limit, limited, printed⟩ := bind_eq_ok.mp printed
  obtain ⟨filter, filtered, printed⟩ := bind_eq_ok.mp printed
  obtain ⟨groupBy, grouped, printed⟩ := bind_eq_ok.mp printed
  obtain ⟨applied, projection⟩ := projection_closed sqlite words projected
  obtain ⟨sorted, ordering⟩ := optional_closed (fun order => order.keys.map (·.field)) ordered
    (fun order empty => by simpa [Order.isEmpty] using empty)
    fun _ written => order_closed sqlite words written
  obtain ⟨-, limiting⟩ := optional_closed (fun _ => []) limited (by simp)
    fun _ written => ⟨by simp, limit_fragment written⟩
  obtain ⟨-, grouping⟩ := optional_closed (fun _ => []) grouped (by simp)
    fun _ written => ⟨by simp, grouping_fragment sqlite words written⟩
  obtain ⟨compared, rows⟩ := optional_closed namesOf filtered
    (fun filter empty => by cases filter <;> first | rfl | cases empty)
    fun _ written => filter_closed sqlite words written
  have located {key : Text} (fragment : Fragment (Allowed table) key)
      (same : parts = ⟨table.engine.quoteTable table.options.tableName, columns,
        Text.join " AND " ([key, filter].filter (!·.isEmpty)), order, limit, groupBy⟩) :
      ClosedParts table parts := by
    subst same
    exact ⟨table_fragment sqlite words, projection, condition_fragment fragment rows, ordering,
      limiting, grouping⟩
  refine ⟨⟨compared, fun order given key member => sorted order given _ (List.mem_map_of_mem member),
    applied, ?_⟩, ?_⟩
  · intro select given
    rw [given] at selected
    exact names_checked selected
  · split at printed
    · exact located (plain_fragment (by decide)) (Except.ok.inj printed).symm
    · obtain ⟨key, found, same⟩ := bind_eq_ok.mp printed
      exact located (key_fragment sqlite words found) (Except.ok.inj same).symm

/-- A clause behind something else. -/
private theorem clause_follows {keyword part : Text} (front : Fragment (Allowed table) text)
    (some : keyword ≠ []) (plain : PlainText keyword) (fragment : Fragment (Allowed table) part) :
    Fragment (Allowed table) (text ++ SelectFragments.clause keyword part) := by
  unfold SelectFragments.clause
  split
  · rwa [List.append_nil]
  · exact fragment_append front some plain fragment

/-- The statement is a fragment with a semicolon behind it. -/
private theorem statement_closed {parts : SelectFragments} (closed : ClosedParts table parts) :
    ∃ front, parts.withLimit = front ++ [';'] ∧ Fragment (Allowed table) front := by
  refine ⟨"SELECT " ++ parts.columns ++ " FROM " ++ parts.table ++ parts.middle ++
    SelectFragments.clause " LIMIT " parts.limit, rfl, ?_⟩
  refine clause_follows ?_ (by simp) (by decide) closed.limit
  unfold SelectFragments.middle
  rw [← List.append_assoc, ← List.append_assoc]
  refine clause_follows (clause_follows (clause_follows ?_ (by simp) (by decide) closed.condition)
    (by simp) (by decide) closed.groupBy) (by simp) (by decide) closed.order
  have projected : Fragment (Allowed table) ("SELECT ".toList ++ parts.columns) :=
    fragment_lead (by decide) closed.columns
  rw [List.append_assoc]
  exact fragment_append projected (by simp) (by decide) closed.source

/-- A fragment with a semicolon behind it is one statement. -/
private theorem fragment_one_statement {front : Text} (fragment : Fragment (Allowed table) front) :
    OneStatement table (front ++ [';']) := by
  obtain ⟨runs, outside, read, names, single⟩ := fragment [] []
  simp only [List.nil_append] at read
  have front_read : scan front = ⟨.outside, runs, outside⟩ := read
  have whole : scan (front ++ [';']) = ⟨.outside, runs, outside ++ [';']⟩ := by
    unfold scan at front_read ⊢
    rw [List.foldl_append, List.foldl_cons, ← read_settle (by decide), front_read]
    rfl
  refine ⟨by rw [whole], ?_, ?_, front, rfl, by rw [front_read], by rwa [front_read]⟩
  · rw [whole]
    intro name member
    obtain ⟨run, among, rfl⟩ := List.mem_map.mp member
    obtain ⟨listed, quoted⟩ := List.mem_filter.mp among
    exact (names run listed).resolve_left (by simpa using quoted)
  · rw [whole, List.count_append, List.count_eq_zero.mpr single]
    rfl

/-- Whatever row id and query are printed as a question to SQLite, all names of the query are
fields, and the statement is one statement about the table and its fields. -/
theorem question_stays_with_table (sqlite : table.engine = .sqlite) (words : WordNames table)
    (printed : table.selectSql id query = .ok text) : NamesFields table query ∧ OneStatement table text := by
  obtain ⟨parts, split, printed⟩ := bind_eq_ok.mp printed
  obtain ⟨known, closed⟩ := parts_closed sqlite words split
  obtain ⟨front, ended, fragment⟩ := statement_closed closed
  have same : parts.withLimit = text := by
    rw [sqlite] at printed
    exact Except.ok.inj printed
  refine ⟨known, ?_⟩
  rw [← same, ended]
  exact fragment_one_statement fragment

/-- A query whose filter has quotes and a semicolon in its value. -/
def quotedQuery : Query where
  filter := some (.join (.compare "line" .eq "x'; DROP TABLE \"users\"; --") .or
    (.not (.compare "amount" .gt "1")))
  order := some ⟨[⟨"amount", true⟩]⟩
  limit := some ⟨some 5, some 2⟩
  select := some ⟨["line"]⟩

theorem quoted_query_stays_with_order_lines :
    orderLines.engine = .sqlite ∧ WordNames orderLines ∧
      ∃ text, orderLines.selectSql "7_a%5Fb" quotedQuery = .ok text ∧
        NamesFields orderLines quotedQuery ∧ OneStatement orderLines text :=
  have words : WordNames orderLines := by decide +kernel
  have printed : orderLines.selectSql "7_a%5Fb" quotedQuery =
      .ok ("SELECT \"order_no\",\"line\",'' as \"amount\" FROM [order_lines]" ++
        " WHERE (\"order_no\"=7 AND \"line\"='a_b')" ++
        " AND ((\"line\" = 'x''; DROP TABLE \"users\"; --') OR (NOT (\"amount\" > 1)))" ++
        " ORDER BY \"amount\" DESC LIMIT 5 OFFSET 6;") := by
    decide +kernel
  ⟨rfl, words, _, printed, question_stays_with_table rfl words printed⟩

end TableGate.SelectClosure
