import TableGate.Proofs.Projections

/-! Requested functions are applied. Where a question is printed, every function that the text of its
aggregate asks for is asked of a field, and the projection has an item for each field in field order: for
a selected field that functions are requested for it is one of them, and a constant stands for a field
that is not selected. -/
namespace TableGate.RequestedFunctions
open Fallible KeyCondition Projections SelectClosure

/-- One of the tokens of a text calls a function for a field. -/
def Requests (text : Text) (f : AggregateFunction) (name : Text) : Prop :=
  ∃ token ∈ Text.splitOn ',' text, Aggregate.parseCall token = .ok (f, name)

/-- What may stand for a field that functions are requested for: under the name of its column, one of
these functions of the column where the field is selected, and a constant where it is not. -/
inductive Honours (table : Table) (text : Text) (select : Option Select) (column : Column) : Text → Prop
  | applied (selected : isSelected select column = true) (f : AggregateFunction)
      (requested : Requests text f column.name) :
      Honours table text select column
        (f.word ++ ('(' :: column.quoted table.engine ++ ")") ++ " as " ++ column.quoted table.engine)
  | constant (unselected : isSelected select column = false) :
      Honours table text select column
        ("min(" ++ table.engine.stringLiteral [] ++ ") as " ++ column.quoted table.engine)

/-- The items of a projection, one for each field in field order, honour what a text requests. -/
def Honoured (table : Table) (text : Text) (select : Option Select) (items : List Text) : Prop :=
  List.Forall₂ (fun column item => (∃ f, Requests text f column.name) → Honours table text select column item)
    table.columns items

variable {table : Table} {query : Query} {column : Column} {aggregate : Aggregate} {text : Text}

/-- No token of an accepted text is passed over. -/
theorem requests_iff (parsed : Aggregate.parse text = .ok aggregate) {f : AggregateFunction} {name : Text} :
    Requests text f name ↔ (f, name) ∈ aggregate.calls := by
  unfold Aggregate.parse at parsed
  split at parsed
  · rename_i blank
    cases parsed
    cases List.isEmpty_iff.mp blank
    -- The empty text has one token, which calls nothing.
    constructor
    · rintro ⟨token, member, called⟩
      cases List.mem_singleton.mp member
      cases called
    · intro called
      cases called
  · obtain ⟨calls, read, same⟩ := bind_eq_ok.mp parsed
    cases same
    obtain ⟨forwards, backwards⟩ := partners (mapM_eq_ok_iff.mp read)
    constructor
    · rintro ⟨token, member, called⟩
      obtain ⟨call, listed, own⟩ := forwards token member
      cases called.symm.trans own
      exact listed
    · exact backwards (f, name)

/-- The item of a field that functions are requested for. -/
theorem item_honours (parsed : Aggregate.parse text = .ok aggregate) (select : Option Select)
    (requested : ∃ f, Requests text f column.name) :
    Honours table text select column (aggregate.item table select column) := by
  unfold Aggregate.item
  cases selected : isSelected select column with
  | false => exact .constant selected
  | true =>
    cases called : aggregate.functionOf? column with
    | none =>
      obtain ⟨f, requested⟩ := requested
      have covered : aggregate.covers column = true :=
        List.contains_iff_mem.mpr (List.mem_map_of_mem ((requests_iff parsed).mp requested))
      rw [function_none_iff.mp called] at covered
      cases covered
    | some f =>
      have applied : Honours table text select column _ :=
        .applied selected f ((requests_iff parsed).mpr (function_called called))
      simpa using applied

/-- A projection has an item for each field, and those of requested functions stand for them. -/
theorem projection_honours (parsed : Aggregate.parse text = .ok aggregate)
    (given : query.aggregate = some aggregate) {projection : Text}
    (projected : table.projection query = .ok projection) :
    ∃ items, projection = Text.join "," items ∧ Honoured table text query.select items := by
  have each (write : Column → Text)
      (honours : ∀ column, (∃ f, Requests text f column.name) →
        Honours table text query.select column (write column)) :
      Honoured table text query.select (table.columns.map write) :=
    List.forall₂_map_right_iff.mpr (List.forall₂_same.mpr fun column _ => honours column)
  unfold Table.projection at projected
  split at projected
  · rename_i active found
    obtain ⟨-, -, same⟩ := bind_eq_ok.mp projected
    cases same
    obtain ⟨own, -⟩ := Option.filter_eq_some_iff.mp found
    cases given.symm.trans own
    exact ⟨_, rfl, each _ fun column => item_honours parsed query.select⟩
  · rename_i none
    cases projected
    refine ⟨_, plain_text table query.select, each _ fun column requested => ?_⟩
    -- An aggregate that is not active calls nothing.
    obtain ⟨f, requested⟩ := requested
    have called := (requests_iff parsed).mp requested
    rw [Table.activeAggregate?, given, Option.filter_some_eq_none] at none
    have calls : aggregate.calls = [] := by simpa [Aggregate.isEmpty] using none
    rw [calls] at called
    cases called

/-- Where a question is printed, every function that the text of its aggregate asks for is asked of a
field. The projection has an item for each field in field order: for a selected field that functions are
requested for it is one of them, so that a function that is the only one requested for its field is
applied; and a constant stands for a field that is not selected. -/
theorem requested_functions_applied {id statement : Text} (parsed : Aggregate.parse text = .ok aggregate)
    (given : query.aggregate = some aggregate) (printed : table.selectSql id query = .ok statement) :
    (∀ f name, Requests text f name → IsField table name) ∧
      ∃ items, table.projection query = .ok (Text.join "," items) ∧ Honoured table text query.select items ∧
        ∃ fragments top window, Window top window ∧ statement = selectWith fragments top window ∧
          fragments.columns = Text.join "," items := by
  obtain ⟨fragments, top, window, counted, written, projected, -⟩ := select_fragments printed
  obtain ⟨items, joined, honoured⟩ := projection_honours parsed given projected
  refine ⟨fun f name requested => ?_, items, joined ▸ projected, honoured,
    fragments, top, window, counted, written, joined⟩
  have called : name ∈ aggregate.fields := List.mem_map_of_mem ((requests_iff parsed).mp requested)
  exact projection_named projected aggregate given name called

/-- A question that counts lines and sums up amounts. -/
def countAndSum : Query where
  aggregate := some ⟨[(.count, "line"), (.sum, "amount")]⟩

theorem count_and_sum_applied :
    Aggregate.parse "COUNT(line), sum( amount )" = .ok ⟨[(.count, "line"), (.sum, "amount")]⟩ ∧
      (∃ statement, orderLines.selectSql [] countAndSum = .ok statement) ∧
      ∃ items, ("\"order_no\",count(\"line\") as \"line\",sum(\"amount\") as \"amount\"" : Text) =
          Text.join "," items ∧ Honoured orderLines "COUNT(line), sum( amount )" none items := by
  have parsed : Aggregate.parse "COUNT(line), sum( amount )" =
      .ok ⟨[(.count, "line"), (.sum, "amount")]⟩ := by decide +kernel
  have printed : ∃ statement, orderLines.selectSql [] countAndSum = .ok statement := ⟨_, rfl⟩
  have projection : orderLines.projection countAndSum =
      .ok "\"order_no\",count(\"line\") as \"line\",sum(\"amount\") as \"amount\"" := by decide +kernel
  obtain ⟨statement, own⟩ := printed
  obtain ⟨-, items, projected, honoured, -⟩ := requested_functions_applied parsed rfl own
  exact ⟨parsed, ⟨statement, own⟩, items, Except.ok.inj (projection.symm.trans projected), honoured⟩

/-- A question that sums up amounts and selects lines only. -/
def sumLeftOut : Query where
  aggregate := some ⟨[(.sum, "amount")]⟩
  select := some ⟨["line"]⟩

/-- A question for two functions of the amounts. -/
def leastAndGreatest : Query where
  aggregate := some ⟨[(.min, "amount"), (.max, "amount")]⟩

/-- The sum of a field that is not selected is not in the projection, and of two functions of a field the
second one is not. -/
theorem requested_functions_left_out :
    Aggregate.parse "sum(amount)" = .ok ⟨[(.sum, "amount")]⟩ ∧ Requests "sum(amount)" .sum "amount" ∧
      (∃ statement projection, orderLines.selectSql [] sumLeftOut = .ok statement ∧
        orderLines.projection sumLeftOut = .ok projection ∧ ¬ "sum(\"amount\")".toList <:+: projection) ∧
      Aggregate.parse "min(amount),max(amount)" = .ok ⟨[(.min, "amount"), (.max, "amount")]⟩ ∧
      Requests "min(amount),max(amount)" .max "amount" ∧
      ∃ statement projection, orderLines.selectSql [] leastAndGreatest = .ok statement ∧
        orderLines.projection leastAndGreatest = .ok projection ∧
          ¬ "max(\"amount\")".toList <:+: projection := by
  have summed : Aggregate.parse "sum(amount)" = .ok ⟨[(.sum, "amount")]⟩ := by decide +kernel
  have both : Aggregate.parse "min(amount),max(amount)" = .ok ⟨[(.min, "amount"), (.max, "amount")]⟩ := by
    decide +kernel
  refine ⟨summed, (requests_iff summed).mpr (by simp),
    ⟨_, "\"order_no\",\"line\",min('') as \"amount\"", rfl, ?_, ?_⟩,
    both, (requests_iff both).mpr (by simp),
    _, "\"order_no\",\"line\",min(\"amount\") as \"amount\"", rfl, ?_, ?_⟩
  all_goals decide +kernel

end TableGate.RequestedFunctions
