import TableGate.Proofs.RowTransport

/-! Rows add no markup to a template. Tags have none of the characters that start or end something in
markup, and neither have the values and row ids that are filled in for them; so however often and
wherever tags are found, the characters of the template that have a meaning in markup stay in their
order, and nothing comes between them that has one. -/
namespace TableGate.MarkupContainment
open Fallible RowTransport

/-- A character that starts or ends a tag of markup or the value of an attribute. -/
def isDelimiter (c : Char) : Bool := c == '<' || c == '>' || c == '"' || c == '\''

/-- The delimiters of a text in their order. -/
def delimiters (text : Text) : Text := text.filter isDelimiter

/-- The names of the fields and of the row id have no delimiters. -/
structure Undelimited (table : Table) : Prop where
  columns : ∀ column ∈ table.columns, delimiters column.name = []
  id : delimiters table.settings.idField = []

variable {layout : Layout} {old new : Text}

/-! ### Texts -/

theorem delimiters_append (front rest : Text) :
    delimiters (front ++ rest) = delimiters front ++ delimiters rest := List.filter_append front rest

/-- Text that is written for markup has no delimiters. -/
theorem delimiters_markup (text : Text) : delimiters (Text.markup text) = [] := by
  have each (c : Char) : delimiters (Text.markupChar c) = [] := by
    unfold Text.markupChar
    split_ifs with amp open' close quote apostrophe
    · rfl
    · rfl
    · rfl
    · rfl
    · rfl
    · simp [delimiters, isDelimiter, open', close, quote, apostrophe]
  induction text with
  | nil => rfl
  | cons c text ih =>
    have step : Text.markup (c :: text) = Text.markupChar c ++ Text.markup text := List.flatMap_cons
    rw [step, delimiters_append, each, ih, List.append_nil]

theorem delimiters_tag {name : Text} (free : delimiters name = []) :
    delimiters (Layout.htmlTag name) = [] := by
  have marks : delimiters ("###" : Text) = [] := by decide
  rw [Layout.htmlTag, delimiters_append, delimiters_append, marks, free]
  rfl

private theorem delimiters_replaceFrom (filled : old ≠ []) (oldFree : delimiters old = [])
    (newFree : delimiters new = []) (skipped : Nat) (text : Text) :
    delimiters (Text.replaceFrom old new skipped text) = delimiters (text.drop skipped) := by
  induction text generalizing skipped with
  | nil => cases skipped <;> rfl
  | cons c text ih =>
    cases skipped with
    | succ skipped => exact ih skipped
    | zero =>
      rw [Text.replaceFrom, List.drop_zero]
      split
      · rename_i starts
        obtain ⟨rest, same⟩ := List.isPrefixOf_iff_prefix.mp starts
        obtain ⟨first, pattern, rfl⟩ := List.exists_cons_of_ne_nil filled
        obtain rfl : pattern ++ rest = text := (List.cons.inj same).2
        rw [delimiters_append, newFree, ih, List.length_cons, Nat.add_sub_cancel, List.drop_left, ← same,
          delimiters_append, oldFree]
      · rw [← List.singleton_append, delimiters_append, ih, List.drop_zero, ← delimiters_append,
          List.singleton_append]

/-- Where neither a pattern nor what stands for it has delimiters, those of the text are kept. -/
theorem delimiters_replace (oldFree : delimiters old = []) (newFree : delimiters new = []) (text : Text) :
    delimiters (Text.replace old new text) = delimiters text := by
  unfold Text.replace
  split
  · rfl
  · rename_i filled
    exact delimiters_replaceFrom (by simpa using filled) oldFree newFree 0 text

/-! ### Rows -/

private theorem delimiters_shown (wire : Wire) : delimiters (Media.html.encode wire) = [] := by
  cases wire with
  | text text => exact delimiters_markup text
  | null => rfl
  | absent => rfl

private theorem delimiters_fillField {column : Column} (free : delimiters column.name = []) (template : Text)
    (field : Option WrittenField) :
    delimiters (Layout.fillField template column field) = delimiters template := by
  refine delimiters_replace (delimiters_tag free) ?_ template
  cases field with
  | none => rfl
  | some field => exact delimiters_shown field.shown

private theorem delimiters_fillFields {columns : List Column}
    (free : ∀ column ∈ columns, delimiters column.name = []) (template : Text) (fields : List WrittenField) :
    delimiters (layout.fillFields template columns fields) = delimiters template := by
  induction columns generalizing template fields with
  | nil => rfl
  | cons column columns ih =>
    obtain ⟨first, others⟩ := List.forall_mem_cons.mp free
    rw [Layout.fillFields]
    split
    · rw [ih others, delimiters_fillField first]
    · rw [ih others, delimiters_fillField first]

/-- A row has the delimiters of its template. -/
theorem delimiters_htmlRow (free : Undelimited layout.table) (template : Text) (written : WrittenRow) :
    delimiters (layout.htmlRow template written) = delimiters template := by
  have placeholder : delimiters Layout.idPlaceholder = [] := by decide
  have ending : delimiters ("\r\n" : Text) = [] := by decide
  rw [Layout.htmlRow, delimiters_append, ending, List.append_nil,
    delimiters_replace placeholder (delimiters_markup written.id), delimiters_fillFields free.columns,
    delimiters_replace (delimiters_tag free.id) placeholder]

/-! ### Answers -/

/-- The rows of an answer are written into the template one after the other. -/
theorem html_result (layout : Layout) (template : Text) (cursor : Cursor) :
    (layout.writeHtml template cursor).text.result =
      (cursor.left.mapM layout.row).map fun writtens => (writtens.map (layout.htmlRow template)).flatten := by
  have read : (cursor.readRows fun row => (layout.row row).map (layout.htmlRow template)).1 =
      (cursor.left.mapM layout.row).map (List.map (layout.htmlRow template)) :=
    (mapRows_result _ _).trans (mapM_map _ _ _)
  simp only [Layout.writeHtml, Layout.writeRows, read]
  cases cursor.left.mapM layout.row <;> rfl

/-- **Cells add no markup.** Whatever the rows, the disguise of keys, the formatter and the query that they
were asked by, the delimiters of an answer are those of its template, once for each row. -/
theorem rows_add_no_markup (layout : Layout) (template : Text) (cursor : Cursor) (answer : Text)
    (free : Undelimited layout.table)
    (written : (layout.writeHtml template cursor).text.result = .ok answer) :
    delimiters answer = (List.replicate cursor.left.length (delimiters template)).flatten := by
  rw [html_result] at written
  obtain ⟨writtens, each, rfl⟩ := map_eq_ok.mp written
  have count := (mapM_eq_ok_iff.mp each).length_eq
  rw [count]
  clear written each count
  induction writtens with
  | nil => rfl
  | cons written writtens ih =>
    rw [List.map_cons, List.flatten_cons, delimiters_append, ih, delimiters_htmlRow free]
    rfl

/-- Pages of people, whose numbers are disguised and whose names are links. -/
def people : Layout where
  table :=
    { engine := .sqlite
      options := { tableName := "people" }
      hasher := some { encode := fun value seed => '<' :: value ++ seed, decode := List.tail }
      columns := [
        { name := "id", kind := .number, sqlType := "INTEGER", isPrimaryKey := true },
        { name := "name", kind := .string, sqlType := "TEXT" }] }

/-- Markup in a name, and signs of a disguise, stay out of the markup of a page. -/
theorem names_add_no_markup :
    let cursor : Cursor := { rows := [[.int 1, .text "\"><b>###id###"], [.int 2, .text "O'Hara"]] }
    Undelimited people.table ∧
      ∃ answer, (people.writeHtml "<a href=\"###_id_###\">###name###</a>" cursor).text.result = .ok answer ∧
        delimiters answer = "<\"\"><><\"\"><>" := by
  intro cursor
  have free : Undelimited people.table := ⟨by decide, by decide⟩
  obtain ⟨answer, written⟩ : ∃ answer,
      (people.writeHtml "<a href=\"###_id_###\">###name###</a>" cursor).text.result = .ok answer := ⟨_, rfl⟩
  have kept := rows_add_no_markup people _ cursor answer free written
  exact ⟨free, answer, written, kept.trans (by decide)⟩

end TableGate.MarkupContainment
