import TableGate.Proofs.JsonRoundTrip
import TableGate.Proofs.SelectClosure

/-! Templates are filled in one field after the other. Where the tags of a template are kept apart
from each other, a value stands in the place of each tag, but the fields behind its own are filled in
once more in what was inserted. So the tags are filled in all at once exactly where every value is left
as it is by the fields behind its own and by the row id. -/
namespace TableGate.TemplateFilling
open JsonRoundTrip RowIdentity SelectClosure TagReplacement

/-- A tag of a template, and the text behind it up to the next one. -/
structure Slot where
  name : Text
  behind : Text

/-- A template in its parts: the text in front of the first tag, and the tags. -/
structure Template where
  front : Text
  slots : List Slot

namespace Template

/-- The template as it is given. -/
def text (template : Template) : Text :=
  template.front ++ template.slots.flatMap fun slot => Layout.htmlTag slot.name ++ slot.behind

/-- The template with a value in the place of each tag. -/
def filled (value : Text → Text) (template : Template) : Text :=
  template.front ++ template.slots.flatMap fun slot => value slot.name ++ slot.behind

/-- Every tag names a field or the row id, and the texts between the tags have no hashes. -/
structure Whole (table : Table) (template : Template) : Prop where
  front : '#' ∉ template.front
  behind : ∀ slot ∈ template.slots, '#' ∉ slot.behind
  named : ∀ slot ∈ template.slots, slot.name = table.settings.idField ∨ IsField table slot.name

/-- Between two tags stands a character that is in no name: no word character, and none of the name
of the row id. -/
def Spaced (table : Table) (template : Template) : Prop :=
  ∀ slot ∈ template.slots.dropLast, ∃ c ∈ slot.behind,
    Text.isWord c = false ∧ c ∉ table.settings.idField

end Template

/-- The name of the placeholder for the row id. -/
def placeholderName : Text := "sqlrest_temporary_row_id"

/-- Fields have names of word characters that tell them apart from each other, from the row id and
from its placeholder. -/
structure Tagged (table : Table) : Prop extends Named table where
  words : ∀ column ∈ table.columns, ∀ c ∈ column.name, Text.isWord c = true
  unreserved : ∀ column ∈ table.columns, column.name ≠ placeholderName

/-- What stands for a field: its value in markup, nothing if it has none. -/
def fieldValue (written : WrittenRow) (name : Text) : Text :=
  ((written.fields.find? (·.column.name == name)).map fun field => Media.html.encode field.shown).getD []

/-- What stands for a tag. -/
def tagValue (table : Table) (written : WrittenRow) (name : Text) : Text :=
  if name = table.settings.idField then Text.markup written.id else fieldValue written name

/-- A text in which the tags of some fields are filled in, one field after the other. -/
def fieldsFilled (written : WrittenRow) (columns : List Column) (text : Text) : Text :=
  columns.foldl (fun text column =>
    Text.replace (Layout.htmlTag column.name) (fieldValue written column.name) text) text

/-- A text in which the tags of some fields and then the placeholder are filled in. -/
def refilled (written : WrittenRow) (columns : List Column) (text : Text) : Text :=
  Text.replace Layout.idPlaceholder (Text.markup written.id) (fieldsFilled written columns text)

/-- The value of every field is left as it is by the fields behind it and by the row id. -/
def Settled (table : Table) (written : WrittenRow) : Prop :=
  ∀ before column behind, table.columns = before ++ column :: behind →
    refilled written behind (fieldValue written column.name) = fieldValue written column.name

variable {layout : Layout} {table : Table} {row : Row} {written : WrittenRow} {column : Column}
  {before behind columns : List Column} {front rest text : Text} {c : Char}

/-! ### One field after the other -/

/-- The fields of a row that are left are found by the names of the columns that are left. -/
private theorem fillFields_eq {fields : List WrittenField}
    (selected : fields.map (·.column) = columns.filter layout.isSelected)
    (distinct : (columns.map (·.name)).Nodup)
    (found : ∀ column ∈ columns, fieldValue written column.name = fieldValue ⟨fields, written.id⟩ column.name)
    (template : Text) :
    layout.fillFields template columns fields = fieldsFilled written columns template := by
  induction columns generalizing fields template with
  | nil => rfl
  | cons column columns ih =>
    obtain ⟨first, later⟩ := List.nodup_cons.mp distinct
    obtain ⟨own, others⟩ := List.forall_mem_cons.mp found
    have apart : ∀ next ∈ columns, column.name ≠ next.name :=
      fun next member same => first (List.mem_map.mpr ⟨next, member, same.symm⟩)
    rw [Layout.fillFields, fieldsFilled, List.foldl_cons, own]
    by_cases chosen : layout.isSelected column = true
    · rw [List.filter_cons_of_pos chosen] at selected
      obtain ⟨field, fields, rfl, rfl, rest⟩ := List.map_eq_cons_iff.mp selected
      have head : (field :: fields).find? (·.column.name == field.column.name) = some field :=
        List.find?_cons_of_pos (beq_self_eq_true _)
      rw [if_pos chosen, fieldValue, head]
      refine ih rest later (fun next member => ?_) _
      rw [others next member, fieldValue, fieldValue,
        List.find?_cons_of_neg (by simpa using apart next member)]
    · rw [List.filter_cons_of_neg chosen] at selected
      have none : fields.find? (·.column.name == column.name) = none := by
        refine List.find?_eq_none.mpr fun field member same => ?_
        have listed : field.column ∈ columns.filter layout.isSelected := selected ▸ List.mem_map_of_mem member
        exact apart field.column (List.mem_of_mem_filter listed) (eq_of_beq same).symm
      rw [if_neg chosen, fieldValue, none]
      exact ih selected later others _

/-- The text that is made of a template for a row, without the line break behind it. -/
private def rendered (table : Table) (written : WrittenRow) (text : Text) : Text :=
  refilled written table.columns
    (Text.replace (Layout.htmlTag table.settings.idField) Layout.idPlaceholder text)

private theorem htmlRow_rendered (tagged : Tagged layout.table) (shown : layout.row row = .ok written)
    (template : Text) : layout.htmlRow template written = rendered layout.table written template ++ "\r\n" := by
  rw [Layout.htmlRow, fillFields_eq (written_columns shown) tagged.distinct (fun _ _ => rfl)]
  rfl

/-! ### Texts without tags -/

private theorem fieldsFilled_absent (absent : ∀ column ∈ columns, ¬ Layout.htmlTag column.name <:+: text) :
    fieldsFilled written columns text = text := by
  induction columns with
  | nil => rfl
  | cons column columns ih =>
    obtain ⟨first, others⟩ := List.forall_mem_cons.mp absent
    rw [fieldsFilled, List.foldl_cons, replace_absent first]
    exact ih others

private theorem refilled_absent (absent : ∀ name, ¬ Layout.htmlTag name <:+: text) :
    refilled written columns text = text := by
  rw [refilled, fieldsFilled_absent fun column _ => absent column.name, placeholder_tag,
    replace_absent (absent _)]

/-- Without hashes there is nothing to fill in. -/
private theorem rendered_plain (free : '#' ∉ text) : rendered table written text = text := by
  have absent (name : Text) : ¬ Layout.htmlTag name <:+: text := by
    rw [tag_shape]
    exact fun found => free (found.subset List.mem_cons_self)
  rw [rendered, replace_absent (absent _), refilled_absent absent]

/-! ### Blocks of a template -/

private theorem fieldsFilled_around (apart : ∀ column ∈ columns, c ∉ Layout.htmlTag column.name) :
    fieldsFilled written columns (front ++ c :: rest) =
      fieldsFilled written columns front ++ c :: fieldsFilled written columns rest := by
  induction columns generalizing front rest with
  | nil => rfl
  | cons column columns ih =>
    obtain ⟨first, others⟩ := List.forall_mem_cons.mp apart
    simp only [fieldsFilled, List.foldl_cons] at ih ⊢
    rw [replace_around first, ih others]

/-- A character that is in no name stands between two texts of their own. -/
private theorem rendered_around (tagged : Tagged table) (hash : c ≠ '#') (other : Text.isWord c = false)
    (apart : c ∉ table.settings.idField) :
    rendered table written (front ++ c :: rest) =
      rendered table written front ++ c :: rendered table written rest := by
  have free {name : Text} (without : c ∉ name) : c ∉ Layout.htmlTag name := by
    rw [tag_shape]
    simp [hash, without]
  have outside {name : Text} (words : ∀ c ∈ name, Text.isWord c = true) : c ∉ Layout.htmlTag name :=
    free fun member => by simp [words c member] at other
  have placeholder : c ∉ Layout.idPlaceholder := by
    rw [placeholder_tag]
    exact outside (TextFacts.each_of_all (by decide))
  unfold rendered refilled
  rw [replace_around (free apart), fieldsFilled_around fun column member => outside (tagged.words column member),
    replace_around placeholder]

private theorem fieldsFilled_inside (before : '#' ∉ front) (after : '#' ∉ rest) :
    fieldsFilled written columns (front ++ text ++ rest) = front ++ fieldsFilled written columns text ++ rest := by
  induction columns generalizing text with
  | nil => rfl
  | cons column columns ih =>
    simp only [fieldsFilled, List.foldl_cons, tag_shape] at ih ⊢
    rw [replace_inside before after, ih]

/-- Texts without hashes are not looked into. -/
private theorem refilled_inside (before : '#' ∉ front) (after : '#' ∉ rest) :
    refilled written columns (front ++ text ++ rest) = front ++ refilled written columns text ++ rest := by
  rw [refilled, fieldsFilled_inside before after, placeholder_tag, tag_shape, replace_inside before after]
  rfl

private theorem word_unhashed (tagged : Tagged table) (member : column ∈ table.columns) : '#' ∉ column.name := by
  intro hash
  exact absurd (tagged.words column member '#' hash) (by decide)

private theorem tags_differ {name other : Text} (apart : name ≠ other) :
    Layout.htmlTag name ≠ Layout.htmlTag other := by
  intro same
  exact apart (List.append_cancel_left (List.append_cancel_right same))

/-- The tag of a field makes room for its value, in which the fields behind it are filled in. -/
private theorem rendered_field (tagged : Tagged table)
    (split : table.columns = before ++ column :: behind) (left : '#' ∉ front) (right : '#' ∉ rest) :
    rendered table written (front ++ Layout.htmlTag column.name ++ rest) =
      front ++ refilled written behind (fieldValue written column.name) ++ rest := by
  have member : column ∈ table.columns := by simp [split]
  have plain := word_unhashed tagged member
  have absent {name : Text} (apart : name ≠ column.name) :
      ¬ Layout.htmlTag name <:+: front ++ Layout.htmlTag column.name ++ rest :=
    other_tag_absent plain (tags_differ apart) left right
  have distinct := tagged.distinct
  rw [split, List.map_append, List.map_cons, List.nodup_append] at distinct
  have start : fieldsFilled written before (front ++ Layout.htmlTag column.name ++ rest) =
      front ++ Layout.htmlTag column.name ++ rest :=
    fieldsFilled_absent fun other among =>
      absent (distinct.2.2 _ (List.mem_map_of_mem among) _ List.mem_cons_self)
  have own : Text.replace (Layout.htmlTag column.name) (fieldValue written column.name)
      (front ++ Layout.htmlTag column.name ++ rest) = front ++ fieldValue written column.name ++ rest := by
    rw [tag_shape]
    exact replace_once left right
  have steps : fieldsFilled written table.columns (front ++ Layout.htmlTag column.name ++ rest) =
      fieldsFilled written behind (front ++ fieldValue written column.name ++ rest) := by
    rw [fieldsFilled] at start ⊢
    rw [split, List.foldl_append, start, List.foldl_cons, own]
    rfl
  rw [rendered, replace_absent (absent (tagged.apart column member).symm), refilled, steps]
  exact refilled_inside left right

/-- The tag of the row id makes room for it. -/
private theorem rendered_id (tagged : Tagged layout.table) (shown : layout.row row = .ok written)
    (left : '#' ∉ front) (right : '#' ∉ rest) :
    rendered layout.table written (front ++ Layout.htmlTag layout.table.settings.idField ++ rest) =
      front ++ Text.markup written.id ++ rest := by
  have others : ∀ column ∈ layout.table.columns, Layout.htmlTag column.name ≠ Layout.idPlaceholder := by
    rw [placeholder_tag]
    exact fun column member => tags_differ (tagged.unreserved column member)
  exact List.append_cancel_right ((htmlRow_rendered tagged shown _).symm.trans
    (htmlRow_of_tag layout written left right others))

/-- If values are left as they are, the tag of a name makes room for what it stands for. -/
private theorem rendered_tag (tagged : Tagged layout.table) (shown : layout.row row = .ok written)
    (settled : Settled layout.table written) {name : Text}
    (named : name = layout.table.settings.idField ∨ IsField layout.table name)
    (left : '#' ∉ front) (right : '#' ∉ rest) :
    rendered layout.table written (front ++ Layout.htmlTag name ++ rest) =
      front ++ tagValue layout.table written name ++ rest := by
  rcases named with rfl | ⟨column, member, rfl⟩
  · rw [rendered_id tagged shown left right, tagValue, if_pos rfl]
  · obtain ⟨before, behind, split⟩ := List.append_of_mem member
    rw [rendered_field tagged split left right, settled before column behind split, tagValue,
      if_neg (tagged.apart column member)]

/-! ### Settled values -/

/-- Values without three hashes in a row are left as they are. -/
theorem settled_of_unhashed
    (free : ∀ column ∈ table.columns, ¬ ("###" : Text) <:+: fieldValue written column.name) :
    Settled table written := by
  intro before column behind split
  have member : column ∈ table.columns := by simp [split]
  have absent (name : Text) : ¬ Layout.htmlTag name <:+: fieldValue written column.name := by
    intro found
    have start : ("###" : Text) <+: Layout.htmlTag name := by
      rw [Layout.htmlTag, List.append_assoc]
      exact List.prefix_append _ _
    exact free column member (start.isInfix.trans found)
  exact refilled_absent absent

/-! ### Templates -/

/-- Tags that are kept apart are filled in one by one. -/
private theorem rendered_template (tagged : Tagged layout.table) (shown : layout.row row = .ok written)
    (settled : Settled layout.table written) {template : Template} (whole : template.Whole layout.table)
    (spaced : template.Spaced layout.table) :
    rendered layout.table written template.text = template.filled (tagValue layout.table written) := by
  obtain ⟨front, slots⟩ := template
  induction slots generalizing front with
  | nil =>
    have free : '#' ∉ front := whole.front
    simpa [Template.text, Template.filled] using rendered_plain free
  | cons slot slots ih =>
    have left : '#' ∉ front := whole.front
    have right := whole.behind slot List.mem_cons_self
    have block {rest : Text} (free : '#' ∉ rest) :
        rendered layout.table written (front ++ Layout.htmlTag slot.name ++ rest) =
          front ++ tagValue layout.table written slot.name ++ rest :=
      rendered_tag tagged shown settled (whole.named slot List.mem_cons_self) left free
    cases slots with
    | nil => simpa [Template.text, Template.filled] using block right
    | cons next slots =>
      obtain ⟨c, member, other, apart⟩ := spaced slot List.mem_cons_self
      obtain ⟨inner, outer, same⟩ := List.append_of_mem member
      rw [same, List.mem_append, List.mem_cons, not_or, not_or] at right
      obtain ⟨inside, hash, outside⟩ := right
      have rest := ih outer
        ⟨outside, fun other later => whole.behind other (List.mem_cons_of_mem _ later),
          fun other later => whole.named other (List.mem_cons_of_mem _ later)⟩
        fun other later => spaced other (List.mem_cons_of_mem _ later)
      have parts : (Template.mk front (slot :: next :: slots)).text =
          (front ++ Layout.htmlTag slot.name ++ inner) ++ c :: (Template.mk outer (next :: slots)).text := by
        simp [Template.text, same]
      rw [parts, rendered_around tagged (Ne.symm hash) other apart, block inside, rest]
      simp [Template.filled, same]

/-- **Tags are filled in at once exactly where values are settled.** Where a template keeps its tags
apart by a character that is in no name, a row is shown as the template with each tag replaced by the
value of its field in markup, or by the row id; this is so for all such templates exactly if no value
is changed by the fields behind its own or by the row id. -/
theorem templates_filled_iff (layout : Layout) (row : Row) (written : WrittenRow)
    (tagged : Tagged layout.table) (shown : layout.row row = .ok written) :
    (∀ template : Template, template.Whole layout.table → template.Spaced layout.table →
      layout.htmlRow template.text written = template.filled (tagValue layout.table written) ++ "\r\n") ↔
    Settled layout.table written := by
  constructor
  · intro simultaneous before column behind split
    have member : column ∈ layout.table.columns := by simp [split]
    have whole : (Template.mk [] [⟨column.name, []⟩]).Whole layout.table := by
      refine ⟨List.not_mem_nil, ?_, ?_⟩
      · rintro slot (_ | ⟨_, ⟨⟩⟩)
        exact List.not_mem_nil
      · rintro slot (_ | ⟨_, ⟨⟩⟩)
        exact .inr ⟨column, member, rfl⟩
    have spaced : (Template.mk [] [⟨column.name, []⟩]).Spaced layout.table := by
      rintro slot ⟨⟩
    have filled := simultaneous _ whole spaced
    have own : rendered layout.table written ([] ++ Layout.htmlTag column.name ++ []) =
        [] ++ refilled written behind (fieldValue written column.name) ++ [] :=
      rendered_field tagged split List.not_mem_nil List.not_mem_nil
    rw [htmlRow_rendered tagged shown] at filled
    have same := List.append_cancel_right filled
    simp only [Template.text, Template.filled, List.nil_append, List.append_nil, List.flatMap_singleton,
      tagValue, if_neg (tagged.apart column member)] at same own
    exact own.symm.trans same
  · intro settled template whole spaced
    rw [htmlRow_rendered tagged shown, rendered_template tagged shown settled whole spaced]

/-- Notes with a title. -/
def notes : Layout where
  table :=
    { engine := .sqlite
      options := { tableName := "notes" }
      columns := [
        { name := "id", kind := .number, sqlType := "INTEGER", isPrimaryKey := true },
        { name := "title", kind := .string, sqlType := "TEXT" },
        { name := "body", kind := .string, sqlType := "TEXT" }] }

private theorem notes_tagged : Tagged notes.table where
  distinct := by decide
  apart := by decide
  words := by
    have words : WordNames notes.table := by decide +kernel
    exact words.columns
  unreserved := by decide

/-- The seventh note as it is written. -/
def seventh (title body : Text) : WrittenRow where
  fields := List.zipWith (fun column text => ⟨column, .text text, .text text⟩) notes.table.columns
    ["7", title, body]
  id := "7"

/-- A title, a body and the row id. -/
def card : Template := ⟨"<b>", [⟨"title", "</b>: "⟩, ⟨"body", " ("⟩, ⟨"_id_", ")"⟩]⟩

private theorem card_whole : card.Whole notes.table where
  front := by decide
  behind := by decide
  named := by
    intro slot member
    simp only [card, List.mem_cons, List.not_mem_nil, or_false] at member
    obtain rfl | rfl | rfl := member
    · exact .inr ⟨_, .tail _ (.head _), rfl⟩
    · exact .inr ⟨_, .tail _ (.tail _ (.head _)), rfl⟩
    · exact .inl rfl

private theorem card_spaced : card.Spaced notes.table := by
  intro slot member
  simp only [card, List.dropLast_cons_cons, List.dropLast_singleton, List.mem_cons, List.not_mem_nil,
    or_false] at member
  obtain rfl | rfl := member
  · exact ⟨'<', by decide, by decide, by decide⟩
  · exact ⟨'(', by decide, by decide, by decide⟩

/-- Hashes and quotes in a title, and a name between hashes that are no tag, are shown as they are. -/
theorem hashes_in_title_kept :
    notes.row [.int 7, .text "it's #1", .text "##title##"] = .ok (seventh "it's #1" "##title##") ∧
      Settled notes.table (seventh "it's #1" "##title##") ∧
      notes.htmlRow "<b>###title###</b>: ###body### (###_id_###)" (seventh "it's #1" "##title##") =
        "<b>it&#039;s #1</b>: ##title## (7)\r\n" := by
  have shown : notes.row [.int 7, .text "it's #1", .text "##title##"] = .ok (seventh "it's #1" "##title##") :=
    rfl
  have settled : Settled notes.table (seventh "it's #1" "##title##") :=
    settled_of_unhashed (by decide +kernel)
  have filled := (templates_filled_iff notes _ _ notes_tagged shown).mpr settled card card_whole card_spaced
  have text : card.text = "<b>###title###</b>: ###body### (###_id_###)" := by decide +kernel
  have value : card.filled (tagValue notes.table (seventh "it's #1" "##title##")) =
      "<b>it&#039;s #1</b>: ##title## (7)" := by decide +kernel
  rw [text, value] at filled
  exact ⟨shown, settled, filled⟩

/-- A title that has the tag of the body shows the body instead. -/
theorem tag_in_title_filled :
    Tagged notes.table ∧ card.Whole notes.table ∧ card.Spaced notes.table ∧
      notes.row [.int 7, .text "###body###", .text "x"] = .ok (seventh "###body###" "x") ∧
      card.filled (tagValue notes.table (seventh "###body###" "x")) = "<b>###body###</b>: x (7)" ∧
      notes.htmlRow card.text (seventh "###body###" "x") = "<b>x</b>: x (7)\r\n" :=
  ⟨notes_tagged, card_whole, card_spaced, rfl, by decide +kernel, by decide +kernel⟩

end TableGate.TemplateFilling
