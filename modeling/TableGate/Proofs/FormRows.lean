import TableGate.Proofs.JsonRoundTrip

/-! One row in a form, whichever kind of form it is. Names that tell the fields apart lead to the
place of each, and a row that is filled field by field holds the cell of every field in the end. -/
namespace TableGate.FormRows
open Fallible JsonRoundTrip RowIdentity RowTransport

/-- The cells that a field of a form may hold: none, null, a text of a string field, or bytes of a
field whose native type is not read as a boolean. -/
def FormHolds (engine : Engine) (column : Column) : Cell → Prop
  | .null | .undefined => True
  | .text _ => column.kind = .string
  | .bytes _ => column.kind = .blob ∧ engine.typeClass column.sqlType ≠ .boolean
  | _ => False

variable {layout : Layout} {table : Table} {column : Column} {cell : Cell} {row : Row} {name : Text}
  {written : WrittenRow}

/-! ### The places of fields -/

private theorem others_named {others : List Column} (apart : column.name ∉ others.map (·.name)) :
    others.filter (fun other => other.name == column.name) = [] := by
  refine List.filter_eq_nil_iff.mpr fun other member same => apart ?_
  rw [← eq_of_beq same]
  exact List.mem_map_of_mem member

private theorem other_places_named {others : List Column} (start : Nat)
    (apart : column.name ∉ others.map (·.name)) :
    (others.zipIdx start).filter (fun (other, _) => other.name == column.name) = [] := by
  refine List.filter_eq_nil_iff.mpr fun other member same => apart ?_
  rw [← eq_of_beq same]
  exact List.mem_map_of_mem (List.fst_mem_of_mem_zipIdx member)

/-- The name of a field leads to its place. -/
theorem place_found {before after : List Column} (distinct : (table.columns.map (·.name)).Nodup)
    (stands : table.columns = before ++ column :: after) :
    table.indexOf? column.name = some before.length ∧ table.find? column.name = some column := by
  rw [stands, List.map_append, List.map_cons, List.nodup_middle, List.nodup_cons, List.mem_append,
    not_or] at distinct
  obtain ⟨⟨left, right⟩, -⟩ := distinct
  constructor
  · rw [Table.indexOf?, stands, List.zipIdx_append, List.filter_append, other_places_named _ left,
      List.zipIdx_cons, List.filter_cons_of_pos (by simp), other_places_named _ right]
    simp
  · rw [Table.find?, stands, List.filter_append, others_named left,
      List.filter_cons_of_pos (by simp), others_named right]
    rfl

/-- The name of no field leads nowhere. -/
theorem place_missing (unnamed : ∀ column ∈ table.columns, column.name ≠ name) :
    table.indexOf? name = none ∧ table.find? name = none := by
  constructor
  · have none : table.columns.zipIdx.filter (fun (column, _) => column.name == name) = [] :=
      List.filter_eq_nil_iff.mpr fun place member same =>
        unnamed place.1 (List.fst_mem_of_mem_zipIdx member) (eq_of_beq same)
    rw [Table.indexOf?, none]
    rfl
  · have none : table.columns.filter (fun column => column.name == name) = [] :=
      List.filter_eq_nil_iff.mpr fun column member same => unnamed column member (eq_of_beq same)
    rw [Table.find?, none]
    rfl

/-- A name that leads somewhere leads to a field with the name. -/
theorem placed_named {place : Nat} (found : table.indexOf? name = some place) :
    ∃ column, table.columns[place]? = some column ∧ column.name = name ∧ table.find? name = some column := by
  obtain ⟨⟨column, own⟩, last, rfl⟩ := Option.map_eq_some_iff.mp found
  obtain ⟨member, named⟩ := List.mem_filter.mp (List.mem_of_getLast? last)
  refine ⟨column, List.mk_mem_zipIdx_iff_getElem?.mp member, eq_of_beq named, ?_⟩
  have fields : table.columns.filter (fun column => column.name == name) =
      (table.columns.zipIdx.filter fun (column, _) => column.name == name).map (·.1) := by
    conv_lhs => rw [← List.zipIdx_map_fst 0 table.columns, List.filter_map]
    rfl
  rw [Table.find?, fields, List.getLast?_map, last]
  rfl

/-- The name of a field leads somewhere. -/
theorem named_placed (member : column ∈ table.columns) :
    ∃ place, table.indexOf? column.name = some place := by
  obtain ⟨place, bound, own⟩ := List.getElem_of_mem member
  have among : (column, place) ∈ table.columns.zipIdx.filter fun (other, _) => other.name == column.name :=
    List.mem_filter.mpr ⟨List.mk_mem_zipIdx_iff_getElem?.mpr (by simp [bound, own]), beq_self_eq_true _⟩
  obtain ⟨last, found⟩ :=
    Option.isSome_iff_exists.mp (List.getLast?_isSome.mpr (List.ne_nil_of_mem among))
  exact ⟨last.2, by rw [Table.indexOf?, found]; rfl⟩

/-! ### Filling a row -/

section Filling

variable {m : Type → Type} [Monad m] [LawfulMonad m] {α σ : Type} {step : Row → σ → m Row}
  {source : α → Option σ} {back : α → Cell} {fields : List α}

private theorem rest_filled (done : Row)
    (filled : ∀ before field after, fields = before ++ field :: after →
      ∀ part, source field = some part →
        ∀ row, step row part = pure (row.set (done.length + before.length) (back field)))
    (empty : ∀ field ∈ fields, source field = none → back field = .undefined) :
    (fields.filterMap source).foldlM step (done ++ fields.map fun _ => .undefined) =
      pure (done ++ fields.map back) := by
  induction fields generalizing done with
  | nil => rfl
  | cons field fields ih =>
    have rest := ih (done ++ [back field])
      (fun before other after split part found row => by
        have place := filled (field :: before) other after (by rw [split]; rfl) part found row
        rw [place]
        congr 2
        simp only [List.length_append, List.length_cons, List.length_nil]
        omega)
      (fun other member => empty other (List.mem_cons_of_mem _ member))
    rw [List.append_assoc, List.append_assoc] at rest
    cases found : source field with
    | none =>
      have same := empty field List.mem_cons_self found
      rw [List.filterMap_cons_none found, List.map_cons, List.map_cons, same]
      rwa [same] at rest
    | some part =>
      have first := filled [] field fields rfl part found
      rw [List.filterMap_cons_some found, List.foldlM_cons, first, pure_bind, List.map_cons,
        List.map_cons]
      simpa [List.set_append] using rest

/-- A row that is filled from the sources of its fields, each of which sets its own place, holds
what they stand for. -/
private theorem fields_filled
    (filled : ∀ before field after, fields = before ++ field :: after →
      ∀ part, source field = some part →
        ∀ row, step row part = pure (row.set before.length (back field)))
    (empty : ∀ field ∈ fields, source field = none → back field = .undefined) :
    (fields.filterMap source).foldlM step (fields.map fun _ => .undefined) =
      pure (fields.map back) := by
  refine rest_filled [] (fun before field after split part found row => ?_) empty
  rw [List.length_nil, Nat.zero_add]
  exact filled before field after split part found row

/-- The row without any value has a cell for every field. -/
private theorem emptyRow_fields (table : Table) (row : Row) :
    table.emptyRow = (cellsOf table.columns row).map fun _ => .undefined := by
  have columns := congrArg (List.map fun _ => Cell.undefined) (cellsOf_columns table.columns row)
  rw [List.map_map] at columns
  exact columns.symm

/-- The empty row becomes the completed one, if the source of each field sets the place that the
name of the field leads to. -/
theorem row_filled {source : Column × Cell → Option σ} {reread : Cell → Cell}
    (distinct : (table.columns.map (·.name)).Nodup)
    (filled : ∀ field ∈ cellsOf table.columns row, ∀ place,
      table.indexOf? field.1.name = some place → table.find? field.1.name = some field.1 →
        ∀ part, source field = some part →
          ∀ row, step row part = pure (row.set place (reread field.2)))
    (empty : ∀ field ∈ cellsOf table.columns row, source field = none →
      reread field.2 = .undefined) :
    ((cellsOf table.columns row).filterMap source).foldlM step table.emptyRow =
      pure ((completed table row).map reread) := by
  rw [emptyRow_fields table row, completed, List.map_map]
  change _ = pure ((cellsOf table.columns row).map fun field => reread field.2)
  refine fields_filled (fun before field after split => ?_) empty
  have columns := congrArg (List.map (·.1)) split
  rw [cellsOf_columns, List.map_append, List.map_cons] at columns
  obtain ⟨placed, own⟩ := place_found distinct columns
  rw [List.length_map] at placed
  have member : field ∈ cellsOf table.columns row := by
    rw [split]
    exact List.mem_append_right _ List.mem_cons_self
  exact filled field member _ placed own

end Filling

/-! ### What is written -/

theorem sent_form (free : Open layout) (held : FormHolds layout.table.engine column cell) :
    sent layout (column, cell) = .ok (wireOf cell) := by
  unfold sent
  rw [free.selected]
  cases cell with
  | undefined => rfl
  | null => exact serialize_held (trivial : Holds layout.table.engine column .null) rfl
  | text text => exact serialize_held (held : Holds layout.table.engine column (.text text)) rfl
  | bytes bytes =>
    obtain ⟨kind, type⟩ := held
    exact BlobTransport.serialize_bytes kind type rfl
  | _ => cases held

/-- A row of such cells is written as what is sent of its fields. -/
theorem row_written (free : Open layout)
    (held : ∀ field ∈ cellsOf layout.table.columns row, FormHolds layout.table.engine field.1 field.2) :
    ∃ written, layout.row row = .ok written ∧
      written.fields = (cellsOf layout.table.columns row).map fun field =>
        ⟨field.1, wireOf field.2, wireOf field.2⟩ := by
  obtain ⟨written, shown⟩ := row_total free.plain fun field member =>
    ⟨_, sent_form free (held field member)⟩
  exact ⟨written, shown, row_fields_sent free (fun field member => sent_form free (held field member)) shown⟩

end TableGate.FormRows
