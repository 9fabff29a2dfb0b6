import TableGate.Number.Binary64
import TableGate.Text.Basic

/-! JSON values. Numbers without a fraction or an exponent are integers of any size, all
others are floating point numbers. An object keeps its keys in the order in which they
first occur. -/

namespace TableGate

/-- A JSON value. -/
inductive Json where
  | null
  | bool (value : Bool)
  | int (value : Int)
  | float (value : Binary64)
  | text (value : Text)
  | array (items : List Json)
  | object (entries : List (Text × Json))
  deriving Repr

/-- Entries with a key set to a value: in its place if the key is there, else at the end. -/
def upsert {α β : Type} [BEq α] (key : α) (value : β) : List (α × β) → List (α × β)
  | [] => [(key, value)]
  | (k, v) :: rest => if k == key then (k, value) :: rest else (k, v) :: upsert key value rest

/-- Entries with one value for each key: the last one, in the place of the first. -/
def distinctKeys {α β : Type} [BEq α] (entries : List (α × β)) : List (α × β) :=
  entries.foldl (fun kept (key, value) => upsert key value kept) []

theorem map_fst_upsert_of_mem {α β : Type} [BEq α] [LawfulBEq α] {key : α}
    {entries : List (α × β)} (h : key ∈ entries.map (·.1)) (value : β) :
    (upsert key value entries).map (·.1) = entries.map (·.1) := by
  induction entries with
  | nil => simp at h
  | cons entry rest ih =>
    obtain ⟨k, v⟩ := entry
    simp only [upsert]
    split
    · simp
    · next hk =>
      simp only [List.map_cons, List.mem_cons] at h ⊢
      rcases h with rfl | h
      · simp at hk
      · rw [ih h]

theorem upsert_of_not_mem {α β : Type} [BEq α] [LawfulBEq α] {key : α}
    {entries : List (α × β)} (h : key ∉ entries.map (·.1)) (value : β) :
    upsert key value entries = entries ++ [(key, value)] := by
  induction entries with
  | nil => rfl
  | cons entry rest ih =>
    obtain ⟨k, v⟩ := entry
    simp only [List.map_cons, List.mem_cons, not_or] at h
    have hk : (k == key) = false := by simpa using Ne.symm h.1
    simp [upsert, hk, ih h.2]

/-- Setting a key adds no second entry for it. -/
theorem nodup_upsert {α β : Type} [BEq α] [LawfulBEq α] (key : α) (value : β)
    {entries : List (α × β)} (h : (entries.map (·.1)).Nodup) :
    ((upsert key value entries).map (·.1)).Nodup := by
  by_cases hk : key ∈ entries.map (·.1)
  · rwa [map_fst_upsert_of_mem hk]
  · rw [upsert_of_not_mem hk]
    simp only [List.map_append, List.map_cons, List.map_nil]
    exact List.nodup_append.mpr ⟨h, by simp, by
      intro a ha b hb
      simp only [List.mem_singleton] at hb
      subst hb
      rintro rfl
      exact hk ha⟩

/-- An entry after a key is set is the new one or an earlier one. -/
theorem mem_upsert {α β : Type} [BEq α] [LawfulBEq α] {key : α} {value : β} {entry : α × β}
    {entries : List (α × β)} (member : entry ∈ upsert key value entries) :
    entry = (key, value) ∨ entry ∈ entries := by
  induction entries with
  | nil => exact .inl (List.mem_singleton.mp member)
  | cons first rest ih =>
    obtain ⟨k, v⟩ := first
    simp only [upsert] at member
    split at member
    · next same =>
      rw [eq_of_beq same] at member
      exact (List.mem_cons.mp member).imp_right (List.mem_cons_of_mem _)
    · rcases List.mem_cons.mp member with head | tail
      · exact .inr (List.mem_cons.mpr (.inl head))
      · exact (ih tail).imp_right (List.mem_cons_of_mem _)

/-- A key that is set is found with its value, every other key as before. -/
theorem find_upsert {α β : Type} [BEq α] [LawfulBEq α] (key other : α) (value : β)
    (entries : List (α × β)) :
    (upsert key value entries).find? (·.1 == other) =
      if key == other then some (key, value) else entries.find? (·.1 == other) := by
  induction entries with
  | nil => simp only [upsert, List.find?_cons, List.find?_nil]; split <;> simp_all
  | cons first rest ih =>
    obtain ⟨k, v⟩ := first
    simp only [upsert]
    split
    · next same =>
      obtain rfl := eq_of_beq same
      simp only [List.find?_cons]
      split <;> simp_all
    · next apart =>
      simp only [List.find?_cons, ih]
      split
      · next same =>
        obtain rfl := eq_of_beq same
        have swapped : ¬ (key == k) = true := fun same => apart (by rw [eq_of_beq same]; exact BEq.rfl)
        rw [if_neg swapped]
      · rfl

/-- Entries are made distinct from the front: with one more at the end, its key is set. -/
theorem distinctKeys_concat {α β : Type} [BEq α] (entries : List (α × β)) (key : α) (value : β) :
    distinctKeys (entries ++ [(key, value)]) = upsert key value (distinctKeys entries) := by
  simp [distinctKeys]

section
variable {α β : Type} [BEq α] [LawfulBEq α]

theorem nodup_distinctKeys (entries : List (α × β)) : ((distinctKeys entries).map (·.1)).Nodup :=
  List.foldlRecOn (motive := fun kept : List (α × β) => (kept.map (·.1)).Nodup) entries _ (by simp)
    fun _ distinct _ _ => nodup_upsert _ _ distinct

theorem mem_distinctKeys {entry : α × β} {entries : List (α × β)}
    (member : entry ∈ distinctKeys entries) : entry ∈ entries := by
  have each : ∀ entry ∈ distinctKeys entries, entry ∈ entries :=
    List.foldlRecOn (motive := fun kept : List (α × β) => ∀ entry ∈ kept, entry ∈ entries) entries _
      (by simp) fun _ former new member _ either =>
        (mem_upsert either).elim (fun same => by rwa [same]) (former _)
  exact each entry member

/-- Of the entries with a key the last one counts. -/
theorem find_distinctKeys (key : α) (entries : List (α × β)) :
    (distinctKeys entries).find? (·.1 == key) = entries.reverse.find? (·.1 == key) := by
  obtain ⟨backwards, rfl⟩ : ∃ backwards, entries = backwards.reverse := ⟨entries.reverse, by simp⟩
  induction backwards with
  | nil => rfl
  | cons last before ih =>
    rw [List.reverse_cons, distinctKeys_concat, find_upsert, ih, List.reverse_concat, List.find?_cons]
    cases last.1 == key <;> rfl

/-- Of entries with different keys none is lost. -/
theorem distinctKeys_of_nodup {entries : List (α × β)} (distinct : (entries.map (·.1)).Nodup) :
    distinctKeys entries = entries := by
  obtain ⟨backwards, rfl⟩ : ∃ backwards, entries = backwards.reverse := ⟨entries.reverse, by simp⟩
  induction backwards with
  | nil => rfl
  | cons last before ih =>
    rw [List.reverse_cons, List.map_append, List.nodup_append] at distinct
    obtain ⟨former, -, apart⟩ := distinct
    rw [List.reverse_cons, distinctKeys_concat, ih former]
    exact upsert_of_not_mem (fun member => apart _ member _ (List.mem_singleton.mpr rfl) rfl) _

end

/-- The entry with a key is found where no two entries have the same one. -/
theorem find_of_mem {α β : Type} [BEq α] [LawfulBEq α] {entries : List (α × β)} {key : α} {value : β}
    (distinct : (entries.map (·.1)).Nodup) (member : (key, value) ∈ entries) :
    entries.find? (·.1 == key) = some (key, value) := by
  induction entries with
  | nil => cases member
  | cons entry entries ih =>
    obtain ⟨first, others⟩ := List.nodup_cons.mp distinct
    rcases List.mem_cons.mp member with rfl | rest
    · simp
    · have apart : entry.1 ≠ key := by
        rintro rfl
        exact first (List.mem_map.mpr ⟨_, rest, rfl⟩)
      simpa [apart] using ih others rest

namespace Json

/-- The value of a key of an object. -/
def lookup? (entries : List (Text × Json)) (key : Text) : Option Json :=
  (entries.find? (·.1 == key)).map (·.2)

/-- The name of a value's kind in messages. -/
def kindName : Json → Text
  | null => "NoneType"
  | bool _ => "bool"
  | int _ => "int"
  | float _ => "float"
  | text _ => "str"
  | array _ => "list"
  | object _ => "dict"

end Json
end TableGate
