import Mathlib.Data.List.Forall2
import TableGate.Fault

/-! Results that may be a fault. A sequence of operations yields a value exactly when each of
them does, and an operation on every item of a list yields the values of all items in order or
the fault of one of them. -/
namespace TableGate.Fallible

theorem bind_eq_ok {x : Except Fault α} {f : α → Except Fault β} {b : β} :
    (x >>= f) = .ok b ↔ ∃ a, x = .ok a ∧ f a = .ok b := by
  cases x <;> simp [bind, Except.bind]

theorem map_eq_ok {ε : Type} {x : Except ε α} {f : α → β} {b : β} :
    x.map f = .ok b ↔ ∃ a, x = .ok a ∧ f a = b := by
  cases x <;> simp [Except.map]

theorem map_eq_error {x : Except Fault α} {f : α → β} {fault : Fault} :
    x.map f = .error fault ↔ x = .error fault := by
  cases x <;> simp [Except.map]

/-- A list of values is what an operation yields for a list of items exactly when it holds the
value of each item at the place of the item. -/
theorem mapM_eq_ok_iff {f : α → Except Fault β} {items : List α} {values : List β} :
    items.mapM f = .ok values ↔ List.Forall₂ (fun item value => f item = .ok value) items values := by
  induction items generalizing values with
  | nil => simp [pure, Except.pure, eq_comm]
  | cons item items ih =>
    simp only [List.mapM_cons, bind_eq_ok, pure, Except.pure, Except.ok.injEq]
    constructor
    · rintro ⟨value, head, rest, tail, rfl⟩
      exact .cons head (ih.mp tail)
    · intro each
      cases each with
      | cons head tail => exact ⟨_, head, _, ih.mpr tail, rfl⟩

/-- In related lists every item has a partner in the other one. -/
theorem partners {α β : Type} {R : α → β → Prop} {items : List α} {values : List β}
    (paired : List.Forall₂ R items values) :
    (∀ item ∈ items, ∃ value ∈ values, R item value) ∧
      ∀ value ∈ values, ∃ item ∈ items, R item value := by
  induction paired with
  | nil => simp
  | @cons item value items values head _ ih =>
    constructor
    · refine List.forall_mem_cons.mpr ⟨⟨value, by simp, head⟩, fun other member => ?_⟩
      obtain ⟨partner, listed, own⟩ := ih.1 other member
      exact ⟨partner, List.mem_cons_of_mem _ listed, own⟩
    · refine List.forall_mem_cons.mpr ⟨⟨item, by simp, head⟩, fun other member => ?_⟩
      obtain ⟨partner, listed, own⟩ := ih.2 other member
      exact ⟨partner, List.mem_cons_of_mem _ listed, own⟩

/-- What is made of every value is made of all values at the end. -/
theorem mapM_map (f : α → Except Fault β) (g : β → γ) (items : List α) :
    items.mapM (fun item => (f item).map g) = (items.mapM f).map (List.map g) := by
  induction items with
  | nil => rfl
  | cons item items ih =>
    rw [List.mapM_cons, List.mapM_cons, ih]
    cases f item with
    | error fault => rfl
    | ok value => cases items.mapM f <;> rfl

/-- What follows an operation on every item yields what the whole way yields for the items. -/
theorem mapM_follow {f : α → Except Fault β} {g : β → Except Fault γ} {h : α → Except Fault γ}
    {items : List α} {values : List β} {results : List γ} (first : items.mapM f = .ok values)
    (whole : items.mapM h = .ok results)
    (each : ∀ item value result, f item = .ok value → h item = .ok result → g value = .ok result) :
    values.mapM g = .ok results := by
  rw [mapM_eq_ok_iff] at first whole ⊢
  induction first generalizing results with
  | nil =>
    cases whole
    exact .nil
  | cons head _ ih =>
    cases whole with
    | cons result rest => exact .cons (each _ _ _ head result) (ih rest)

/-- A check of a list passes exactly when it passes for every item. -/
theorem forM_eq_ok {f : α → Except Fault PUnit} {items : List α} :
    items.forM f = .ok ⟨⟩ ↔ ∀ item ∈ items, f item = .ok ⟨⟩ := by
  induction items with
  | nil => simp [List.forM, pure, Except.pure]
  | cons item items ih =>
    have step : (item :: items).forM f = f item >>= fun _ => items.forM f := rfl
    simp only [step, bind_eq_ok, ih, List.forall_mem_cons]
    constructor
    · rintro ⟨_, head, tail⟩
      exact ⟨head, tail⟩
    · rintro ⟨head, tail⟩
      exact ⟨_, head, tail⟩

/-- An operation that yields a value for every item yields them all. -/
theorem mapM_total {f : α → Except Fault β} {items : List α}
    (total : ∀ item ∈ items, ∃ value, f item = .ok value) : ∃ values, items.mapM f = .ok values := by
  induction items with
  | nil => exact ⟨[], rfl⟩
  | cons item items ih =>
    obtain ⟨value, head⟩ := total item (by simp)
    obtain ⟨values, tail⟩ := ih (fun other member => total other (by simp [member]))
    exact ⟨value :: values, by simp [head, tail, bind, Except.bind, pure, Except.pure]⟩

end TableGate.Fallible
