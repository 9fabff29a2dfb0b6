import Mathlib.Data.List.Forall2
import TableGate.Log
import TableGate.Proofs.Fallible

/-! What an operation guarantees: a property of the value that it yields, or else a class of the
fault that it fails with. A sequence of operations guarantees what its last step does, as long as
every step fails within the class. Where faults of a kind come from is told by the first step that
has one. -/
namespace TableGate.Contracts
open Fallible

/-- A result is a good value or an allowed fault. -/
def Ensures {α : Type} (good : α → Prop) (allowed : Fault → Prop) : Except Fault α → Prop
  | .ok value => good value
  | .error fault => allowed fault

/-- A value does not fit its place; the request is answered with what it is. -/
def IsValue (fault : Fault) : Prop := ∃ problem, fault = .value problem

variable {α β : Type} {good : α → Prop} {other : β → Prop} {allowed : Fault → Prop}
  {first : Except Fault α} {items : List α}

namespace Ensures

theorem ok {value : α} (holds : Ensures good allowed first) (found : first = .ok value) : good value := by
  rw [found] at holds
  exact holds

theorem fault {fault : Fault} (holds : Ensures good allowed first) (raised : first = .error fault) :
    allowed fault := by
  rw [raised] at holds
  exact holds

theorem mono {better : α → Prop} {wider : Fault → Prop} (holds : Ensures good allowed first)
    (value : ∀ value, good value → better value) (fault : ∀ fault, allowed fault → wider fault) :
    Ensures better wider first := by
  cases first with
  | error raised => exact fault raised holds
  | ok found => exact value found holds

theorem bind {next : α → Except Fault β} (holds : Ensures good allowed first)
    (step : ∀ value, good value → Ensures other allowed (next value)) :
    Ensures other allowed (first >>= next) := by
  cases first with
  | error raised => exact holds
  | ok found => exact step found holds

theorem map {f : α → β} (holds : Ensures good allowed first)
    (step : ∀ value, good value → other (f value)) : Ensures other allowed (first.map f) := by
  cases first with
  | error raised => exact holds
  | ok found => exact step found holds

/-- What an operation guarantees for every item it guarantees for the list of its values. -/
theorem mapM {f : α → Except Fault β} (each : ∀ item ∈ items, Ensures other allowed (f item)) :
    Ensures (fun values => ∀ value ∈ values, other value) allowed (items.mapM f) := by
  induction items with
  | nil => exact fun _ => nofun
  | cons item items ih =>
    obtain ⟨head, tail⟩ := List.forall_mem_cons.mp each
    rw [List.mapM_cons]
    refine head.bind fun value valid => (ih tail).bind fun values rest => ?_
    exact List.forall_mem_cons.mpr ⟨valid, rest⟩

/-- An operation on every item of a list fails only as it does on an item. -/
theorem each {f : α → Except Fault β} (each : ∀ item ∈ items, Ensures (fun _ => True) allowed (f item)) :
    Ensures (fun _ => True) allowed (items.mapM f) :=
  (mapM each).mono (fun _ _ => trivial) fun _ => id

/-- A check of a list fails only as the check of an item does. -/
theorem forM {f : α → Except Fault PUnit}
    (each : ∀ item ∈ items, Ensures (fun _ => True) allowed (f item)) :
    Ensures (fun _ => True) allowed (items.forM f) := by
  induction items with
  | nil => trivial
  | cons item items ih =>
    obtain ⟨head, tail⟩ := List.forall_mem_cons.mp each
    exact head.bind fun _ _ => ih tail

/-- What every step keeps holds after all of them. -/
theorem foldlM {state : Type} {kept : state → Prop} {f : state → α → Except Fault state} {start : state}
    (initial : kept start) (step : ∀ current item, kept current → Ensures kept allowed (f current item)) :
    Ensures kept allowed (items.foldlM f start) := by
  induction items generalizing start with
  | nil => exact initial
  | cons item items ih =>
    rw [List.foldlM_cons]
    exact (step start item initial).bind fun _ next => ih next

end Ensures

/-! ### The first fault -/

/-- A result is a fault of a kind. -/
def FailsWith {α : Type} (kind : Fault → Prop) (result : Except Fault α) : Prop :=
  ∃ fault, result = .error fault ∧ kind fault

namespace FailsWith

variable {kind : Fault → Prop}

@[simp] theorem ok_iff {value : α} : FailsWith kind (.ok value) ↔ False := by
  simp [FailsWith]

@[simp] theorem error_iff {fault : Fault} :
    FailsWith kind (.error fault : Except Fault α) ↔ kind fault := by
  simp [FailsWith]

/-- A sequence fails with its first operation, or with the second one behind a value. -/
theorem bind_iff {next : α → Except Fault β} :
    FailsWith kind (first >>= next) ↔
      FailsWith kind first ∨ ∃ value, first = .ok value ∧ FailsWith kind (next value) := by
  cases first <;> simp [FailsWith, bind, Except.bind]

/-- Making something of a value does not fail. -/
theorem made_iff {f : α → β} :
    FailsWith kind (first >>= fun value => .ok (f value)) ↔ FailsWith kind first := by
  simp [bind_iff]

theorem map_iff {f : α → β} : FailsWith kind (first.map f) ↔ FailsWith kind first := by
  cases first <;> simp [FailsWith, Except.map]

/-- An operation on every item fails with the first item that it fails for. -/
theorem mapM_iff {f : α → Except Fault β} :
    FailsWith kind (items.mapM f) ↔ ∃ before item after, items = before ++ item :: after ∧
      (∀ earlier ∈ before, ∃ value, f earlier = .ok value) ∧ FailsWith kind (f item) := by
  induction items with
  | nil => simp [pure, Except.pure]
  | cons head items ih =>
    rw [List.mapM_cons, bind_iff]
    constructor
    · rintro (own | ⟨value, yields, later⟩)
      · exact ⟨[], head, items, rfl, nofun, own⟩
      · have tail : FailsWith kind (items.mapM f) := by
          simpa [bind_iff, pure, Except.pure] using later
        obtain ⟨before, item, after, rfl, fine, own⟩ := ih.mp tail
        exact ⟨head :: before, item, after, rfl, List.forall_mem_cons.mpr ⟨⟨value, yields⟩, fine⟩, own⟩
    · rintro ⟨before, item, after, same, fine, own⟩
      cases before with
      | nil =>
        cases same
        exact .inl own
      | cons earlier before =>
        cases same
        obtain ⟨⟨value, yields⟩, fine⟩ := List.forall_mem_cons.mp fine
        refine .inr ⟨value, yields, ?_⟩
        have tail := ih.mpr ⟨before, item, after, rfl, fine, own⟩
        simpa [bind_iff, pure, Except.pure] using tail

end FailsWith

/-- An operation whose faults are all of other kinds does not fail with one of a kind. -/
theorem Ensures.not_failsWith {kind : Fault → Prop} (holds : Ensures good allowed first)
    (apart : ∀ fault, allowed fault → ¬ kind fault) : ¬ FailsWith kind first := by
  rintro ⟨fault, raised, own⟩
  exact apart fault (holds.fault raised) own

end TableGate.Contracts
