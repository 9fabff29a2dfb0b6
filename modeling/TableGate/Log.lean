import TableGate.Fault

/-! What happens besides the result of an operation: warnings and errors in the order in
which they are reported. An operation that fails keeps what it has reported until then. -/

namespace TableGate

/-- How much a record matters. -/
inductive Severity where
  | warning | error
  deriving DecidableEq, Repr

/-- A reported warning or error. -/
structure LogRecord where
  severity : Severity
  message : Text
  deriving DecidableEq, Repr

/-- A result with the records reported on the way to it. -/
structure Logged (α : Type) where
  records : List LogRecord
  result : Except Fault α

namespace Logged

/-- The records of a result come before those of what is done with it. -/
def andThen {α β : Type} (first : Logged α) (next : α → Logged β) : Logged β :=
  match first.result with
  | .ok value => ⟨first.records ++ (next value).records, (next value).result⟩
  | .error fault => ⟨first.records, .error fault⟩

instance : Monad Logged where
  pure value := ⟨[], .ok value⟩
  bind := andThen

/-- A result without records. -/
def lift {α : Type} (result : Except Fault α) : Logged α := ⟨[], result⟩

instance : MonadLift (Except Fault) Logged := ⟨lift⟩

/-- A record and nothing else. -/
def report (severity : Severity) (message : Text) : Logged Unit := ⟨[⟨severity, message⟩], .ok ()⟩

/-- A warning. -/
def warn (message : Text) : Logged Unit := report .warning message

/-- An error that does not make the operation fail. -/
def reportError (message : Text) : Logged Unit := report .error message

@[simp] theorem pure_bind {α β : Type} (value : α) (next : α → Logged β) :
    (pure value : Logged α) >>= next = next value := by
  simp [bind, pure, andThen]

@[simp] theorem lift_ok_bind {α β : Type} (value : α) (next : α → Logged β) :
    lift (.ok value) >>= next = next value := by
  simp [bind, lift, andThen]

@[simp] theorem lift_error_bind {α β : Type} (fault : Fault) (next : α → Logged β) :
    lift (.error fault) >>= next = lift (.error fault) := by
  simp [bind, lift, andThen]

theorem id_map {α : Type} (logged : Logged α) : id <$> logged = logged := by
  rcases logged with ⟨records, _ | _⟩ <;> simp [Functor.map, andThen]

/-- It does not matter how a sequence of operations is grouped. -/
theorem bind_assoc {α β γ : Type} (first : Logged α) (second : α → Logged β)
    (third : β → Logged γ) :
    first >>= second >>= third = first >>= fun value => second value >>= third := by
  rcases first with ⟨records, fault | value⟩
  · rfl
  · simp only [bind, andThen]
    rcases (second value).result with fault | next <;> simp

instance : LawfulMonad Logged := LawfulMonad.mk' Logged id_map pure_bind bind_assoc

end Logged

namespace LogRecord

/-- A record as one line. -/
def line (record : LogRecord) : Text :=
  (match record.severity with
    | .warning => "WARNING: "
    | .error => "ERROR: ") ++ record.message

end LogRecord
end TableGate
