import TableGate.Proofs.LiteralContainment

/-! Statements as SQLite reads them. The reader knows the four quotes and nothing of how statements
are printed; it tells apart what stands outside quotes, the names in quotes and the string
literals. Printed fragments are read one after the other where characters outside quotes stand
between them. -/
namespace TableGate.StatementReading
open LiteralContainment NumberText QuotedRuns TextFacts

/-- What closes the quoted run that a character opens. -/
def closer? (c : Char) : Option Char :=
  if c = '\'' ∨ c = '"' ∨ c = '`' then some c else if c = '[' then some ']' else none

/-- Where a reader of a statement stands, with what it has read of a run. -/
inductive Position where
  | outside
  | inside (opener : Char) (body : Text)
  | closed (opener : Char) (body : Text)
  deriving DecidableEq, Repr

/-- What a reader of a statement has seen: the runs, each with its opening quote, and the
characters outside. -/
structure Statement where
  position : Position := .outside
  runs : List (Char × Text) := []
  outside : Text := []
  deriving DecidableEq, Repr

namespace Statement

/-- A run that has been closed is complete as soon as it does not go on. -/
def settle (seen : Statement) : Statement :=
  match seen.position with
  | .closed opener body => { seen with position := .outside, runs := seen.runs ++ [(opener, body)] }
  | _ => seen

/-- A character outside the runs. -/
def readOutside (seen : Statement) (c : Char) : Statement :=
  match closer? c with
  | some _ => { seen with position := .inside c [] }
  | none => { seen with outside := seen.outside ++ [c] }

/-- One character read. A quote that is written twice stands for itself; brackets have no such
form. -/
def read (seen : Statement) (c : Char) : Statement :=
  match seen.position with
  | .outside => seen.readOutside c
  | .inside opener body =>
    if closer? opener = some c then { seen with position := .closed opener body }
    else { seen with position := .inside opener (body ++ [c]) }
  | .closed opener body =>
    if closer? opener = some c ∧ c = opener then
      { seen with position := .inside opener (body ++ [c]) }
    else seen.settle.readOutside c

/-- The names in quotes. -/
def identifiers (seen : Statement) : List Text :=
  (seen.runs.filter fun run => run.1 ≠ '\'').map (·.2)

end Statement

/-- A text read from its start to its end. -/
def scan (text : Text) : Statement := (text.foldl Statement.read {}).settle

/-- A character that neither opens a run nor ends a statement. -/
def IsPlain (c : Char) : Prop := closer? c = none ∧ c ≠ ';'

instance : DecidablePred IsPlain := fun _ => inferInstanceAs (Decidable (_ ∧ _))

/-- A text of plain characters. -/
def PlainText (text : Text) : Prop := ∀ c ∈ text, IsPlain c

instance : DecidablePred PlainText := fun text => List.decidableBAll IsPlain text

/-- A part of a statement that a reader outside the runs leaves outside them, with no other names
than those allowed and no end of a statement. -/
def Fragment (allowed : Text → Prop) (text : Text) : Prop :=
  ∀ runs outside, ∃ more beyond,
    (text.foldl Statement.read ⟨.outside, runs, outside⟩).settle =
      ⟨.outside, runs ++ more, outside ++ beyond⟩ ∧
    (∀ run ∈ more, run.1 = '\'' ∨ allowed run.2) ∧ ';' ∉ beyond

variable {allowed : Text → Prop} {text separator rest : Text} {c : Char} {seen : Statement}

/-! ### Fragments -/

/-- A character that opens no run is read alike before and after a closed run is complete. -/
theorem read_settle (plain : closer? c = none) : seen.settle.read c = seen.read c := by
  obtain ⟨position, runs, outside⟩ := seen
  cases position with
  | outside => rfl
  | inside opener body => rfl
  | closed opener body =>
    have apart : ¬ (closer? opener = some c ∧ c = opener) := by
      rintro ⟨closes, rfl⟩
      rw [plain] at closes
      cases closes
    simp [Statement.read, Statement.settle, apart]

theorem plain_read (plain : ∀ c ∈ text, closer? c = none) (runs : List (Char × Text)) (outside : Text) :
    text.foldl Statement.read ⟨.outside, runs, outside⟩ = ⟨.outside, runs, outside ++ text⟩ := by
  induction text generalizing outside with
  | nil => simp
  | cons c text ih =>
    obtain ⟨first, others⟩ := List.forall_mem_cons.mp plain
    have one : Statement.read ⟨.outside, runs, outside⟩ c = ⟨.outside, runs, outside ++ [c]⟩ := by
      simp [Statement.read, Statement.readOutside, first]
    rw [List.foldl_cons, one, ih others, List.append_assoc]
    rfl

theorem plain_fragment (plain : PlainText text) : Fragment allowed text := by
  intro runs outside
  refine ⟨[], text, ?_, by simp, fun member => (plain _ member).2 rfl⟩
  rw [plain_read fun c member => (plain c member).1, List.append_nil]
  rfl

/-- Two fragments with plain characters between them are read one after the other. -/
theorem fragment_append (first : Fragment allowed text) (some : separator ≠ [])
    (plain : PlainText separator) (second : Fragment allowed rest) :
    Fragment allowed (text ++ (separator ++ rest)) := by
  intro runs outside
  obtain ⟨more, beyond, read, names, single⟩ := first runs outside
  obtain ⟨others, further, readRest, otherNames, alone⟩ :=
    second (runs ++ more) (outside ++ beyond ++ separator)
  have bare : ∀ c ∈ separator, closer? c = none := fun c member => (plain c member).1
  have between : separator.foldl Statement.read (text.foldl Statement.read ⟨.outside, runs, outside⟩) =
      ⟨.outside, runs ++ more, outside ++ beyond ++ separator⟩ := by
    cases separator with
    | nil => exact absurd rfl some
    | cons c separator =>
      rw [List.foldl_cons, ← read_settle (bare c (by simp)), ← List.foldl_cons, read, plain_read bare]
  refine ⟨more ++ others, beyond ++ (separator ++ further), ?_, ?_, ?_⟩
  · rw [List.foldl_append, List.foldl_append, between, readRest]
    simp only [List.append_assoc]
  · exact List.forall_mem_append.mpr ⟨names, otherNames⟩
  · have free : ';' ∉ separator := fun member => (plain _ member).2 rfl
    simp [single, free, alone]

theorem fragment_lead (plain : PlainText separator) (second : Fragment allowed rest) :
    Fragment allowed (separator ++ rest) := by
  cases separator with
  | nil => exact second
  | cons c separator =>
    have empty : Fragment allowed [] := plain_fragment (by decide)
    exact fragment_append empty (List.cons_ne_nil _ _) plain second

theorem fragment_trail (first : Fragment allowed text) (plain : PlainText separator) :
    Fragment allowed (text ++ separator) := by
  cases separator with
  | nil => rwa [List.append_nil]
  | cons c separator =>
    have empty : Fragment allowed [] := plain_fragment (by decide)
    have joined := fragment_append first (List.cons_ne_nil c separator) plain empty
    rwa [List.append_nil] at joined

/-- A fragment in brackets. -/
theorem fragment_enclosed (inside : Fragment allowed text) : Fragment allowed ('(' :: text ++ ")") :=
  fragment_trail (fragment_lead (by decide : PlainText ['(']) inside) (by decide)

/-- Fragments with plain characters between neighbours. -/
theorem fragment_join (some : separator ≠ []) (plain : PlainText separator) {pieces : List Text}
    (each : ∀ piece ∈ pieces, Fragment allowed piece) : Fragment allowed (Text.join separator pieces) := by
  induction pieces with
  | nil => exact plain_fragment (by decide : PlainText [])
  | cons piece pieces ih =>
    obtain ⟨first, others⟩ := List.forall_mem_cons.mp each
    cases pieces with
    | nil => exact first
    | cons next pieces =>
      rw [Text.join, List.append_assoc]
      exact fragment_append first some plain (ih others)

/-! ### Runs -/

/-- A run is read as one if its body, read inside, ends inside. -/
private theorem run_read {opener closer : Char} {body content : Text} (closes : closer? opener = some closer)
    (runs : List (Char × Text)) (outside : Text)
    (inside : body.foldl Statement.read ⟨.inside opener [], runs, outside⟩ =
      ⟨.inside opener content, runs, outside⟩) :
    ((opener :: body ++ [closer]).foldl Statement.read ⟨.outside, runs, outside⟩).settle =
      ⟨.outside, runs ++ [(opener, content)], outside⟩ := by
  have opened : Statement.read ⟨.outside, runs, outside⟩ opener =
      ⟨.inside opener [], runs, outside⟩ := by
    simp [Statement.read, Statement.readOutside, closes]
  rw [List.cons_append, List.foldl_cons, opened, List.foldl_append, inside]
  simp [Statement.read, Statement.settle, closes]

/-- A name without the closing quote is read as it is. -/
theorem name_fragment {opener closer : Char} {name : Text} (closes : closer? opener = some closer)
    (free : closer ∉ name) (known : allowed name) :
    Fragment allowed (opener :: name ++ [closer]) := by
  intro runs outside
  have inside (front : Text) : name.foldl Statement.read ⟨.inside opener front, runs, outside⟩ =
      ⟨.inside opener (front ++ name), runs, outside⟩ := by
    clear known
    induction name generalizing front with
    | nil => simp
    | cons c name ih =>
      simp only [List.mem_cons, not_or] at free
      have one : Statement.read ⟨.inside opener front, runs, outside⟩ c =
          ⟨.inside opener (front ++ [c]), runs, outside⟩ := by
        simp [Statement.read, closes, free.1]
      rw [List.foldl_cons, one, ih free.2, List.append_assoc]
      rfl
  refine ⟨[(opener, name)], [], ?_, by simp [known], by simp⟩
  rw [run_read closes runs outside (inside []), List.append_nil]
  rfl

/-! ### Literals -/

/-- The body of a string literal ends inside the literal for the reader of statements, too. -/
private theorem inert_inside {body : Text} (inert : Inert (literalQuoting .sqlite) '\'' body)
    (runs : List (Char × Text)) (outside : Text) :
    ∃ content, body.foldl Statement.read ⟨.inside '\'' [], runs, outside⟩ =
      ⟨.inside '\'' content, runs, outside⟩ := by
  -- Both readers are followed at once; one that leaves the run cannot have seen so little at the end.
  have both : ∀ (body content : Text),
      (body.foldl (literalQuoting .sqlite).read ⟨.inside '\'', 0, []⟩ = ⟨.inside '\'', 0, []⟩ →
        ∃ after, body.foldl Statement.read ⟨.inside '\'' content, runs, outside⟩ =
          ⟨.inside '\'' after, runs, outside⟩) ∧
      (body.foldl (literalQuoting .sqlite).read ⟨.closed '\'', 0, []⟩ = ⟨.inside '\'', 0, []⟩ →
        ∃ after, body.foldl Statement.read ⟨.closed '\'' content, runs, outside⟩ =
          ⟨.inside '\'' after, runs, outside⟩) := by
    intro body
    induction body with
    | nil =>
      refine fun content => ⟨fun _ => ⟨content, rfl⟩, fun read => ?_⟩
      cases read
    | cons c body ih =>
      intro content
      by_cases quote : c = '\''
      · subst quote
        exact ⟨fun read => (ih content).2 read, fun read => (ih (content ++ ['\''])).1 read⟩
      · constructor
        · intro read
          have stays : (literalQuoting .sqlite).read ⟨.inside '\'', 0, []⟩ c = ⟨.inside '\'', 0, []⟩ := by
            simp [Quoting.read, literalQuoting, quote]
          have other : Statement.read ⟨.inside '\'' content, runs, outside⟩ c =
              ⟨.inside '\'' (content ++ [c]), runs, outside⟩ := by
            simp [Statement.read, closer?, Ne.symm quote]
          rw [List.foldl_cons, stays] at read
          rw [List.foldl_cons, other]
          exact (ih _).1 read
        · intro read
          have leaves : (literalQuoting .sqlite).read ⟨.closed '\'', 0, []⟩ c =
              (literalQuoting .sqlite).readOutside ⟨.closed '\'', 0, []⟩ c := by
            simp [Quoting.read, quote]
          have more : 0 < ((literalQuoting .sqlite).readOutside ⟨.closed '\'', 0, []⟩ c).seen :=
            Nat.zero_lt_of_lt (seen_readOutside _ c)
          rw [List.foldl_cons, leaves] at read
          exact absurd (unseen_of_inside read) (Nat.ne_of_gt more)
  exact (both body []).1 (inert 0 [])

theorem bare_plain (bare : isBare c = true) : IsPlain c := by
  have apart : ∀ other ∈ ['\'', '"', '`', '[', ';'], isBare other = false := each_of_all (by decide)
  have ne (other : Char) (member : other ∈ ['\'', '"', '`', '[', ';']) : c ≠ other := by
    rintro rfl
    rw [apart c member] at bare
    cases bare
  refine ⟨?_, ne ';' (by simp)⟩
  simp [closer?, ne '\'' (by simp), ne '"' (by simp), ne '`' (by simp), ne '[' (by simp)]

/-- A literal is read as plain characters with one string literal behind them at most. -/
theorem literal_fragment (form : Form .sqlite text) : Fragment allowed text := by
  cases form with
  | word plain =>
    exact plain_fragment fun c member => bare_plain (by simp [isBare, (plain c member).1])
  | number spelled =>
    exact plain_fragment fun c member => bare_plain (number_bare spelled c member)
  | run lead body mark letters opens inert =>
    have quote : mark = '\'' := by
      by_contra other
      simp [literalQuoting, other] at opens
    subst quote
    intro runs outside
    have plain : PlainText lead := fun c member =>
      bare_plain (by simp [isBare, Char.isAlphanum, letters c member])
    obtain ⟨content, inside⟩ := inert_inside inert runs (outside ++ lead)
    refine ⟨[('\'', content)], lead, ?_, by simp, fun member => (plain _ member).2 rfl⟩
    rw [List.append_assoc, List.foldl_append, plain_read fun c member => (plain c member).1,
      run_read rfl runs _ inside]

end TableGate.StatementReading
