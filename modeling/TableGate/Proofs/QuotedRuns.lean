import TableGate.Sql.Engine

/-! Quoted runs as a database reads them, one character after the other. The reader knows which
characters open a run and what closes it; it does not know how literals are printed. -/
namespace TableGate.QuotedRuns

/-- How an engine reads quoted runs: the character that closes the run which a character opens,
and whether a backslash guards the character behind it from closing a run. -/
structure Quoting where
  closer : Char → Option Char
  guarded : Bool

/-- The runs of string literals. MariaDB reads either quote, with backslash escapes; the other
engines read single quotes alone, and a backslash is a character like any other. -/
def literalQuoting : Engine → Quoting
  | .mariadb => {
      closer := fun c => if c = '"' ∨ c = '\'' then some c else none
      guarded := true }
  | _ => {
      closer := fun c => if c = '\'' then some c else none
      guarded := false }

/-- Where a reader stands. Behind a closing mark it depends on the next character whether the
run has ended: two marks in a row are one mark inside the run. -/
inductive Place where
  | outside
  | inside (closer : Char)
  | escaped (closer : Char)
  | closed (closer : Char)
  deriving DecidableEq, Repr

/-- Whether a text that ends at a place has no open run. -/
def Place.isOutside : Place → Bool
  | outside | closed _ => true
  | inside _ | escaped _ => false

/-- What a reader has seen: where it stands, the number of runs, and the characters outside. -/
structure Reading where
  place : Place := .outside
  runs : Nat := 0
  outside : Text := []
  deriving DecidableEq, Repr

namespace Quoting

/-- A character that is read outside a run opens one or stands for itself. -/
def readOutside (quoting : Quoting) (reading : Reading) (c : Char) : Reading :=
  match quoting.closer c with
  | some closer => { reading with place := .inside closer, runs := reading.runs + 1 }
  | none => { reading with place := .outside, outside := reading.outside ++ [c] }

/-- One character read. -/
def read (quoting : Quoting) (reading : Reading) (c : Char) : Reading :=
  match reading.place with
  | .outside => quoting.readOutside reading c
  | .inside closer =>
    if c = '\\' ∧ quoting.guarded then { reading with place := .escaped closer }
    else if c = closer then { reading with place := .closed closer }
    else reading
  | .escaped closer => { reading with place := .inside closer }
  | .closed closer =>
    if c = closer then { reading with place := .inside closer } else quoting.readOutside reading c

/-- A text read from its start. -/
def scan (quoting : Quoting) (text : Text) : Reading := text.foldl quoting.read {}

end Quoting

/-- The body of a run: a reader inside the run is inside it afterwards, and has met no other. -/
def Inert (quoting : Quoting) (closer : Char) (body : Text) : Prop :=
  ∀ runs outside, body.foldl quoting.read ⟨.inside closer, runs, outside⟩ =
    ⟨.inside closer, runs, outside⟩

variable {quoting : Quoting} {closer c : Char} {body text : Text}

theorem inert_append {rest : Text} (first : Inert quoting closer body)
    (second : Inert quoting closer rest) : Inert quoting closer (body ++ rest) := by
  intro runs outside
  rw [List.foldl_append, first, second]

theorem inert_flatMap {write : Char → Text} (each : ∀ c ∈ text, Inert quoting closer (write c)) :
    Inert quoting closer (text.flatMap write) := by
  induction text with
  | nil => exact fun _ _ => rfl
  | cons c text ih =>
    rw [List.flatMap_cons]
    exact inert_append (each c (by simp)) (ih fun d member => each d (by simp [member]))

private theorem unguarded (plain : c ≠ '\\' ∨ quoting.guarded = false) :
    ¬ (c = '\\' ∧ quoting.guarded = true) := by
  rintro ⟨rfl, guarded⟩
  simp [guarded] at plain

/-- A character that neither closes the run nor guards another is inert. -/
theorem inert_char (other : c ≠ closer) (plain : c ≠ '\\' ∨ quoting.guarded = false) :
    Inert quoting closer [c] := by
  intro runs outside
  simp [Quoting.read, unguarded plain, other]

/-- A closing mark written twice is inert. -/
theorem inert_doubled (plain : closer ≠ '\\' ∨ quoting.guarded = false) :
    Inert quoting closer [closer, closer] := by
  intro runs outside
  simp [Quoting.read, unguarded plain]

/-- Whatever stands behind a backslash is inert where backslashes guard. -/
theorem inert_guarded (guarded : quoting.guarded = true) : Inert quoting closer ['\\', c] := by
  intro runs outside
  simp [Quoting.read, guarded]

/-- A text of characters each of which is inert. -/
theorem inert_chars (each : ∀ c ∈ text, c ≠ closer ∧ c ≠ '\\') : Inert quoting closer text := by
  have single : text.flatMap (fun c => [c]) = text := by simp
  rw [← single]
  exact inert_flatMap fun c member => inert_char (each c member).1 (.inl (each c member).2)

/-- Characters that open no run are read as they stand. -/
theorem scan_plain (plain : ∀ c ∈ text, quoting.closer c = none) (runs : Nat) (outside : Text) :
    text.foldl quoting.read ⟨.outside, runs, outside⟩ = ⟨.outside, runs, outside ++ text⟩ := by
  induction text generalizing outside with
  | nil => simp
  | cons c text ih =>
    have first : quoting.read ⟨.outside, runs, outside⟩ c = ⟨.outside, runs, outside ++ [c]⟩ := by
      simp [Quoting.read, Quoting.readOutside, plain c (by simp)]
    rw [List.foldl_cons, first, ih fun d member => plain d (by simp [member])]
    simp

/-- A run between two marks behind some plain characters is the only run that is read. -/
theorem scan_run {lead : Text} {mark : Char} (plain : ∀ c ∈ lead, quoting.closer c = none)
    (opens : quoting.closer mark = some closer) (inert : Inert quoting closer body)
    (closes : closer ≠ '\\' ∨ quoting.guarded = false) :
    quoting.scan (lead ++ mark :: body ++ [closer]) = ⟨.closed closer, 1, lead⟩ := by
  have opened : quoting.read ⟨.outside, 0, lead⟩ mark = ⟨.inside closer, 1, lead⟩ := by
    simp [Quoting.read, Quoting.readOutside, opens]
  have closed : quoting.read ⟨.inside closer, 1, lead⟩ closer = ⟨.closed closer, 1, lead⟩ := by
    simp [Quoting.read, unguarded closes]
  have run : (mark :: body).foldl quoting.read ⟨.outside, 0, lead⟩ = ⟨.inside closer, 1, lead⟩ := by
    rw [List.foldl_cons, opened, inert]
  rw [Quoting.scan, List.foldl_append, List.foldl_append, scan_plain plain, List.nil_append, run,
    List.foldl_cons, closed, List.foldl_nil]

/-! ### What is seen outside -/

/-- How much has been seen of a text: its runs, and the characters outside them. -/
def Reading.seen (reading : Reading) : Nat := reading.runs + reading.outside.length

/-- Outside a run something is seen of every character. -/
theorem seen_readOutside (reading : Reading) (c : Char) :
    reading.seen < (quoting.readOutside reading c).seen := by
  unfold Quoting.readOutside Reading.seen
  split
  · simp only
    omega
  · simp

/-- Nothing that has been seen is forgotten. -/
theorem seen_foldl (text : Text) (reading : Reading) :
    reading.seen ≤ (text.foldl quoting.read reading).seen := by
  induction text generalizing reading with
  | nil => exact Nat.le_refl _
  | cons c text ih =>
    refine Nat.le_trans ?_ (ih _)
    have grown : reading.seen ≤ (quoting.readOutside reading c).seen :=
      Nat.le_of_lt (seen_readOutside reading c)
    unfold Quoting.read
    split
    · exact grown
    · split
      · exact Nat.le_refl _
      · split <;> exact Nat.le_refl _
    · exact Nat.le_refl _
    · split
      · exact Nat.le_refl _
      · exact grown

/-- Nothing has been seen before the first run while it is open. -/
theorem unseen_of_inside {text : Text} {reading : Reading} {mark : Char}
    (read : text.foldl quoting.read reading = ⟨.inside mark, 0, []⟩) : reading.seen = 0 := by
  have grown : reading.seen ≤ (text.foldl quoting.read reading).seen := seen_foldl text reading
  rw [read] at grown
  exact Nat.le_zero.mp grown

end TableGate.QuotedRuns
