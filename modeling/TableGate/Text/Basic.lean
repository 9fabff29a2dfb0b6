/-! Texts and the operations on them that every format shares. A text is the list of its
code points, so lengths, positions and padding count code points, and every operation is
a recursion on that list. -/

namespace TableGate

/-- A text: its code points in order. -/
abbrev Text := List Char

/-- A string literal stands for the text of its characters. -/
instance : Coe String Text := ⟨String.toList⟩

namespace Text

/-- The pieces between the occurrences of a separator character, empty pieces included. -/
def splitOn (separator : Char) : Text → List Text
  | [] => [[]]
  | c :: rest =>
    if c = separator then [] :: splitOn separator rest
    else (splitOn separator rest).modifyHead (c :: ·)

/-- The pieces with a separator between neighbours. -/
def join (separator : Text) : List Text → Text
  | [] => []
  | [piece] => piece
  | piece :: next :: rest => piece ++ separator ++ join separator (next :: rest)

/-- What stands before the first occurrence of a character, and what stands after it if
there is one. -/
def cutAt (separator : Char) (text : Text) : Text × Option Text :=
  match text.dropWhile (· ≠ separator) with
  | [] => (text, none)
  | _ :: rest => (text.takeWhile (· ≠ separator), some rest)

/-- A text with every occurrence of a character written as another text. -/
def replaceChar (old : Char) (new : Text) (text : Text) : Text :=
  text.flatMap fun c => if c = old then new else [c]

/-- The text before and the text after the first occurrence of a pattern. -/
def cut? {α : Type} [BEq α] (pattern : List α) : List α → Option (List α × List α)
  | [] => if pattern.isEmpty then some ([], []) else none
  | c :: rest =>
    if pattern.isPrefixOf (c :: rest) then some ([], (c :: rest).drop pattern.length)
    else (cut? pattern rest).map fun (before, after) => (c :: before, after)

theorem length_le_of_isPrefixOf {α : Type} [BEq α] {pattern list : List α}
    (h : pattern.isPrefixOf list = true) : pattern.length ≤ list.length := by
  induction pattern generalizing list with
  | nil => simp
  | cons c pattern ih =>
    cases list with
    | nil => simp at h
    | cons d list =>
      simp only [List.isPrefixOf_cons_cons, Bool.and_eq_true] at h
      simpa using ih h.2

/-- The two sides of an occurrence have the length of the text without the pattern. -/
theorem length_cut? {α : Type} [BEq α] {pattern list before after : List α}
    (h : cut? pattern list = some (before, after)) :
    before.length + pattern.length + after.length = list.length := by
  induction list generalizing before with
  | nil =>
    simp only [cut?] at h
    split at h
    · next empty => simp_all
    · simp at h
  | cons c rest ih =>
    simp only [cut?] at h
    split at h
    · next found =>
      simp only [Option.some.injEq, Prod.mk.injEq] at h
      have := length_le_of_isPrefixOf found
      simp only [← h.1, ← h.2, List.length_nil, List.length_drop]
      omega
    · obtain ⟨⟨b, a⟩, cut, same⟩ := Option.map_eq_some_iff.mp h
      simp only [Prod.mk.injEq] at same
      have := @ih b (by rw [cut, same.2])
      simp only [← same.1, List.length_cons]
      omega

/-- Whether a pattern occurs somewhere. -/
def hasInfix {α : Type} [BEq α] (pattern text : List α) : Bool := (cut? pattern text).isSome

/-- A text with every occurrence of a pattern replaced, from left to right and without
overlaps; `skipped` characters of an occurrence are still to be passed over. -/
def replaceFrom (old new : Text) : Nat → Text → Text
  | _, [] => []
  | skipped + 1, _ :: rest => replaceFrom old new skipped rest
  | 0, c :: rest =>
    if old.isPrefixOf (c :: rest) then new ++ replaceFrom old new (old.length - 1) rest
    else c :: replaceFrom old new 0 rest

/-- A text with every occurrence of a pattern replaced, from left to right. -/
def replace (old new text : Text) : Text :=
  if old.isEmpty then text else replaceFrom old new 0 text

/-- The pieces between the occurrences of a pattern, with `skipped` characters of an
occurrence still to be passed over. -/
def splitFrom (pattern : Text) : Nat → Text → List Text
  | _, [] => [[]]
  | skipped + 1, _ :: rest => splitFrom pattern skipped rest
  | 0, c :: rest =>
    if pattern.isPrefixOf (c :: rest) then [] :: splitFrom pattern (pattern.length - 1) rest
    else (splitFrom pattern 0 rest).modifyHead (c :: ·)

/-- The pieces between the occurrences of a pattern, empty pieces included. -/
def splitOnText (pattern text : Text) : List Text := splitFrom pattern 0 text

/-- A text without its first and last characters of a kind. -/
def trim (drop : Char → Bool) (text : Text) : Text :=
  ((text.dropWhile drop).reverse.dropWhile drop).reverse

/-- A text filled up with blanks on the right. -/
def padRight (width : Nat) (text : Text) : Text :=
  text ++ List.replicate (width - text.length) ' '

/-- The digits of a number in base ten. -/
def ofNat (n : Nat) : Text := Nat.toDigits 10 n

/-- An integer in base ten. -/
def ofInt : Int → Text
  | .ofNat n => ofNat n
  | .negSucc n => '-' :: ofNat (n + 1)

/-- A number in base ten with leading zeros up to a width. -/
def ofNatPadded (width n : Nat) : Text :=
  let digits := ofNat n
  List.replicate (width - digits.length) '0' ++ digits

/-- The order of texts by code points. -/
def le : Text → Text → Bool
  | [], _ => true
  | _ :: _, [] => false
  | a :: as, b :: bs => a.toNat < b.toNat || (a == b && le as bs)

theorem splitOn_ne_nil (separator : Char) (text : Text) : splitOn separator text ≠ [] := by
  induction text with
  | nil => simp [splitOn]
  | cons c rest ih =>
    simp only [splitOn]
    split
    · simp
    · cases h : splitOn separator rest with
      | nil => exact absurd h ih
      | cons piece pieces => simp

/-- Joining the pieces with the separator gives the text back. -/
theorem join_splitOn (separator : Char) (text : Text) :
    join [separator] (splitOn separator text) = text := by
  induction text with
  | nil => rfl
  | cons c rest ih =>
    cases h : splitOn separator rest with
    | nil => exact absurd h (splitOn_ne_nil separator rest)
    | cons piece pieces =>
      rw [h] at ih
      simp only [splitOn, h]
      split
      · next hc => subst hc; simp [join, ih]
      · cases pieces <;> simp_all [join]

/-- A text without the separator is one piece. -/
theorem splitOn_of_not_mem {separator : Char} {text : Text} (h : separator ∉ text) :
    splitOn separator text = [text] := by
  induction text with
  | nil => rfl
  | cons c rest ih =>
    simp only [List.mem_cons, not_or] at h
    simp [splitOn, Ne.symm h.1, ih h.2]

theorem splitOn_append_cons {separator : Char} {piece : Text} (h : separator ∉ piece)
    (rest : Text) :
    splitOn separator (piece ++ separator :: rest) = piece :: splitOn separator rest := by
  induction piece with
  | nil => simp [splitOn]
  | cons c piece ih =>
    simp only [List.mem_cons, not_or] at h
    simp [splitOn, Ne.symm h.1, ih h.2]

/-- Splitting undoes joining of pieces that are free of the separator. -/
theorem splitOn_join {separator : Char} {pieces : List Text} (nonempty : pieces ≠ [])
    (free : ∀ piece ∈ pieces, separator ∉ piece) :
    splitOn separator (join [separator] pieces) = pieces := by
  induction pieces with
  | nil => exact absurd rfl nonempty
  | cons piece pieces ih =>
    cases pieces with
    | nil => simpa [join] using splitOn_of_not_mem (free piece (by simp))
    | cons next rest =>
      have tail := ih (by simp) (fun p hp => free p (by simp [hp]))
      simp only [join, List.append_assoc, List.singleton_append]
      rw [splitOn_append_cons (free piece (by simp)), tail]

end Text
end TableGate
