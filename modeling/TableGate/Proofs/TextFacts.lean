import TableGate.Text.Blank
import TableGate.Text.Case
import TableGate.Text.JsonString

/-! Facts about texts that the proofs about several formats share: properties of every character,
replacements that find nothing, the characters of joined pieces, and those that are never escaped. -/
namespace TableGate.TextFacts
open Text

variable {c old : Char} {new text separator : Text}

/-- A property of the characters of a text is decided by going through the text, not through all characters
there are, which no evaluation comes to the end of. -/
instance (priority := high) decidableEach {P : Char → Prop} [DecidablePred P] : Decidable (∀ c ∈ text, P c) :=
  List.decidableBAll P text

instance (priority := high) decidableFound {P : Char → Prop} [DecidablePred P] {found : Option Char} :
    Decidable (∀ c ∈ found, P c) :=
  Option.decidableForallMem found

/-- A property of the characters of a text is checked one character after the other. -/
theorem each_of_all {P : Char → Prop} [DecidablePred P] (all : text.all (fun c => decide (P c)) = true) :
    ∀ c ∈ text, P c := by
  intro c member
  exact of_decide_eq_true (List.all_eq_true.mp all c member)

theorem replaceChar_of_not_mem (free : old ∉ text) : replaceChar old new text = text := by
  induction text with
  | nil => rfl
  | cons c text ih =>
    simp only [List.mem_cons, not_or] at free
    have rest := ih free.2
    rw [replaceChar] at rest ⊢
    rw [List.flatMap_cons, if_neg (Ne.symm free.1), rest, List.singleton_append]

theorem join_cons (separator piece : Text) (pieces : List Text) :
    join separator (piece :: pieces) = piece ++ pieces.flatMap (separator ++ ·) := by
  induction pieces generalizing piece with
  | nil => simp [join]
  | cons next pieces ih =>
    rw [join, ih, List.flatMap_cons, List.append_assoc, List.append_assoc]

theorem mem_join {pieces : List Text} (member : c ∈ join separator pieces) :
    c ∈ separator ∨ ∃ piece ∈ pieces, c ∈ piece := by
  induction pieces with
  | nil => cases member
  | cons piece pieces ih =>
    cases pieces with
    | nil => exact .inr ⟨piece, by simp, member⟩
    | cons next rest =>
      simp only [join, List.mem_append] at member
      rcases member with (first | mark) | later
      · exact .inr ⟨piece, by simp, first⟩
      · exact .inl mark
      · rcases ih later with mark | ⟨other, among, inside⟩
        · exact .inl mark
        · exact .inr ⟨other, List.mem_cons_of_mem _ among, inside⟩

/-- Tokens without a separator are told apart by the separators between them. -/
theorem splitOn_tokens {α : Type} {separator : Char} {token : α → Text} {items : List α} (some : items ≠ [])
    (free : ∀ item, separator ∉ token item) :
    splitOn separator (join [separator] (items.map token)) = items.map token := by
  refine splitOn_join (by simpa using some) fun piece member => ?_
  obtain ⟨item, -, rfl⟩ := List.mem_map.mp member
  exact free item

/-- Blanks behind a text that has none are stripped, and nothing else. -/
theorem strip_behind {blanks : Text} (bare : ∀ c ∈ text, isBlank c = false)
    (blank : ∀ c ∈ blanks, isBlank c = true) : strip (text ++ blanks) = text := by
  have back : (text ++ blanks).reverse.dropWhile isBlank = text.reverse := by
    rw [List.reverse_append, List.dropWhile_append_of_pos fun c member =>
      blank c (List.mem_reverse.mp member)]
    cases reversed : text.reverse with
    | nil => rfl
    | cons c others =>
      have last := bare c (by rw [← List.mem_reverse, reversed]; exact List.mem_cons_self)
      exact List.dropWhile_cons_of_neg (by simp [last])
  cases text with
  | nil =>
    have none : blanks.dropWhile isBlank = [] := by
      have kept : (blanks ++ []).dropWhile isBlank = ([] : Text).dropWhile isBlank :=
        List.dropWhile_append_of_pos blank
      simpa using kept
    rw [List.nil_append, strip, trim, none]
    rfl
  | cons c text =>
    have first := bare c List.mem_cons_self
    have front : (c :: text ++ blanks).dropWhile isBlank = c :: text ++ blanks :=
      List.dropWhile_cons_of_neg (by simp [first])
    rw [strip, trim, front, back, List.reverse_reverse]

/-- No other ASCII character is changed to a mark, where each of them was checked. -/
theorem ascii_apart {change : Char → Char} {mark : Char}
    (checked : ∀ n < 128, mark = change (Char.ofNat n) → Char.ofNat n = mark) (ascii : c.toNat < 128)
    (other : c ≠ mark) : mark ∉ [change c] := by
  intro member
  have same := checked _ ascii
  rw [Char.ofNat_toNat] at same
  exact other (same (List.mem_singleton.mp member))

/-- No other character has a mark in its other case, where the tables lead to characters behind the mark
only. -/
theorem image_apart {runs : List CaseRun} {sequences : List (Nat × List Nat)} {mark : Char}
    (present : 0 < mark.toNat) (sequenced : ∀ entry ∈ sequences, mark ∉ entry.2.map Char.ofNat)
    (behind : ∀ run ∈ runs, (mark.toNat : Int) < run.first + run.shift) (other : c ≠ mark) :
    mark ∉ imageIn runs sequences c := by
  unfold imageIn
  split
  · rename_i image found
    obtain ⟨front, back, shape, -⟩ := List.lookup_eq_some_iff.mp found
    exact sequenced (c.toNat, image) (by rw [shape]; simp)
  · intro member
    have same := List.mem_singleton.mp member
    cases found : runs.findSome? (·.image? c.toNat) with
    | none =>
      rw [found] at same
      exact other same.symm
    | some n =>
      rw [found] at same
      obtain ⟨run, listed, image⟩ := List.exists_of_findSome?_eq_some found
      have above := behind run listed
      have beyond : mark.toNat < n := by
        unfold CaseRun.image? at image
        split at image
        · rename_i inside
          simp only [Bool.and_eq_true, decide_eq_true_eq] at inside
          cases image
          omega
        · cases image
      have code : (Char.ofNat n).toNat = mark.toNat := congrArg Char.toNat same.symm
      by_cases valid : n.isValidChar
      · rw [Char.ofNat, dif_pos valid] at code
        have own : n = mark.toNat := code
        omega
      · rw [Char.ofNat, dif_neg valid] at code
        exact absurd code.symm (Nat.ne_of_gt present)

/-- Printable characters other than quotes and backslashes stand for themselves in JSON strings. -/
theorem jsonChar_own (printable : 32 ≤ c.toNat) (quote : c ≠ '"') (backslash : c ≠ '\\') :
    jsonChar c = [c] := by
  have control (d : Char) (low : d.toNat < 32) : c ≠ d := by
    rintro rfl
    omega
  rw [jsonChar, if_neg quote, if_neg backslash, if_neg (control '\n' (by decide)),
    if_neg (control '\r' (by decide)), if_neg (control '\t' (by decide)), if_neg (by omega),
    if_neg (by omega), if_neg (by omega)]

theorem jsonInside_own (each : ∀ c ∈ text, jsonChar c = [c]) : jsonInside text = text := by
  induction text with
  | nil => rfl
  | cons c text ih =>
    obtain ⟨own, others⟩ := List.forall_mem_cons.mp each
    have rest := ih others
    rw [jsonInside] at rest ⊢
    rw [List.flatMap_cons, own, rest, List.singleton_append]

end TableGate.TextFacts
