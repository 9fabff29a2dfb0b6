import TableGate.Fault
import TableGate.Query.Filter
import TableGate.Text.Blank
import TableGate.Text.Brackets
import TableGate.Text.Case

/-! Reading filters. A text is a comparison `(field)-op(value)`, a negation `-not(filter)`
or `-(filter)`, two filters joined by `-and` or `-or` outside of brackets, or a filter in
brackets. The forms are tried in a fixed order, every part is shorter than the whole, and
a text that fits no form is refused as a whole. -/

namespace TableGate.Filter
open Text

/-- The end of a text, or one line break before it. -/
def atEnd (text : Text) : Bool := text.isEmpty || text == ['\n']

/-- A text without the blank that it may start with. -/
def dropBlank : Text → Text
  | c :: rest => if isBlank c then rest else c :: rest
  | [] => []

/-- A character of a compared name or value. -/
def isPlain (c : Char) : Bool := !(c == '\'' || c == '"' || c == '(' || c == ')')

/-- A name or value in brackets, and what follows. -/
def bracketed? : Text → Option (Text × Text)
  | '(' :: text =>
    match text.takeWhile isPlain, text.dropWhile isPlain with
    | c :: name, ')' :: rest => some (c :: name, rest)
    | _, _ => none
  | _ => none

/-- The word of a comparison operator as it is written, and what follows. -/
def comparator? (text : Text) : Option (Text × Text) :=
  Comparator.all.findSome? fun op =>
    (dropKeyword? op.word text).map fun rest => (text.take op.word.length, rest)

/-- The field, the operator's word and the value of a comparison. -/
def comparison? (text : Text) : Option (Text × Text × Text) := do
  let (field, rest) ← bracketed? text
  match dropBlank rest with
  | '-' :: rest =>
    let (word, rest) ← comparator? rest
    let (value, rest) ← bracketed? (dropBlank rest)
    if atEnd rest then some (field, word, value) else none
  | _ => none

/-- A connective at the front, followed by a bracket: its sign and its right side. -/
def connective? (text : Text) : Option (Connective × Text) :=
  match dropBlank text with
  | '-' :: rest =>
    [Connective.and, Connective.or].findSome? fun op =>
      match (dropKeyword? op.word rest).map dropBlank with
      | some ('(' :: right) => some (op, '(' :: right)
      | _ => none
  | _ => none

/-- How a character changes the depth of brackets. -/
def depthStep (c : Char) : Int := if c = '(' then 1 else if c = ')' then -1 else 0

/-- Cuts a text at the first connective outside of brackets that does not stand at the
very start; `depth` brackets are open. -/
def splitConnective? (atStart : Bool) (depth : Int) : Text → Option (Text × Connective × Text)
  | [] => none
  | c :: rest =>
    match if depth = 0 ∧ atStart = false ∧ (c = ' ' ∨ c = '-') then connective? (c :: rest)
        else none with
    | some (op, right) => some ([], op, right)
    | none =>
      (splitConnective? false (depth + depthStep c) rest).map fun (left, op, right) =>
        (c :: left, op, right)

/-- The inside of a negation. -/
def negated? (text : Text) : Option Text :=
  match text with
  | '-' :: rest =>
    match (dropKeyword? "not" rest).getD rest with
    | '(' :: body =>
      let line := body.takeWhile (· ≠ '\n')
      if atEnd (body.dropWhile (· ≠ '\n')) && line.getLast? == some ')' && 1 < line.length then
        some line.dropLast
      else none
    | _ => none
  | _ => none

/-- The inside of a filter that is one bracket block. -/
def grouped? (text : Text) : Option Text :=
  if text.head? == some '(' && text.getLast? == some ')' then
    match splitByBrackets '(' ')' true false text with
    | [part] => if part.isEmpty then none else some part
    | _ => none
  else none

theorem length_dropBlank_le (text : Text) : (dropBlank text).length ≤ text.length := by
  cases text with
  | nil => simp [dropBlank]
  | cons c rest => simp only [dropBlank]; split <;> simp

theorem length_dropKeyword?_le {keyword text rest : Text} (h : dropKeyword? keyword text = some rest) :
    rest.length ≤ text.length := by
  induction keyword generalizing text with
  | nil => simp only [dropKeyword?, Option.some.injEq] at h; simp [h]
  | cons letter keyword ih =>
    cases text with
    | nil => simp [dropKeyword?] at h
    | cons c text =>
      simp only [dropKeyword?] at h
      split at h
      · have := ih h; simp; omega
      · simp at h

theorem length_connective?_lt {text right : Text} {op : Connective}
    (h : connective? text = some (op, right)) : right.length < text.length := by
  unfold connective? at h
  split at h
  · next rest heq =>
    have shorter := length_dropBlank_le text
    rw [heq] at shorter
    obtain ⟨op', _, found⟩ := List.exists_of_findSome?_eq_some h
    split at found
    · next right' hr =>
      simp only [Option.some.injEq, Prod.mk.injEq] at found
      obtain ⟨dropped, hd, hb⟩ := Option.map_eq_some_iff.1 hr
      have a := length_dropKeyword?_le hd
      have b := length_dropBlank_le dropped
      rw [hb] at b
      rw [← found.2]
      simp only [List.length_cons] at shorter b ⊢
      omega
    · simp at found
  · simp at h

/-- Both sides of a connective are shorter than the whole. -/
theorem length_splitConnective? {atStart : Bool} {depth : Int} {text left right : Text}
    {op : Connective} (h : splitConnective? atStart depth text = some (left, op, right)) :
    left.length < text.length ∧ right.length < text.length := by
  induction text generalizing atStart depth left with
  | nil => simp [splitConnective?] at h
  | cons c rest ih =>
    rw [splitConnective?] at h
    split at h
    · next op' right' found =>
      simp only [Option.some.injEq, Prod.mk.injEq] at h
      obtain ⟨rfl, rfl, rfl⟩ := h
      split at found
      · exact ⟨by simp, length_connective?_lt found⟩
      · simp at found
    · obtain ⟨⟨l, o, r⟩, found, same⟩ := Option.map_eq_some_iff.1 h
      simp only [Prod.mk.injEq] at same
      obtain ⟨rfl, rfl, rfl⟩ := same
      have := ih found
      simp only [List.length_cons]
      omega

theorem length_negated?_lt {text inner : Text} (h : negated? text = some inner) :
    inner.length < text.length := by
  unfold negated? at h
  split at h
  · next rest =>
    split at h
    · next body hbody =>
      simp only [Option.ite_none_right_eq_some, Option.some.injEq] at h
      obtain ⟨_, rfl⟩ := h
      have shorter : ('(' :: body).length ≤ rest.length := by
        rw [← hbody]
        cases hk : dropKeyword? "not" rest with
        | none => simp
        | some r => simpa using length_dropKeyword?_le hk
      have line := (List.takeWhile_prefix (l := body) (fun c => decide (c ≠ '\n'))).length_le
      simp only [List.length_dropLast, List.length_cons] at shorter ⊢
      omega
    · simp at h
  · simp at h

theorem length_grouped?_lt {text inner : Text} (h : grouped? text = some inner) :
    inner.length < text.length := by
  unfold grouped? at h
  split at h
  · next ends =>
    simp only [Bool.and_eq_true, beq_iff_eq] at ends
    obtain ⟨rest, rfl⟩ := List.head?_eq_some_iff.1 ends.1
    split at h
    · next part hp =>
      split at h
      · simp at h
      · simp only [Option.some.injEq] at h
        subst h
        exact length_lt_of_mem_splitByBrackets (by rw [hp]; simp)
    · simp at h
  · simp at h

/-- The filter that a text writes. -/
def parse (text : Text) : Except Fault Filter :=
  if text.isEmpty then .ok .empty
  else
    match comparison? text with
    | some (field, word, value) =>
      match Comparator.ofWord? (lower word) with
      | some op => .ok (.compare field op value)
      | none => .error (.conversion (.notMember (lower word) "ComparisonOp"))
    | none =>
      match _joined : splitConnective? true 0 text with
      | some (left, op, right) =>
        if (splitConnective? true 0 right).isSome then .error (.query (.ambiguousFilter text))
        else do
          let left ← parse left
          let right ← parse right
          .ok (.join left op right)
      | none =>
        match _negated : negated? text with
        | some inner => do
          let inner ← parse inner
          .ok (.not inner)
        | none =>
          match _grouped : grouped? text with
          | some inner => parse inner
          | none => .error (.query (.invalidFilter text))
termination_by text.length
decreasing_by
  · exact (length_splitConnective? _joined).1
  · exact (length_splitConnective? _joined).2
  · exact length_negated?_lt _negated
  · exact length_grouped?_lt _grouped

end TableGate.Filter
