import TableGate.Text.Basic

/-! Texts cut at their outermost brackets. One function takes the contents of the bracket
blocks out of a text, the other cuts a text at the delimiters that stand outside of
brackets. Both follow the depth, which goes below zero where a bracket closes too much. -/

namespace TableGate.Text

/-- The pieces of a text from inside `depth` brackets on, where `current` is what the
current piece holds so far, in reverse. -/
def piecesByBrackets (opening closing : Char) (between trailing : Bool) :
    Int → Text → Text → List Text
  | depth, current, [] =>
    if !current.isEmpty && ((between && depth == 0) || (trailing && decide (depth > 0))) then
      [current.reverse]
    else []
  | depth, current, c :: rest =>
    if c = opening then
      if depth = 0 then
        let tail := piecesByBrackets opening closing between trailing 1 [] rest
        if between && !current.isEmpty then current.reverse :: tail else tail
      else piecesByBrackets opening closing between trailing (depth + 1) (c :: current) rest
    else if c = closing then
      if depth = 1 then
        current.reverse :: piecesByBrackets opening closing between trailing 0 [] rest
      else piecesByBrackets opening closing between trailing (depth - 1) (c :: current) rest
    else piecesByBrackets opening closing between trailing depth (c :: current) rest

/-- The contents of the outermost bracket blocks, with the text between them if `between`
is set, and with a last block that is never closed if `trailing` is set. -/
def splitByBrackets (opening closing : Char) (between trailing : Bool) (text : Text) : List Text :=
  piecesByBrackets opening closing between trailing 0 [] text

/-- The pieces between delimiters from inside `depth` brackets on. -/
def piecesOutsideBrackets (opening closing delimiter : Char) : Int → Text → Text → List Text
  | _, current, [] => if current.isEmpty then [] else [current.reverse]
  | depth, current, c :: rest =>
    if c = opening then
      piecesOutsideBrackets opening closing delimiter (depth + 1) (c :: current) rest
    else if c = closing then
      piecesOutsideBrackets opening closing delimiter (depth - 1) (c :: current) rest
    else if c = delimiter ∧ depth = 0 then
      current.reverse :: piecesOutsideBrackets opening closing delimiter depth [] rest
    else piecesOutsideBrackets opening closing delimiter depth (c :: current) rest

/-- The pieces between the delimiters outside of brackets; an empty last piece is left
out. -/
def splitOutsideBrackets (opening closing delimiter : Char) (text : Text) : List Text :=
  piecesOutsideBrackets opening closing delimiter 0 [] text

/-- No piece is longer than what it is cut from. -/
theorem length_le_of_mem_piecesByBrackets {opening closing : Char} {between trailing : Bool}
    {depth : Int} {current text piece : Text}
    (h : piece ∈ piecesByBrackets opening closing between trailing depth current text) :
    piece.length ≤ current.length + text.length := by
  induction text generalizing depth current with
  | nil =>
    simp only [piecesByBrackets] at h
    split at h <;> simp_all
  | cons c rest ih =>
    simp only [piecesByBrackets] at h
    split at h
    · split at h
      · split at h
        · rcases List.mem_cons.1 h with rfl | h
          · simp
          · have := ih h; simp at this ⊢; omega
        · have := ih h; simp at this ⊢; omega
      · have := ih h; simp at this ⊢; omega
    · split at h
      · split at h
        · rcases List.mem_cons.1 h with rfl | h
          · simp
          · have := ih h; simp at this ⊢; omega
        · have := ih h; simp at this ⊢; omega
      · have := ih h; simp at this ⊢; omega

/-- A text that starts with a bracket loses that bracket in every piece. -/
theorem length_lt_of_mem_splitByBrackets {opening closing : Char} {between trailing : Bool}
    {text piece : Text}
    (h : piece ∈ splitByBrackets opening closing between trailing (opening :: text)) :
    piece.length < (opening :: text).length := by
  simp only [splitByBrackets, piecesByBrackets, if_true, List.isEmpty_nil, Bool.not_true,
    Bool.and_false] at h
  have : piece.length ≤ ([] : Text).length + text.length := length_le_of_mem_piecesByBrackets h
  simp at this ⊢
  omega

end TableGate.Text
