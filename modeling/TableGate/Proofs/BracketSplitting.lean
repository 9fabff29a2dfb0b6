import Mathlib.Data.List.Infix
import TableGate.Proofs.TextFacts
import TableGate.Text.Brackets

/-! Texts cut at their brackets, for every pair of brackets. The contents of the outermost blocks come out as they
stand in the text, and so does what is between them. A text that is cut at the delimiters outside of its brackets
is put together again out of its pieces; only a delimiter that nothing follows is lost. -/
namespace TableGate.BracketSplitting
open Text TextFacts

/-- Two characters that open and close. -/
structure Brackets where
  opening : Char
  closing : Char
  apart : opening ≠ closing

namespace Brackets

/-- How many brackets a text opens beyond those that it closes. -/
def depth (pair : Brackets) (text : Text) : Int := text.count pair.opening - text.count pair.closing

/-- No bracket closes that is not open, and all that are opened are closed. -/
structure Balanced (pair : Brackets) (text : Text) : Prop where
  opened : ∀ front, front <+: text → 0 ≤ pair.depth front
  closed : pair.depth text = 0

/-- A text without brackets. -/
def Free (pair : Brackets) (text : Text) : Prop := pair.opening ∉ text ∧ pair.closing ∉ text

instance (pair : Brackets) (text : Text) : Decidable (pair.Balanced text) :=
  decidable_of_iff ((∀ front ∈ text.inits, 0 ≤ pair.depth front) ∧ pair.depth text = 0)
    ⟨fun ⟨opened, closed⟩ => ⟨fun front short => opened front (List.mem_inits front text |>.mpr short), closed⟩,
      fun ⟨opened, closed⟩ => ⟨fun front inside => opened front (List.mem_inits front text |>.mp inside), closed⟩⟩

instance (pair : Brackets) (text : Text) : Decidable (pair.Free text) :=
  inferInstanceAs (Decidable (pair.opening ∉ text ∧ pair.closing ∉ text))

end Brackets

/-- A balanced text in brackets, and the text behind it up to the next block. -/
structure Block (pair : Brackets) where
  inner : Text
  behind : Text
  balanced : pair.Balanced inner := by decide
  free : pair.Free behind := by decide

def Block.text {pair : Brackets} (block : Block pair) : Text :=
  pair.opening :: (block.inner ++ pair.closing :: block.behind)

/-- A text that is listed if there is one. -/
def present (text : Text) : List Text := if text = [] then [] else [text]

/-- What is cut out of a block: its inside, and the text behind it if that is asked for. -/
def Block.pieces {pair : Brackets} (between : Bool) (block : Block pair) : List Text :=
  block.inner :: if between then present block.behind else []

/-- No delimiter stands outside of the brackets of a text. -/
def Uncut (pair : Brackets) (delimiter : Char) (text : Text) : Prop :=
  ∀ front behind, text = front ++ delimiter :: behind → pair.depth front ≠ 0

/-- A delimiter outside of the brackets of a text is its last character. -/
def EndsCut (pair : Brackets) (delimiter : Char) (text : Text) : Prop :=
  ∃ front, text = front ++ [delimiter] ∧ pair.depth front = 0

/-- A text is cut into pieces at the delimiters outside of its brackets; nothing behind the last one is no piece. -/
inductive Cut (pair : Brackets) (delimiter : Char) : Text → List Text → Prop where
  | nothing : Cut pair delimiter [] []
  | last (piece : Text) (filled : piece ≠ []) (uncut : Uncut pair delimiter piece) :
      Cut pair delimiter piece [piece]
  | cut (piece : Text) (uncut : Uncut pair delimiter piece) (level : pair.depth piece = 0) (text : Text)
      (pieces : List Text) (rest : Cut pair delimiter text pieces) :
      Cut pair delimiter (piece ++ delimiter :: text) (piece :: pieces)

variable {pair : Brackets} {text rest inner current : Text} {delimiter c : Char} {between trailing : Bool}
  {pieces : List Text} {start : Int}

/-! ### Depth -/

/-- What one character adds to the depth. -/
def Brackets.step (pair : Brackets) (c : Char) : Int :=
  if c = pair.opening then 1 else if c = pair.closing then -1 else 0

@[simp] theorem depth_nil : pair.depth [] = 0 := by simp [Brackets.depth]

theorem depth_append (text rest : Text) : pair.depth (text ++ rest) = pair.depth text + pair.depth rest := by
  simp only [Brackets.depth, List.count_append]
  omega

theorem depth_single (c : Char) : pair.depth [c] = pair.step c := by
  have apart := pair.apart
  simp only [Brackets.depth, Brackets.step, List.count_singleton, beq_iff_eq]
  split
  · rename_i opening
    simp [opening, apart]
  · split <;> rfl

theorem depth_cons (c : Char) (text : Text) : pair.depth (c :: text) = pair.step c + pair.depth text := by
  rw [← List.singleton_append, depth_append, depth_single]

/-! ### Blocks -/

/-- Inside of a block nothing is cut while it is not closed. -/
private theorem inside_kept (kept : ∀ front, front <+: inner → 0 ≤ start + pair.depth front) (current rest : Text) :
    piecesByBrackets pair.opening pair.closing between trailing (start + 1) current (inner ++ rest) =
      piecesByBrackets pair.opening pair.closing between trailing (start + 1 + pair.depth inner)
        (inner.reverse ++ current) rest := by
  induction inner generalizing start current with
  | nil => simp
  | cons c inner ih =>
    have here := kept [] List.nil_prefix
    have next := kept [c] (by simp)
    rw [depth_nil] at here
    rw [depth_single] at next
    have later (front : Text) (short : front <+: inner) : 0 ≤ start + pair.step c + pair.depth front := by
      have all := kept (c :: front) ((List.prefix_cons_inj c).mpr short)
      rw [depth_cons] at all
      omega
    have tail := ih later (c :: current)
    have first : start + pair.step c + 1 = start + 1 + pair.step c := by omega
    have total : start + 1 + pair.step c + pair.depth inner = start + 1 + pair.depth (c :: inner) := by
      rw [depth_cons]
      omega
    rw [first, total] at tail
    rw [List.reverse_cons, List.append_assoc, List.singleton_append, ← tail, List.cons_append, piecesByBrackets]
    unfold Brackets.step at next ⊢
    split
    · rename_i opening
      rw [if_neg (by omega)]
    · split
      · rename_i opening closing
        rw [if_neg opening, if_pos closing] at next
        rw [if_neg (by omega)]
        rfl
      · rw [Int.add_zero]

/-- Outside of blocks nothing is cut in front of the next bracket. -/
private theorem outside_kept (free : pair.Free text) (current rest : Text) :
    piecesByBrackets pair.opening pair.closing between trailing 0 current (text ++ rest) =
      piecesByBrackets pair.opening pair.closing between trailing 0 (text.reverse ++ current) rest := by
  induction text generalizing current with
  | nil => rfl
  | cons c text ih =>
    obtain ⟨opening, closing⟩ := free
    rw [List.mem_cons, not_or] at opening closing
    have tail := ih ⟨opening.2, closing.2⟩ (c :: current)
    rw [List.reverse_cons, List.append_assoc, List.singleton_append, ← tail, List.cons_append, piecesByBrackets,
      if_neg (Ne.symm opening.1), if_neg (Ne.symm closing.1)]

/-- A block is cut out, and the text in front of it if that is asked for. -/
private theorem block_cut (balanced : pair.Balanced inner) (current rest : Text) :
    piecesByBrackets pair.opening pair.closing between trailing 0 current
        (pair.opening :: (inner ++ pair.closing :: rest)) =
      (if between then present current.reverse else []) ++
        inner :: piecesByBrackets pair.opening pair.closing between trailing 0 [] rest := by
  have kept : piecesByBrackets pair.opening pair.closing between trailing (0 + 1) [] (inner ++ pair.closing :: rest) =
      piecesByBrackets pair.opening pair.closing between trailing (0 + 1 + pair.depth inner) (inner.reverse ++ [])
        (pair.closing :: rest) :=
    inside_kept (by simpa using balanced.opened) [] _
  rw [balanced.closed, Int.zero_add, Int.add_zero, List.append_nil] at kept
  rw [piecesByBrackets, if_pos rfl, if_pos rfl, kept, piecesByBrackets, if_neg (Ne.symm pair.apart), if_pos rfl,
    if_pos rfl, List.reverse_reverse]
  cases between with
  | false => rfl
  | true => cases current <;> simp [present]

/-- At the end, what is outside of blocks is cut out like what is in front of one. -/
private theorem end_cut (current : Text) :
    piecesByBrackets pair.opening pair.closing between trailing 0 current [] =
      if between then present current.reverse else [] := by
  rw [piecesByBrackets]
  cases between with
  | false => simp
  | true => cases current <;> simp [present]

/-- All blocks of a text are cut out, each with the text behind it. -/
private theorem blocks_cut (blocks : List (Block pair)) (current : Text) :
    piecesByBrackets pair.opening pair.closing between trailing 0 current (blocks.flatMap (·.text)) =
      (if between then present current.reverse else []) ++ blocks.flatMap (·.pieces between) := by
  induction blocks generalizing current with
  | nil => simpa using end_cut current
  | cons block blocks ih =>
    have tail := ih block.behind.reverse
    rw [List.reverse_reverse] at tail
    have behind : piecesByBrackets pair.opening pair.closing between trailing 0 []
          (block.behind ++ blocks.flatMap (·.text)) =
        (if between then present block.behind else []) ++ blocks.flatMap (·.pieces between) := by
      rw [outside_kept block.free, List.append_nil, tail]
    rw [List.flatMap_cons, List.flatMap_cons, Block.text, List.cons_append, List.append_assoc, List.cons_append,
      block_cut block.balanced, behind]
    rfl

/-- A text is split into its blocks, with or without the text between them. -/
theorem blocks_split {front : Text} (free : pair.Free front) (blocks : List (Block pair)) :
    splitByBrackets pair.opening pair.closing false trailing (front ++ blocks.flatMap (·.text)) =
        blocks.map (·.inner) ∧
      splitByBrackets pair.opening pair.closing true trailing (front ++ blocks.flatMap (·.text)) =
        present front ++ blocks.flatMap fun block => block.inner :: present block.behind := by
  have cut (between : Bool) : splitByBrackets pair.opening pair.closing between trailing
      (front ++ blocks.flatMap (·.text)) =
        (if between then present front else []) ++ blocks.flatMap (·.pieces between) := by
    rw [splitByBrackets, outside_kept free, List.append_nil, blocks_cut, List.reverse_reverse]
  refine ⟨(cut false).trans ?_, cut true⟩
  simp only [Block.pieces, Bool.false_eq_true, ↓reduceIte, List.nil_append]
  exact List.map_eq_flatMap.symm

/-! ### Delimiters -/

private theorem uncut_concat (uncut : Uncut pair delimiter text) (kept : c = delimiter → pair.depth text ≠ 0) :
    Uncut pair delimiter (text ++ [c]) := by
  intro front behind same
  rcases List.eq_nil_or_concat behind with rfl | ⟨behind, last, rfl⟩
  · obtain ⟨rfl, single⟩ := List.append_inj' same rfl
    exact kept (List.cons.inj single).1
  · rw [List.concat_eq_append, ← List.cons_append, ← List.append_assoc] at same
    exact uncut front behind (List.append_inj_left' same rfl)

/-- A text is cut at the delimiters outside of its brackets, where its current piece is one of depth zero. -/
private theorem pieces_cut (opening : delimiter ≠ pair.opening) (closing : delimiter ≠ pair.closing)
    (uncut : Uncut pair delimiter current.reverse) :
    Cut pair delimiter (current.reverse ++ text) (piecesOutsideBrackets pair.opening pair.closing delimiter
      (pair.depth current.reverse) current text) := by
  induction text generalizing current with
  | nil =>
    rw [piecesOutsideBrackets, List.append_nil]
    cases current with
    | nil => exact .nothing
    | cons c current => exact .last _ (by simp) uncut
  | cons c text ih =>
    have longer (kept : c = delimiter → pair.depth current.reverse ≠ 0) :
        Cut pair delimiter (current.reverse ++ c :: text) (piecesOutsideBrackets pair.opening pair.closing delimiter
          (pair.depth current.reverse + pair.step c) (c :: current) text) := by
      have tail := @ih (c :: current) (by rw [List.reverse_cons]; exact uncut_concat uncut kept)
      rw [List.reverse_cons, depth_append, depth_single, List.append_assoc] at tail
      exact tail
    rw [piecesOutsideBrackets]
    split
    · rename_i opens
      have kept := longer (fun same => absurd (same.symm.trans opens) opening)
      rwa [Brackets.step, if_pos opens] at kept
    · rename_i inner
      split
      · rename_i closes
        have kept := longer (fun same => absurd (same.symm.trans closes) closing)
        rwa [Brackets.step, if_neg inner, if_pos closes] at kept
      · rename_i plain
        split
        · rename_i here
          obtain ⟨rfl, level⟩ := here
          rw [level]
          refine .cut _ uncut level _ _ ?_
          have rest := @ih [] (by rintro front behind same; simp at same)
          rwa [List.reverse_nil, depth_nil, List.nil_append] at rest
        · rename_i elsewhere
          have kept := longer (fun same level => elsewhere ⟨same, level⟩)
          rwa [Brackets.step, if_neg inner, if_neg plain, Int.add_zero] at kept

private theorem cut_filled (cut : Cut pair delimiter text pieces) (some : pieces ≠ []) : text ≠ [] := by
  cases cut with
  | nothing => exact absurd rfl some
  | last _ filled => exact filled
  | cut piece _ _ text _ _ => simp

/-- A text that is cut is put together again with the delimiters, but for one that ends it. -/
theorem cut_joined (opening : delimiter ≠ pair.opening) (closing : delimiter ≠ pair.closing)
    (cut : Cut pair delimiter text pieces) :
    (∃ front, text = front ++ [delimiter] ∧ pair.depth front = 0 ∧ join [delimiter] pieces = front) ∨
      ¬ EndsCut pair delimiter text ∧ join [delimiter] pieces = text := by
  have level_of (front rest : Text) (level : pair.depth front = 0) :
      pair.depth (front ++ delimiter :: rest) = pair.depth rest := by
    rw [depth_append, level, depth_cons, Brackets.step, if_neg opening, if_neg closing, Int.zero_add, Int.zero_add]
  induction cut with
  | nothing => exact .inr ⟨fun ⟨front, same, _⟩ => by simp at same, rfl⟩
  | last piece filled uncut => exact .inr ⟨fun ⟨front, same, level⟩ => uncut front [] same level, rfl⟩
  | cut piece uncut level text pieces rest ih =>
    cases pieces with
    | nil =>
      cases rest
      exact .inl ⟨piece, rfl, level, rfl⟩
    | cons next more =>
      have joined : join [delimiter] (piece :: next :: more) =
          piece ++ delimiter :: join [delimiter] (next :: more) := by
        rw [join, List.append_assoc, List.singleton_append]
      rw [joined]
      rcases ih with ⟨front, same, ends, own⟩ | ⟨open_end, own⟩
      · exact .inl ⟨piece ++ delimiter :: front, by simp [same], (level_of _ _ level).trans ends, by rw [own]⟩
      · refine .inr ⟨?_, by rw [own]⟩
        rintro ⟨front, same, ends⟩
        obtain ⟨text, last, rfl⟩ :=
          (List.eq_nil_or_concat text).resolve_left (cut_filled rest (List.cons_ne_nil next more))
        rw [List.concat_eq_append, ← List.cons_append, ← List.append_assoc] at same
        obtain ⟨rfl, single⟩ := List.append_inj' same rfl
        obtain rfl := (List.cons.inj single).1
        exact open_end ⟨text, List.concat_eq_append, (level_of _ _ level).symm.trans ends⟩

/-- Every piece but the last one closes the brackets that it opens, and none has a delimiter outside of them. -/
theorem cut_exact (cut : Cut pair delimiter text pieces) :
    (∀ piece ∈ pieces, Uncut pair delimiter piece) ∧
      ∀ front piece next behind, pieces = front ++ piece :: next :: behind → pair.depth piece = 0 := by
  induction cut with
  | nothing => exact ⟨nofun, fun front piece next behind same => by simp at same⟩
  | last piece _ uncut =>
    refine ⟨by simpa using uncut, fun front piece next behind same => ?_⟩
    have length := congrArg List.length same
    simp at length
    omega
  | cut piece uncut level text pieces _ ih =>
    obtain ⟨each, inner⟩ := ih
    refine ⟨List.forall_mem_cons.mpr ⟨uncut, each⟩, fun front other next behind same => ?_⟩
    cases front with
    | nil =>
      obtain ⟨rfl, -⟩ := List.cons.inj same
      exact level
    | cons _ front => exact inner front other next behind (List.cons.inj same).2

/-- **Texts are split at their brackets without loss.** For every pair of brackets, the blocks of a text come out
with their insides, and what is between them in its place if that is asked for, whether or not a last block that
is never closed counts. A text that is cut at the delimiters outside of its brackets is put together again with
them, without one that ends it; it is cut at all of them, and nowhere else. -/
theorem brackets_split_exactly (pair : Brackets) :
    (∀ front, pair.Free front → ∀ (blocks : List (Block pair)) (trailing : Bool),
      splitByBrackets pair.opening pair.closing false trailing (front ++ blocks.flatMap (·.text)) =
          blocks.map (·.inner) ∧
        splitByBrackets pair.opening pair.closing true trailing (front ++ blocks.flatMap (·.text)) =
          present front ++ blocks.flatMap fun block => block.inner :: present block.behind) ∧
    ∀ delimiter, delimiter ≠ pair.opening → delimiter ≠ pair.closing → ∀ text,
      let pieces := splitOutsideBrackets pair.opening pair.closing delimiter text
      (∀ front, text = front ++ [delimiter] → pair.depth front = 0 → join [delimiter] pieces = front) ∧
        (¬ EndsCut pair delimiter text → join [delimiter] pieces = text) ∧
        (∀ piece ∈ pieces, Uncut pair delimiter piece) ∧
        ∀ front piece next behind, pieces = front ++ piece :: next :: behind → pair.depth piece = 0 := by
  refine ⟨fun front free blocks trailing => blocks_split free blocks, fun delimiter opening closing text => ?_⟩
  intro pieces
  have cut : Cut pair delimiter text pieces := by
    have nothing : Uncut pair delimiter ([] : Text).reverse := by
      rintro front behind same
      simp at same
    have whole : Cut pair delimiter (([] : Text).reverse ++ text) _ := pieces_cut opening closing nothing
    rwa [List.reverse_nil, depth_nil, List.nil_append] at whole
  refine ⟨fun front same level => ?_, fun open_end => ?_, cut_exact cut⟩
  · rcases cut_joined opening closing cut with ⟨own, again, -, joined⟩ | ⟨open_end, -⟩
    · rw [joined]
      exact List.append_inj_left' (again.symm.trans same) rfl
    · exact absurd ⟨front, same, level⟩ open_end
  · rcases cut_joined opening closing cut with ⟨own, same, level, -⟩ | ⟨-, joined⟩
    · exact absurd ⟨own, same, level⟩ open_end
    · exact joined

/-- Round brackets. -/
def round : Brackets := ⟨'(', ')', by decide⟩

/-- Blocks within blocks and delimiters within brackets stay together. -/
theorem nested_blocks_split :
    round.Free "a" ∧ (',' ≠ '(' ∧ ',' ≠ ')') ∧
      splitByBrackets '(' ')' true true "a(bc(d))ef(gh)kl" = (["a", "bc(d)", "ef", "gh", "kl"] : List Text) ∧
      splitByBrackets '(' ')' false true "a(bc(d))ef(gh)kl" = (["bc(d)", "gh"] : List Text) ∧
      round.depth "a,(b,c),d" = 0 ∧ join "," (splitOutsideBrackets '(' ')' ',' "a,(b,c),d,") = "a,(b,c),d" := by
  have free : round.Free "a" := by decide
  have level : round.depth "a,(b,c),d" = 0 := by decide
  obtain ⟨blocks, pieces⟩ := brackets_split_exactly round
  obtain ⟨alone, between⟩ :=
    blocks "a" free [⟨"bc(d)", "ef", by decide, by decide⟩, ⟨"gh", "kl", by decide, by decide⟩] true
  obtain ⟨joined, -⟩ := pieces ',' (by decide) (by decide) "a,(b,c),d,"
  exact ⟨free, by decide, between, alone, level, joined "a,(b,c),d" rfl level⟩

end TableGate.BracketSplitting
