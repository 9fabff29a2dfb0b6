import Mathlib.Data.List.Infix
import TableGate.Text.Utf8

/-! Where a pattern occurs first. An element that the pattern doesn't have parts the occurrences in
front of it from those behind it, and the bytes of an ASCII pattern occur in the bytes of a text only
where the pattern occurs in the text. -/
namespace TableGate.PatternSearch
open Text

section Lists

variable {α : Type} {x : α} {pattern front rest text : List α}

theorem prefix_before (apart : x ∉ pattern) : pattern <+: front ++ x :: rest ↔ pattern <+: front := by
  induction pattern generalizing front with
  | nil => simp
  | cons first pattern ih =>
    obtain ⟨other, apart⟩ := not_or.mp (List.mem_cons.not.mp apart)
    cases front with
    | nil => simp [Ne.symm other]
    | cons y front => rw [List.cons_append, List.cons_prefix_cons, List.cons_prefix_cons, ih apart]

/-- No occurrence goes across an element that the pattern doesn't have. -/
theorem infix_around (apart : x ∉ pattern) :
    pattern <:+: front ++ x :: rest ↔ pattern <:+: front ∨ pattern <:+: rest := by
  induction front with
  | nil =>
    have start : pattern <+: [] ++ x :: rest ↔ pattern <+: [] := prefix_before apart
    rw [List.nil_append] at start ⊢
    rw [List.infix_cons_iff, start, List.prefix_nil, List.infix_nil]
  | cons y front ih =>
    have start : pattern <+: y :: front ++ x :: rest ↔ pattern <+: y :: front := prefix_before apart
    rw [List.cons_append] at start ⊢
    rw [List.infix_cons_iff, start, ih, List.infix_cons_iff, or_assoc]

/-- An occurrence doesn't start among elements other than the first one of the pattern. -/
theorem infix_behind (apart : x ∉ front) : x :: pattern <:+: front ++ rest ↔ x :: pattern <:+: rest := by
  induction front with
  | nil => rfl
  | cons y front ih =>
    obtain ⟨other, apart⟩ := not_or.mp (List.mem_cons.not.mp apart)
    rw [List.cons_append, List.infix_cons_iff, ih apart]
    simp [other]

private theorem prefix_across {other : List α} (apart : x ∉ pattern) (bare : x ∉ front) :
    pattern ++ x :: other <+: front ++ x :: rest ↔ pattern = front ∧ other <+: rest := by
  induction pattern generalizing front with
  | nil =>
    cases front with
    | nil => simp
    | cons y front =>
      have differs : x ≠ y := (List.ne_and_not_mem_of_not_mem_cons bare).1
      simp [differs]
  | cons first pattern ih =>
    obtain ⟨differs, apart⟩ := List.ne_and_not_mem_of_not_mem_cons apart
    cases front with
    | nil => simp [differs.symm]
    | cons y front =>
      obtain ⟨-, bare⟩ := List.ne_and_not_mem_of_not_mem_cons bare
      rw [List.cons_append, List.cons_append, List.cons_prefix_cons, ih apart bare, List.cons.injEq, and_assoc]

/-- An occurrence of a pattern with a single separator goes across the first separator of a text, or is
behind it. -/
theorem infix_across {other : List α} (apart : x ∉ pattern) (bare : x ∉ front) :
    pattern ++ x :: other <:+: front ++ x :: rest ↔
      (pattern <:+ front ∧ other <+: rest) ∨ pattern ++ x :: other <:+: rest := by
  induction front with
  | nil =>
    have start : pattern ++ x :: other <+: [] ++ x :: rest ↔ pattern = [] ∧ other <+: rest :=
      prefix_across apart bare
    rw [List.nil_append] at start ⊢
    rw [List.infix_cons_iff, start, List.suffix_nil]
  | cons y front ih =>
    have start : pattern ++ x :: other <+: y :: front ++ x :: rest ↔
        pattern = y :: front ∧ other <+: rest :=
      prefix_across apart bare
    obtain ⟨-, bare⟩ := List.ne_and_not_mem_of_not_mem_cons bare
    rw [List.cons_append] at start ⊢
    rw [List.infix_cons_iff, start, ih bare, List.suffix_cons_iff, or_and_right, or_assoc]

/-! ### Cutting -/

variable [BEq α] [LawfulBEq α]

/-- Nothing is cut exactly where the pattern does not occur. -/
theorem cut_eq_none_iff : cut? pattern front = none ↔ ¬ pattern <:+: front := by
  induction front with
  | nil =>
    rw [cut?, List.infix_nil]
    cases pattern <;> simp
  | cons y front ih =>
    rw [cut?, List.infix_cons_iff, not_or, ← ih, ← List.isPrefixOf_iff_prefix]
    by_cases starts : pattern.isPrefixOf (y :: front) = true <;> simp [starts]

theorem hasInfix_iff : hasInfix pattern text = true ↔ pattern <:+: text := by
  rw [hasInfix, Option.isSome_iff_ne_none, ne_eq, cut_eq_none_iff, not_not]

omit [BEq α] [LawfulBEq α] in
private theorem lengthened {y z : α} {sides : Option (List α × List α)} :
    sides.map (fun (before, after) => (y :: before, after)) = some (z :: front, rest) ↔
      y = z ∧ sides = some (front, rest) := by
  cases sides with
  | none => simp
  | some sides => simp [Prod.ext_iff, and_assoc]

omit [BEq α] [LawfulBEq α] in
private theorem not_infix_dropLast (filled : pattern ≠ []) : ¬ pattern <:+: pattern.dropLast := by
  intro inside
  have positive := List.length_pos_iff.mpr filled
  have shorter := inside.length_le
  rw [List.length_dropLast] at shorter
  omega

omit [BEq α] [LawfulBEq α] in
private theorem dropLast_within (pattern front rest : List α) :
    front ++ pattern.dropLast <+: front ++ (pattern ++ rest) :=
  (List.prefix_append_right_inj front).mpr
    ((List.dropLast_prefix pattern).trans (List.prefix_append _ _))

omit [BEq α] [LawfulBEq α] in
/-- An occurrence at the start lies in front of the last element of any other one. -/
private theorem front_of_start (starts : pattern <+: front ++ (pattern ++ rest))
    (first : ¬ pattern <:+: front ++ pattern.dropLast) : front = [] := by
  cases front with
  | nil => rfl
  | cons z front =>
    have early : pattern <+: z :: front ++ pattern.dropLast := by
      refine List.prefix_of_prefix_length_le starts (dropLast_within _ _ _) ?_
      simp only [List.length_append, List.length_cons, List.length_dropLast]
      omega
    exact absurd early.isInfix first

/-- A text is cut at the first occurrence: the pattern occurs nowhere before its last element is
there. -/
theorem cut_eq_some_iff (filled : pattern ≠ []) :
    cut? pattern text = some (front, rest) ↔
      text = front ++ (pattern ++ rest) ∧ ¬ pattern <:+: front ++ pattern.dropLast := by
  induction text generalizing front with
  | nil => simp [cut?, filled]
  | cons y text ih =>
    rw [cut?]
    by_cases starts : pattern <+: y :: text
    · rw [if_pos (List.isPrefixOf_iff_prefix.mpr starts)]
      obtain ⟨others, split⟩ := starts
      rw [← split, List.drop_left]
      constructor
      · rintro ⟨⟩
        exact ⟨rfl, not_infix_dropLast filled⟩
      · rintro ⟨same, first⟩
        obtain rfl : front = [] := front_of_start ⟨others, same⟩ first
        simpa using same
    · rw [if_neg fun found => starts (List.isPrefixOf_iff_prefix.mp found)]
      cases front with
      | nil =>
        refine iff_of_false ?_ ?_
        · cases cut? pattern text <;> simp
        · rintro ⟨same, -⟩
          exact starts ⟨rest, same.symm⟩
      | cons z front =>
        have tail : cut? pattern text = some (front, rest) ↔
            text = front ++ (pattern ++ rest) ∧ ¬ pattern <:+: front ++ pattern.dropLast := ih
        rw [lengthened, tail, List.cons_append, List.cons_append, List.cons.injEq, List.infix_cons_iff, not_or,
          and_assoc]
        refine and_congr_right fun same => and_congr_right fun split => ?_
        have late : ¬ pattern <+: z :: (front ++ pattern.dropLast) := by
          intro early
          have shown := early.trans (List.cons_prefix_cons.mpr ⟨rfl, dropLast_within pattern front rest⟩)
          exact starts (by rwa [same, split])
        exact (and_iff_right late).symm

theorem cut_start (filled : pattern ≠ []) : cut? pattern (pattern ++ rest) = some ([], rest) :=
  (cut_eq_some_iff filled).mpr ⟨rfl, not_infix_dropLast filled⟩

/-- A pattern that does not occur before an element it doesn't have is found where it stands behind
that element. -/
theorem cut_behind (apart : x ∉ pattern) (absent : ¬ pattern <:+: front) :
    cut? pattern (front ++ x :: (pattern ++ rest)) = some (front ++ [x], rest) := by
  have filled : pattern ≠ [] := by
    rintro rfl
    exact absent List.nil_infix
  refine (cut_eq_some_iff filled).mpr ⟨by simp, ?_⟩
  rw [List.append_assoc, List.singleton_append, infix_around apart, not_or]
  exact ⟨absent, not_infix_dropLast filled⟩

/-- A pattern is found behind elements that are not its first one. -/
theorem cut_apart (apart : x ∉ front) :
    cut? (x :: pattern) (front ++ (x :: pattern ++ rest)) = some (front, rest) := by
  have filled : x :: pattern ≠ [] := List.cons_ne_nil _ _
  refine (cut_eq_some_iff filled).mpr ⟨rfl, ?_⟩
  rw [infix_behind apart]
  exact not_infix_dropLast filled

omit [BEq α] [LawfulBEq α] in
/-- A pattern that starts among copies of an element in front of it has no other element. -/
private theorem same_of_repeated {count : Nat}
    (starts : pattern <+: List.replicate (count + 1) x ++ pattern) : ∀ y ∈ pattern, y = x := by
  induction pattern with
  | nil => simp
  | cons first pattern ih =>
    rw [List.replicate_succ, List.cons_append, List.cons_prefix_cons] at starts
    obtain ⟨rfl, starts⟩ := starts
    have shifted : List.replicate count first ++ first :: pattern =
        List.replicate (count + 1) first ++ pattern := by
      rw [List.replicate_succ', List.append_assoc, List.singleton_append]
    rw [shifted] at starts
    exact List.forall_mem_cons.mpr ⟨rfl, ih starts⟩

/-- A pattern is found behind copies of an element, unless it consists of such copies itself. -/
theorem cut_repeated (other : ∃ y ∈ pattern, y ≠ x) (count : Nat) :
    cut? pattern (List.replicate count x ++ (pattern ++ rest)) = some (List.replicate count x, rest) := by
  obtain ⟨y, member, differs⟩ := other
  induction count with
  | zero => exact cut_start (List.ne_nil_of_mem member)
  | succ count ih =>
    have late : ¬ pattern <+: List.replicate (count + 1) x ++ (pattern ++ rest) := by
      intro early
      have whole := List.prefix_append (List.replicate (count + 1) x ++ pattern) rest
      rw [List.append_assoc] at whole
      exact differs (same_of_repeated (List.prefix_of_prefix_length_le early whole (by simp)) y member)
    rw [List.replicate_succ, List.cons_append] at late ⊢
    rw [cut?, if_neg (mt List.isPrefixOf_iff_prefix.mp late), ih]
    rfl

end Lists

/-! ### Pieces -/

private theorem splitFrom_skipped (pattern text : Text) (skipped : Nat) :
    splitFrom pattern skipped text = splitOnText pattern (text.drop skipped) := by
  induction text generalizing skipped with
  | nil => cases skipped <;> rfl
  | cons c text ih =>
    cases skipped with
    | zero => rfl
    | succ skipped => exact ih skipped

/-- The pieces of a text are the one in front of the first occurrence and those behind it. -/
theorem pieces_of_cut {pattern : Text} (filled : pattern ≠ []) (text : Text) :
    splitOnText pattern text =
      match cut? pattern text with
      | some (front, rest) => front :: splitOnText pattern rest
      | none => [text] := by
  induction text with
  | nil =>
    rw [cut?, if_neg (by simpa using filled)]
    rfl
  | cons c text ih =>
    rw [splitOnText, splitFrom, cut?]
    by_cases starts : pattern.isPrefixOf (c :: text) = true
    · have positive := List.length_pos_iff.mpr filled
      obtain ⟨passed, long⟩ : ∃ passed, pattern.length = passed + 1 := ⟨pattern.length - 1, by omega⟩
      rw [if_pos starts, if_pos starts, splitFrom_skipped, long]
      rfl
    · rw [if_neg starts, if_neg starts, ← splitOnText, ih]
      cases cut? pattern text <;> rfl

/-- A text without the first character of the pattern is one piece. -/
theorem pieces_alone {c : Char} {pattern text : Text} (apart : c ∉ text) :
    splitOnText (c :: pattern) text = [text] := by
  have absent : ¬ c :: pattern <:+: text := fun inside => apart (inside.subset List.mem_cons_self)
  rw [pieces_of_cut (List.cons_ne_nil _ _), cut_eq_none_iff.mpr absent]

/-- A piece without the first character of the pattern ends where the pattern stands. -/
theorem pieces_first {c : Char} {pattern front rest : Text} (apart : c ∉ front) :
    splitOnText (c :: pattern) (front ++ (c :: pattern ++ rest)) = front :: splitOnText (c :: pattern) rest := by
  rw [pieces_of_cut (List.cons_ne_nil _ _), cut_apart apart]

/-- No occurrence goes across a separator that the pattern doesn't have. -/
theorem infix_of_join {separator : Char} {pattern : Text} {pieces : List Text} (filled : pattern ≠ [])
    (apart : separator ∉ pattern) (inside : pattern <:+: join [separator] pieces) :
    ∃ piece ∈ pieces, pattern <:+: piece := by
  induction pieces with
  | nil => exact absurd (List.infix_nil.mp inside) filled
  | cons piece pieces ih =>
    cases pieces with
    | nil => exact ⟨piece, List.mem_cons_self, inside⟩
    | cons next others =>
      rw [join, List.append_assoc, List.singleton_append, infix_around apart] at inside
      rcases inside with own | later
      · exact ⟨piece, List.mem_cons_self, own⟩
      · obtain ⟨other, among, found⟩ := ih later
        exact ⟨other, List.mem_cons_of_mem _ among, found⟩

/-! ### Texts that are written character by character -/

section Pieces

variable {α β : Type} {f : α → List β} {x : α} {pattern text : List α}

/-- Pieces tell the elements of a pattern apart: each of these is written as a single element, no
other piece starts with that, and the first one is not inside any piece. -/
structure Tells (f : α → List β) (x : α) (pattern : List α) : Prop where
  some : ∀ c, f c ≠ []
  single : ∀ d ∈ x :: pattern, ∃ b, f d = [b]
  heads : ∀ c, ∀ d ∈ x :: pattern, (f c).head? = (f d).head? → c = d
  tails : ∀ c, ∀ b ∈ (f c).tail, f x ≠ [b]

private theorem prefix_of_pieces {ps : List α} (tells : Tells f x pattern)
    (among : ∀ d ∈ ps, d ∈ x :: pattern) (starts : ps.flatMap f <+: text.flatMap f) : ps <+: text := by
  induction ps generalizing text with
  | nil => exact List.nil_prefix
  | cons d ps ih =>
    obtain ⟨own, others⟩ := List.forall_mem_cons.mp among
    obtain ⟨b, single⟩ := tells.single d own
    cases text with
    | nil => simp [single] at starts
    | cons c text =>
      have same : c = d := by
        refine tells.heads c d own ?_
        obtain ⟨b', piece, shape⟩ := List.exists_cons_of_ne_nil (tells.some c)
        rw [List.flatMap_cons, List.flatMap_cons, single, shape] at starts
        rw [single, shape, (List.cons_prefix_cons.mp starts).1]
        rfl
      subst same
      rw [List.flatMap_cons, List.flatMap_cons, List.prefix_append_right_inj] at starts
      exact List.cons_prefix_cons.mpr ⟨rfl, ih others starts⟩

/-- A pattern occurs where its pieces do. -/
theorem infix_of_pieces (tells : Tells f x pattern)
    (inside : (x :: pattern).flatMap f <:+: text.flatMap f) : x :: pattern <:+: text := by
  obtain ⟨b, single⟩ := tells.single x List.mem_cons_self
  induction text with
  | nil => simp [single] at inside
  | cons c text ih =>
    obtain ⟨first, piece, shape⟩ := List.exists_cons_of_ne_nil (tells.some c)
    have skipped : b ∉ piece := by
      intro member
      refine tells.tails c b ?_ single
      rw [shape]
      exact member
    rw [List.flatMap_cons (x := c), shape, List.cons_append, List.infix_cons_iff] at inside
    rcases inside with starts | later
    · rw [← List.cons_append, ← shape, ← List.flatMap_cons] at starts
      exact (prefix_of_pieces tells (fun _ member => member) starts).isInfix
    · rw [List.flatMap_cons, single, List.singleton_append, infix_behind skipped,
        ← List.singleton_append, ← single, ← List.flatMap_cons] at later
      exact List.infix_cons (ih later)

end Pieces

/-! ### Bytes -/

private theorem byte_small {n : Nat} (small : n < 256) : (UInt8.ofNat n).toNat = n := by
  simp [Nat.mod_eq_of_lt small]

/-- The bytes of a character beyond ASCII are beyond ASCII. -/
private theorem bytes_beyond {n : Nat} (valid : n < 0x110000) (beyond : 128 ≤ n) :
    ∀ b ∈ utf8OfNat n, 128 ≤ b.toNat := by
  unfold utf8OfNat
  rw [if_neg (by omega)]
  split
  · simp only [List.forall_mem_cons, List.not_mem_nil, false_implies, implies_true, and_true]
    rw [byte_small (by omega), byte_small (by omega)]
    omega
  split
  · simp only [List.forall_mem_cons, List.not_mem_nil, false_implies, implies_true, and_true]
    rw [byte_small (by omega), byte_small (by omega), byte_small (by omega)]
    omega
  · simp only [List.forall_mem_cons, List.not_mem_nil, false_implies, implies_true, and_true]
    rw [byte_small (by omega), byte_small (by omega), byte_small (by omega), byte_small (by omega)]
    omega

private theorem utf8_ascii {c : Char} (ascii : c.toNat < 128) :
    utf8OfNat c.toNat = [UInt8.ofNat c.toNat] := by
  rw [utf8OfNat, if_pos ascii]

theorem utf8OfNat_ne_nil (c : Char) : utf8OfNat c.toNat ≠ [] := by
  unfold utf8OfNat
  split_ifs <;> exact List.cons_ne_nil _ _

private theorem utf8_tells {x : Char} {pattern : Text} (ascii : ∀ d ∈ x :: pattern, d.toNat < 128) :
    Tells (fun c : Char => utf8OfNat c.toNat) x pattern := by
  have valid (c : Char) : c.toNat < 0x110000 := by
    rcases c.valid with low | high
    · exact lt_trans low (by decide)
    · exact high.2
  constructor
  · exact utf8OfNat_ne_nil
  · intro d member
    exact ⟨_, utf8_ascii (ascii d member)⟩
  · intro c d member same
    have small := ascii d member
    rw [utf8_ascii small, List.head?_cons] at same
    by_cases own : c.toNat < 128
    · rw [utf8_ascii own, List.head?_cons, Option.some.injEq] at same
      have number := congrArg UInt8.toNat same
      rw [byte_small (by omega), byte_small (by omega)] at number
      exact Char.toNat_inj.mp number
    · have high := bytes_beyond (valid c) (by omega) _ (List.mem_of_mem_head? same)
      rw [byte_small (by omega)] at high
      omega
  · intro c b member same
    have small := ascii x List.mem_cons_self
    rw [utf8_ascii small, List.singleton_inj] at same
    by_cases own : c.toNat < 128
    · rw [utf8_ascii own] at member
      cases member
    · have high := bytes_beyond (valid c) (by omega) b (List.mem_of_mem_tail member)
      rw [← same, byte_small (by omega)] at high
      omega

/-- An ASCII pattern occurs in a text where its bytes occur in the bytes of the text. -/
theorem infix_of_utf8 {pattern text : Text} (ascii : ∀ d ∈ pattern, d.toNat < 128)
    (inside : utf8 pattern <:+: utf8 text) : pattern <:+: text := by
  cases pattern with
  | nil => exact List.nil_infix
  | cons x pattern => exact infix_of_pieces (utf8_tells ascii) inside

/-- The byte of an ASCII character is among the bytes of a text only if the character is in it. -/
theorem mem_of_utf8 {c : Char} {text : Text} (ascii : c.toNat < 128)
    (member : UInt8.ofNat c.toNat ∈ utf8 text) : c ∈ text := by
  have inside : utf8 [c] <:+: utf8 text := by
    rw [utf8, List.flatMap_singleton, utf8_ascii ascii]
    obtain ⟨before, after, split⟩ := List.append_of_mem member
    exact ⟨before, after, by rw [split, List.append_assoc, List.singleton_append]⟩
  have found := infix_of_utf8 (by simpa using ascii) inside
  exact found.subset List.mem_cons_self

/-- The bytes of a text are cut like the text. -/
theorem cut_utf8 {x : Char} {pattern text : Text} (ascii : ∀ d ∈ x :: pattern, d.toNat < 128) :
    cut? (utf8 (x :: pattern)) (utf8 text) =
      (cut? (x :: pattern) text).map fun (before, after) => (utf8 before, utf8 after) := by
  have filled : x :: pattern ≠ [] := List.cons_ne_nil _ _
  cases cut : cut? (x :: pattern) text with
  | none =>
    rw [cut_eq_none_iff] at cut
    exact cut_eq_none_iff.mpr (mt (infix_of_utf8 ascii) cut)
  | some sides =>
    obtain ⟨front, rest⟩ := sides
    obtain ⟨rfl, first⟩ := (cut_eq_some_iff filled).mp cut
    have written : utf8 (x :: pattern) ≠ [] := by
      rw [utf8, List.flatMap_cons, utf8_ascii (ascii x List.mem_cons_self)]
      exact List.cons_ne_nil _ _
    have last : (utf8 (x :: pattern)).dropLast = utf8 (x :: pattern).dropLast := by
      have ends := ascii _ (List.getLast_mem filled)
      conv_lhs => rw [← List.dropLast_append_getLast filled]
      rw [utf8, List.flatMap_append, List.flatMap_singleton, utf8_ascii ends, List.dropLast_concat]
      rfl
    refine (cut_eq_some_iff written).mpr ⟨by simp [utf8], ?_⟩
    have joined : utf8 front ++ utf8 (x :: pattern).dropLast = utf8 (front ++ (x :: pattern).dropLast) :=
      List.flatMap_append.symm
    rw [last, joined]
    exact mt (infix_of_utf8 ascii) first

end TableGate.PatternSearch
