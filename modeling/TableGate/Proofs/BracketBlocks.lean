import TableGate.Proofs.FilterWriting

/-! Bracket blocks in balanced texts. The first bracket of a block is closed by its last one and not
before, so that a block says where it ends, and no block lies across the end of a balanced part. -/
namespace TableGate.BracketBlocks
open BracketBalance FilterWriting

variable {text rest inner other front behind : Text}

/-! ### Balanced texts -/

theorem balanced_free (free : Free text) : Balanced text :=
  balanced_iff.mpr ⟨free_above free (Int.le_refl 0), free_depth free⟩

/-- Behind a balanced text, a text is balanced exactly if both together are. -/
theorem balanced_behind (balanced : Balanced text) : Balanced (text ++ rest) ↔ Balanced rest := by
  obtain ⟨above, level⟩ := balanced_iff.mp balanced
  rw [balanced_iff, balanced_iff, above_append, depth_append, level, Int.zero_add, Int.zero_add]
  exact and_congr_left fun _ => and_iff_right above

theorem block_level (balanced : Balanced inner) : depth (block inner) = 0 := by
  rw [block, depth_block, (balanced_iff.mp balanced).2]
  rfl

theorem balanced_block (balanced : Balanced inner) : Balanced (block inner) := by
  obtain ⟨above, level⟩ := balanced_iff.mp balanced
  exact balanced_iff.mpr ⟨above_block above level (Int.le_refl 0), block_level balanced⟩

/-! ### Where blocks end -/

/-- Before its last bracket a block is not closed. -/
theorem block_inside (balanced : Balanced inner) (short : front <+: block inner) (filled : front ≠ [])
    (proper : front ≠ block inner) : 0 < depth front := by
  obtain ⟨above, -⟩ := balanced_iff.mp balanced
  have within : front <+: '(' :: inner := by
    rw [block, List.prefix_concat_iff] at short
    exact short.resolve_left proper
  rw [List.prefix_cons_iff] at within
  obtain ⟨start, rfl, shorter⟩ := within.resolve_left filled
  have kept := above_iff.mp above start shorter
  simp only [depth, Filter.depthStep, if_true]
  omega

/-- No balanced text goes on behind the bracket that closes the block around another one. -/
private theorem inside_short (balanced : Balanced inner) (same : inner ++ ')' :: rest = other ++ ')' :: behind)
    (longer : Balanced other) : ∀ more, other = inner ++ more → more = [] := by
  rintro more rfl
  cases more with
  | nil => rfl
  | cons c more =>
    rw [List.append_assoc] at same
    obtain ⟨rfl, -⟩ := List.cons.inj (List.append_cancel_left same)
    have front : inner ++ [')'] <+: inner ++ ')' :: more := ⟨more, by simp⟩
    have closing := longer.opened _ front
    have even := balanced.closed
    simp at closing
    omega

/-- A block determines its inside and what follows it. -/
theorem block_cancel (first : Balanced inner) (second : Balanced other)
    (same : block inner ++ rest = block other ++ behind) : inner = other ∧ rest = behind := by
  have inside : inner ++ ')' :: rest = other ++ ')' :: behind := by
    simpa [block] using same
  have equal : inner = other := by
    rcases List.append_eq_append_iff.mp inside with ⟨more, shape, -⟩ | ⟨more, shape, -⟩
    · obtain rfl := inside_short first inside second more shape
      simpa using shape.symm
    · obtain rfl := inside_short second inside.symm first more shape
      simpa using shape
  subst equal
  exact ⟨rfl, (List.cons.inj (List.append_cancel_left inside)).2⟩

/-! ### Blocks in a text -/

/-- A block in two texts of which the first is balanced lies in one of them. -/
theorem block_apart (balanced : Balanced text) (whole : Balanced inner)
    (inside : block inner <:+: text ++ rest) : block inner <:+: text ∨ block inner <:+: rest := by
  obtain ⟨before, after, same⟩ := inside
  rw [List.append_assoc] at same
  rcases List.append_eq_append_iff.mp same.symm with ⟨gap, rfl, rfl⟩ | ⟨mine, rfl, shared⟩
  · exact .inr ⟨gap, after, by simp⟩
  · rcases List.append_eq_append_iff.mp shared with ⟨gap, rfl, rfl⟩ | ⟨other, shape, rfl⟩
    · exact .inl ⟨before, gap, by simp⟩
    · by_cases none : mine = []
      · subst none
        rw [List.nil_append] at shape
        exact .inr ⟨[], after, by simp [shape]⟩
      · by_cases full : mine = block inner
        · exact .inl ⟨before, [], by simp [full]⟩
        · -- The block would be open at the end of the balanced text.
          have open_there := block_inside whole ⟨other, shape.symm⟩ none full
          obtain ⟨above, level⟩ := balanced_iff.mp balanced
          have kept := above_iff.mp above before (List.prefix_append before mine)
          rw [depth_append] at level
          omega

theorem block_not_free (free : Free text) : ¬ block inner <:+: text := by
  rintro ⟨before, after, rfl⟩
  have bracket := free '(' (by simp [block])
  cases bracket

/-- A block in another one is the whole, or lies in its inside. -/
theorem block_nested (whole : Balanced inner) (around : Balanced other)
    (inside : block inner <:+: block other) : inner = other ∨ block inner <:+: other := by
  obtain ⟨before, after, same⟩ := inside
  cases before with
  | nil =>
    have ends : block inner ++ after = block other ++ [] := by simpa using same
    exact .inl (block_cancel whole around ends).1
  | cons c before =>
    right
    have level := block_level around
    have short : c :: before <+: block other := ⟨block inner ++ after, by simpa using same⟩
    have proper : c :: before ≠ block other := by
      intro full
      rw [full, List.append_assoc] at same
      have none := List.append_right_eq_self.mp same
      cases none
    have opened := block_inside around short (List.cons_ne_nil c before) proper
    rcases List.eq_nil_or_concat after with rfl | ⟨after, last, rfl⟩
    · rw [← same, depth_append, depth_append, block_level whole] at level
      simp only [depth] at level opened
      omega
    · rw [block.eq_def other, List.cons_append, List.cons_append] at same
      have tail : before ++ block inner ++ after ++ [last] = other ++ [')'] := by
        simpa using (List.cons.inj same).2
      exact ⟨before, after, List.append_inj_left' tail rfl⟩

end TableGate.BracketBlocks
