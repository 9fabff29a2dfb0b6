import TableGate.Proofs.FloatRange
import TableGate.Proofs.JsonReading

/-! What is read of a JSON text can be printed. A number with too many digits is refused while it is
read, so that no integer of a value is too long for its own text. -/
namespace TableGate.JsonPrinting
open DecimalReading Fallible JsonReading Text

/-- A value all of whose numbers have a text. -/
inductive Printable : Json → Prop
  | null : Printable .null
  | bool (value : Bool) : Printable (.bool value)
  | int {n : Int} (printed : ∃ text, Integer.text n = .ok text) : Printable (.int n)
  | float {number : Binary64} (prints : FloatRange.Prints number) : Printable (.float number)
  | text (value : Text) : Printable (.text value)
  | array {items : List Json} (each : ∀ item ∈ items, Printable item) : Printable (.array items)
  | object {entries : List (Text × Json)} (each : ∀ entry ∈ entries, Printable entry.2) :
    Printable (.object entries)

/-- A value at the front of a text is printable. -/
def ValuePrints (source : Text) : Prop :=
  ∀ value rest, readValue source = .ok (value, rest) → Printable value

/-- The items of an array at the front of a text are printable. -/
def ItemsPrint (source : Text) : Prop :=
  ∀ items rest, readItems source = .ok (items, rest) → ∀ item ∈ items, Printable item

/-- The entries of an object at the front of a text have printable values. -/
def EntriesPrint (source : Text) : Prop :=
  ∀ entries rest, readEntries source = .ok (entries, rest) → ∀ entry ∈ entries, Printable entry.2

variable {source text : Text} {n : Nat}

/-! ### Numbers -/

private theorem digit_small {c : Char} {value : Nat} (read : digitValue? c = some value) : value < 10 := by
  unfold digitValue? at read
  split at read
  · split at read
    · rename_i digit
      have bounds := digit_bounds digit
      cases read
      omega
    · cases read
  · obtain ⟨first, found, rfl⟩ := Option.map_eq_some_iff.mp read
    have inside := List.find?_some found
    simp only [Bool.and_eq_true, decide_eq_true_eq] at inside
    omega

/-- A row of digits writes no number with more digits. -/
theorem digitsValue_lt (digits : Text) : digitsValue digits < 10 ^ digits.length := by
  have from_start (start : Nat) :
      digits.foldl (fun value c => 10 * value + (digitValue? c).getD 0) start <
        (start + 1) * 10 ^ digits.length := by
    induction digits generalizing start with
    | nil => simp
    | cons c digits ih =>
      have small : (digitValue? c).getD 0 < 10 := by
        cases read : digitValue? c with
        | none => decide
        | some value => exact digit_small read
      refine Nat.lt_of_lt_of_le (ih _) ?_
      rw [List.length_cons, Nat.pow_succ, Nat.mul_comm (10 ^ digits.length), ← Nat.mul_assoc]
      refine Nat.mul_le_mul_right _ ?_
      dsimp only
      omega
  simpa [digitsValue] using from_start 0

/-- A number that was read of few enough digits prints, with either sign. -/
theorem ofDigits_prints (read : Integer.ofDigits text = .ok n) (some : text ≠ []) {value : Int}
    (same : value.natAbs = n) : ∃ printed, Integer.text value = .ok printed := by
  unfold Integer.ofDigits at read
  split at read
  · cases read
  · rename_i short
    cases read
    have digits : (ofNat value.natAbs).length ≤ text.length := by
      rw [same]
      exact (length_ofNat_le (List.length_pos_iff.mpr some)).mpr (digitsValue_lt text)
    exact ⟨_, integer_text_eq_ok.mpr ⟨Nat.le_trans digits (Nat.le_of_not_lt short), rfl⟩⟩

private theorem number_prints {value : Json} {rest : Json.Rest source}
    (read : Json.number source = .ok (value, rest)) : Printable value := by
  unfold Json.number at read
  extract_lets sign unsigned whole fraction exponent size at read
  split at read
  · cases read
  · rename_i found
    have some : whole ≠ [] := by
      intro empty
      simp [empty] at found
    split at read
    · split at read
      · rename_i value digits
        cases read
        exact .int (ofDigits_prints digits some (by split <;> simp))
      · cases read
    · cases read
      refine .float ?_
      cases number : Binary64.ofText? (source.take size) with
      | none => exact fun _ => nofun
      | some number => exact FloatRange.ofText_prints number

private theorem word_prints : ∀ entry ∈ Json.words, Printable entry.2 := by
  simp only [Json.words, List.forall_mem_cons]
  exact ⟨.null, .bool true, .bool false, .float fun _ => nofun, .float fun _ => nofun,
    .float fun _ => nofun, nofun⟩

private theorem scalar_prints {value : Json} {rest : Json.Rest source}
    (read : Json.scalar source = .ok (value, rest)) : Printable value := by
  unfold Json.scalar at read
  split at read
  · rename_i word value known
    split at read
    · cases read
      exact word_prints _ (List.mem_of_find?_eq_some known)
    · cases read
  · exact number_prints read

/-! ### Values -/

/-- What follows a part that was read is shorter than the text. -/
private theorem forgotten {α : Type} {result : Except Json.Stop (α × Json.Rest source)} {value : α}
    {rest : Text} (read : (result.map fun (value, rest) => (value, rest.1)) = .ok (value, rest)) :
    ∃ shorter, result = .ok (value, ⟨rest, shorter⟩) := by
  cases result with
  | error stop => cases read
  | ok pair =>
    obtain ⟨first, after, shorter⟩ := pair
    cases read
    exact ⟨shorter, rfl⟩

private theorem value_prints
    (inner : ∀ later : Text, later.length < source.length → ItemsPrint later ∧ EntriesPrint later) :
    ValuePrints source := by
  intro value rest read
  have within {text : Text} : (Json.skipGap text).length < text.length + 1 :=
    Nat.lt_succ_of_le (Json.length_skipGap_le text)
  cases source using Json.value.fun_cases with
  | case1 start =>
    obtain ⟨shorter, found⟩ := forgotten read
    rw [Json.value.eq_1] at found
    obtain ⟨_, -, same⟩ := map_eq_ok.mp found
    cases same
    exact .text _
  | case2 start after gap =>
    rw [value_array, gap] at read
    cases read
    exact .array (by simp)
  | case3 start more =>
    rw [value_array] at read
    split at read
    · rename_i after gap
      exact (more after gap).elim
    · obtain ⟨⟨items, after⟩, found, same⟩ := map_eq_ok.mp read
      cases same
      exact .array ((inner _ within).1 items rest found)
  | case4 start after gap =>
    rw [value_object, gap] at read
    cases read
    exact .object (by simp)
  | case5 start more =>
    rw [value_object] at read
    split at read
    · rename_i after gap
      exact (more after gap).elim
    · obtain ⟨⟨entries, after⟩, found, same⟩ := map_eq_ok.mp read
      cases same
      exact .object fun _ kept => (inner _ within).2 entries rest found _ (mem_distinctKeys kept)
  | case6 text noText noArray noObject =>
    obtain ⟨shorter, found⟩ := forgotten read
    rw [Json.value.eq_4 _ noText noArray noObject] at found
    exact scalar_prints found

private theorem items_print (own : ValuePrints source)
    (inner : ∀ later : Text, later.length < source.length → ItemsPrint later) : ItemsPrint source := by
  intro items rest read
  rw [items_step] at read
  cases found : readValue source with
  | error stop => simp [found] at read
  | ok pair =>
    obtain ⟨item, after⟩ := pair
    obtain ⟨shorter, -⟩ := forgotten found
    rw [found] at read
    dsimp only at read
    split at read
    · cases read
      exact List.forall_mem_singleton.mpr (own item after found)
    · rename_i next gap
      have behind := Json.length_lt_of_skipGap gap
      have further := Json.length_skipGap_le next
      obtain ⟨⟨others, last⟩, more, same⟩ := map_eq_ok.mp read
      cases same
      exact List.forall_mem_cons.mpr ⟨own item after found, inner _ (by omega) others last more⟩
    · cases read

/-- Only a text that starts with a quote has entries. -/
private theorem entries_quoted {entries : List (Text × Json)} {rest : Text}
    (read : readEntries source = .ok (entries, rest)) : ∃ start, source = '"' :: start := by
  by_contra unquoted
  obtain ⟨shorter, found⟩ := forgotten read
  rw [Json.entries.eq_2 _ fun start same => unquoted ⟨start, same⟩] at found
  cases found

private theorem entries_print
    (inner : ∀ later : Text, later.length < source.length → ValuePrints later ∧ EntriesPrint later) :
    EntriesPrint source := by
  intro entries rest read
  obtain ⟨start, rfl⟩ := entries_quoted read
  rw [entries_step] at read
  cases name : MediaReading.readString start with
  | error stop => simp [name] at read
  | ok pair =>
    obtain ⟨key, behind⟩ := pair
    obtain ⟨nameEnd, -⟩ := forgotten name
    rw [name] at read
    dsimp only at read
    split at read
    · rename_i next colon
      have colonEnd := Json.length_lt_of_skipGap colon
      have nextEnd := Json.length_skipGap_le next
      cases content : readValue (Json.skipGap next) with
      | error stop => simp [content] at read
      | ok pair =>
        obtain ⟨value, after⟩ := pair
        obtain ⟨valueEnd, -⟩ := forgotten content
        have shorter : (Json.skipGap next).length < ('"' :: start).length := by
          rw [List.length_cons]
          omega
        have own := (inner _ shorter).1 value after content
        rw [content] at read
        dsimp only at read
        split at read
        · cases read
          exact List.forall_mem_singleton.mpr own
        · rename_i last comma
          have commaEnd := Json.length_lt_of_skipGap comma
          have lastEnd := Json.length_skipGap_le last
          obtain ⟨⟨others, behind⟩, more, same⟩ := map_eq_ok.mp read
          have shorter : (Json.skipGap last).length < ('"' :: start).length := by omega
          cases same
          exact List.forall_mem_cons.mpr ⟨own, (inner _ shorter).2 others behind more⟩
        · cases read
    · cases read

/-- Whatever is read at the front of a text is printable. -/
private theorem read_prints (source : Text) :
    ValuePrints source ∧ ItemsPrint source ∧ EntriesPrint source := by
  induction size : source.length using Nat.strong_induction_on generalizing source with
  | _ size ih =>
    have inner (later : Text) (shorter : later.length < source.length) :=
      ih later.length (by omega) later rfl
    have value : ValuePrints source := value_prints fun later shorter => (inner later shorter).2
    exact ⟨value, items_print value fun later shorter => (inner later shorter).2.1,
      entries_print fun later shorter => ⟨(inner later shorter).1, (inner later shorter).2.2⟩⟩

/-- The value of a JSON text is printable. -/
theorem document_prints {text : Text} {value : Json} (read : Json.parse text = .ok value) :
    Printable value := by
  unfold Json.parse at read
  cases found : Json.document text with
  | error stop => simp [found, Except.mapError] at read
  | ok json =>
    rw [found] at read
    cases read
    unfold Json.document at found
    split at found
    · cases found
    · cases content : Json.value (Json.skipGap text) with
      | error stop => simp [content, bind, Except.bind] at found
      | ok pair =>
        obtain ⟨first, rest⟩ := pair
        have shown : readValue (Json.skipGap text) = .ok (first, rest.1) := by
          show (Json.value (Json.skipGap text)).map _ = _
          rw [content]
          rfl
        simp only [content, bind, Except.bind] at found
        split at found
        · cases found
          exact (read_prints _).1 _ _ shown
        · cases found

/-- A JSON text that can't be read is no JSON, or has a number with too many digits. -/
theorem parse_refuses {text : Text} {fault : Fault} (raised : Json.parse text = .error fault) :
    (∃ problem line column position, fault = .json problem line column position) ∨
      ∃ problem, fault = .conversion problem := by
  unfold Json.parse at raised
  cases found : Json.document text with
  | ok json => simp [found, Except.mapError] at raised
  | error stop =>
    rw [found] at raised
    cases raised
    cases stop with
    | problem cause left => exact .inl ⟨_, _, _, _, rfl⟩
    | tooManyDigits count => exact .inr ⟨_, rfl⟩

end TableGate.JsonPrinting
