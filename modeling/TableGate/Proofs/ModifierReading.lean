import TableGate.Proofs.DecimalReading
import TableGate.Proofs.TableStatements

/-! Modifiers of a query, read back from how they are written. Names are read as far as they have word
characters, so no end of a name is taken for a direction, and numbers as far as they have digits. -/
namespace TableGate.ModifierReading
open QueryFaults TableStatements Text TextFacts

/-- A word is a keyword, each of its letters in either case. -/
def Cased (keyword word : Text) : Prop :=
  List.Forall₂ (fun letter c => c = letter ∨ c = letter.toUpper) keyword word

/-- What may follow the name of a column, and whether it makes the direction a descending one. -/
inductive Direction : Bool → Text → Prop where
  | omitted : Direction false []
  | ascending (word : Text) (cased : Cased "asc" word) : Direction false (' ' :: word)
  | plus : Direction false " +"
  | descending (word : Text) (cased : Cased "desc" word) : Direction true (' ' :: word)
  | minus : Direction true " -"

/-- A column to order by, as it is written. -/
structure Directed where
  name : Word
  descending : Bool
  mark : Text
  direction : Direction descending mark

def Directed.text (column : Directed) : Text := column.name.text ++ column.mark

def Directed.key (column : Directed) : OrderKey := ⟨column.name.text, column.descending⟩

/-- A number as it is written. -/
structure Digits where
  text : Text
  filled : text ≠ []
  digits : ∀ c ∈ text, isDigit c = true
  short : text.length ≤ 4300

def Digits.value (number : Digits) : Nat := digitsValue number.text

/-- A function applied to a field. -/
structure Call where
  function : AggregateFunction
  field : Word

def Call.text (call : Call) : Text := call.function.word ++ '(' :: (call.field.text ++ ")")

/-- A name that a selection can list: it has no commas, and no blanks around it. -/
structure Listed where
  text : Text
  single : ',' ∉ text
  front : Stops isBlank text
  back : Stops isBlank text.reverse

variable {keyword word rest page : Text} {descending : Bool}

/-! ### Tokens between commas -/

/-- Tokens that are read one by one are read from their list. -/
private theorem tokens_read {α β : Type} {read : Text → Except Fault β} (token : α → Text) (value : α → β)
    {items : List α} (some : items ≠ [])
    (each : ∀ item, ',' ∉ token item ∧ read (token item) = .ok (value item)) :
    (splitOn ',' (join "," (items.map token))).mapM read = .ok (items.map value) := by
  have cut : splitOn ',' (join "," (items.map token)) = items.map token :=
    splitOn_tokens some fun item => (each item).1
  rw [cut, Fallible.mapM_eq_ok_iff, List.forall₂_map_left_iff, List.forall₂_map_right_iff, List.forall₂_same]
  exact fun item _ => (each item).2

private theorem list_filled {α : Type} {token : α → Text} {items : List α} (some : items ≠ [])
    (filled : ∀ item, token item ≠ []) : (join "," (items.map token)).isEmpty = false := by
  obtain ⟨item, others, rfl⟩ := List.exists_cons_of_ne_nil some
  rw [List.map_cons, join_cons, List.isEmpty_eq_false_iff]
  exact List.append_ne_nil_of_left_ne_nil (filled item) _

/-! ### Orderings -/

theorem cased_spelled (cased : Cased keyword word) : Spelled keyword word := by
  refine List.Forall₂.imp (fun letter c own => ?_) cased
  rcases own with rfl | rfl <;> simp [isLetter]

/-- A keyword in any case is dropped as a whole, and has no comma. -/
private theorem cased_read (cased : Cased keyword word)
    (letters : ∀ letter ∈ keyword, ',' ≠ letter ∧ ',' ≠ letter.toUpper) :
    dropKeyword? keyword word = some [] ∧ ',' ∉ ' ' :: word := by
  refine ⟨dropKeyword_iff.mpr ⟨word, (List.append_nil word).symm, cased_spelled cased⟩, fun member => ?_⟩
  rcases List.mem_cons.mp member with blank | member
  · exact absurd blank (by decide)
  · obtain ⟨letter, among, own⟩ := (Fallible.partners cased).2 ',' member
    exact own.elim (letters letter among).1 (letters letter among).2

/-- A direction is read behind a name, which stops there. -/
private theorem direction_read {mark : Text} (direction : Direction descending mark) :
    OrderKey.direction? mark = some descending ∧ Stops isWord mark ∧ ',' ∉ mark := by
  have blank : isBlank ' ' = true := by decide
  have apart : isWord ' ' = false := by decide
  cases direction with
  | omitted => exact ⟨rfl, nofun, List.not_mem_nil⟩
  | plus => exact ⟨rfl, stops_cons apart, by decide⟩
  | minus => exact ⟨rfl, stops_cons apart, by decide⟩
  | ascending word cased =>
    obtain ⟨dropped, free⟩ := cased_read cased (by decide)
    refine ⟨?_, stops_cons apart, free⟩
    simp only [OrderKey.direction?, blank, if_pos, OrderKey.directions, List.findSome?_cons, dropped, List.all_nil]
    rfl
  | descending word cased =>
    obtain ⟨dropped, free⟩ := cased_read cased (by decide)
    -- The word doesn't start with the first letter of the other direction.
    have other : dropKeyword? "asc" word = none := by
      cases cased with
      | cons own _ => rcases own with rfl | rfl <;> rfl
    refine ⟨?_, stops_cons apart, free⟩
    simp only [OrderKey.direction?, blank, if_pos, OrderKey.directions, List.findSome?_cons, other, dropped,
      List.all_nil]
    rfl

theorem key_read (column : Directed) : ',' ∉ column.text ∧ OrderKey.parse? column.text = some column.key := by
  obtain ⟨read, stops, free⟩ := direction_read column.direction
  have own : ',' ∉ column.name.text := not_mem_of_class column.name.chars (by decide)
  have start : column.text.dropWhile isBlank = column.text :=
    dropWhile_stops (stops_append column.name.filled (word_stops column.name))
  have field : column.text.takeWhile isWord = column.name.text := takeWhile_run column.name.chars stops
  have behind : column.text.dropWhile isWord = column.mark := dropWhile_run column.name.chars stops
  refine ⟨fun member => (List.mem_append.mp member).elim own free, ?_⟩
  rw [OrderKey.parse?, start, field, behind, read]
  exact if_neg (by simp [column.name.filled])

/-- An ordering is read as its columns, each with its direction. -/
theorem order_read (columns : List Directed) :
    Order.parse (join "," (columns.map (·.text))) = .ok ⟨columns.map (·.key)⟩ := by
  by_cases nothing : columns = []
  · rw [nothing]
    rfl
  · have filled : (join "," (columns.map (·.text))).isEmpty = false :=
      list_filled nothing fun column => List.append_ne_nil_of_left_ne_nil column.name.filled _
    rw [Order.parse, filled, tokens_read Directed.text Directed.key nothing ?_]
    · rfl
    · intro column
      obtain ⟨free, read⟩ := key_read column
      rw [read]
      exact ⟨free, rfl⟩

/-! ### Limits -/

/-- The decimal digits of a number. -/
def Digits.ofNat (n : Nat) (short : (Text.ofNat n).length ≤ 4300) : Digits where
  text := Text.ofNat n
  filled := DecimalReading.ofNat_ne_nil n
  digits c member := by
    have digit := Nat.isDigit_of_mem_toDigits (by decide) (by decide) member
    rw [isDigit, DecimalReading.value_of_digit digit]
    rfl
  short := short

theorem Digits.value_ofNat (n : Nat) (short : (Text.ofNat n).length ≤ 4300) :
    (Digits.ofNat n short).value = n :=
  DecimalReading.digitsValue_ofNat n

/-- The digits of a limit are those in front of the mark of the page, and those behind it. -/
private theorem digits_read (size : Digits) (stops : Stops isDigit rest) (mark : Limit.dropPageMark rest = page)
    (digits : ∀ c ∈ page, isDigit c = true) : Limit.digits? (size.text ++ rest) = some (size.text, page) := by
  have ends : Stops isDigit [] := nofun
  have taken : page.takeWhile isDigit = page := by simpa using takeWhile_run digits ends
  have dropped : page.dropWhile isDigit = [] := by simpa using dropWhile_run digits ends
  rw [Limit.digits?, takeWhile_run size.digits stops, dropWhile_run size.digits stops, mark]
  simp [taken, dropped, size.filled]

/-- A limit is read with its page where this is asked for. -/
theorem limit_read (size page : Digits) :
    Limit.parse size.text = .ok ⟨some size.value, none⟩ ∧
      Limit.parse (size.text ++ (" page " ++ page.text)) = .ok ⟨some size.value, some page.value⟩ ∧
      Limit.parse (size.text ++ ("." ++ page.text)) = .ok ⟨some size.value, some page.value⟩ := by
  have number (digits : Digits) : Integer.ofDigits digits.text = .ok digits.value :=
    Integer.ofDigits_of_length_le digits.short
  have filled (rest : Text) : (size.text ++ rest).isEmpty = false := by simp [size.filled]
  have paged : page.text.isEmpty = false := by simp [page.filled]
  have alone : Limit.digits? (size.text ++ []) = some (size.text, []) := digits_read size nofun rfl nofun
  have worded : Limit.digits? (size.text ++ (" page " ++ page.text)) = some (size.text, page.text) :=
    digits_read size (stops_cons (by decide)) rfl page.digits
  have dotted : Limit.digits? (size.text ++ ("." ++ page.text)) = some (size.text, page.text) :=
    digits_read size (stops_cons (by decide)) rfl page.digits
  refine ⟨?_, ?_, ?_⟩
  · rw [← List.append_nil size.text, Limit.parse, filled, alone]
    simp only [number]
    rfl
  · rw [Limit.parse, filled, worded]
    simp only [paged, number]
    rfl
  · rw [Limit.parse, filled, dotted]
    simp only [paged, number]
    rfl

/-! ### Aggregates -/

theorem call_read (call : Call) :
    ',' ∉ call.text ∧ Aggregate.parseCall call.text = .ok (call.function, call.field.text) := by
  obtain ⟨function, field⟩ := call
  have own : ',' ∉ field.text := not_mem_of_class field.chars (by decide)
  have argument : ∀ c ∈ field.text, Aggregate.isArgumentChar c = true := by
    intro c member
    simp [Aggregate.isArgumentChar, field.chars c member]
  have stops : Stops Aggregate.isArgumentChar ")" := stops_cons (by decide)
  have taken := takeWhile_run argument stops
  have dropped := dropWhile_run argument stops
  have stripped : strip (Call.text ⟨function, field⟩) = Call.text ⟨function, field⟩ := by
    refine strip_self ?_ ?_
    · cases function <;> exact stops_cons (by decide)
    · rw [Call.text, List.reverse_append, List.reverse_cons, List.reverse_append]
      exact stops_cons (by decide)
  have word : AggregateFunction.ofWord? (lower function.word) = some function := by
    cases function <;> rfl
  have called : (AggregateFunction.all.findSome? fun f =>
      (dropKeyword? f.word (Call.text ⟨function, field⟩)).map fun rest =>
        ((Call.text ⟨function, field⟩).take f.word.length, rest)) =
      some (function.word, '(' :: (field.text ++ ")")) := by
    cases function <;> rfl
  have found : Aggregate.call? (Call.text ⟨function, field⟩) = some (function.word, field.text) := by
    rw [Aggregate.call?, called]
    simp only [Option.bind_eq_bind, Option.bind_some, taken, dropped]
    exact if_pos (by simp [field.filled])
  refine ⟨?_, ?_⟩
  · have letters : ',' ∉ function.word := by cases function <;> decide
    simp [Call.text, letters, own]
  · rw [Aggregate.parseCall, stripped, found]
    simp only [word, strip_self (word_stops field) (word_ends field)]

/-- An aggregate is read as its calls. -/
theorem aggregate_read (calls : List Call) :
    Aggregate.parse (join "," (calls.map (·.text))) =
      .ok ⟨calls.map fun call => (call.function, call.field.text)⟩ := by
  by_cases nothing : calls = []
  · rw [nothing]
    rfl
  · have filled : (join "," (calls.map (·.text))).isEmpty = false :=
      list_filled nothing fun call => by simp [Call.text]
    rw [Aggregate.parse, filled, tokens_read Call.text _ nothing call_read]
    rfl

/-! ### Selections -/

/-- A selection is read as the names that are not empty. -/
theorem select_read (names : List Listed) :
    Select.parse (join "," (names.map (·.text))) = ⟨(names.map (·.text)).filter fun name => name ≠ []⟩ := by
  have stripped : (names.map (·.text)).map strip = names.map (·.text) := by
    rw [List.map_map]
    exact List.map_congr_left fun name _ => strip_self name.front name.back
  by_cases nothing : names = []
  · rw [nothing]
    rfl
  · have cut : splitOn ',' (join "," (names.map (·.text))) = names.map (·.text) :=
      splitOn_tokens nothing fun name => name.single
    rw [Select.parse, cut, stripped]
    congr 2
    funext name
    cases name <;> rfl

/-- **Modifiers are read back.** Those that are written out of columns with directions, numbers, calls and
names are read as these, the empty names left out. -/
theorem modifiers_read_back :
    (∀ columns : List Directed,
      Order.parse (join "," (columns.map (·.text))) = .ok ⟨columns.map (·.key)⟩) ∧
    (∀ size page : Digits,
      Limit.parse size.text = .ok ⟨some size.value, none⟩ ∧
      Limit.parse (size.text ++ (" page " ++ page.text)) = .ok ⟨some size.value, some page.value⟩ ∧
      Limit.parse (size.text ++ ("." ++ page.text)) = .ok ⟨some size.value, some page.value⟩) ∧
    (∀ (n : Nat) (short : (Text.ofNat n).length ≤ 4300), (Digits.ofNat n short).value = n) ∧
    (∀ calls : List Call,
      Aggregate.parse (join "," (calls.map (·.text))) =
        .ok ⟨calls.map fun call => (call.function, call.field.text)⟩) ∧
    ∀ names : List Listed,
      Select.parse (join "," (names.map (·.text))) = ⟨(names.map (·.text)).filter fun name => name ≠ []⟩ :=
  ⟨order_read, limit_read, Digits.value_ofNat, aggregate_read, select_read⟩

/-- Columns may be named like directions, or end like them. -/
theorem names_like_directions :
    Order.parse "desc Desc,nameASC,ASC -" =
        .ok ⟨[⟨"desc", true⟩, ⟨"nameASC", false⟩, ⟨"ASC", true⟩]⟩ ∧
      Limit.parse "25 page 3" = .ok ⟨some 25, some 3⟩ := by
  obtain ⟨orders, limits, numbers, -, -⟩ := modifiers_read_back
  have cased : Cased "desc" "Desc" := by
    unfold Cased
    decide
  have size : (ofNat 25).length ≤ 4300 ∧ (ofNat 3).length ≤ 4300 := by decide
  obtain ⟨-, paged, -⟩ := limits (.ofNat 25 size.1) (.ofNat 3 size.2)
  rw [numbers, numbers] at paged
  exact ⟨orders [⟨.mk "desc", true, _, .descending "Desc" cased⟩, ⟨.mk "nameASC", false, _, .omitted⟩,
    ⟨.mk "ASC", true, _, .minus⟩], paged⟩

end TableGate.ModifierReading
