import TableGate.Proofs.Contracts
import TableGate.Proofs.TextFacts
import TableGate.Request

/-! How query parameters are refused. A parameter that does not follow its grammar is refused for what it
is. Two kinds of texts do follow it and are refused all the same, as texts that can't be converted: words
whose letters are only letters of a keyword when case is ignored, and numbers with too many digits. -/
namespace TableGate.QueryFaults
open Contracts Fallible Text TextFacts ConversionProblem

/-- A letter that counts as a letter of a keyword, but has another one in lower case. -/
def Stray (c : Char) : Prop := c = 'ı' ∨ c = 'İ' ∨ c = 'ſ'

instance : DecidablePred Stray := fun c => inferInstanceAs (Decidable (c = 'ı' ∨ c = 'İ' ∨ c = 'ſ'))

/-- A text is the word of a keyword in some spelling. -/
def Spelled (keyword word : Text) : Prop := List.Forall₂ (isLetter · · = true) keyword word

/-- A parameter can't be converted, although it follows its grammar. -/
abbrev Stumbles {α : Type} (result : Except Fault α) : Prop :=
  FailsWith (fun fault => ∃ problem, fault = .conversion problem) result

/-- A parameter is refused for its grammar, or can't be converted. -/
def IsRefusal (fault : Fault) : Prop :=
  (∃ problem, fault = .query problem) ∨ ∃ problem, fault = .conversion problem

/-- A filter with a comparison whose operator has a stray letter, behind parts that are read. -/
inductive FilterStumbles : Text → Prop where
  | comparison (text field word value : Text) (found : Filter.comparison? text = some (field, word, value))
      (stray : ∃ c ∈ word, Stray c) : FilterStumbles text
  | left (text left : Text) (op : Connective) (right : Text) (other : Filter.comparison? text = none)
      (cut : Filter.splitConnective? true 0 text = some (left, op, right))
      (single : Filter.splitConnective? true 0 right = none) (stumbles : FilterStumbles left) :
      FilterStumbles text
  | right (text left : Text) (op : Connective) (right : Text) (other : Filter.comparison? text = none)
      (cut : Filter.splitConnective? true 0 text = some (left, op, right))
      (single : Filter.splitConnective? true 0 right = none) (filter : Filter)
      (first : Filter.parse left = .ok filter) (stumbles : FilterStumbles right) : FilterStumbles text
  | negated (text inner : Text) (other : Filter.comparison? text = none)
      (uncut : Filter.splitConnective? true 0 text = none) (found : Filter.negated? text = some inner)
      (stumbles : FilterStumbles inner) : FilterStumbles text
  | grouped (text inner : Text) (other : Filter.comparison? text = none)
      (uncut : Filter.splitConnective? true 0 text = none) (plain : Filter.negated? text = none)
      (found : Filter.grouped? text = some inner) (stumbles : FilterStumbles inner) : FilterStumbles text

/-- A limit whose number of rows or page has too many digits. -/
def LimitStumbles (text : Text) : Prop :=
  ∃ size page, Limit.digits? text = some (size, page) ∧
    (digitLimit < size.length ∨ digitLimit < page.length)

/-- An aggregate with a function whose name has a stray letter, behind calls that are read. -/
def AggregateStumbles (text : Text) : Prop :=
  ∃ before token after word argument, splitOn ',' text = before ++ token :: after ∧
    (∀ earlier ∈ before, ∃ call, Aggregate.parseCall earlier = .ok call) ∧
    Aggregate.call? (strip token) = some (word, argument) ∧ ∃ c ∈ word, Stray c

/-- A parser that refuses texts for their grammar or because they can't be converted, the latter exactly
where they stumble. -/
structure Refuses {α : Type} (parse : Text → Except Fault α) (stumbles : Text → Prop) : Prop where
  refusal (text : Text) : Ensures (fun _ => True) IsRefusal (parse text)
  converts (text : Text) : Stumbles (parse text) ↔ stumbles text

/-- A parameter that is missing or empty, or that is read. -/
def Accepted {α : Type} (given : Option Text) (parse : Text → Except Fault α) : Prop :=
  ∀ text, given = some text → text ≠ [] → ∃ value, parse text = .ok value

/-- A query one of whose parameters stumbles, behind parameters that are read. -/
inductive QueryStumbles (settings : Settings) (parameter : Text → Option Text) : Prop where
  | filter (text : Text) (given : parameter settings.filterParam = some text)
      (stumbles : FilterStumbles text) : QueryStumbles settings parameter
  | limit (filter : Accepted (parameter settings.filterParam) Filter.parse)
      (order : Accepted (parameter settings.orderParam) Order.parse) (text : Text)
      (given : parameter settings.limitParam = some text) (stumbles : LimitStumbles text) :
      QueryStumbles settings parameter
  | aggregate (filter : Accepted (parameter settings.filterParam) Filter.parse)
      (order : Accepted (parameter settings.orderParam) Order.parse)
      (limit : Accepted (parameter settings.limitParam) Limit.parse) (text : Text)
      (given : parameter settings.aggregateParam = some text) (stumbles : AggregateStumbles text) :
      QueryStumbles settings parameter

variable {keyword word text rest : Text} {letter c : Char}

/-! ### Keywords in any spelling -/

/-- The small letters of the alphabet, of which all keywords are made. -/
def smallLetters : Text := "abcdefghijklmnopqrstuvwxyz"

/-- A text that a keyword can be. -/
def isKeyword (text : Text) : Bool := text.all smallLetters.contains

private theorem small_of_keyword (keyed : isKeyword text = true) : ∀ c ∈ text, c ∈ smallLetters := by
  intro c member
  simpa using List.all_eq_true.mp keyed c member

/-- A text starts with a keyword in any spelling exactly where what is dropped spells it. -/
theorem dropKeyword_iff : dropKeyword? keyword text = some rest ↔
    ∃ word, text = word ++ rest ∧ Spelled keyword word := by
  induction keyword generalizing text with
  | nil =>
    constructor
    · rintro ⟨⟩
      exact ⟨[], rfl, .nil⟩
    · rintro ⟨word, rfl, spelled⟩
      cases spelled
      rfl
  | cons letter keyword ih =>
    cases text with
    | nil =>
      refine iff_of_false nofun ?_
      rintro ⟨word, same, spelled⟩
      cases spelled
      cases same
    | cons c text =>
      rw [dropKeyword?]
      constructor
      · intro dropped
        split at dropped
        · rename_i own
          obtain ⟨word, rfl, spelled⟩ := ih.mp dropped
          exact ⟨c :: word, rfl, .cons own spelled⟩
        · cases dropped
      · rintro ⟨word, same, spelled⟩
        cases spelled with
        | cons own spelled =>
          cases same
          rw [if_pos own]
          exact ih.mpr ⟨_, rfl, spelled⟩

/-- In lower case a spelling of a letter is the letter, or a stray one is no ASCII letter at all. -/
private theorem lower_letter (small : letter ∈ smallLetters) (own : isLetter letter c = true) :
    c ≠ 'Σ' ∧ (Stray c ∧ (∃ d ∈ lowerChar c, 128 ≤ d.toNat) ∨ ¬ Stray c ∧ lowerChar c = [letter]) := by
  have plain : ∀ letter ∈ smallLetters,
      (lowerChar letter = [letter] ∧ ¬ Stray letter ∧ letter ≠ 'Σ') ∧
        lowerChar letter.toUpper = [letter] ∧ ¬ Stray letter.toUpper ∧ letter.toUpper ≠ 'Σ' :=
    each_of_all (by decide)
  simp only [isLetter, Bool.or_eq_true, Bool.and_eq_true, beq_iff_eq] at own
  rcases own with ((((rfl | rfl) | ⟨-, rfl | rfl⟩) | ⟨-, rfl⟩) | ⟨rfl, rfl⟩)
  · obtain ⟨⟨lowered, known, apart⟩, -⟩ := plain _ small
    exact ⟨apart, .inr ⟨known, lowered⟩⟩
  · obtain ⟨-, lowered, known, apart⟩ := plain _ small
    exact ⟨apart, .inr ⟨known, lowered⟩⟩
  · exact ⟨by decide, .inl ⟨.inr (.inl rfl), '\u0307', by decide, by decide⟩⟩
  · exact ⟨by decide, .inl ⟨.inl rfl, 'ı', by decide, by decide⟩⟩
  · exact ⟨by decide, .inl ⟨.inr (.inr rfl), 'ſ', by decide, by decide⟩⟩
  · exact ⟨by decide, .inr ⟨by decide, by decide⟩⟩

private theorem lower_spelled (small : ∀ letter ∈ keyword, letter ∈ smallLetters) (spelled : Spelled keyword word)
    (before : Text) :
    ((∃ c ∈ word, Stray c) ∧ ∃ d ∈ lowerAfter before word, 128 ≤ d.toNat) ∨
      (¬ ∃ c ∈ word, Stray c) ∧ lowerAfter before word = keyword := by
  induction spelled generalizing before with
  | nil => exact .inr ⟨by simp, rfl⟩
  | @cons letter c keyword word own _ ih =>
    obtain ⟨head, tail⟩ := List.forall_mem_cons.mp small
    obtain ⟨apart, letters⟩ := lower_letter head own
    have lowered : lowerAfter before (c :: word) = lowerChar c ++ lowerAfter (c :: before) word := by
      simp [lowerAfter, apart]
    rw [lowered]
    rcases letters with ⟨stray, d, member, foreign⟩ | ⟨known, same⟩
    · exact .inl ⟨⟨c, by simp, stray⟩, d, List.mem_append_left _ member, foreign⟩
    · rcases ih tail (c :: before) with ⟨⟨other, listed, stray⟩, d, member, foreign⟩ | ⟨calm, rest⟩
      · exact .inl ⟨⟨other, List.mem_cons_of_mem _ listed, stray⟩, d, List.mem_append_right _ member, foreign⟩
      · refine .inr ⟨?_, by rw [same, rest]; rfl⟩
        rintro ⟨other, listed, stray⟩
        rcases List.mem_cons.mp listed with rfl | listed
        · exact known stray
        · exact calm ⟨other, listed, stray⟩

/-- Among words of small letters one is found by a spelling exactly where this has no stray letter. -/
private theorem known_iff {α : Type} {all : List α} {name : α → Text} {member : α}
    (keyed : ∀ one ∈ all, isKeyword (name one) = true) (listed : member ∈ all)
    (spelled : Spelled (name member) word) :
    (all.find? fun one => name one == lower word) = none ↔ ∃ c ∈ word, Stray c := by
  rw [List.find?_eq_none]
  have small (one : α) (among : one ∈ all) := small_of_keyword (keyed one among)
  rcases lower_spelled (small member listed) spelled [] with ⟨stray, d, inside, foreign⟩ | ⟨calm, same⟩
  · refine iff_of_true (fun one among same => ?_) stray
    rw [beq_iff_eq] at same
    have ascii : ∀ letter ∈ smallLetters, letter.toNat < 128 := each_of_all (by decide)
    have own := ascii d (small one among d (same ▸ inside))
    omega
  · refine iff_of_false (fun unknown => unknown member listed ?_) calm
    rw [beq_iff_eq]
    exact same.symm

/-- A word in front that is one of some keywords in any spelling. -/
private theorem first_spelled {α : Type} {all : List α} {name : α → Text}
    (found : (all.findSome? fun one =>
      (dropKeyword? (name one) text).map fun rest => (text.take (name one).length, rest)) =
        some (word, rest)) : ∃ one ∈ all, Spelled (name one) word := by
  obtain ⟨one, listed, dropped⟩ := List.exists_of_findSome?_eq_some found
  obtain ⟨behind, dropped, same⟩ := Option.map_eq_some_iff.mp dropped
  obtain ⟨front, rfl, spelled⟩ := dropKeyword_iff.mp dropped
  have length : (name one).length = front.length := spelled.length_eq
  rw [length, List.take_left] at same
  cases same
  exact ⟨one, listed, spelled⟩

/-! ### Filters -/

private theorem stumbles_bind {α β : Type} {first : Except Fault α} {next : α → Except Fault β} :
    Stumbles (first >>= next) ↔
      Stumbles first ∨ ∃ value, first = .ok value ∧ Stumbles (next value) :=
  FailsWith.bind_iff

private theorem read_stumbles {α β : Type} {result : Except Fault α} {f : α → β} :
    Stumbles (result >>= fun value => .ok (f value)) ↔ Stumbles result :=
  FailsWith.made_iff

/-- The operator of a comparison is unknown exactly where its word has a stray letter. -/
private theorem operator_unknown {field value : Text}
    (found : Filter.comparison? text = some (field, word, value)) :
    Comparator.ofWord? (lower word) = none ↔ ∃ c ∈ word, Stray c := by
  unfold Filter.comparison? at found
  obtain ⟨⟨name, behind⟩, -, compared⟩ := Option.bind_eq_some_iff.mp found
  dsimp only at compared
  split at compared
  · obtain ⟨⟨op, rest⟩, spelled, valued⟩ := Option.bind_eq_some_iff.mp compared
    obtain ⟨⟨content, tail⟩, -, finished⟩ := Option.bind_eq_some_iff.mp valued
    dsimp only at finished
    split at finished
    · cases finished
      obtain ⟨comparator, listed, own⟩ := first_spelled spelled
      have keyed : ∀ one ∈ Comparator.all, isKeyword one.word = true := by decide
      exact known_iff keyed listed own
    · cases finished
  · cases compared

/-- What it is for a filter to stumble, by the form of its text. -/
private theorem stumbles_by_form : FilterStumbles text ↔
    match Filter.comparison? text with
    | some (_, word, _) => ∃ c ∈ word, Stray c
    | none =>
      match Filter.splitConnective? true 0 text with
      | some (left, _, right) => Filter.splitConnective? true 0 right = none ∧
          (FilterStumbles left ∨ ∃ filter, Filter.parse left = .ok filter ∧ FilterStumbles right)
      | none =>
        match Filter.negated? text with
        | some inner => FilterStumbles inner
        | none =>
          match Filter.grouped? text with
          | some inner => FilterStumbles inner
          | none => False := by
  constructor
  · intro stumbles
    cases stumbles with
    | comparison text field word value found stray =>
      rw [found]
      exact stray
    | left text left op right other cut single stumbles =>
      rw [other, cut]
      exact ⟨single, .inl stumbles⟩
    | right text left op right other cut single filter first stumbles =>
      rw [other, cut]
      exact ⟨single, .inr ⟨filter, first, stumbles⟩⟩
    | negated text inner other uncut found stumbles =>
      rw [other, uncut, found]
      exact stumbles
    | grouped text inner other uncut plain found stumbles =>
      rw [other, uncut, plain, found]
      exact stumbles
  · intro form
    split at form
    · exact .comparison text _ _ _ ‹_› form
    · split at form
      · obtain ⟨single, first | ⟨filter, first, second⟩⟩ := form
        · exact .left text _ _ _ ‹_› ‹_› single first
        · exact .right text _ _ _ ‹_› ‹_› single filter first second
      · split at form
        · exact .negated text _ ‹_› ‹_› ‹_› form
        · split at form
          · exact .grouped text _ ‹_› ‹_› ‹_› ‹_› form
          · exact form.elim

/-- A filter stumbles at the first comparison that does, if everything in front of it is read. -/
theorem filter_stumbles (text : Text) : Stumbles (Filter.parse text) ↔ FilterStumbles text := by
  fun_induction Filter.parse text with
  | case1 text empty =>
    obtain rfl := List.isEmpty_iff.mp empty
    rw [stumbles_by_form]
    exact iff_of_false (by simp) not_false
  | case2 text filled field word value found op known =>
    rw [stumbles_by_form, found]
    refine iff_of_false (by simp) fun stray => ?_
    have unknown := (operator_unknown found).mpr stray
    rw [known] at unknown
    cases unknown
  | case3 text filled field word value found unknown =>
    rw [stumbles_by_form, found]
    exact iff_of_true (by simp) ((operator_unknown found).mp unknown)
  | case4 text filled other left op right cut several =>
    rw [stumbles_by_form, other, cut]
    refine iff_of_false (by simp) fun stumbles => ?_
    rw [stumbles.1] at several
    cases several
  | case5 text filled other left op right cut single ihLeft ihRight =>
    have single : Filter.splitConnective? true 0 right = none := by simpa using single
    rw [stumbles_by_form, other, cut, stumbles_bind, ihLeft]
    simp only [single, true_and, read_stumbles, ihRight]
  | case6 text filled other uncut inner negated ih =>
    rw [stumbles_by_form, other, uncut, negated, read_stumbles, ih]
  | case7 text filled other uncut plain inner grouped ih =>
    rw [stumbles_by_form, other, uncut, plain, grouped]
    exact ih
  | case8 text filled other uncut plain ungrouped =>
    rw [stumbles_by_form, other, uncut, plain, ungrouped]
    exact iff_of_false (by simp) not_false

private theorem filter_refusal (text : Text) : Ensures (fun _ => True) IsRefusal (Filter.parse text) := by
  fun_induction Filter.parse text with
  | case1 => trivial
  | case2 => trivial
  | case3 => exact .inr ⟨_, rfl⟩
  | case4 => exact .inl ⟨_, rfl⟩
  | case5 text filled other left op right cut single ihLeft ihRight =>
    exact ihLeft.bind fun _ _ => ihRight.bind fun _ _ => trivial
  | case6 text filled other uncut inner negated ih => exact ih.bind fun _ _ => trivial
  | case7 text filled other uncut plain inner grouped ih => exact ih
  | case8 => exact .inl ⟨_, rfl⟩

/-! ### Orderings, limits and aggregates -/

private theorem order_refusal (text : Text) :
    Ensures (fun _ => True) (fun fault => ∃ problem, fault = .query problem) (Order.parse text) := by
  unfold Order.parse
  split
  · trivial
  · refine (Ensures.each fun token _ => ?_).bind fun _ _ => trivial
    split
    · trivial
    · exact ⟨_, rfl⟩

private theorem order_stands (text : Text) : ¬ Stumbles (Order.parse text) := by
  refine (order_refusal text).not_failsWith ?_
  rintro _ ⟨problem, rfl⟩ ⟨other, same⟩
  cases same

private theorem digits_stumble {digits : Text} :
    Stumbles (Integer.ofDigits digits) ↔ digitLimit < digits.length := by
  unfold Integer.ofDigits
  split
  · rename_i long
    simpa using long
  · rename_i short
    simpa using short

private theorem digits_refusal (digits : Text) :
    Ensures (fun _ => True) IsRefusal (Integer.ofDigits digits) := by
  unfold Integer.ofDigits
  split
  · exact .inr ⟨_, rfl⟩
  · trivial

/-- The number of a page, if there is one. -/
private def pageOf (digits : Text) : Except Fault (Option Nat) :=
  if digits.isEmpty then .ok none else (Integer.ofDigits digits).map some

private theorem page_stumbles {digits : Text} : Stumbles (pageOf digits) ↔ digitLimit < digits.length := by
  unfold pageOf
  split
  · rename_i empty
    obtain rfl := List.isEmpty_iff.mp empty
    simp
  · exact FailsWith.map_iff.trans digits_stumble

private theorem page_total {digits : Text} (short : ¬ digitLimit < digits.length) :
    ∃ page, pageOf digits = .ok page := by
  unfold pageOf
  split
  · exact ⟨_, rfl⟩
  · rw [Integer.ofDigits_of_length_le (Nat.le_of_not_lt short)]
    exact ⟨_, rfl⟩

private theorem page_refusal (digits : Text) : Ensures (fun _ => True) IsRefusal (pageOf digits) := by
  unfold pageOf
  split
  · trivial
  · exact (digits_refusal digits).map fun _ _ => trivial

private theorem limit_by_form : Limit.parse text =
    if text.isEmpty then .ok {}
    else
      match Limit.digits? text with
      | none => .error (.query (.invalidLimit text))
      | some (size, page) => pageOf page >>= fun page => Integer.ofDigits size >>= fun size =>
          .ok ⟨some size, page⟩ := by
  unfold Limit.parse pageOf
  split
  · rfl
  · cases Limit.digits? text with
    | none => rfl
    | some digits =>
      obtain ⟨size, page⟩ := digits
      dsimp only
      split <;> rfl

/-- A limit stumbles over the digits of its page or of its number of rows. -/
theorem limit_stumbles (text : Text) : Stumbles (Limit.parse text) ↔ LimitStumbles text := by
  unfold LimitStumbles
  rw [limit_by_form]
  split
  · rename_i empty
    obtain rfl := List.isEmpty_iff.mp empty
    refine iff_of_false (by simp) ?_
    rintro ⟨size, page, found, -⟩
    cases found
  · split
    · rename_i unread
      simp [unread]
    · rename_i size page found
      rw [stumbles_bind, page_stumbles]
      simp only [read_stumbles, digits_stumble, found, Option.some.injEq, Prod.mk.injEq]
      constructor
      · rintro (paged | ⟨_, -, sized⟩)
        · exact ⟨size, page, ⟨rfl, rfl⟩, .inr paged⟩
        · exact ⟨size, page, ⟨rfl, rfl⟩, .inl sized⟩
      · rintro ⟨_, _, ⟨rfl, rfl⟩, long⟩
        -- The page is read before the number of rows.
        by_cases paged : digitLimit < page.length
        · exact .inl paged
        · obtain ⟨value, read⟩ := page_total paged
          exact .inr ⟨value, read, long.resolve_right paged⟩

private theorem limit_refusal (text : Text) : Ensures (fun _ => True) IsRefusal (Limit.parse text) := by
  rw [limit_by_form]
  split
  · trivial
  · split
    · exact .inl ⟨_, rfl⟩
    · exact (page_refusal _).bind fun _ _ => (digits_refusal _).bind fun _ _ => trivial

private theorem call_stumbles {token : Text} : Stumbles (Aggregate.parseCall token) ↔
    ∃ word argument, Aggregate.call? (strip token) = some (word, argument) ∧ ∃ c ∈ word, Stray c := by
  have unknown {word argument : Text} (found : Aggregate.call? (strip token) = some (word, argument)) :
      AggregateFunction.ofWord? (lower word) = none ↔ ∃ c ∈ word, Stray c := by
    obtain ⟨⟨name, rest⟩, spelled, called⟩ := Option.bind_eq_some_iff.mp found
    dsimp only at called
    split at called
    · split at called
      · cases called
        obtain ⟨f, listed, own⟩ := first_spelled spelled
        have keyed : ∀ one ∈ AggregateFunction.all, isKeyword one.word = true := by decide
        exact known_iff keyed listed own
      · cases called
    · cases called
  unfold Aggregate.parseCall
  split
  · rename_i unread
    simp [unread]
  · rename_i word argument found
    simp only [found, Option.some.injEq, Prod.mk.injEq]
    have own : (∃ w a, (word = w ∧ argument = a) ∧ ∃ c ∈ w, Stray c) ↔ ∃ c ∈ word, Stray c := by
      simp
    rw [own, ← unknown found]
    split
    · rename_i f known
      simp [known]
    · rename_i unlisted
      simp [unlisted]

private theorem call_refusal (token : Text) :
    Ensures (fun _ => True) IsRefusal (Aggregate.parseCall token) := by
  unfold Aggregate.parseCall
  split
  · exact .inl ⟨_, rfl⟩
  · split
    · trivial
    · exact .inr ⟨_, rfl⟩

/-- An aggregate stumbles at the first call that does, if the calls in front of it are read. -/
theorem aggregate_stumbles (text : Text) : Stumbles (Aggregate.parse text) ↔ AggregateStumbles text := by
  have by_calls : AggregateStumbles text ↔ Stumbles ((splitOn ',' text).mapM Aggregate.parseCall) := by
    refine Iff.trans ?_ FailsWith.mapM_iff.symm
    unfold AggregateStumbles
    simp only [call_stumbles]
    constructor
    · rintro ⟨before, token, after, word, argument, split, fine, found, stray⟩
      exact ⟨before, token, after, split, fine, word, argument, found, stray⟩
    · rintro ⟨before, token, after, split, fine, word, argument, found, stray⟩
      exact ⟨before, token, after, word, argument, split, fine, found, stray⟩
  rw [by_calls]
  unfold Aggregate.parse
  split
  · rename_i empty
    obtain rfl := List.isEmpty_iff.mp empty
    have refused : (splitOn ',' []).mapM Aggregate.parseCall =
        .error (.query (.invalidAggregate [])) := rfl
    exact iff_of_false (by simp) (by simp [refused])
  · exact read_stumbles

private theorem aggregate_refusal (text : Text) :
    Ensures (fun _ => True) IsRefusal (Aggregate.parse text) := by
  unfold Aggregate.parse
  split
  · trivial
  · exact (Ensures.each fun token _ => call_refusal token).bind fun _ _ => trivial

/-! ### Queries -/

variable {settings : Settings} {parameter : Text → Option Text}

private theorem filter_refuses : Refuses Filter.parse FilterStumbles := ⟨filter_refusal, filter_stumbles⟩

private theorem limit_refuses : Refuses Limit.parse LimitStumbles := ⟨limit_refusal, limit_stumbles⟩

private theorem aggregate_refuses : Refuses Aggregate.parse AggregateStumbles :=
  ⟨aggregate_refusal, aggregate_stumbles⟩

private theorem order_refuses : Refuses Order.parse fun _ => False :=
  ⟨fun text => (order_refusal text).mono (fun _ => id) fun _ => .inl,
    fun text => iff_of_false (order_stands text) not_false⟩

private theorem select_refuses : Refuses (fun text => .ok (Select.parse text)) fun _ => False :=
  ⟨fun _ => trivial, fun _ => by simp⟩

section Modifiers

variable {α : Type} {given : Option Text} {parse : Text → Except Fault α} {stumbles : Text → Prop}

private theorem modifier_stumbles (refuses : Refuses parse stumbles)
    (empty : ∃ value, parse [] = .ok value) :
    Stumbles (Request.modifier given parse) ↔ ∃ text, given = some text ∧ stumbles text := by
  unfold Request.modifier
  split
  · simp
  · obtain ⟨value, read⟩ := empty
    simp [← refuses.converts, read]
  · simpa [← refuses.converts] using FailsWith.map_iff

private theorem modifier_total :
    (∃ value, Request.modifier given parse = .ok value) ↔ Accepted given parse := by
  unfold Request.modifier Accepted
  split
  · simp
  · simp
  · rename_i text filled
    have some : text ≠ [] := fun empty => filled (by rw [empty])
    simp [map_eq_ok, some]

private theorem modifier_refusal (refuses : Refuses parse stumbles) :
    Ensures (fun _ => True) IsRefusal (Request.modifier given parse) := by
  unfold Request.modifier
  split
  · trivial
  · trivial
  · exact (refuses.refusal _).map fun _ _ => trivial

end Modifiers

private theorem query_refusal : Ensures (fun _ => True) IsRefusal (Request.queryOf settings parameter) := by
  refine (modifier_refusal filter_refuses).bind fun _ _ => ?_
  refine (modifier_refusal order_refuses).bind fun _ _ => ?_
  refine (modifier_refusal limit_refuses).bind fun _ _ => ?_
  refine (modifier_refusal aggregate_refuses).bind fun _ _ => ?_
  exact (modifier_refusal select_refuses).bind fun _ _ => trivial

private theorem query_stumbles :
    Stumbles (Request.queryOf settings parameter) ↔ QueryStumbles settings parameter := by
  have empty : ∃ filter, Filter.parse [] = .ok filter := ⟨.empty, by rw [Filter.parse]; rfl⟩
  unfold Request.queryOf
  simp only [stumbles_bind, modifier_stumbles filter_refuses empty,
    modifier_stumbles order_refuses ⟨_, rfl⟩, modifier_stumbles limit_refuses ⟨_, rfl⟩,
    modifier_stumbles aggregate_refuses ⟨_, rfl⟩, modifier_stumbles select_refuses ⟨_, rfl⟩,
    FailsWith.ok_iff, and_false, exists_false, or_false, false_or]
  constructor
  · rintro (⟨text, given, stumbles⟩ | ⟨_, filter, _, order, ⟨text, given, stumbles⟩ | ⟨_, limit, text, given,
      stumbles⟩⟩)
    · exact .filter text given stumbles
    · exact .limit (modifier_total.mp ⟨_, filter⟩) (modifier_total.mp ⟨_, order⟩) text given stumbles
    · exact .aggregate (modifier_total.mp ⟨_, filter⟩) (modifier_total.mp ⟨_, order⟩)
        (modifier_total.mp ⟨_, limit⟩) text given stumbles
  · intro stumbles
    cases stumbles with
    | filter text given stumbles => exact .inl ⟨text, given, stumbles⟩
    | limit filter order text given stumbles =>
      obtain ⟨filter, first⟩ := modifier_total.mpr filter
      obtain ⟨order, second⟩ := modifier_total.mpr order
      exact .inr ⟨filter, first, order, second, .inl ⟨text, given, stumbles⟩⟩
    | aggregate filter order limit text given stumbles =>
      obtain ⟨filter, first⟩ := modifier_total.mpr filter
      obtain ⟨order, second⟩ := modifier_total.mpr order
      obtain ⟨limit, third⟩ := modifier_total.mpr limit
      exact .inr ⟨filter, first, order, second, .inr ⟨limit, third, text, given, stumbles⟩⟩

end TableGate.QueryFaults
