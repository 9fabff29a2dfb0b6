import TableGate.Proofs.ModifierReading

/-! The forms of a limit. A limit is accepted where it is digits, a mark of a page and more digits, the last two
of which may be missing, each for itself, and so may a line feed at the end be there. That is what the forms of
a limit allow, and three kinds of texts besides: pages that break off behind their mark, forms in front of a
line feed, and, refused for another reason than their form, numbers with too many digits. -/
namespace TableGate.LimitForms
open Contracts ModifierReading QueryFaults TableStatements Text

/-- Digits of any script, of which there is at least one. -/
structure IsRun (text : Text) : Prop where
  filled : text ≠ []
  digits : ∀ c ∈ text, isDigit c = true

/-- What stands between the number of rows and the page: a point, or the word with a blank on either side. -/
inductive IsMark : Text → Prop where
  | point : IsMark "."
  | word (front : Char) (word : Text) (back : Char) (before : isBlank front = true) (cased : Cased "page" word)
      (behind : isBlank back = true) : IsMark (front :: (word ++ [back]))

/-- The forms of a limit, with the digits of its number of rows and, if it has one, of its page. -/
inductive Written : Text → Text → Option Text → Prop where
  | rows (size : Text) (sized : IsRun size) : Written size size none
  | page (size mark page : Text) (sized : IsRun size) (marked : IsMark mark) (paged : IsRun page) :
      Written (size ++ (mark ++ page)) size (some page)

/-- No number has too many digits to be converted. -/
def Fits (size : Text) (page : Option Text) : Prop :=
  size.length ≤ 4300 ∧ ∀ digits ∈ page, digits.length ≤ 4300

/-- A text in one of the forms of a limit. -/
def IsForm (text : Text) : Prop := ∃ size page, Written text size page ∧ Fits size page

/-- A limit that breaks off where its page should stand. -/
def Truncated (text : Text) : Prop :=
  ∃ size mark tail, text = size ++ (mark ++ tail) ∧ IsRun size ∧ IsMark mark ∧ (tail = [] ∨ tail = ['\n'])

/-- A form of a limit in front of a line feed. -/
def Fed (text : Text) : Prop := ∃ form size page, text = form ++ ['\n'] ∧ Written form size page

/-- A form of a limit with more digits than are converted. -/
def Overlong (text : Text) : Prop := ∃ size page, Written text size page ∧ ¬ Fits size page

variable {text size page middle rest word : Text} {c : Char} {asked : Option Text}

/-! ### Marks -/

/-- Most letters are those of no other alphabet. -/
private theorem spelled_cased {keyword : Text}
    (plain : ∀ letter ∈ keyword, letter ≠ 'i' ∧ letter ≠ 's' ∧ letter ≠ 'k') (spelled : Spelled keyword word) :
    Cased keyword word := by
  induction spelled with
  | nil => exact .nil
  | cons own _ ih =>
    obtain ⟨⟨noI, noS, noK⟩, others⟩ := List.forall_mem_cons.mp plain
    exact .cons (by simpa [isLetter, noI, noS, noK] using own) (ih others)

/-- A mark is dropped, whatever stands behind it. -/
theorem mark_dropped (marked : IsMark middle) : Limit.dropPageMark (middle ++ rest) = rest := by
  cases marked with
  | point => rfl
  | word front word back before cased behind =>
    have apart : front ≠ '.' := by
      rintro rfl
      exact absurd before (by decide)
    have dropped : dropKeyword? "page" (word ++ back :: rest) = some (back :: rest) :=
      dropKeyword_iff.mpr ⟨word, rfl, cased_spelled cased⟩
    rw [List.cons_append, List.append_assoc, List.singleton_append]
    unfold Limit.dropPageMark
    split
    · rename_i shape
      exact absurd (List.cons.inj shape).1 apart
    · rename_i shape
      obtain ⟨rfl, rfl⟩ := List.cons.inj shape
      rw [if_pos before, dropped]
      exact if_pos behind
    · rename_i shape
      cases shape

/-- Nothing but a mark is dropped. -/
theorem dropped_mark (text : Text) : ∃ middle, text = middle ++ Limit.dropPageMark text ∧
    (middle = [] ∨ IsMark middle) := by
  unfold Limit.dropPageMark
  split
  · exact ⟨".", rfl, .inr .point⟩
  · rename_i blank rest _
    split
    · rename_i before
      split
      · rename_i back behind dropped
        split
        · rename_i after
          obtain ⟨word, rfl, spelled⟩ := dropKeyword_iff.mp dropped
          have marked := IsMark.word blank word back before (spelled_cased (by decide) spelled) after
          exact ⟨blank :: (word ++ [back]), by simp, .inr marked⟩
        · exact ⟨[], rfl, .inl rfl⟩
      · exact ⟨[], rfl, .inl rfl⟩
    · exact ⟨[], rfl, .inl rfl⟩
  · exact ⟨[], rfl, .inl rfl⟩

private theorem mark_stops (marked : IsMark middle) : Stops isDigit (middle ++ rest) := by
  cases marked with
  | point => exact stops_cons (by decide)
  | word _ _ _ before _ _ => exact stops_cons (digit_of_blank before)

/-! ### What is read -/

/-- What may stand behind the digits of a limit: nothing, or one line feed. -/
private theorem tail_stops {tail : Text} (ended : tail = [] ∨ tail = ['\n']) :
    Stops isDigit tail ∧ Limit.dropPageMark tail = tail := by
  rcases ended with rfl | rfl
  · exact ⟨nofun, rfl⟩
  · exact ⟨stops_cons (by decide), rfl⟩

/-- A text is read as the digits in front of a mark and those behind it. Either of the mark and the digits of
the page may be missing, and a line feed at the end is passed over. -/
theorem digits_iff : Limit.digits? text = some (size, page) ↔
    ∃ middle tail, text = size ++ (middle ++ (page ++ tail)) ∧ IsRun size ∧
      (middle = [] ∧ page = [] ∨ IsMark middle) ∧ (∀ c ∈ page, isDigit c = true) ∧
      (tail = [] ∨ tail = ['\n']) := by
  constructor
  · intro found
    simp only [Limit.digits?] at found
    split at found
    · rename_i fine
      obtain ⟨rfl, rfl⟩ := Prod.mk.inj (Option.some.inj found)
      simp only [Bool.and_eq_true, Bool.not_eq_true', List.isEmpty_eq_false_iff, Bool.or_eq_true, List.isEmpty_iff,
        beq_iff_eq] at fine
      obtain ⟨middle, shape, marked⟩ := dropped_mark (text.dropWhile isDigit)
      have behind :=
        List.takeWhile_append_dropWhile (p := isDigit) (l := Limit.dropPageMark (text.dropWhile isDigit))
      refine ⟨middle, _, ?_, ⟨fine.1, fun c => List.mem_takeWhile_imp⟩, marked.imp_left fun none => ⟨none, ?_⟩,
        fun c => List.mem_takeWhile_imp, fine.2⟩
      · rw [behind, ← shape, List.takeWhile_append_dropWhile]
      · -- Without a mark the digits of the page would be digits of the number of rows.
        rw [none, List.nil_append] at shape
        rw [← shape, List.takeWhile_eq_nil_iff]
        intro inside
        exact List.dropWhile_get_zero_not isDigit text inside
    · cases found
  · rintro ⟨middle, tail, rfl, sized, marked, paged, ended⟩
    obtain ⟨stops, kept⟩ := tail_stops ended
    have front : Stops isDigit (middle ++ (page ++ tail)) ∧
        Limit.dropPageMark (middle ++ (page ++ tail)) = page ++ tail := by
      rcases marked with ⟨rfl, rfl⟩ | marked
      · exact ⟨stops, kept⟩
      · exact ⟨mark_stops marked, mark_dropped marked⟩
    simp only [Limit.digits?, takeWhile_run sized.digits front.1, dropWhile_run sized.digits front.1, front.2,
      takeWhile_run paged stops, dropWhile_run paged stops]
    refine if_pos ?_
    simpa [sized.filled] using ended

/-- A form of a limit is read as its digits, also in front of a line feed. -/
private theorem written_digits {tail : Text} (written : Written text size asked)
    (ended : tail = [] ∨ tail = ['\n']) : Limit.digits? (text ++ tail) = some (size, asked.getD []) := by
  rw [digits_iff]
  cases written with
  | rows _ sized => exact ⟨[], tail, by simp, sized, .inl ⟨rfl, rfl⟩, nofun, ended⟩
  | page _ mark page sized marked paged => exact ⟨mark, tail, by simp, sized, .inr marked, paged.digits, ended⟩

private theorem form_digits (written : Written text size asked) :
    Limit.digits? text = some (size, asked.getD []) := by
  simpa using written_digits written (.inl rfl)

/-- What is read is a form of a limit, or breaks off behind a mark, or has a line feed behind it. -/
private theorem digits_cases (found : Limit.digits? text = some (size, page)) :
    (∃ asked, Written text size asked ∧ asked.getD [] = page) ∨ Truncated text ∨ Fed text := by
  obtain ⟨middle, tail, rfl, sized, marked, paged, ended⟩ := digits_iff.mp found
  rcases marked with ⟨rfl, rfl⟩ | marked
  · rcases ended with rfl | rfl
    · exact .inl ⟨none, by simpa using .rows size sized, rfl⟩
    · exact .inr (.inr ⟨size, size, none, by simp, .rows size sized⟩)
  · by_cases nothing : page = []
    · exact .inr (.inl ⟨size, middle, tail, by simp [nothing], sized, marked, ended⟩)
    · have form := Written.page size middle page sized marked ⟨nothing, paged⟩
      rcases ended with rfl | rfl
      · exact .inl ⟨some page, by simpa using form, rfl⟩
      · exact .inr (.inr ⟨_, size, some page, by simp, form⟩)

private theorem slip_digits (slip : Truncated text ∨ Fed text) :
    ∃ size page, Limit.digits? text = some (size, page) := by
  rcases slip with ⟨size, mark, tail, rfl, sized, marked, ended⟩ | ⟨form, size, page, rfl, written⟩
  · exact ⟨size, [], digits_iff.mpr ⟨mark, tail, rfl, sized, .inr marked, nofun, ended⟩⟩
  · exact ⟨size, _, written_digits written (.inr rfl)⟩

/-- A form of a limit has the same digits however it is taken apart. -/
private theorem written_fits {other : Text} {more : Option Text} (first : Written text size asked)
    (second : Written text other more) : Fits size asked ↔ Fits other more := by
  have lengths (size : Text) (page : Option Text) :
      Fits size page ↔ size.length ≤ 4300 ∧ (page.getD []).length ≤ 4300 := by
    cases page <;> simp [Fits]
  have same := (form_digits first).symm.trans (form_digits second)
  obtain ⟨sizes, pages⟩ := Prod.mk.inj (Option.some.inj same)
  rw [lengths, lengths, sizes, pages]

/-! ### Where forms end -/

private theorem run_last (run : IsRun page) (front : Text) : ∀ c ∈ (front ++ page).getLast?, isDigit c = true := by
  intro c last
  rw [List.getLast?_append_of_ne_nil _ run.filled] at last
  exact run.digits c (List.mem_of_getLast? last)

/-- A form of a limit ends in a digit. -/
private theorem written_last (written : Written text size asked) : ∀ c ∈ text.getLast?, isDigit c = true := by
  cases written with
  | rows _ sized => exact run_last sized []
  | page size mark page _ _ paged =>
    rw [← List.append_assoc]
    exact run_last paged _

private theorem slip_last (slip : Truncated text ∨ Fed text) : ∃ c ∈ text.getLast?, isDigit c = false := by
  have feed : isDigit '\n' = false := by decide
  rcases slip with ⟨size, mark, tail, rfl, -, marked, rfl | rfl⟩ | ⟨form, size, page, rfl, -⟩
  · cases marked with
    | point => exact ⟨'.', by simp, by decide⟩
    | word front word back _ _ behind =>
      rw [List.append_nil, ← List.cons_append, ← List.append_assoc]
      exact ⟨back, List.getLast?_concat, digit_of_blank behind⟩
  · exact ⟨'\n', by simp, feed⟩
  · exact ⟨'\n', by simp, feed⟩

/-- No form of a limit breaks off behind a mark or has a line feed at its end. -/
private theorem slip_unformed (slip : Truncated text ∨ Fed text) (written : Written text size asked) : False := by
  obtain ⟨c, last, other⟩ := slip_last slip
  rw [written_last written c last] at other
  cases other

/-! ### What is accepted -/

private theorem unread_refused (filled : text ≠ []) (unread : Limit.digits? text = none) :
    Limit.parse text = .error (.query (.invalidLimit text)) := by
  rw [Limit.parse, if_neg (by simpa using filled), unread]

/-- A text that is read is not refused for its form. -/
private theorem read_converts (filled : text ≠ []) (found : Limit.digits? text = some (size, page)) :
    Ensures (fun _ => True) (fun fault => ∃ problem, fault = .conversion problem) (Limit.parse text) := by
  have number (digits : Text) : Ensures (fun _ => True) (fun fault => ∃ problem, fault = .conversion problem)
      (Integer.ofDigits digits) := by
    unfold Integer.ofDigits
    split
    · exact ⟨_, rfl⟩
    · trivial
  rw [Limit.parse, if_neg (by simpa using filled), found]
  have sized (page : Option Nat) : Ensures (fun _ => True) (fun fault => ∃ problem, fault = .conversion problem)
      (Integer.ofDigits size >>= fun size => .ok (Limit.mk (some size) page)) :=
    (number size).bind fun _ _ => trivial
  dsimp only
  split
  · exact sized none
  · have paged : Ensures (fun _ => True) (fun fault => ∃ problem, fault = .conversion problem)
        ((Integer.ofDigits page).map some) := (number page).map fun _ _ => trivial
    exact paged.bind fun page _ => sized page

/-- A form of a limit is read as the numbers that its digits write. -/
theorem form_read (written : Written text size asked) (fits : Fits size asked) :
    Limit.parse text = .ok ⟨some (digitsValue size), asked.map digitsValue⟩ := by
  have filled : text.isEmpty = false := by
    cases written with
    | rows _ sized => exact List.isEmpty_eq_false_iff.mpr sized.filled
    | page _ _ _ sized _ _ => simp [sized.filled]
  have sized : Integer.ofDigits size = .ok (digitsValue size) := Integer.ofDigits_of_length_le fits.1
  rw [Limit.parse, filled, form_digits written]
  cases written with
  | rows =>
    simp only [sized]
    rfl
  | page _ mark page _ _ paged =>
    have number : Integer.ofDigits page = .ok (digitsValue page) := Integer.ofDigits_of_length_le (fits.2 page rfl)
    have present : page.isEmpty = false := List.isEmpty_eq_false_iff.mpr paged.filled
    simp only [Option.getD_some, present, number, sized]
    rfl

/-- **Limits are accepted in their forms only**, and read as the numbers that these write, save for three kinds of
texts. Exactly those that break off behind the mark of a page, that have a line feed behind a form, or that have
too many digits are either accepted without being a form, or refused for another reason than not being one. -/
theorem limit_forms_accepted_iff (filled : text ≠ []) :
    (((∃ limit, Limit.parse text = .ok limit) ↔ IsForm text) ∧
        (¬ IsForm text → Limit.parse text = .error (.query (.invalidLimit text))) ↔
      ¬ (Truncated text ∨ Fed text ∨ Overlong text)) ∧
    ∀ size page, Written text size page → Fits size page →
      Limit.parse text = .ok ⟨some (digitsValue size), page.map digitsValue⟩ := by
  refine ⟨?_, fun size page => form_read⟩
  by_cases slip : Truncated text ∨ Fed text
  · refine iff_of_false ?_ (not_not.mpr (or_assoc.mp (.inl slip)))
    rintro ⟨-, refuses⟩
    have refused := refuses fun ⟨_, _, written, _⟩ => slip_unformed slip written
    obtain ⟨size, page, found⟩ := slip_digits slip
    obtain ⟨problem, same⟩ := (read_converts filled found).fault refused
    cases same
  · cases found : Limit.digits? text with
    | none =>
      have unformed {size : Text} {page : Option Text} (written : Written text size page) : False := by
        rw [form_digits written] at found
        cases found
      have refused := unread_refused filled found
      refine iff_of_true ⟨?_, fun _ => refused⟩ ?_
      · rw [refused]
        exact iff_of_false nofun fun ⟨_, _, written, _⟩ => unformed written
      · rw [← or_assoc]
        exact fun slips => slips.elim slip fun ⟨_, _, written, _⟩ => unformed written
    | some parts =>
      obtain ⟨size, page⟩ := parts
      obtain ⟨asked, written, rfl⟩ := (digits_cases found).resolve_right slip
      by_cases fits : Fits size asked
      · have form : IsForm text := ⟨size, asked, written, fits⟩
        refine iff_of_true ⟨iff_of_true ⟨_, form_read written fits⟩ form, fun unformed => absurd form unformed⟩ ?_
        rw [← or_assoc]
        exact fun slips => slips.elim slip fun ⟨_, _, other, long⟩ => long ((written_fits written other).mp fits)
      · refine iff_of_false ?_ (not_not.mpr (.inr (.inr ⟨size, asked, written, fits⟩)))
        rintro ⟨-, refuses⟩
        have refused := refuses fun ⟨_, _, other, short⟩ => fits ((written_fits written other).mpr short)
        obtain ⟨problem, same⟩ := (read_converts filled found).fault refused
        cases same

/-- A page in capitals between a tab and a wide blank is a form, with digits of another script. -/
theorem wide_page_accepted :
    let text : Text := "25\tPAGE\u3000٣"
    text ≠ [] ∧ Limit.parse text = .ok ⟨some 25, some 3⟩ ∧ IsForm text ∧
      ¬ (Truncated text ∨ Fed text ∨ Overlong text) := by
  intro text
  have filled : text ≠ [] := by decide
  have written : Written text "25" (some "٣") :=
    .page "25" "\tPAGE\u3000" "٣" ⟨by decide, by decide⟩
      (.word '\t' "PAGE" '\u3000' (by decide) (by unfold Cased; decide) (by decide)) ⟨by decide, by decide⟩
  have fits : Fits "25" (some "٣") := ⟨by decide, by rintro _ ⟨⟩; decide⟩
  have form : IsForm text := ⟨"25", some "٣", written, fits⟩
  obtain ⟨agrees, reads⟩ := limit_forms_accepted_iff filled
  have read : Limit.parse text = .ok ⟨some 25, some 3⟩ := reads _ _ written fits
  exact ⟨filled, read, form, agrees.mp ⟨iff_of_true ⟨_, read⟩ form, fun unformed => absurd form unformed⟩⟩

/-- A page without its number is accepted, and so is a line feed behind a number of rows. -/
theorem broken_page_accepted :
    (Limit.parse "10." = .ok ⟨some 10, none⟩ ∧ ¬ IsForm "10.") ∧
      (Limit.parse "10 page " = .ok ⟨some 10, none⟩ ∧ ¬ IsForm "10 page ") ∧
      Limit.parse "10\n" = .ok ⟨some 10, none⟩ ∧ ¬ IsForm "10\n" := by
  have sized : IsRun "10" := ⟨by decide, by decide⟩
  have worded : IsMark " page " := .word ' ' "page" ' ' (by decide) (by unfold Cased; decide) (by decide)
  have unformed {text : Text} (slip : Truncated text ∨ Fed text) : ¬ IsForm text :=
    fun ⟨_, _, written, _⟩ => slip_unformed slip written
  refine ⟨⟨by decide +kernel, unformed (.inl ⟨"10", ".", [], rfl, sized, .point, .inl rfl⟩)⟩,
    ⟨by decide +kernel, unformed (.inl ⟨"10", " page ", [], rfl, sized, worded, .inl rfl⟩)⟩,
    by decide +kernel, unformed (.inr ⟨"10", "10", none, rfl, .rows _ sized⟩)⟩

end TableGate.LimitForms
