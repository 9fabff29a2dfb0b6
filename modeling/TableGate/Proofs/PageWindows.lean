import TableGate.Proofs.DecimalReading
import TableGate.Proofs.PatternSearch
import TableGate.Query.Limit
import TableGate.Sql.Dialect

/-! A page is the same window in every dialect. A limit is written as one text, its number of rows and the
number of rows in front of the page; the rules of one engine take that text apart again to put the numbers
elsewhere in the statement. All engines ask for as many rows behind as many others of the same question, save
that one of them refuses a page of rows in no order. -/
namespace TableGate.PageWindows
open ConversionProblem DecimalReading NumberText PatternSearch Text

/-- How many rows are passed over for a page. Without a page, or for page zero, none are. -/
def offset? (size : Nat) (page : Option Nat) : Option Nat :=
  (page.filter (0 < ·)).map fun page => size * (page - 1) + 1

/-- A question for a number of rows behind others, as each engine writes it: the `body` is the question
without its first word. -/
def windowed (body : Text) (size : Nat) (offset : Option Nat) : Engine → Text
  | .mssql =>
    match offset with
    | none => "SELECT " ++ ("TOP " ++ ofNat size ++ " ") ++ body ++ ";"
    | some offset =>
      "SELECT " ++ body ++ (" OFFSET " ++ ofNat offset ++ " ROWS FETCH NEXT " ++ ofNat size ++ " ROWS ONLY;")
  | .sqlite | .postgresql | .mariadb =>
    match offset with
    | none => "SELECT " ++ body ++ (" LIMIT " ++ ofNat size ++ ";")
    | some offset => "SELECT " ++ body ++ (" LIMIT " ++ ofNat size ++ " OFFSET " ++ ofNat offset ++ ";")

/-- A question with the limit that a text writes. -/
def limited (fragments : SelectFragments) (written : Text) (engine : Engine) : Except Fault Text := do
  let limit ← Limit.parse written
  let limit ← limit.sql
  engine.select { fragments with limit }

variable {fragments : SelectFragments} {limit : Limit} {size page width n : Nat}

/-! ### Limits -/

/-- The number of rows, and the number of those passed over. -/
def limitText (size : Nat) : Option Nat → Text
  | none => ofNat size
  | some offset => ofNat size ++ " OFFSET " ++ ofNat offset

theorem offset_succ (size page : Nat) : offset? size (some (page + 1)) = some (size * page + 1) := rfl

private theorem nat_prints (short : width ≤ digitLimit) (length : (ofNat n).length ≤ width) :
    Integer.textOfNat n = .ok (ofNat n) :=
  Integer.textOfNat_of_length_le (length.trans short)

/-- A product has no more digits than its factors together. -/
private theorem offset_short (wide : 0 < width) (size_short : (ofNat size).length ≤ width)
    (page_short : (ofNat (page + 1)).length ≤ width) :
    (ofNat (size * page + 1)).length ≤ width + width + 1 := by
  rw [length_ofNat_le wide] at size_short page_short
  have product : size * page < 10 ^ (width + width) := by
    rw [Nat.pow_add]
    exact Nat.mul_lt_mul'' size_short (Nat.lt_of_succ_lt page_short)
  rw [length_ofNat_le (Nat.succ_pos _), Nat.pow_succ]
  omega

/-- A limit whose numbers have few enough digits is written. -/
theorem limit_written (sized : limit.size = some size) (size_short : (ofNat size).length ≤ 2000)
    (page_short : ∀ page ∈ limit.page, (ofNat page).length ≤ 2000) :
    limit.sql = .ok (limitText size (offset? size limit.page)) := by
  have size_prints := nat_prints (by decide) size_short
  obtain ⟨_, asked⟩ := limit
  cases sized
  rw [Limit.sql]
  dsimp only
  rw [size_prints]
  cases asked with
  | none => rfl
  | some page =>
    cases page with
    | zero => rfl
    | succ page =>
      have short := offset_short (by decide) size_short (page_short _ rfl)
      change (Integer.textOfNat (size * page + 1) >>= fun offset => _) = _
      rw [nat_prints (by decide) short, offset_succ]
      rfl

/-! ### Statements -/

private theorem digits_unspaced (n : Nat) : ' ' ∉ ofNat n := by
  intro member
  have digit : ' '.isDigit = true := ofNat_digits member
  cases digit

/-- The text of a limit is taken apart into the numbers that it was put together from. -/
private theorem limit_pieces (size : Nat) (offset : Option Nat) :
    splitOnText " OFFSET " (limitText size offset) = ofNat size :: (offset.map ofNat).toList := by
  have number (n : Nat) : splitOnText " OFFSET " (ofNat n) = [ofNat n] := pieces_alone (digits_unspaced n)
  cases offset with
  | none => exact number size
  | some offset =>
    have first : splitOnText " OFFSET " (ofNat size ++ (" OFFSET " ++ ofNat offset)) =
        ofNat size :: splitOnText " OFFSET " (ofNat offset) := pieces_first (digits_unspaced size)
    rw [limitText, List.append_assoc, first, number]
    rfl

private theorem limit_filled (size : Nat) (offset : Option Nat) : (limitText size offset).isEmpty = false := by
  rw [List.isEmpty_eq_false_iff]
  cases offset with
  | none => exact ofNat_ne_nil size
  | some offset =>
    rw [limitText, List.append_assoc]
    exact List.append_ne_nil_of_left_ne_nil (ofNat_ne_nil size) _

/-- A question without its first word and without a limit. -/
private def body (fragments : SelectFragments) : Text :=
  fragments.columns ++ " FROM " ++ fragments.table ++ fragments.middle

private theorem limit_at_end (fragments : SelectFragments) :
    fragments.withLimit =
      "SELECT " ++ body fragments ++ (SelectFragments.clause " LIMIT " fragments.limit ++ ";") := by
  unfold SelectFragments.withLimit body
  simp only [List.append_assoc]

/-- Most engines have the text of the limit at the end. -/
private theorem window_at_end (body : Text) (size : Nat) (offset : Option Nat) :
    windowed body size offset .sqlite = "SELECT " ++ body ++ (" LIMIT " ++ limitText size offset ++ ";") := by
  cases offset with
  | none => rfl
  | some offset =>
    change "SELECT " ++ body ++ (" LIMIT " ++ ofNat size ++ " OFFSET " ++ ofNat offset ++ ";") =
      "SELECT " ++ body ++ (" LIMIT " ++ (ofNat size ++ " OFFSET " ++ ofNat offset) ++ ";")
    simp only [List.append_assoc]

/-- One engine puts the numbers in front of the columns, or behind an ordering. -/
private theorem window_around (fragments : SelectFragments) (size : Nat) (offset : Option Nat) :
    SelectFragments.withTop { fragments with limit := limitText size offset } =
      if offset.isSome ∧ fragments.order = [] then .error (.value .pagedWithoutOrder)
      else .ok (windowed (body fragments) size offset .mssql) := by
  have joined : ("SELECT TOP " : Text) = "SELECT " ++ "TOP " := by decide
  unfold SelectFragments.withTop
  dsimp only
  rw [limit_filled, if_neg Bool.false_ne_true, limit_pieces]
  cases offset with
  | none =>
    rw [if_neg fun refused => nomatch refused.1]
    refine congrArg Except.ok ?_
    change _ = "SELECT " ++ ("TOP " ++ ofNat size ++ " ") ++ body fragments ++ ";"
    unfold body
    simp only [joined, List.append_assoc]
    rfl
  | some offset =>
    by_cases unordered : fragments.order = []
    · rw [if_pos ⟨rfl, unordered⟩, unordered]
      rfl
    · have ordered : fragments.order.isEmpty = false := List.isEmpty_eq_false_iff.mpr unordered
      rw [if_neg fun refused => unordered refused.2]
      refine (if_neg (by rw [ordered]; exact Bool.false_ne_true)).trans (congrArg Except.ok ?_)
      change _ = "SELECT " ++ body fragments ++
        (" OFFSET " ++ ofNat offset ++ " ROWS FETCH NEXT " ++ ofNat size ++ " ROWS ONLY;")
      unfold body
      simp only [List.append_assoc]
      rfl

/-- Every engine writes its window around the same question, or refuses it. -/
theorem select_limited (fragments : SelectFragments) (size : Nat) (offset : Option Nat) (engine : Engine) :
    engine.select { fragments with limit := limitText size offset } =
      if engine = .mssql ∧ offset.isSome ∧ fragments.order = [] then .error (.value .pagedWithoutOrder)
      else .ok (windowed (body fragments) size offset engine) := by
  have at_end : SelectFragments.withLimit { fragments with limit := limitText size offset } =
      windowed (body fragments) size offset .sqlite := by
    have last : SelectFragments.clause " LIMIT " (limitText size offset) = " LIMIT " ++ limitText size offset :=
      if_neg (by rw [limit_filled]; exact Bool.false_ne_true)
    rw [limit_at_end, last, window_at_end]
    rfl
  cases engine with
  | mssql =>
    simp only [true_and]
    exact window_around fragments size offset
  | sqlite | postgresql | mariadb =>
    rw [if_neg fun refused => nomatch refused.1]
    exact congrArg Except.ok at_end

/-- **A page is the same window in every dialect.** Whatever text writes a limit of at most two thousand digits,
every engine asks for its number of rows, and for a page behind the same number of other rows, of the question
that the shared rules write without a limit; only a page of rows in no order is refused by one engine. -/
theorem same_window_everywhere (fragments : SelectFragments) {written : Text} {limit : Limit} {size : Nat}
    (read : Limit.parse written = .ok limit) (sized : limit.size = some size)
    (size_short : (ofNat size).length ≤ 2000) (page_short : ∀ page ∈ limit.page, (ofNat page).length ≤ 2000) :
    ∃ body, Dialect.shared.select { fragments with limit := [] } = .ok ("SELECT " ++ body ++ ";") ∧
      ∀ engine, limited fragments written engine =
        if engine = .mssql ∧ (offset? size limit.page).isSome ∧ fragments.order = [] then
          .error (.value .pagedWithoutOrder)
        else .ok (windowed body size (offset? size limit.page) engine) := by
  refine ⟨body fragments, ?_, fun engine => ?_⟩
  · rw [Dialect.select, limit_at_end]
    rfl
  · have text := limit_written sized size_short page_short
    rw [limited, read]
    change (limit.sql >>= fun limit => engine.select { fragments with limit }) = _
    rw [text]
    exact select_limited fragments size _ engine

/-- A question whose condition has the word that stands between the numbers of a page. -/
def remarksByDay : SelectFragments where
  table := "[remarks]"
  columns := "\"text\""
  condition := "\"text\"=' OFFSET 1'"
  order := "\"day\" DESC"
  limit := []
  groupBy := []

theorem third_page_of_remarks :
    Limit.parse "25 Page 3" = .ok ⟨some 25, some 3⟩ ∧ (ofNat 25).length ≤ 2000 ∧
      (∀ page ∈ some 3, (ofNat page).length ≤ 2000) ∧
      ∃ body, Dialect.shared.select remarksByDay = .ok ("SELECT " ++ body ++ ";") ∧
        ∀ engine, limited remarksByDay "25 Page 3" engine = .ok (windowed body 25 (some 51) engine) := by
  have read : Limit.parse "25 Page 3" = .ok ⟨some 25, some 3⟩ := by decide +kernel
  have page_short : ∀ page ∈ some 3, (ofNat page).length ≤ 2000 := by
    rintro _ ⟨⟩
    decide
  obtain ⟨body, plain, each⟩ := same_window_everywhere remarksByDay read rfl (by decide) page_short
  refine ⟨read, by decide, page_short, body, plain, fun engine => (each engine).trans (if_neg ?_)⟩
  rintro ⟨-, -, unordered⟩
  cases unordered

end TableGate.PageWindows
