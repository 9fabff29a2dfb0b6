import TableGate.Column.Codec
import TableGate.Proofs.DecimalReading

/-! Points in time read back from their texts. The fields of a text have fixed widths, so that
each is read where it was written. What does not come back is less than a millisecond of the time,
and less than a second of the offset. -/
namespace TableGate.IsoReading
open DecimalReading NumberText Text

/-- An offset of less than a second is none to the reader. -/
def readOffset (micros : Int) : Int := if micros.natAbs < 1000000 then 0 else micros

/-- What is read of a point in time: the milliseconds, and an offset that has a second at least. -/
def readBack (d : DateTime) : DateTime :=
  { d.toMillis with
    offset := d.offset.map readOffset
    offset_valid := by
      have valid := d.offset_valid
      cases given : d.offset with
      | none => rfl
      | some micros =>
        rw [given] at valid
        simp only [Option.map_some, isOffset, readOffset, decide_eq_true_eq] at valid ⊢
        split
        · decide
        · exact valid }

variable {d : DateTime} {rest : Text} {next : Char} {hour minute second micro width : Nat}

/-! ### Fields -/

private theorem padded_ne_nil (width n : Nat) : ofNatPadded width n ≠ [] := by
  simp [ofNatPadded, ofNat_ne_nil]

private theorem after_end (colons : Bool) (next : Char) :
    DateTime.afterField? colons next [] = some (.done (next != '\x00')) := rfl

/-- A field behind a colon. -/
private theorem after_colon (some : rest ≠ []) :
    DateTime.afterField? true next (':' :: rest) = .some (.field rest) := by
  cases rest with
  | nil => exact absurd rfl some
  | cons c rest => rfl

/-- A fraction behind a point. -/
private theorem after_point (some : rest ≠ []) :
    DateTime.afterField? true next ('.' :: rest) = .some (.fraction rest) := by
  cases rest with
  | nil => exact absurd rfl some
  | cons c rest => rfl

private theorem fraction_padded (next : Char) (wide : 0 < width) (short : width ≤ 6)
    (fits : micro < 10 ^ width) :
    DateTime.fraction? next (ofNatPadded width micro) = some (micro * 10 ^ (6 - width), next != '\x00') := by
  have size := length_ofNatPadded wide fits
  have read := number_padded wide fits []
  rw [List.append_nil] at read
  unfold DateTime.fraction?
  rw [size, Nat.min_eq_right short]
  simp only [Option.bind_eq_bind, read, Option.bind_some]
  rfl

private theorem two_digits {n : Nat} (fits : n < 100) (rest : Text) :
    DateTime.number? 2 (ofNatPadded 2 n ++ rest) = some (n, rest) := number_padded (by decide) fits rest

private theorem last_two_digits {n : Nat} (fits : n < 100) :
    DateTime.number? 2 (ofNatPadded 2 n) = some (n, []) := by
  have read := two_digits fits []
  rwa [List.append_nil] at read

/-- A time of day or an offset to the minute. -/
private theorem clock_minutes (next : Char) (hours : hour < 100) (minutes : minute < 100) :
    DateTime.clock? next (ofNatPadded 2 hour ++ ':' :: ofNatPadded 2 minute) =
      some { hour, minute, stray := next != '\x00' } := by
  unfold DateTime.clock?
  simp only [Option.bind_eq_bind, two_digits hours, last_two_digits minutes, Option.bind_some,
    List.head?_cons, Option.getD_some, beq_self_eq_true, after_colon (padded_ne_nil 2 minute),
    after_end]

/-- One to the second. -/
private theorem clock_seconds (next : Char) (hours : hour < 100) (minutes : minute < 100)
    (seconds : second < 100) :
    DateTime.clock? next (ofNatPadded 2 hour ++ ':' :: (ofNatPadded 2 minute ++
        ':' :: ofNatPadded 2 second)) =
      some { hour, minute, second, stray := next != '\x00' } := by
  have some : ofNatPadded 2 minute ++ ':' :: ofNatPadded 2 second ≠ [] := by simp
  unfold DateTime.clock?
  simp only [Option.bind_eq_bind, two_digits hours, two_digits minutes, last_two_digits seconds,
    Option.bind_some, List.head?_cons, Option.getD_some, beq_self_eq_true, after_colon some,
    after_colon (padded_ne_nil 2 second), after_end]

/-- One with a fraction of a second. -/
private theorem clock_fraction (next : Char) (hours : hour < 100) (minutes : minute < 100)
    (seconds : second < 100) (wide : 0 < width) (short : width ≤ 6) (fits : micro < 10 ^ width) :
    DateTime.clock? next (ofNatPadded 2 hour ++ ':' :: (ofNatPadded 2 minute ++
        ':' :: (ofNatPadded 2 second ++ '.' :: ofNatPadded width micro))) =
      some { hour, minute, second, micro := micro * 10 ^ (6 - width), stray := next != '\x00' } := by
  have behind : ofNatPadded 2 second ++ '.' :: ofNatPadded width micro ≠ [] := by simp
  have some : ofNatPadded 2 minute ++ ':' :: (ofNatPadded 2 second ++ '.' :: ofNatPadded width micro) ≠
      [] := by
    simp
  unfold DateTime.clock?
  simp only [Option.bind_eq_bind, two_digits hours, two_digits minutes, two_digits seconds,
    Option.bind_some, List.head?_cons, Option.getD_some, beq_self_eq_true, after_colon some,
    after_colon behind, after_point (padded_ne_nil width micro), fraction_padded next wide short fits]

/-! ### Offsets -/

/-- Seconds and their fraction with the sign of an offset make up what is read of it. -/
private theorem offset_value {micros : Int} {seconds fraction : Nat} (small : fraction < 1000000)
    (whole : 1000000 * seconds + fraction = micros.natAbs) :
    (if (if micros < 0 then '-' else '+') = '-' then
      -(if seconds = 0 then (0 : Int) else 1000000 * seconds + fraction)
      else if seconds = 0 then (0 : Int) else 1000000 * seconds + fraction) = readOffset micros := by
  have value : (if seconds = 0 then (0 : Int) else 1000000 * seconds + fraction) =
      if micros.natAbs < 1000000 then 0 else (micros.natAbs : Int) := by
    split <;> split <;> omega
  rw [value, readOffset]
  by_cases negative : micros < 0
  · rw [if_pos negative, if_pos rfl]
    split <;> omega
  · rw [if_neg negative, if_neg (by decide)]
    split <;> omega

/-- The offset that a sign and a clock without anything left over stand for. -/
private theorem offset_clock {micros : Int}
    (read : DateTime.clock? '\x00' rest = some ⟨hour, minute, second, micro, false⟩)
    (small : micro < 1000000)
    (whole : 1000000 * (3600 * hour + 60 * minute + second) + micro = micros.natAbs) :
    DateTime.offset? ((if micros < 0 then '-' else '+') :: rest) = some (readOffset micros) := by
  have zulu : (if micros < 0 then '-' else '+') ≠ 'Z' := by split <;> decide
  unfold DateTime.offset?
  split
  · rename_i same
    exact absurd (List.cons.inj same).1 zulu
  · rename_i same
    obtain ⟨rfl, rfl⟩ := List.cons.inj same
    simp only [read, Option.bind_eq_bind, Option.bind_some, Bool.false_eq_true, ↓reduceIte]
    exact congrArg some (offset_value small whole)
  · rename_i same
    cases same

/-- Behind its sign an offset is written as a clock, all of whose fields are read. -/
private theorem offset_fields {micros : Int} (valid : micros.natAbs < microsPerDay) :
    ∃ rest hour minute second micro, DateTime.offsetText micros = (if micros < 0 then '-' else '+') :: rest ∧
      DateTime.clock? '\x00' rest = some ⟨hour, minute, second, micro, false⟩ ∧ micro < 1000000 ∧
      1000000 * (3600 * hour + 60 * minute + second) + micro = micros.natAbs := by
  have bound : micros.natAbs < 86400000000 := valid
  have hours : micros.natAbs / 1000000 / 3600 < 100 := by omega
  have minutes : micros.natAbs / 1000000 / 60 % 60 < 100 := by omega
  have seconds : micros.natAbs / 1000000 % 60 < 100 := by omega
  have fraction : micros.natAbs % 1000000 < 10 ^ 6 := Nat.mod_lt _ (by decide)
  unfold DateTime.offsetText
  dsimp only
  by_cases minute : micros.natAbs % 60000000 = 0
  · rw [if_pos minute, List.append_nil]
    exact ⟨_, _, _, _, _, rfl, clock_minutes '\x00' hours minutes, by decide, by omega⟩
  · rw [if_neg minute]
    by_cases second : micros.natAbs % 1000000 = 0
    · simp only [if_pos second, List.append_nil, List.cons_append, List.append_assoc]
      exact ⟨_, _, _, _, _, rfl, clock_seconds '\x00' hours minutes seconds, by decide, by omega⟩
    · have read := clock_fraction '\x00' hours minutes seconds (by decide) (Nat.le_refl 6) fraction
      rw [Nat.sub_self, Nat.pow_zero, Nat.mul_one] at read
      simp only [if_neg second, List.cons_append, List.append_assoc] at read ⊢
      exact ⟨_, _, _, _, _, rfl, read, fraction, by omega⟩

/-- An offset comes back if it has a second at least. -/
theorem offset_read {micros : Int} (valid : micros.natAbs < microsPerDay) :
    DateTime.offset? (DateTime.offsetText micros) = some (readOffset micros) := by
  obtain ⟨rest, hour, minute, second, micro, text, read, small, whole⟩ := offset_fields valid
  rw [text]
  exact offset_clock read small whole

/-- Different offsets have different texts, also those that the reader takes for none. -/
theorem offsetText_injective {micros other : Int} (valid : micros.natAbs < microsPerDay)
    (otherValid : other.natAbs < microsPerDay)
    (same : DateTime.offsetText micros = DateTime.offsetText other) : micros = other := by
  obtain ⟨rest, hour, minute, second, micro, text, read, -, whole⟩ := offset_fields valid
  obtain ⟨_, _, _, _, _, otherText, otherRead, -, otherWhole⟩ := offset_fields otherValid
  rw [text, otherText] at same
  obtain ⟨sign, rfl⟩ := List.cons.inj same
  cases read.symm.trans otherRead
  have side : micros < 0 ↔ other < 0 := by
    by_cases negative : micros < 0 <;> by_cases otherNegative : other < 0 <;>
      simp [negative, otherNegative] at sign ⊢
  omega

/-! ### Points in time -/

/-- The time of day with milliseconds. -/
private def timeText (d : DateTime) : Text :=
  ofNatPadded 2 d.hour ++ ':' :: (ofNatPadded 2 d.minute ++
    ':' :: (ofNatPadded 2 d.second ++ '.' :: ofNatPadded 3 (d.micro / 1000)))

private theorem written_eq (separator : Char) (d : DateTime) :
    d.millisText separator ++ d.zoneText = d.dateText ++ separator :: (timeText d ++ d.zoneText) := by
  simp [DateTime.millisText, DateTime.clockText, timeText]

/-- The fields of a date and of a time of day fit their widths. -/
private structure Fits (d : DateTime) : Prop where
  year : d.year < 10 ^ 4
  month : d.month < 100
  day : d.day < 100
  hour : d.hour < 100
  minute : d.minute < 100
  second : d.second < 100
  millis : d.micro / 1000 < 10 ^ 3

private theorem fits (d : DateTime) : Fits d := by
  have date := d.date_valid
  have time := d.time_valid
  have days : daysInMonth d.year d.month ≤ 31 := by
    unfold daysInMonth
    split
    · split <;> decide
    · split <;> decide
  simp only [isDate, isTime, Bool.and_eq_true, decide_eq_true_eq] at date time
  constructor <;> omega

/-- A field starts with a digit. -/
private theorem field_digit (width n : Nat) (rest : Text) :
    ∃ c text, ofNatPadded width n ++ rest = c :: text ∧ c.isDigit = true := by
  obtain ⟨c, text, same⟩ := List.exists_cons_of_ne_nil (padded_ne_nil width n)
  have digit : c.isDigit = true := ofNatPadded_digits (same ▸ List.mem_cons_self)
  exact ⟨c, text ++ rest, by rw [same]; rfl, digit⟩

private theorem date_read (d : DateTime) : DateTime.date? d.dateText = some (d.year, d.month, d.day) := by
  have known := fits d
  have year := number_padded (by decide) known.year
    ('-' :: (ofNatPadded 2 d.month ++ '-' :: ofNatPadded 2 d.day))
  have month := two_digits known.month ('-' :: ofNatPadded 2 d.day)
  have text : d.dateText = ofNatPadded 4 d.year ++
      '-' :: (ofNatPadded 2 d.month ++ '-' :: ofNatPadded 2 d.day) := by
    simp [DateTime.dateText]
  obtain ⟨c, behind, same, digit⟩ := field_digit 2 d.month ('-' :: ofNatPadded 2 d.day)
  have week := digit_ne digit (by decide : 'W'.isDigit = false)
  rw [text]
  unfold DateTime.date?
  rw [year]
  simp only [Option.bind_eq_bind, Option.bind_some, List.head?_cons, beq_self_eq_true, ↓reduceIte,
    List.drop_succ_cons, List.drop_zero]
  split
  · rename_i other
    rw [same] at other
    exact absurd (List.cons.inj other).1 week
  · simp only [month, DateTime.hyphen?, ↓reduceIte, Option.bind_some, last_two_digits known.day]
    rfl

private theorem length_dateText (d : DateTime) : d.dateText.length = 10 := by
  have known := fits d
  simp [DateTime.dateText, length_ofNatPadded _ known.year,
    length_ofNatPadded (by decide : 0 < 2) (known.month : d.month < 10 ^ 2),
    length_ofNatPadded (by decide : 0 < 2) (known.day : d.day < 10 ^ 2)]

private theorem length_read (separator : Char) (d : DateTime) (rest : Text) :
    DateTime.dateLength (d.dateText ++ separator :: rest) = some 10 := by
  have size := length_dateText d
  have year := length_ofNatPadded (by decide : 0 < 4) (fits d).year
  obtain ⟨c, behind, same, digit⟩ := field_digit 2 d.month ('-' :: ofNatPadded 2 d.day)
  have week := digit_ne digit (by decide : 'W'.isDigit = false)
  have text : d.dateText = ofNatPadded 4 d.year ++ '-' :: c :: behind := by
    simp [DateTime.dateText, same]
  have fourth : (d.dateText ++ separator :: rest)[4]? = some '-' := by
    rw [text, List.append_assoc, List.getElem?_append_right (by omega), year]
    rfl
  have fifth : (d.dateText ++ separator :: rest)[5]? = some c := by
    rw [text, List.append_assoc, List.getElem?_append_right (by omega), year]
    rfl
  have long : (d.dateText ++ separator :: rest).length ≠ 7 := by
    rw [List.length_append]
    omega
  unfold DateTime.dateLength
  rw [if_neg long, if_pos fourth, fifth, if_neg (fun same => week (Option.some.inj same))]

/-- A time of day has no character that starts an offset. -/
private theorem timeText_inside (d : DateTime) : ∀ c ∈ timeText d, DateTime.startsOffset c = false := by
  have digits {c : Char} {width n : Nat} (member : c ∈ ofNatPadded width n) :
      DateTime.startsOffset c = false := by
    have digit := ofNatPadded_digits member
    simp [DateTime.startsOffset, digit_ne digit (by decide : '+'.isDigit = false),
      digit_ne digit (by decide : '-'.isDigit = false), digit_ne digit (by decide : 'Z'.isDigit = false)]
  intro c member
  simp only [timeText, List.mem_append, List.mem_cons] at member
  obtain digit | rfl | digit | rfl | digit | rfl | digit := member
  · exact digits digit
  · rfl
  · exact digits digit
  · rfl
  · exact digits digit
  · rfl
  · exact digits digit

private theorem time_clock (d : DateTime) (next : Char) : DateTime.clock? next (timeText d) =
    some ⟨d.hour, d.minute, d.second, d.micro / 1000 * 1000, next != '\x00'⟩ := by
  have known := fits d
  exact clock_fraction next known.hour known.minute known.second (by decide) (by decide) known.millis

private theorem offset_starts (micros : Int) :
    ∃ sign rest, DateTime.offsetText micros = sign :: rest ∧ DateTime.startsOffset sign = true := by
  refine ⟨_, _, rfl, ?_⟩
  split <;> rfl

private theorem time_read (d : DateTime) : ∃ stray, DateTime.time? (timeText d ++ d.zoneText) =
    some (⟨d.hour, d.minute, d.second, d.micro / 1000 * 1000, stray⟩, d.offset.map readOffset) := by
  have inside : ∀ c ∈ timeText d, !DateTime.startsOffset c := by
    intro c member
    simp [timeText_inside d c member]
  unfold DateTime.time?
  rw [List.takeWhile_append_of_pos inside, List.dropWhile_append_of_pos inside]
  have valid := d.offset_valid
  cases given : d.offset with
  | none =>
    refine ⟨false, ?_⟩
    simp [DateTime.zoneText, given, time_clock]
  | some micros =>
    rw [given] at valid
    have read := offset_read (of_decide_eq_true valid)
    have zone : d.zoneText = DateTime.offsetText micros := by
      rw [DateTime.zoneText, given]
    obtain ⟨sign, behind, text, starts⟩ := offset_starts micros
    refine ⟨sign != '\x00', ?_⟩
    rw [zone]
    rw [text] at read ⊢
    rw [List.takeWhile_cons_of_neg (by simp [starts]), List.dropWhile_cons_of_neg (by simp [starts])]
    simp only [List.append_nil, time_clock, read, Option.bind_eq_bind, Option.bind_some]
    rfl

/-! ### Ends of texts -/

/-- The last character of a text is a digit. -/
private def EndsInDigit (text : Text) : Prop := ∃ front c, text = front ++ [c] ∧ c.isDigit = true

private theorem EndsInDigit.append {text : Text} (front : Text) (ends : EndsInDigit text) :
    EndsInDigit (front ++ text) := by
  obtain ⟨inner, c, rfl, digit⟩ := ends
  exact ⟨front ++ inner, c, (List.append_assoc ..).symm, digit⟩

private theorem EndsInDigit.cons {text : Text} (c : Char) (ends : EndsInDigit text) :
    EndsInDigit (c :: text) := ends.append [c]

private theorem field_ends (width n : Nat) : EndsInDigit (ofNatPadded width n) := by
  have some := padded_ne_nil width n
  exact ⟨_, _, (List.dropLast_append_getLast some).symm, ofNatPadded_digits (List.getLast_mem some)⟩

private theorem offset_ends (micros : Int) : EndsInDigit (DateTime.offsetText micros) := by
  unfold DateTime.offsetText
  dsimp only
  by_cases minute : micros.natAbs % 60000000 = 0
  · rw [if_pos minute, List.append_nil]
    exact ((field_ends _ _).cons _).append _
  · rw [if_neg minute]
    by_cases second : micros.natAbs % 1000000 = 0
    · rw [if_pos second, List.append_nil]
      exact ((field_ends _ _).cons _).append _
    · rw [if_neg second]
      exact (((field_ends _ _).cons _).append _).append _

private theorem written_ends (separator : Char) (d : DateTime) :
    EndsInDigit (d.millisText separator ++ d.zoneText) := by
  cases given : d.offset with
  | none =>
    simp only [DateTime.zoneText, given, List.append_nil]
    exact ((field_ends _ _).cons _).append _
  | some micros =>
    simp only [DateTime.zoneText, given]
    exact (offset_ends micros).append _

private theorem digit_unblank {c : Char} (digit : c.isDigit = true) : isBlank c = false := by
  have bounds := digit_bounds digit
  simp only [isBlank, Bool.or_eq_false_iff, Bool.and_eq_false_iff, decide_eq_false_iff_not,
    beq_eq_false_iff_ne, ne_eq]
  omega

/-- Nothing is stripped from a text that starts and ends with a digit. -/
private theorem strip_digits {text : Text} {c : Char} (digit : c.isDigit = true)
    (ends : EndsInDigit (c :: text)) : strip (c :: text) = c :: text := by
  obtain ⟨front, last, same, final⟩ := ends
  rw [strip, trim, List.dropWhile_cons_of_neg (by simp [digit_unblank digit]), same,
    List.reverse_append, List.reverse_singleton, List.singleton_append,
    List.dropWhile_cons_of_neg (by simp [digit_unblank final]), List.reverse_cons, List.reverse_reverse]

/-- Points in time come back from their texts, whatever character stands between date and time. -/
theorem parse_written (separator : Char) (d : DateTime) :
    DateTime.parse (d.millisText separator ++ d.zoneText) = .ok (readBack d) := by
  have read : DateTime.ofIso? (d.millisText separator ++ d.zoneText) = some (readBack d) := by
    have size := length_dateText d
    obtain ⟨stray, time⟩ := time_read d
    unfold DateTime.ofIso?
    rw [written_eq, length_read]
    have front : (d.dateText ++ separator :: (timeText d ++ d.zoneText)).take 10 = d.dateText := by
      rw [List.take_append_of_le_length (by omega), List.take_of_length_le (by omega)]
    have behind : (d.dateText ++ separator :: (timeText d ++ d.zoneText)).drop 10 =
        separator :: (timeText d ++ d.zoneText) := by
      rw [List.drop_append_of_le_length (by omega), List.drop_of_length_le (by omega), List.nil_append]
    simp only [Option.bind_eq_bind, Option.bind_some, front, behind, date_read, time]
    exact DateTime.ofParts?_self (readBack d)
  obtain ⟨c, rest, same, digit⟩ :
      ∃ c rest, d.millisText separator ++ d.zoneText = c :: rest ∧ c.isDigit = true := by
    obtain ⟨c, rest, same, digit⟩ := field_digit 4 d.year ('-' :: (ofNatPadded 2 d.month ++
      '-' :: (ofNatPadded 2 d.day ++ separator :: (timeText d ++ d.zoneText))))
    refine ⟨c, rest, ?_, digit⟩
    rw [← same, written_eq]
    simp [DateTime.dateText]
  have unstripped :
      strip (d.millisText separator ++ d.zoneText) = d.millisText separator ++ d.zoneText := by
    have ends := written_ends separator d
    rw [same] at ends ⊢
    exact strip_digits digit ends
  obtain ⟨front, last, text, final⟩ := written_ends separator d
  have zulu : ¬(last == 'Z' || last == 'z') = true := by
    simp [digit_ne final (by decide : 'Z'.isDigit = false), digit_ne final (by decide : 'z'.isDigit = false)]
  unfold DateTime.parse
  rw [unstripped]
  have unchanged : (d.millisText separator ++ d.zoneText).getLast? = some last := by
    rw [text, List.getLast?_append_cons]
    rfl
  simp only [unchanged, if_neg zulu, read]

theorem parse_isoMillis (d : DateTime) : DateTime.parse d.isoMillis = .ok (readBack d) :=
  parse_written 'T' d

/-! ### Fields of dates -/

/-- The offset, if there is one, has no fraction of a second. -/
def WholeSeconds (d : DateTime) : Prop := ∀ micros, d.offset = some micros → (1000000 : Int) ∣ micros

/-- Of a point in time with such an offset only what is less than a millisecond is lost. -/
theorem readBack_of_whole (whole : WholeSeconds d) : readBack d = d.toMillis := by
  have offset : d.offset.map readOffset = d.offset := by
    cases given : d.offset with
    | none => rfl
    | some micros =>
      obtain ⟨seconds, rfl⟩ := whole micros given
      simp only [Option.map_some, Option.some.injEq, readOffset]
      split <;> omega
  simp [readBack, DateTime.toMillis, offset]

section Fields

variable {engine : Engine} {column : Column} (kind : column.kind = .dateTime)
include kind

/-- A field of points in time sends their texts. -/
theorem serialize_dateTime (type : engine.typeClass column.sqlType = .date) (d : DateTime) :
    column.serialize engine (.cell (.dateTime d)) = .ok (.text d.isoMillis) := by
  have read : engine.readValue (.cell (.dateTime d)) column.sqlType = .ok (.dateTime d) := by
    simp [Engine.readValue, DriverValue.toCell, type]
  rw [Column.serialize_of_read (by simp [kind]) read]
  simp only [Column.serializeRead, kind]

/-- The text of a point in time is received as what is read of it. -/
theorem deserialize_isoMillis (d : DateTime) :
    column.deserialize (.text d.isoMillis) = .ok (.dateTime (readBack d)) := by
  simp [Column.deserialize, kind, Cell.toText, parse_isoMillis, bind, Except.bind]

/-- **Points in time survive their codec.** In every engine a field of one of its native types for
dates sends a point in time as a text that is received as the same point cut to milliseconds, with the
same offset, and this is sent as the same text again. -/
theorem point_in_time_returns (type : engine.typeClass column.sqlType = .date) (d : DateTime)
    (whole : WholeSeconds d) :
    ∃ text, column.serialize engine (.cell (.dateTime d)) = .ok (.text text) ∧
      column.deserialize (.text text) = .ok (.dateTime d.toMillis) ∧
      column.serialize engine (.cell (.dateTime d.toMillis)) = .ok (.text text) := by
  have again : d.toMillis.isoMillis = d.isoMillis := by
    have millis : d.micro / 1000 * 1000 / 1000 = d.micro / 1000 := Nat.mul_div_cancel _ (by decide)
    simp only [DateTime.isoMillis, DateTime.millisText, DateTime.toMillis, millis]
    rfl
  refine ⟨d.isoMillis, serialize_dateTime kind type d, ?_, again ▸ serialize_dateTime kind type d.toMillis⟩
  rw [deserialize_isoMillis kind, readBack_of_whole whole]

end Fields

/-- The last moment of a leap day, a second short of a day behind UTC. -/
def leapDay : DateTime where
  year := 2024
  month := 2
  day := 29
  hour := 23
  minute := 59
  second := 59
  micro := 999999
  offset := some (-86399000000)
  date_valid := by decide
  time_valid := by decide
  offset_valid := by decide

theorem leap_day_returns :
    let column : Column := { name := "at", kind := .dateTime, sqlType := "datetime2" }
    Engine.mssql.typeClass column.sqlType = .date ∧ WholeSeconds leapDay ∧
      column.serialize .mssql (.cell (.dateTime leapDay)) = .ok (.text "2024-02-29T23:59:59.999-23:59:59") ∧
      column.deserialize (.text "2024-02-29T23:59:59.999-23:59:59") = .ok (.dateTime leapDay.toMillis) := by
  intro column
  have type : Engine.mssql.typeClass column.sqlType = .date := by decide +kernel
  have whole : WholeSeconds leapDay := by
    rintro micros ⟨⟩
    decide
  have kind : column.kind = .dateTime := rfl
  obtain ⟨text, sent, received, -⟩ := point_in_time_returns kind type leapDay whole
  have written : column.serialize .mssql (.cell (.dateTime leapDay)) =
      .ok (.text "2024-02-29T23:59:59.999-23:59:59") := by decide +kernel
  cases sent.symm.trans written
  exact ⟨type, whole, written, received⟩

end TableGate.IsoReading
