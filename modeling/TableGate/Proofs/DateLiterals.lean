import TableGate.Proofs.IsoReading
import TableGate.Proofs.LiteralContainment
import TableGate.Proofs.LiteralReading
import TableGate.Proofs.PointsInTime

/-! Points in time as SQL literals, and what is read of them. A literal has the local time to the
millisecond, and in SQLite and PostgreSQL also the offset; so the point in time comes back exactly if
there is no offset to lose. -/
namespace TableGate.DateLiterals
open IsoReading LiteralContainment LiteralReading PointsInTime Text TextFacts

/-- The literals of MariaDB and SQL Server have no offset. -/
def showsOffset : Engine → Bool
  | .sqlite | .postgresql => true
  | .mariadb | .mssql => false

/-- The offset, if there is one, is in the literal and is one that the reader does not take for none. -/
def KeepsOffset (engine : Engine) (d : DateTime) : Prop :=
  ∀ micros, d.offset = some micros → showsOffset engine = true ∧ (micros = 0 ∨ 1000000 ≤ micros.natAbs)

/-- What stands between the marks of a literal. -/
private def content : Engine → DateTime → Text
  | .mariadb, d => d.millisText ' '
  | .mssql, d => d.millisText 'T'
  | _, d => d.isoMillis

private def unzoned (d : DateTime) : DateTime := { d with offset := none, offset_valid := rfl }

/-- What is read of a literal. -/
private def delivered (engine : Engine) (d : DateTime) : DateTime :=
  if showsOffset engine then readBack d else unzoned d.toMillis

variable {engine : Engine} {sqlType : Text} {d e : DateTime}

/-! ### Literals -/

private theorem content_clock (engine : Engine) (d : DateTime) : IsClock (content engine d) := by
  have shown : IsClock d.isoMillis := List.forall_mem_append.mpr ⟨millis_clock (.inl rfl) d, zone_clock d⟩
  cases engine with
  | mariadb => exact millis_clock (.inr rfl) d
  | mssql => exact millis_clock (.inl rfl) d
  | _ => exact shown

/-- Nothing in a text of digits and their separators is escaped. -/
private theorem clock_literal (engine : Engine) {text : Text} (clock : IsClock text) :
    engine.stringLiteral text = (unescaping true engine).mark :: (text ++ [(unescaping true engine).mark]) := by
  have apart : ∀ other ∈ ['\'', '\\', '"', '\r', '\n', '\t'],
      ¬ (other.isDigit = true ∨ other ∈ ['-', ':', '.', '+', 'T', ' ']) := each_of_all (by decide)
  have free {other : Char} (special : other ∈ ['\'', '\\', '"', '\r', '\n', '\t']) : other ∉ text :=
    fun member => apart other special (clock other member)
  have shared : Engine.quoteShared text = '\'' :: (text ++ ['\'']) := by
    rw [Engine.quoteShared, replaceChar_of_not_mem (free (by simp))]
    rfl
  have own : ∀ c ∈ text, Engine.backslashChar c = [c] := by
    intro c member
    have other (special : Char) (known : special ∈ ['\'', '\\', '"', '\r', '\n', '\t']) : c ≠ special := by
      rintro rfl
      exact free known member
    simp [Engine.backslashChar, other '\\', other '"', other '\r', other '\n', other '\t']
  cases engine with
  | mariadb =>
    rw [Engine.stringLiteral, List.flatMap_congr own, List.flatMap_singleton']
    rfl
  | _ => exact shared

private theorem literal_eq (type : engine.typeClass sqlType = .date) (d : DateTime) :
    engine.literal (.dateTime d) sqlType = .ok (engine.stringLiteral (content engine d)) := by
  have written : engine.dateTimeLiteral d = engine.stringLiteral (content engine d) := by
    rw [clock_literal engine (content_clock engine d)]
    cases engine <;> rfl
  simp [Engine.literal, type, written]

/-! ### Readings -/

private theorem content_parsed (engine : Engine) (d : DateTime) :
    DateTime.parse (content engine d) = .ok (delivered engine d) := by
  have offsetless (separator : Char) : DateTime.parse (d.millisText separator) = .ok (unzoned d.toMillis) := by
    have read := parse_written separator (unzoned d)
    rwa [show (unzoned d).zoneText = [] from rfl, List.append_nil] at read
  cases engine with
  | mariadb => exact offsetless ' '
  | mssql => exact offsetless 'T'
  | _ => exact parse_isoMillis d

/-- A value of a column of dates is read as a point in time, but for the empty text and the word for
null, which are none. -/
private theorem value_parsed (type : engine.typeClass sqlType = .date) {text : Text}
    (read : DateTime.parse text = .ok d) :
    engine.readValue (.cell (.text text)) sqlType = .ok (.dateTime d) := by
  have word : text ≠ "NULL" := by
    rintro rfl
    have none : DateTime.parse "NULL" = .error (.value (.invalidDate "NULL")) := by decide +kernel
    cases none.symm.trans read
  have some : text ≠ [] := by
    rintro rfl
    have none : DateTime.parse [] = .error (.value (.invalidDate [])) := by decide +kernel
    cases none.symm.trans read
  unfold Engine.readValue
  simp only [DriverValue.toCell, beq_eq_false_iff_ne.mpr word, Bool.false_eq_true, ↓reduceIte, type,
    beq_self_eq_true, List.isEmpty_eq_false_iff.mpr some, Bool.not_false, Bool.and_self, read]
  rfl

private theorem local_delivered (engine : Engine) (d : DateTime) :
    localMicros (delivered engine d) = localMicros d.toMillis := by
  cases engine <;> rfl

private theorem offset_delivered (engine : Engine) (d : DateTime) :
    (delivered engine d).offset = if showsOffset engine then d.offset.map readOffset else none := by
  cases engine <;> rfl

private theorem readOffset_eq_iff (micros : Int) :
    readOffset micros = micros ↔ micros = 0 ∨ 1000000 ≤ micros.natAbs := by
  unfold readOffset
  split <;> omega

private theorem offset_kept_iff (engine : Engine) (d : DateTime) :
    (delivered engine d).offset = d.offset ↔ KeepsOffset engine d := by
  rw [offset_delivered, KeepsOffset]
  cases d.offset with
  | none => simp
  | some micros =>
    cases showsOffset engine with
    | false => simp
    | true => simpa using readOffset_eq_iff micros

private theorem delivered_eq_iff (engine : Engine) (d : DateTime) :
    delivered engine d = d.toMillis ↔ KeepsOffset engine d := by
  rw [← offset_kept_iff]
  constructor
  · intro same
    rw [same]
    rfl
  · exact eq_of_localMicros (local_delivered engine d)

private theorem instant_eq_iff (engine : Engine) (d : DateTime) :
    instant? (delivered engine d) = instant? d.toMillis ↔ KeepsOffset engine d := by
  rw [← offset_kept_iff, instant?, instant?, local_delivered]
  exact (Option.map_injective fun a b same => Int.sub_right_inj _ |>.mp same).eq_iff

/-! ### Literals that are the same -/

private theorem millisText_congr (separator : Char) (same : localMicros d.toMillis = localMicros e.toMillis) :
    d.millisText separator = e.millisText separator := by
  obtain ⟨⟨year, month, day⟩, hour, minute, second, micro⟩ := parts_of_localMicros same
  have millis : d.micro / 1000 = e.micro / 1000 := by
    simp only [DateTime.toMillis] at micro
    omega
  simp only [DateTime.toMillis] at year month day hour minute second
  simp only [DateTime.millisText, DateTime.dateText, DateTime.clockText, year, month, day, hour, minute,
    second, millis]

private theorem zoneText_injective (same : d.zoneText = e.zoneText) : d.offset = e.offset := by
  have valid := d.offset_valid
  have otherValid := e.offset_valid
  unfold DateTime.zoneText at same
  cases given : d.offset with
  | none =>
    cases other : e.offset with
    | none => rfl
    | some micros =>
      rw [given, other] at same
      cases same
  | some micros =>
    cases other : e.offset with
    | none =>
      rw [given, other] at same
      cases same
    | some others =>
      rw [given] at valid
      rw [other] at otherValid
      rw [given, other] at same
      rw [offsetText_injective (of_decide_eq_true valid) (of_decide_eq_true otherValid) same]

private theorem content_eq_iff (engine : Engine) (d e : DateTime) :
    content engine d = content engine e ↔
      localMicros d.toMillis = localMicros e.toMillis ∧ (showsOffset engine = true → d.offset = e.offset) := by
  constructor
  · intro same
    have read := content_parsed engine d
    rw [same, content_parsed engine e] at read
    have locals : localMicros d.toMillis = localMicros e.toMillis := by
      rw [← local_delivered engine d, ← local_delivered engine e, Except.ok.inj read]
    refine ⟨locals, fun shows => zoneText_injective ?_⟩
    cases engine with
    | mariadb | mssql => cases shows
    | sqlite | postgresql =>
      simp only [content, DateTime.isoMillis, millisText_congr 'T' locals] at same
      exact List.append_cancel_left same
  · rintro ⟨locals, offsets⟩
    cases engine with
    | mariadb => exact millisText_congr ' ' locals
    | mssql => exact millisText_congr 'T' locals
    | _ => simp only [content, DateTime.isoMillis, millisText_congr 'T' locals, DateTime.zoneText, offsets rfl]

private theorem localMicros_toMillis (d : DateTime) : localMicros d.toMillis = localMicros d / 1000 * 1000 := by
  simp only [localMicros, timeCount, microsPerDay, DateTime.toMillis]
  omega

/-- Under one offset of whole milliseconds, local times to the millisecond tell the milliseconds of
points in time. -/
private theorem same_millis {i j : Int} (first : instant? d = some i) (second : instant? e = some j)
    (whole : ∀ micros, d.offset = some micros → (1000 : Int) ∣ micros)
    (locals : localMicros d.toMillis = localMicros e.toMillis) (offset : d.offset = e.offset) :
    i / 1000 = j / 1000 := by
  obtain ⟨micros, given, rfl⟩ := Option.map_eq_some_iff.mp first
  obtain ⟨others, given', rfl⟩ := Option.map_eq_some_iff.mp second
  obtain rfl : micros = others := Option.some.inj (given.symm.trans (offset.trans given'))
  have divided := whole micros given
  rw [localMicros_toMillis, localMicros_toMillis] at locals
  omega

/-- A point in time is printed as a literal. What stands between its marks is the text that it has as a
string, and a column of dates reads this text as `back`. -/
structure ReadsBack (engine : Engine) (sqlType : Text) (d : DateTime) (literal : Text) (back : DateTime) :
    Prop where
  printed : engine.literal (.dateTime d) sqlType = .ok literal
  read : ∃ content, literal = (unescaping true engine).mark :: (content ++ [(unescaping true engine).mark]) ∧
    (unescaping true engine).readString? literal = some (content, []) ∧
    engine.readValue (.cell (.text content)) sqlType = .ok (.dateTime back)

private theorem reads_back (type : engine.typeClass sqlType = .date) (d : DateTime) :
    ReadsBack engine sqlType d (engine.stringLiteral (content engine d)) (delivered engine d) := by
  refine ⟨literal_eq type d, content engine d, clock_literal engine (content_clock engine d), ?_,
    value_parsed type (content_parsed engine d)⟩
  rw [← List.append_nil (engine.stringLiteral (content engine d))]
  exact string_read engine true (content engine d) (by simp)

private theorem same_literal_iff (type : engine.typeClass sqlType = .date) (d e : DateTime) :
    engine.literal (.dateTime e) sqlType = .ok (engine.stringLiteral (content engine d)) ↔
      localMicros d.toMillis = localMicros e.toMillis ∧ (showsOffset engine = true → d.offset = e.offset) := by
  rw [literal_eq type e, Except.ok.injEq, clock_literal engine (content_clock engine d),
    clock_literal engine (content_clock engine e), List.cons.injEq, List.append_left_inj,
    ← content_eq_iff, eq_comm (a := content engine d)]
  exact and_iff_right rfl

/-- A point in time is read of its literal as the local time to the millisecond, with the offset if the
literal has one; an offset of less than a second is read as none. That is the point in time to the
millisecond exactly if the offset is kept. Literals are the same exactly for the same local time to the
millisecond and, where they have one, the same offset; so those with an offset of whole milliseconds
tell all milliseconds apart. -/
theorem date_literals_read_back (engine : Engine) (sqlType : Text)
    (type : engine.typeClass sqlType = .date) (d : DateTime) :
    ∃ literal back, ReadsBack engine sqlType d literal back ∧
      localMicros back = localMicros d.toMillis ∧
      back.offset = (if showsOffset engine then d.offset.map readOffset else none) ∧
      (back = d.toMillis ↔ KeepsOffset engine d) ∧
      (instant? back = instant? d.toMillis ↔ KeepsOffset engine d) ∧
      (∀ e, engine.literal (.dateTime e) sqlType = .ok literal ↔
        localMicros d.toMillis = localMicros e.toMillis ∧ (showsOffset engine = true → d.offset = e.offset)) ∧
      ∀ e i j, showsOffset engine = true → instant? d = some i → instant? e = some j →
        (∀ micros, d.offset = some micros → (1000 : Int) ∣ micros) → i / 1000 ≠ j / 1000 →
        engine.literal (.dateTime e) sqlType ≠ .ok literal := by
  refine ⟨engine.stringLiteral (content engine d), delivered engine d, reads_back type d,
    local_delivered engine d, offset_delivered engine d, delivered_eq_iff engine d,
    instant_eq_iff engine d, same_literal_iff type d, ?_⟩
  intro e i j shows first second whole apart alike
  obtain ⟨locals, offsets⟩ := (same_literal_iff type d e).mp alike
  exact apart (same_millis first second whole locals (offsets shows))

/-- The last moment of a leap day comes back with its offset. -/
theorem leap_day_read_back :
    Engine.sqlite.typeClass "datetime" = .date ∧ KeepsOffset .sqlite leapDay ∧
      ReadsBack .sqlite "datetime" leapDay "'2024-02-29T23:59:59.999-23:59:59'" leapDay.toMillis := by
  have type : Engine.sqlite.typeClass "datetime" = .date := by decide +kernel
  have kept : KeepsOffset .sqlite leapDay := by
    rintro micros ⟨⟩
    decide
  obtain ⟨literal, back, reads, -, -, same, -⟩ := date_literals_read_back .sqlite "datetime" type leapDay
  have printed : Engine.sqlite.literal (.dateTime leapDay) "datetime" =
      .ok "'2024-02-29T23:59:59.999-23:59:59'" := by decide +kernel
  cases reads.printed.symm.trans printed
  exact ⟨type, kept, same.mpr kept ▸ reads⟩

/-- Noon of a day in June, or a moment after it. -/
def noon (offset : Option Int) (valid : isOffset offset = true) (micro : Nat)
    (time : isTime 12 0 0 micro = true) : DateTime where
  year := 2024
  month := 6
  day := 1
  hour := 12
  minute := 0
  second := 0
  micro := micro
  offset := offset
  date_valid := by decide
  time_valid := time
  offset_valid := valid

/-- Without an offset in the literals noon two hours east of UTC is printed like noon in UTC, and both
are read as noon of no place. Half a second of an offset is printed but not read. Where an offset is no
whole number of milliseconds, noon and the microsecond after it are of different milliseconds in UTC,
but printed alike. -/
theorem offsets_left_out :
    (∀ engine ∈ [Engine.mariadb, Engine.mssql], engine.typeClass "DATETIME" = .date ∧
      ∃ literal, ReadsBack engine "DATETIME" (noon (some 7200000000) rfl 0 rfl) literal (noon none rfl 0 rfl) ∧
        ReadsBack engine "DATETIME" (noon (some 0) rfl 0 rfl) literal (noon none rfl 0 rfl)) ∧
    (Engine.sqlite.typeClass "DATETIME" = .date ∧
      ReadsBack .sqlite "DATETIME" (noon (some 500000) rfl 0 rfl) "'2024-06-01T12:00:00.000+00:00:00.500000'"
        (noon (some 0) rfl 0 rfl) ∧
      ∃ literal, ReadsBack .sqlite "DATETIME" (noon (some 1) rfl 0 rfl) literal (noon (some 0) rfl 0 rfl) ∧
        ReadsBack .sqlite "DATETIME" (noon (some 1) rfl 1 rfl) literal (noon (some 0) rfl 0 rfl)) ∧
    instant? (noon none rfl 0 rfl) = none ∧
    instant? (noon (some 0) rfl 0 rfl) = some 63852840000000000 ∧
    instant? (noon (some 7200000000) rfl 0 rfl) = some 63852832800000000 ∧
    instant? (noon (some 500000) rfl 0 rfl) = some 63852839999500000 ∧
    instant? (noon (some 1) rfl 0 rfl) = some 63852839999999999 ∧
    instant? (noon (some 1) rfl 1 rfl) = some 63852840000000000 := by
  have types : ∀ engine ∈ [Engine.sqlite, .mariadb, .mssql], engine.typeClass "DATETIME" = .date := by
    decide +kernel
  have read {engine : Engine} (known : engine ∈ [Engine.sqlite, .mariadb, .mssql]) :=
    reads_back (types engine known)
  refine ⟨?_, ⟨types _ (by simp), read (by simp) _, _, read (by simp) _, read (by simp) _⟩, by decide⟩
  simp only [List.forall_mem_cons, List.not_mem_nil, false_implies, implies_true, and_true]
  exact ⟨⟨types _ (by simp), _, read (by simp) _, read (by simp) _⟩,
    types _ (by simp), _, read (by simp) _, read (by simp) _⟩

end TableGate.DateLiterals
