import TableGate.Calendar.DateTime

/-! Points in time as ISO 8601 texts, to the millisecond or to the microsecond, and as they
are shown inside lists and objects. -/

namespace TableGate.DateTime
open Text

/-- `YYYY-MM-DD`. -/
def dateText (d : DateTime) : Text :=
  ofNatPadded 4 d.year ++ '-' :: ofNatPadded 2 d.month ++ '-' :: ofNatPadded 2 d.day

/-- `HH:MM:SS`. -/
def clockText (d : DateTime) : Text :=
  ofNatPadded 2 d.hour ++ ':' :: ofNatPadded 2 d.minute ++ ':' :: ofNatPadded 2 d.second

/-- An offset as `+HH:MM`, with seconds and their fraction only where there are any. -/
def offsetText (micros : Int) : Text :=
  let size := micros.natAbs
  let seconds := size / 1000000
  (if micros < 0 then '-' else '+') :: ofNatPadded 2 (seconds / 3600) ++
    ':' :: ofNatPadded 2 (seconds / 60 % 60) ++
    (if size % 60000000 = 0 then []
     else ':' :: ofNatPadded 2 (seconds % 60) ++
      (if size % 1000000 = 0 then [] else '.' :: ofNatPadded 6 (size % 1000000)))

/-- The offset, if there is one. -/
def zoneText (d : DateTime) : Text :=
  match d.offset with
  | some micros => offsetText micros
  | none => []

/-- Date and time with milliseconds, without the offset. -/
def millisText (separator : Char) (d : DateTime) : Text :=
  d.dateText ++ separator :: d.clockText ++ '.' :: ofNatPadded 3 (d.micro / 1000)

/-- Date, time with milliseconds and offset. -/
def isoMillis (d : DateTime) : Text := d.millisText 'T' ++ d.zoneText

/-- Date, time with the microseconds, if there are any, and offset. -/
def iso (separator : Char) (d : DateTime) : Text :=
  d.dateText ++ separator :: d.clockText ++
    (if d.micro = 0 then [] else '.' :: ofNatPadded 6 d.micro) ++ d.zoneText

/-- A duration as it is shown inside a larger value, by its days, seconds and
microseconds, of which only the days can be negative. -/
def shownDuration (micros : Int) : Text :=
  let days := micros / microsPerDay
  let seconds := (micros % microsPerDay / 1000000).toNat
  let rest := (micros % microsPerDay % 1000000).toNat
  let parts : List Text :=
    (if days = 0 then [] else ["days=" ++ ofInt days]) ++
    (if seconds = 0 then [] else ["seconds=" ++ ofNat seconds]) ++
    (if rest = 0 then [] else ["microseconds=" ++ ofNat rest])
  "datetime.timedelta(" ++ join ", " parts ++ ")"

/-- A point in time as it is shown inside a larger value: its parts without a trailing
microsecond, or second and microsecond, of zero. -/
def shown (d : DateTime) : Text :=
  let parts := [d.year, d.month, d.day, d.hour, d.minute] ++
    (if d.micro ≠ 0 then [d.second, d.micro] else if d.second ≠ 0 then [d.second] else [])
  let zone : Text := match d.offset with
    | none => ""
    | some 0 => ", tzinfo=datetime.timezone.utc"
    | some micros => ", tzinfo=datetime.timezone(" ++ shownDuration micros ++ ")"
  "datetime.datetime(" ++ join ", " (parts.map ofNat) ++ zone ++ ")"

end TableGate.DateTime
