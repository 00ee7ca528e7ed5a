/-!
# The calendar

Days and times of the Gregorian calendar, which is taken to hold for the years 1 to 9999. A date
or time is made from numbers that are checked one by one, the greatest unit first.
-/

namespace ProgramTags

/-- The number with at least `width` digits. -/
def zeroPadded (width n : Nat) : String :=
  let digits := toString n
  String.ofList (List.replicate (width - digits.length) '0') ++ digits

structure Date where
  year : Nat
  month : Nat
  day : Nat
  deriving DecidableEq, Repr

inductive CalendarError where
  | year (n : Nat)
  | month
  | day
  | hour
  | minute
  | second
  /-- The clock is a day or more away from universal time, by so many minutes. -/
  | offset (minutes : Int)
  deriving DecidableEq, Repr

/-- A span of time as an expression: whole days, which may be negative, and seconds. -/
def spanQuoted (minutes : Int) : String :=
  let days := minutes.fdiv 1440
  let seconds := minutes.fmod 1440 * 60
  let parts := (if days = 0 then [] else [s!"days={days}"]) ++
    (if seconds = 0 then [] else [s!"seconds={seconds}"])
  "datetime.timedelta(" ++ (if parts.isEmpty then "0" else ", ".intercalate parts) ++ ")"

def CalendarError.message : CalendarError → String
  | .year n => s!"year {n} is out of range"
  | .month => "month must be in 1..12"
  | .day => "day is out of range for month"
  | .hour => "hour must be in 0..23"
  | .minute => "minute must be in 0..59"
  | .second => "second must be in 0..59"
  | .offset minutes =>
    "offset must be a timedelta strictly between -timedelta(hours=24) and timedelta(hours=24), " ++
      s!"not {spanQuoted minutes}."

namespace Date

def isLeap (year : Nat) : Bool :=
  year % 4 = 0 && (year % 100 ≠ 0 || year % 400 = 0)

def daysIn (year month : Nat) : Nat :=
  match month with
  | 2 => if isLeap year then 29 else 28
  | 4 | 6 | 9 | 11 => 30
  | _ => 31

def ofNumbers (year month day : Nat) : Except CalendarError Date :=
  if year = 0 ∨ 9999 < year then .error (.year year)
  else if month = 0 ∨ 12 < month then .error .month
  else if day = 0 ∨ daysIn year month < day then .error .day
  else .ok ⟨year, month, day⟩

/-- How many days lie before a date, counted from the beginning of year 1. -/
def dayNumber (d : Date) : Nat :=
  let years := d.year - 1
  let months := (List.range (d.month - 1)).foldl (fun days m => days + daysIn d.year (m + 1)) 0
  years * 365 + years / 4 - years / 100 + years / 400 + months + (d.day - 1)

/-- Year, month and day with dashes. -/
def text (d : Date) : String :=
  s!"{zeroPadded 4 d.year}-{zeroPadded 2 d.month}-{zeroPadded 2 d.day}"

/-- The date as an expression. -/
def quoted (d : Date) : String :=
  s!"datetime.date({d.year}, {d.month}, {d.day})"

end Date

/-- A day with a time, and the minutes that the clock is ahead of universal time if that is
known. -/
structure DateTime where
  date : Date
  hour : Nat
  minute : Nat
  second : Nat
  microsecond : Nat
  offset : Option Int
  deriving DecidableEq, Repr

namespace DateTime

/-- A clock is less than a day away from universal time. -/
def checkOffset (minutes : Int) : Except CalendarError Int :=
  if minutes.natAbs < 1440 then .ok minutes else .error (.offset minutes)

def ofNumbers (date : Date) (hour minute second microsecond : Nat) (offset : Option Int) :
    Except CalendarError DateTime :=
  if 23 < hour then .error .hour
  else if 59 < minute then .error .minute
  else if 59 < second then .error .second
  else .ok ⟨date, hour, minute, second, microsecond, offset⟩

/-- The microseconds on the clock since the beginning of year 1. -/
def clock (t : DateTime) : Int :=
  (((t.date.dayNumber * 24 + t.hour) * 60 + t.minute) * 60 + t.second) * 1000000 + t.microsecond

/-- Two times are the same moment. A clock whose distance from universal time is not known shows
the same moment only as another such clock. -/
def sameMoment (s t : DateTime) : Bool :=
  match s.offset, t.offset with
  | none, none => s.clock = t.clock
  | some m, some n => s.clock - m * 60000000 = t.clock - n * 60000000
  | _, _ => false

/-- The distance from universal time, by hours and minutes. -/
def offsetText (minutes : Int) : String :=
  let sign := if minutes < 0 then "-" else "+"
  s!"{sign}{zeroPadded 2 (minutes.natAbs / 60)}:{zeroPadded 2 (minutes.natAbs % 60)}"

/-- The date, the time to the second or to the microsecond, and the distance from universal
time. -/
def text (t : DateTime) : String :=
  let fraction := if t.microsecond = 0 then "" else "." ++ zeroPadded 6 t.microsecond
  s!"{t.date.text} {zeroPadded 2 t.hour}:{zeroPadded 2 t.minute}:{zeroPadded 2 t.second}" ++
    fraction ++ ((t.offset.map offsetText).getD "")

def zoneQuoted (minutes : Int) : String :=
  if minutes = 0 then "datetime.timezone.utc" else s!"datetime.timezone({spanQuoted minutes})"

/-- The date and time as an expression. Seconds and microseconds are left out from the end as far
as they are zero. -/
def quoted (t : DateTime) : String :=
  let parts := [t.date.year, t.date.month, t.date.day, t.hour, t.minute] ++
    (if t.microsecond = 0 then (if t.second = 0 then [] else [t.second])
      else [t.second, t.microsecond])
  let zone := (t.offset.map fun minutes => ", tzinfo=" ++ zoneQuoted minutes).getD ""
  "datetime.datetime(" ++ ", ".intercalate (parts.map toString) ++ zone ++ ")"

end DateTime

end ProgramTags
