import ProgramTags.Value
import ProgramTags.Decimal.Numeral

/-!
# Timestamps

The spelling of days and times in YAML. A day is year, month and day with dashes between; a time
of the day may follow, after a `T` or white space, with a fraction of the second and the distance
from universal time.
-/

namespace ProgramTags.Yaml

def dropFinalNewline (s : List Char) : List Char :=
  if s.getLast? = some '\n' then s.dropLast else s

/-- The time of a day as it is written. -/
structure ClockText where
  hour : Nat
  minute : Nat
  second : Nat
  fraction : List Char
  /-- The minutes that the clock is ahead of universal time. -/
  offset : Option Int
  deriving DecidableEq, Repr

/-- A day as it is written, with a time if there is one. -/
structure Timestamp where
  year : Nat
  month : Nat
  day : Nat
  clock : Option ClockText
  deriving DecidableEq, Repr

namespace Timestamp

/-- Takes a number of `least` to `most` digits. -/
def number? (least most : Nat) (s : List Char) : Option (Nat × List Char) :=
  let digits := (s.take most).takeWhile Char.isDigit
  if digits.length < least then none
  else some (Decimal.decimalNumber digits, s.drop digits.length)

def char? (c : Char) : List Char → Option (List Char)
  | d :: rest => if c = d then some rest else none
  | [] => none

def isSpace (c : Char) : Bool :=
  c = ' ' || c = '\t'

def separator? : List Char → Option (List Char)
  | 'T' :: rest => some rest
  | 't' :: rest => some rest
  | c :: rest => if isSpace c then some (rest.dropWhile isSpace) else none
  | [] => none

/-- Reads the distance from universal time, which is the whole text; there may be none. -/
def offset? (s : List Char) : Option (Option Int) :=
  match s.dropWhile isSpace with
  | [] => if s.isEmpty then some none else none
  | ['Z'] => some (some 0)
  | sign :: rest => do
    let negative ← if sign = '-' then some true else if sign = '+' then some false else none
    let (hours, rest) ← number? 1 2 rest
    let minutes ← match rest with
      | [] => some 0
      | ':' :: rest => do
        let (minutes, rest) ← number? 2 2 rest
        if rest.isEmpty then some minutes else none
      | _ => none
    let total : Int := hours * 60 + minutes
    return some (if negative then -total else total)

/-- Reads a time of the day, which is the whole text. -/
def clock? (s : List Char) : Option ClockText := do
  let (hour, rest) ← number? 1 2 s
  let (minute, rest) ← number? 2 2 (← char? ':' rest)
  let (second, rest) ← number? 2 2 (← char? ':' rest)
  let (fraction, rest) := match rest with
    | '.' :: rest => (rest.takeWhile Char.isDigit, rest.dropWhile Char.isDigit)
    | rest => ([], rest)
  return { hour, minute, second, fraction, offset := ← offset? rest }

def exactly? (text : List Char) : Option Timestamp := do
  let (year, rest) ← number? 4 4 text
  let (month, rest) ← number? 1 2 (← char? '-' rest)
  let (day, rest) ← number? 1 2 (← char? '-' rest)
  if rest.isEmpty then return ⟨year, month, day, none⟩
  else return ⟨year, month, day, some (← clock? (← separator? rest))⟩

/-- Reads a timestamp, which is the whole text but for a line feed at its end. -/
def read? (text : List Char) : Option Timestamp :=
  exactly? (dropFinalNewline text)

/-- The microseconds that the digits after the point spell; digits after the sixth are left out. -/
def microseconds (fraction : List Char) : Nat :=
  let digits := fraction.take 6
  Decimal.decimalNumber digits * Nat.pow 10 (6 - digits.length)

/-- The date or time of a timestamp. The distance from universal time is checked first. -/
def value (t : Timestamp) : Except CalendarError Value :=
  match t.clock with
  | none => (Date.ofNumbers t.year t.month t.day).map .date
  | some c => do
    let offset ← c.offset.mapM DateTime.checkOffset
    let date ← Date.ofNumbers t.year t.month t.day
    return .dateTime (← DateTime.ofNumbers date c.hour c.minute c.second (microseconds c.fraction)
      offset)

end Timestamp

end ProgramTags.Yaml
