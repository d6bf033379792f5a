/-!
# Points in time

A time of day on a day of the Gregorian calendar, to the microsecond, with or without an offset from
universal time. Two times with an offset are compared as instants and two without one as they stand.
A time with an offset and one without cannot be compared.

The calendar goes back to a year 0, which is a leap year.
-/
namespace ClusterStack

structure Timestamp where
  year : Nat
  month : Nat
  day : Nat
  hour : Nat
  minute : Nat
  second : Nat
  microsecond : Nat
  /-- The offset from universal time in minutes, if it is known. -/
  offset : Option Int
  deriving DecidableEq, Repr

namespace Timestamp

def isLeapYear (year : Nat) : Bool := year % 4 == 0 && (year % 100 != 0 || year % 400 == 0)

def daysInMonth (year month : Nat) : Nat :=
  if month == 2 then if isLeapYear year then 29 else 28
  else if [4, 6, 9, 11].contains month then 30 else 31

/-- The days from the first of March of year 0 to a day. A year is counted from March, so that the
leap day is its last one. -/
def dayNumber (year month day : Nat) : Int :=
  let y : Int := if month ≤ 2 then (year : Int) - 1 else year
  let m : Int := if month ≤ 2 then month + 9 else (month : Int) - 3
  365 * y + y / 4 - y / 100 + y / 400 + (153 * m + 2) / 5 + (day - 1)

def dateOfDayNumber (n : Int) : Nat × Nat × Nat :=
  let era := n / 146097
  let d := n % 146097
  let y := (d - d / 1460 + d / 36524 - d / 146096) / 365
  let dayOfYear := d - (365 * y + y / 4 - y / 100)
  let m := (5 * dayOfYear + 2) / 153
  let day := dayOfYear - (153 * m + 2) / 5 + 1
  let month := if m < 10 then m + 3 else m - 9
  let year := y + era * 400 + (if month ≤ 2 then 1 else 0)
  (year.toNat, month.toNat, day.toNat)

def unixDay : Int := dayNumber 1970 1 1

/-- The microseconds from the start of 1970 to the time, read as universal time. -/
def localMicroseconds (t : Timestamp) : Int :=
  let days := dayNumber t.year t.month t.day - unixDay
  (((days * 24 + t.hour) * 60 + t.minute) * 60 + t.second) * 1000000 + t.microsecond

/-- The microseconds from the start of 1970 in universal time, for a time with an offset. -/
def instant? (t : Timestamp) : Option Int :=
  t.offset.map fun minutes => t.localMicroseconds - minutes * 60000000

/-- The first time lies before the second one, where they can be compared. -/
def before? (a b : Timestamp) : Option Bool :=
  match a.instant?, b.instant? with
  | some i, some j => some (i < j)
  | none, none => some (a.localMicroseconds < b.localMicroseconds)
  | _, _ => none

def padded (width n : Nat) : String :=
  let ds := Nat.toDigits 10 n
  String.ofList (List.replicate (width - ds.length) '0' ++ ds)

def offsetText (minutes : Int) : String :=
  let n := minutes.natAbs
  (if minutes < 0 then "-" else "+") ++ padded 2 (n / 60) ++ ":" ++ padded 2 (n % 60)

/-- The text of a time. Microseconds and the offset are written only when there are any. -/
def text (t : Timestamp) : String :=
  padded 4 t.year ++ "-" ++ padded 2 t.month ++ "-" ++ padded 2 t.day ++ "T" ++
    padded 2 t.hour ++ ":" ++ padded 2 t.minute ++ ":" ++ padded 2 t.second ++
    (if t.microsecond == 0 then "" else "." ++ padded 6 t.microsecond) ++
    (t.offset.map offsetText).getD ""

end Timestamp

end ClusterStack
