import ClusterStack.Text.DecimalDigit
import ClusterStack.Timestamp.Basic
/-!
# Reading points in time

A point in time is written as a date, or as a date and a time of day. The seconds, their fraction
and the offset from universal time may be left out.
-/
namespace ClusterStack.Timestamp

def twoDigits? : List Char → Option (Nat × List Char)
  | a :: b :: rest =>
    if Text.isAsciiDigit a && Text.isAsciiDigit b then some (Text.digitsValue [a, b], rest)
    else none
  | _ => none

def date? (cs : List Char) : Option ((Nat × Nat × Nat) × List Char) := do
  let (century, cs) ← twoDigits? cs
  let (year, cs) ← twoDigits? cs
  let cs ← ['-'].isPrefixOf? cs
  let (month, cs) ← twoDigits? cs
  let cs ← ['-'].isPrefixOf? cs
  let (day, cs) ← twoDigits? cs
  let year := 100 * century + year
  if 1 ≤ month && month ≤ 12 && 1 ≤ day && day ≤ daysInMonth year month then
    some ((year, month, day), cs)
  else none

/-- The microseconds of a fraction of a second; digits after the sixth are dropped. -/
def microseconds (ds : List Char) : Nat :=
  let kept := ds.take 6
  Text.digitsValue kept * Nat.pow 10 (6 - kept.length)

/-- The second and microsecond after the minute, both zero if they are not written. -/
def seconds? : List Char → Option ((Nat × Nat) × List Char)
  | ':' :: cs => do
    let (second, cs) ← twoDigits? cs
    if 59 < second then none
    else
      match cs with
      | c :: rest =>
        if c == '.' || c == ',' then
          match rest.takeWhile Text.isAsciiDigit with
          | [] => none
          | ds => some ((second, microseconds ds), rest.dropWhile Text.isAsciiDigit)
        else some ((second, 0), cs)
      | [] => some ((second, 0), [])
  | cs => some ((0, 0), cs)

/-- The offset at the end of a time: nothing, a `Z`, or a sign with hours and minutes. -/
def offset? : List Char → Option (Option Int)
  | [] => some none
  | ['Z'] => some (some 0)
  | ['z'] => some (some 0)
  | sign :: cs => do
    let negative ← if sign == '+' then some false
      else if sign == '-' || sign == '\u2212' then some true else none
    let (hours, cs) ← twoDigits? cs
    let (minutes, cs) ← twoDigits? (([':'].isPrefixOf? cs).getD cs)
    if cs.isEmpty && hours ≤ 23 && minutes ≤ 59 then
      let n : Int := 60 * hours + minutes
      some (some (if negative then -n else n))
    else none

/-- The point in time that a text denotes: a date, or a date and a time of day. -/
def ofText? (cs : List Char) : Option Timestamp := do
  let ((year, month, day), cs) ← date? cs
  match cs with
  | [] => some ⟨year, month, day, 0, 0, 0, 0, none⟩
  | separator :: cs =>
    if ['T', 't', ' ', '_'].contains separator then
      let (hour, cs) ← twoDigits? cs
      let cs ← [':'].isPrefixOf? cs
      let (minute, cs) ← twoDigits? cs
      let ((second, microsecond), cs) ← seconds? cs
      let offset ← offset? cs
      if hour ≤ 23 && minute ≤ 59 then
        some ⟨year, month, day, hour, minute, second, microsecond, offset⟩
      else none
    else none

end ClusterStack.Timestamp
