import ClusterStack.Number.DecimalText
import ClusterStack.Timestamp.Basic
/-!
# Times as numbers

A number stands for a point in universal time by what has passed since the start of 1970. It counts
seconds up to a limit and milliseconds beyond, so that the numbers of either sort that are in use
are told apart. Fractions are kept to the microsecond.
-/
namespace ClusterStack.Timestamp

open Number (Binary64)

def secondsLimit : Nat := 20000000000

/-- The microseconds in the unit that the number `n / d` counts. -/
def unitOf (n : Int) (d : Nat) : Nat := if n.natAbs ≤ secondsLimit * d then 1000000 else 1000

def microsecondsOfDay : Int := 86400000000

def firstMicrosecond : Int := (dayNumber 0 1 1 - unixDay) * microsecondsOfDay

def lastMicrosecond : Int := (dayNumber 10000 1 1 - unixDay) * microsecondsOfDay - 1

def ofMicroseconds? (n : Int) : Option Timestamp :=
  if firstMicrosecond ≤ n && n ≤ lastMicrosecond then
    let (year, month, day) := dateOfDayNumber (n / microsecondsOfDay + unixDay)
    let inDay := (n % microsecondsOfDay).toNat
    let second := inDay / 1000000
    some ⟨year, month, day, second / 3600, second / 60 % 60, second % 60, inDay % 1000000, some 0⟩
  else none

def ofInteger? (n : Int) : Option Timestamp := ofMicroseconds? (n * unitOf n 1)

/-- The point in universal time that a floating-point number stands for. What it has beyond an
integer is scaled to microseconds in floating point, and they are rounded, a half upwards. -/
def ofBinary64? (x : Binary64) : Option Timestamp := do
  let (n, d) ← x.ratio?
  let unit := unitOf n d
  let whole := n / d
  let (p, q) ← Binary64.nearestRatio? (n - whole * d) d
  let (p, q) ← Binary64.nearestRatio? (p * unit) q
  ofMicroseconds? (whole * unit + (2 * p + q) / (2 * q))

def ofNumeral? (cs : List Char) : Option Timestamp :=
  ((Number.integerOfDigits? cs).bind ofInteger?).or
    ((Number.decimalOfText? cs).bind ofBinary64?)

end ClusterStack.Timestamp
