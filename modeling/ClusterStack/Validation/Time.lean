import ClusterStack.Timestamp.Elapsed
import ClusterStack.Timestamp.Reader
import ClusterStack.Validation.Scalar
/-!
# Checks of points in time

A point in time is taken from a text that spells it and from the number that stands for it, which
may be in a text too. The years run from 1 to 9999. A text that is no point in time of the calendar
is unreadable. A number out of range is known to be a time, as is a text that denotes a day of
year 0.
-/
namespace ClusterStack.Validation

/-- A point in time that was read, except in year 0. -/
def acceptedTime (unread : Problem) : Option Timestamp → Checked Timestamp
  | some t => if t.year == 0 then .problem .timeOutOfRange else .valid t
  | none => .problem unread

/-- The point in time that a text spells, or that a number in it stands for. -/
def timeOfText (s : String) : Checked Timestamp :=
  let cs := s.toList
  acceptedTime .unreadableTime ((Timestamp.ofText? cs).or (Timestamp.ofNumeral? cs))

/-- A point in time. An integer too large for a floating-point number is not one. -/
def time : Check Timestamp
  | .str t => spelled timeOfText t
  | .int i =>
    if (Number.Binary64.ofRatio false i.natAbs 1).isFinite then
      acceptedTime .timeOutOfRange (Timestamp.ofInteger? i)
    else .problem .notATime
  | .float x => acceptedTime .timeOutOfRange (Timestamp.ofBinary64? x)
  | _ => .problem .notATime

end ClusterStack.Validation
