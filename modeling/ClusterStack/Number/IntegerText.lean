import ClusterStack.Text.DecimalDigit
/-!
# Integers in texts

An integer may be written with any number of leading zeros, but with at most 4300 digits, those
zeros included. A longer numeral is refused before its value is computed.
-/
namespace ClusterStack.Number

def digitLimit : Nat := 4300

def tooManyDigits (count : Nat) : String :=
  s!"Exceeds the limit ({digitLimit} digits) for integer string conversion: value has {count} " ++
    "digits; use sys.set_int_max_str_digits() to increase the limit"

/-- The value of a run of ASCII digits, or the number of digits if there are too many. -/
def natOfDigits (ds : List Char) : Except Nat Nat :=
  if digitLimit < ds.length then .error ds.length else .ok (Text.digitsValue ds)

end ClusterStack.Number
