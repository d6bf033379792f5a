import ClusterStack.Number.Binary64
import ClusterStack.Text.DecimalDigit
/-!
# Decimal numbers in texts

A decimal number has digits, a point among them or at an end, and perhaps an exponent after a mark.
It stands for the nearest binary floating-point number. A run of digits without a point is an
integer, which is exact.
-/
namespace ClusterStack.Number

def takeDigits (cs : List Char) : List Char × List Char :=
  (cs.takeWhile Text.isAsciiDigit, cs.dropWhile Text.isAsciiDigit)

def exponentDigits? (negative : Bool) (cs : List Char) : Option (Int × List Char) :=
  match takeDigits cs with
  | ([], _) => none
  | (ds, rest) =>
    let n : Int := Text.digitsValue ds
    some (if negative then -n else n, rest)

def exponentPart? : List Char → Option (Int × List Char)
  | c :: rest =>
    if c == 'e' || c == 'E' then
      match rest with
      | '-' :: rest => exponentDigits? true rest
      | '+' :: rest => exponentDigits? false rest
      | rest => exponentDigits? false rest
    else none
  | [] => none

/-- The exponent with which a text ends; zero if it has ended before. -/
def lastExponent? (cs : List Char) : Option Int :=
  if cs.isEmpty then some 0
  else
    match exponentPart? cs with
    | some (exponent, []) => some exponent
    | _ => none

def splitSign : List Char → Bool × List Char
  | '-' :: rest => (true, rest)
  | '+' :: rest => (false, rest)
  | rest => (false, rest)

def integerOfDigits? (cs : List Char) : Option Int :=
  let (negative, ds) := splitSign cs
  if ds.isEmpty || !ds.all Text.isAsciiDigit then none
  else
    let n : Int := Text.digitsValue ds
    some (if negative then -n else n)

/-- The number that a text spells with an optional sign, a point with digits on one side of it at
least, and perhaps an exponent. -/
def decimalOfText? (cs : List Char) : Option Binary64 :=
  let (negative, unsigned) := splitSign cs
  match takeDigits unsigned with
  | (whole, '.' :: afterPoint) =>
    let (fraction, rest) := takeDigits afterPoint
    if whole.isEmpty && fraction.isEmpty then none
    else
      (lastExponent? rest).map fun exponent =>
        .ofDecimal negative (Text.digitsValue (whole ++ fraction)) (exponent - fraction.length)
  | _ => none

end ClusterStack.Number
