import ClusterStack.Number.Binary64
/-!
# The shortest decimal of a floating-point number

The text of a floating-point number has the fewest digits that read back as the same number, and of
those the digits nearest to it. It is positional from 10⁻⁴ up to 10¹⁶, always with a fraction, and
has an exponent of at least two digits beyond.
-/
namespace ClusterStack.Number

/-- The decimals that round to a number: the open or closed interval around `value`, all three in
units of `1 / unit` times `scale`. -/
structure Rounding where
  low : Nat
  value : Nat
  high : Nat
  unit : Nat
  /-- The ends belong to the interval. -/
  closed : Bool

/-- The interval of the number `m * 2 ^ e`. Below a power of two the neighbours are closer. -/
def rounding (m : Nat) (e : Int) : Rounding :=
  let below := if m == Nat.pow 2 52 && Binary64.minExponent < e then 1 else 2
  let (scale, unit) := match e with
    | .ofNat k => (Nat.pow 2 k, 4)
    | .negSucc k => (1, 4 * Nat.pow 2 (k + 1))
  ⟨(4 * m - below) * scale, 4 * m * scale, (4 * m + 2) * scale, unit, m % 2 == 0⟩

/-- How many decimal digits a number has; zero has none. -/
def decimalLength (n : Nat) : Nat := if n == 0 then 0 else (Nat.toDigits 10 n).length

/-- The least number of places by which a fraction below one has to be shifted to reach one, looked
for among the next `fuel` places. -/
def leadingZeros (n d : Nat) : Nat → Nat
  | 0 => 0
  | fuel + 1 => if d ≤ n * 10 then 0 else leadingZeros (n * 10) d fuel + 1

/-- The exponent `p` with `10 ^ (p - 1) ≤ n / d < 10 ^ p`. -/
def decimalExponent (n d : Nat) : Int :=
  if d ≤ n then decimalLength (n / d) else -leadingZeros n d 400

def Rounding.holds (r : Rounding) (digits : Nat) (place : Int) : Bool :=
  let (x, f) : Nat × Nat := match place with
    | .ofNat k => (digits * Nat.pow 10 k * r.unit, 1)
    | .negSucc k => (digits * r.unit, Nat.pow 10 (k + 1))
  if r.closed then r.low * f ≤ x && x ≤ r.high * f else r.low * f < x && x < r.high * f

def Rounding.neighbours (r : Rounding) (place : Int) : Nat × Nat :=
  let (n, d) : Nat × Nat := match place with
    | .ofNat k => (r.value, r.unit * Nat.pow 10 k)
    | .negSucc k => (r.value * Nat.pow 10 (k + 1), r.unit)
  let q := n / d
  if roundHalfEven n d == q then (q, q + 1) else (q + 1, q)

/-- The digits on the first of the next `fuel` grids, from coarse to fine, that has a point in the
interval, with the place of their last digit. -/
def Rounding.search (r : Rounding) (place : Int) : Nat → Nat × Int
  | 0 => ((r.neighbours place).1, place)
  | fuel + 1 =>
    let (near, far) := r.neighbours place
    if r.holds near place then (near, place)
    else if r.holds far place then (far, place)
    else r.search (place - 1) fuel

/-- The fewest decimal digits that round to `m * 2 ^ e`, with the place of their last digit. -/
def shortest (m : Nat) (e : Int) : Nat × Int :=
  let r := rounding m e
  r.search (decimalExponent r.value r.unit - 1) 17

def dropTrailingZeros (ds : List Char) : List Char := (ds.reverse.dropWhile (· == '0')).reverse

/-- Digits with the decimal point after `point` of them, padded with zeros; there is a digit on both
sides of the point. -/
def positional (ds : List Char) : Int → List Char
  | .ofNat point =>
    let whole := ds.take point ++ List.replicate (point - ds.length) '0'
    let fraction := ds.drop point
    (if whole.isEmpty then ['0'] else whole) ++
      '.' :: (if fraction.isEmpty then ['0'] else fraction)
  | .negSucc k => '0' :: '.' :: List.replicate (k + 1) '0' ++ ds

/-- Digits with a decimal exponent: one digit before the point, a signed exponent of two or more
digits. -/
def scientific (ds : List Char) (exponent : Int) : List Char :=
  let mantissa := match ds with
    | d :: d' :: rest => d :: '.' :: d' :: rest
    | ds => ds
  let size := Nat.toDigits 10 exponent.natAbs
  mantissa ++ 'e' :: (if exponent < 0 then '-' else '+') ::
    (List.replicate (2 - size.length) '0' ++ size)

def Binary64.text : Binary64 → String
  | .nan => "nan"
  | .infinite negative => if negative then "-inf" else "inf"
  | .finite negative m e =>
    let sign := if negative then ['-'] else []
    if m == 0 then String.ofList (sign ++ ['0', '.', '0'])
    else
      let (digits, place) := shortest m e
      let ds := Nat.toDigits 10 digits
      let point : Int := ds.length + place
      let ds := dropTrailingZeros ds
      String.ofList (sign ++
        if -4 < point && point ≤ 16 then positional ds point else scientific ds (point - 1))

end ClusterStack.Number
