/-!
# Binary floating-point numbers

The 64-bit floating-point numbers as what they denote: a significand below 2⁵³ times a power of two,
an infinity, or no number. A decimal literal is rounded to the nearest of them, a half to the even
neighbour, in exact integer arithmetic.
-/
namespace ClusterStack.Number

/-- A 64-bit floating-point number. A finite one is `significand * 2 ^ exponent`; its sign is kept
also for zero. -/
inductive Binary64
  | nan
  | infinite (negative : Bool)
  | finite (negative : Bool) (significand : Nat) (exponent : Int)
  deriving DecidableEq, Repr

/-- The quotient to the nearest integer, a half to the even neighbour. -/
def roundHalfEven (n d : Nat) : Nat :=
  let q := n / d
  let r := n % d
  if 2 * r < d then q
  else if d < 2 * r then q + 1
  else if q % 2 == 0 then q else q + 1

def scaleDown (n d : Nat) : Int → Nat × Nat
  | .ofNat k => (n, d * Nat.pow 2 k)
  | .negSucc k => (n * Nat.pow 2 (k + 1), d)

namespace Binary64

def minExponent : Int := -1074

def maxExponent : Int := 971

/-- The exponent at which `n / d` has a significand of 53 bits, or the least exponent. -/
def exponentOf (n d : Nat) : Int :=
  let k : Int := n.log2 - d.log2 - 52
  let (n', d') := scaleDown n d k
  max minExponent (if n' < d' * Nat.pow 2 52 then k - 1 else k)

def ofRatio (negative : Bool) (n d : Nat) : Binary64 :=
  if n == 0 then .finite negative 0 minExponent
  else
    let k := exponentOf n d
    let (n', d') := scaleDown n d k
    let q := roundHalfEven n' d'
    let (q, k) := if q == Nat.pow 2 53 then (Nat.pow 2 52, k + 1) else (q, k)
    if maxExponent < k then .infinite negative else .finite negative q k

/-- The number nearest to `digits * 10 ^ exponent`. Exponents at which every result is infinite or
zero are decided without computing the power. -/
def ofDecimal (negative : Bool) (digits : Nat) (exponent : Int) : Binary64 :=
  if digits == 0 then .finite negative 0 minExponent
  else if 400 < exponent then .infinite negative
  else if exponent < -(401 + digits.log2) then .finite negative 0 minExponent
  else match exponent with
    | .ofNat e => ofRatio negative (digits * Nat.pow 10 e) 1
    | .negSucc e => ofRatio negative digits (Nat.pow 10 (e + 1))

def ratio? : Binary64 → Option (Int × Nat)
  | .finite negative m (.ofNat e) => some ((if negative then -1 else 1) * (m * Nat.pow 2 e : Nat), 1)
  | .finite negative m (.negSucc e) => some ((if negative then -1 else 1) * m, Nat.pow 2 (e + 1))
  | _ => none

/-- The value of the number nearest to `n / d`, as a ratio. -/
def nearestRatio? (n : Int) (d : Nat) : Option (Int × Nat) := (ofRatio (n < 0) n.natAbs d).ratio?

def integer? (x : Binary64) : Option Int :=
  match x.ratio? with
  | some (n, d) => if n % d == 0 then some (n / d) else none
  | none => none

def isZero : Binary64 → Bool
  | .finite _ m _ => m == 0
  | _ => false

def isFinite : Binary64 → Bool
  | .finite _ _ _ => true
  | _ => false

end Binary64

end ClusterStack.Number
