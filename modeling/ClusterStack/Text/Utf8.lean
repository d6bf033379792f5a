/-!
# Reading UTF-8

A byte sequence is read one byte at a time. Between bytes the reader holds the character begun so
far: its value, how many continuation bytes it still needs and the range of the next one. That range
is narrowed after the lead bytes whose first continuation decides between a valid character and an
overlong, surrogate or out-of-range one, so an ill-formed sequence is noticed at its first byte that
no character allows. Each longest ill-formed beginning of a character then stands for one gap.
-/
namespace ClusterStack.Text

/-- A character whose first bytes have been read. -/
structure Partial where
  value : Nat
  /-- How many continuation bytes follow after the next one. -/
  after : Nat
  low : Nat
  high : Nat

/-- What a lead byte begins: a whole character, a longer one, or nothing. -/
inductive Lead
  | whole (c : Char)
  | longer (p : Partial)
  | none

def lead (b : Nat) : Lead :=
  if b < 0x80 then .whole (Char.ofNat b)
  else if b < 0xC2 then .none
  else if b < 0xE0 then .longer ⟨b - 0xC0, 0, 0x80, 0xBF⟩
  else if b == 0xE0 then .longer ⟨0, 1, 0xA0, 0xBF⟩
  else if b == 0xED then .longer ⟨0xD, 1, 0x80, 0x9F⟩
  else if b < 0xF0 then .longer ⟨b - 0xE0, 1, 0x80, 0xBF⟩
  else if b == 0xF0 then .longer ⟨0, 2, 0x90, 0xBF⟩
  else if b < 0xF4 then .longer ⟨b - 0xF0, 2, 0x80, 0xBF⟩
  else if b == 0xF4 then .longer ⟨4, 2, 0x80, 0x8F⟩
  else .none

/-- The characters of a byte sequence after the beginning of one, `none` for each gap. -/
def decodeFrom : Option Partial → List UInt8 → List (Option Char)
  | .none, [] => []
  | .some _, [] => [.none]
  | .none, b :: rest =>
    match lead b.toNat with
    | .whole c => .some c :: decodeFrom .none rest
    | .longer p => decodeFrom (.some p) rest
    | .none => .none :: decodeFrom .none rest
  | .some p, b :: rest =>
    let n := b.toNat
    if p.low ≤ n && n ≤ p.high then
      let value := 64 * p.value + (n - 0x80)
      match p.after with
      | 0 => .some (Char.ofNat value) :: decodeFrom .none rest
      | after + 1 => decodeFrom (.some ⟨value, after, 0x80, 0xBF⟩) rest
    else
      .none :: match lead n with
        | .whole c => .some c :: decodeFrom .none rest
        | .longer q => decodeFrom (.some q) rest
        | .none => .none :: decodeFrom .none rest

/-- The characters of a byte sequence, U+FFFD for each gap. -/
def decodeLossy (bytes : List UInt8) : List Char :=
  (decodeFrom .none bytes).map (·.getD '\uFFFD')

def decode? (bytes : List UInt8) : Option (List Char) :=
  (decodeFrom .none bytes).mapM id

end ClusterStack.Text
