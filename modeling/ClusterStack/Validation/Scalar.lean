import ClusterStack.Number.DecimalText
import ClusterStack.Number.IntegerText
import ClusterStack.Text.Blank
import ClusterStack.Validation.Checked
/-!
# Checks of single values

A text is taken only from a text. Halves of surrogate pairs may stand in it, but not in a text that
is read further. An integer is also taken from a truth value, from a floating-point number of 64
bits without a fraction and from a text that spells one, and a truth value from the numbers zero and
one and from the usual words.
-/
namespace ClusterStack.Validation

def text : Check Text
  | .str t => .valid t
  | _ => .problem .notAText

/-- A text of characters alone, as it is shown. -/
def string : Check String := fun v => (text v).map Text.toString

def spelled {α : Type} (read : String → Checked α) (t : Text) : Checked α :=
  match t.string? with
  | some s => read s
  | none => .problem .notUnicode

def anyList : Check (List Json)
  | .arr items => .valid items
  | _ => .problem .notAList

def anyMap : Check (List (Text × Json))
  | .obj members => .valid members
  | _ => .problem .notAMap

def isNumeralSpace (c : Char) : Bool := Text.isBlank c && !(0x1C ≤ c.toNat && c.toNat ≤ 0x1F)

def trimNumeral (cs : List Char) : List Char :=
  ((cs.dropWhile isNumeralSpace).reverse.dropWhile isNumeralSpace).reverse

/-- The sign in front of a numeral, and the numeral. A minus sign cannot follow a plus sign. -/
def splitNumeralSign? : List Char → Option (Bool × List Char)
  | '+' :: '-' :: _ => none
  | cs => some (Number.splitSign cs)

/-- A numeral without its leading zeros, among which underscores may stand. The last zero before a
point or the end is kept, and a minus sign may come after the zeros. -/
def afterLeadingZeros? : List Char → Option (List Char)
  | [] => none
  | ['0'] => some ['0']
  | ['_'] => none
  | '0' :: '.' :: rest => some ('0' :: '.' :: rest)
  | '_' :: '.' :: _ => none
  | c :: rest =>
    if c == '0' || c == '_' then afterLeadingZeros? rest
    else if Text.isAsciiDigit c || c == '-' then some (c :: rest)
    else none

def withoutLeadingZeros? : List Char → Option (List Char)
  | '_' :: _ => none
  | cs => afterLeadingZeros? cs

/-- A numeral without a fraction of zeros, of which there has to be one at least. -/
def withoutZeroFraction (cs : List Char) : List Char :=
  let fraction := (cs.dropWhile (· != '.')).drop 1
  if !fraction.isEmpty && fraction.all (· == '0') then cs.takeWhile (· != '.') else cs

def underscoresSeparate : List Char → Bool
  | [] => true
  | ['_'] => false
  | '_' :: '_' :: _ => false
  | _ :: rest => underscoresSeparate rest

def withoutUnderscores (cs : List Char) : List Char :=
  if cs.head? != some '_' && underscoresSeparate cs then cs.filter (· != '_') else cs

/-- The value of plain digits: a zero by itself, or digits that begin with another one. -/
def plainDigits? (ds : List Char) : Option Nat :=
  if ds.isEmpty || !ds.all Text.isAsciiDigit || (ds.head? == some '0' && ds != ['0']) then none
  else (Number.natOfDigits ds).toOption

/-- The value of plain digits after at most one minus sign, which may have come before. -/
def plainInteger? (negative : Bool) : List Char → Option Int
  | '-' :: ds => if negative then none else (plainDigits? ds).map fun n => -n
  | ds => (plainDigits? ds).map fun n => if negative then -n else n

/-- A text begins with an integer in its plain form that has too many digits. -/
def isOverlongNumeral (cs : List Char) : Bool :=
  let ds := (match cs with
    | '-' :: ds => ds
    | ds => ds).takeWhile Text.isAsciiDigit
  ds.head? != some '0' && Number.digitLimit < ds.length

/-- The integer that a text spells: white space around it, a sign, leading zeros, single underscores
between digits and a fraction of zeros are allowed. Only of a numeral in its plain form it is said
that it is too long. -/
def integerOfText (s : String) : Checked Int :=
  let cs := s.toList
  if isOverlongNumeral cs then .problem .overlongInteger
  else
    let value? := do
      let (negative, cs) ← splitNumeralSign? (trimNumeral cs)
      let cs ← withoutLeadingZeros? cs
      plainInteger? negative (withoutUnderscores (withoutZeroFraction cs))
    match value? with
    | some i => .valid i
    | none => .problem .unreadableInteger

/-- The bound on integers from floating-point numbers, which lie strictly between its negative and
itself. -/
def wordBound : Nat := Nat.pow 2 63

def integerOfFloat (x : Number.Binary64) : Except Problem Int :=
  match x.integer? with
  | some i => if i.natAbs < wordBound then .ok i else .error .overlongInteger
  | none => .error (if x.isFinite then .fractionalInteger else .infiniteInteger)

def integer : Check Int
  | .int i => .valid i
  | .bool b => .valid (if b then 1 else 0)
  | .float x =>
    match integerOfFloat x with
    | .ok i => .valid i
    | .error p => .problem p
  | .str t => spelled integerOfText t
  | _ => .problem .notAnInteger

def trueWords : List String := ["1", "on", "t", "true", "y", "yes"]

def falseWords : List String := ["0", "off", "f", "false", "n", "no"]

def booleanOfInteger (i : Int) : Checked Bool :=
  if i == 0 then .valid false else if i == 1 then .valid true else .problem .unreadableBoolean

def booleanOfText (s : String) : Checked Bool :=
  let word := s.toLower
  if trueWords.contains word then .valid true
  else if falseWords.contains word then .valid false
  else .problem .unreadableBoolean

/-- A truth value. A number that is no integer of 64 bits is not taken for one at all. -/
def boolean : Check Bool
  | .bool b => .valid b
  | .int i =>
    if -wordBound ≤ i && i < wordBound then booleanOfInteger i else .problem .notABoolean
  | .float x =>
    match integerOfFloat x with
    | .ok i => booleanOfInteger i
    | .error _ => .problem .notABoolean
  | .str t => spelled booleanOfText t
  | _ => .problem .notABoolean

end ClusterStack.Validation
