import ClusterStack.Json.Basic
import ClusterStack.Number.DecimalText
import ClusterStack.Number.IntegerText
/-!
# Reading JSON

A text is read from left to right and the first thing out of order is reported with its place.
Beyond the standard grammar, `NaN`, `Infinity` and `-Infinity` are numbers, and a member's name may
occur again: the last value wins and the first place is kept. White space is the space, tab,
carriage return and line feed. Numbers extend as far as they can, so `01` is a zero with something
after it. An escape may stand for half of a surrogate pair. Arrays and objects may be nested up to a
limit, and reading stops at the mark that opens one too many.

While reading, a place is how many codes are left from there to the end of the text.
-/
namespace ClusterStack.Json

open Text (Code)

inductive Expectation
  | value
  | memberName
  | colon
  | comma
  | closingQuote
  | noControlCharacter
  | knownEscape
  | hexadecimalEscape
  | endOfText
  | noByteOrderMark
  deriving DecidableEq, Repr

def Expectation.text : Expectation → String
  | .value => "Expecting value"
  | .memberName => "Expecting property name enclosed in double quotes"
  | .colon => "Expecting ':' delimiter"
  | .comma => "Expecting ',' delimiter"
  | .closingQuote => "Unterminated string starting at"
  | .noControlCharacter => "Invalid control character at"
  | .knownEscape => "Invalid \\escape"
  | .hexadecimalEscape => "Invalid \\uXXXX escape"
  | .endOfText => "Extra data"
  | .noByteOrderMark => "Unexpected UTF-8 BOM (decode using utf-8-sig)"

/-- Why reading stopped: something out of order with so many codes left, an integer of so many
digits, or an array or object inside too many others. -/
inductive Stop
  | unexpected (what : Expectation) (left : Nat)
  | longInteger (digits : Nat)
  | overNested
  deriving DecidableEq, Repr

/-- A value read from the front of a text, with the rest of it. -/
abbrev Reading (α : Type) := Except Stop (α × List Code)

def isSpace (c : Code) : Bool :=
  c == .char ' ' || c == .char '\t' || c == .char '\n' || c == .char '\r'

def skipSpace (cs : List Code) : List Code := cs.dropWhile isSpace

def hexValue? (c : Char) : Option Nat :=
  if '0' ≤ c && c ≤ '9' then some (c.toNat - '0'.toNat)
  else if 'a' ≤ c && c ≤ 'f' then some (c.toNat - 'a'.toNat + 10)
  else if 'A' ≤ c && c ≤ 'F' then some (c.toNat - 'A'.toNat + 10)
  else none

def hexUnit? (a b c d : Code) : Option Nat := do
  let a ← a.character?.bind hexValue?
  let b ← b.character?.bind hexValue?
  let c ← c.character?.bind hexValue?
  let d ← d.character?.bind hexValue?
  pure (((a * 16 + b) * 16 + c) * 16 + d)

def shortEscape? : Code → Option Char
  | .char '"' => some '"'
  | .char '\\' => some '\\'
  | .char '/' => some '/'
  | .char 'b' => some '\x08'
  | .char 'f' => some '\x0c'
  | .char 'n' => some '\n'
  | .char 'r' => some '\r'
  | .char 't' => some '\t'
  | _ => none

/-- A part of a text: what stands there itself, or what four hexadecimal digits stand for. -/
inductive Piece
  | plain (code : Code)
  | escaped (code : Code)
  deriving DecidableEq, Repr

def Piece.code : Piece → Code
  | .plain code => code
  | .escaped code => code

/-- The codes of the parts of a text. Two escapes next to each other that stand for the halves of a
surrogate pair are one character. -/
def joinPieces : List Piece → List Code
  | [] => []
  | .escaped (.high a) :: .escaped (.low b) :: rest =>
    .char (Text.pairCharacter a b) :: joinPieces rest
  | piece :: rest => piece.code :: joinPieces rest

def Reading.prepend (piece : Piece) (r : Reading (List Piece)) : Reading (List Piece) :=
  r.map fun (pieces, rest) => (piece :: pieces, rest)

/-- The parts of a text up to its closing mark. `opening` is the place of the opening one. An escape
of four digits has to be followed by something. -/
def textPieces (opening : Nat) : List Code → Reading (List Piece)
  | [] => .error (.unexpected .closingQuote opening)
  | .char '"' :: rest => .ok ([], rest)
  | [.char '\\'] => .error (.unexpected .closingQuote opening)
  | .char '\\' :: .char 'u' :: a :: b :: c :: d :: rest =>
    match hexUnit? a b c d with
    | some n =>
      if rest.isEmpty then .error (.unexpected .hexadecimalEscape 5)
      else (textPieces opening rest).prepend (.escaped (.ofUnit n))
    | none => .error (.unexpected .hexadecimalEscape (rest.length + 5))
  | .char '\\' :: .char 'u' :: rest => .error (.unexpected .hexadecimalEscape (rest.length + 1))
  | .char '\\' :: c :: rest =>
    match shortEscape? c with
    | some x => (textPieces opening rest).prepend (.plain (.char x))
    | none => .error (.unexpected .knownEscape (rest.length + 2))
  | c :: rest =>
    if c.value < 0x20 then .error (.unexpected .noControlCharacter (rest.length + 1))
    else (textPieces opening rest).prepend (.plain c)

def textAfterMark (cs : List Code) : Reading Text :=
  (textPieces (cs.length + 1) cs).map fun (pieces, rest) => (⟨joinPieces pieces⟩, rest)

/-- The whole part of a number: a zero by itself, or digits that begin with another one. -/
def wholePart? : List Char → Option (List Char × List Char)
  | '0' :: rest => some (['0'], rest)
  | cs =>
    match Number.takeDigits cs with
    | ([], _) => none
    | r => some r

/-- The digits of a fraction, if a point and at least one digit follow. -/
def fractionPart : List Char → List Char × List Char
  | '.' :: rest =>
    match Number.takeDigits rest with
    | ([], _) => ([], '.' :: rest)
    | r => r
  | cs => ([], cs)

/-- A number without its sign, if there is one. It is an integer if it has neither fraction nor
exponent. -/
def unsignedNumber? (negative : Bool) (cs : List Char) : Option (Except Stop (Json × List Char)) :=
  (wholePart? cs).map fun (whole, afterWhole) =>
    let (fraction, afterFraction) := fractionPart afterWhole
    match fraction, Number.exponentPart? afterFraction with
    | [], none =>
      match Number.natOfDigits whole with
      | .ok n => .ok (.int (if negative then -n else n), afterFraction)
      | .error count => .error (.longInteger count)
    | _, exponent =>
      let (exponent, rest) := exponent.getD (0, afterFraction)
      let digits := Text.digitsValue (whole ++ fraction)
      .ok (.float (.ofDecimal negative digits (exponent - fraction.length)), rest)

def number? : List Char → Option (Except Stop (Json × List Char))
  | '-' :: rest => unsignedNumber? true rest
  | cs => unsignedNumber? false cs

def isNumeral (c : Char) : Bool :=
  Text.isAsciiDigit c || c == '-' || c == '+' || c == '.' || c == 'e' || c == 'E'

def takeNumerals : List Code → List Char × List Code
  | .char c :: rest =>
    if isNumeral c then
      let (cs, rest) := takeNumerals rest
      (c :: cs, rest)
    else ([], .char c :: rest)
  | rest => ([], rest)

def words : List (String × Json) := [
  ("null", .null),
  ("true", .bool true),
  ("false", .bool false),
  ("NaN", .float .nan),
  ("Infinity", .float (.infinite false)),
  ("-Infinity", .float (.infinite true))]

def word? (cs : List Code) : Option (Json × List Code) :=
  words.findSome? fun (word, v) =>
    ((Text.ofString word).codes.isPrefixOf? cs).map fun rest => (v, rest)

def plainValue (cs : List Code) : Reading Json :=
  match word? cs with
  | some r => .ok r
  | none =>
    let (numerals, rest) := takeNumerals cs
    match number? numerals with
    | some r => r.map fun (v, left) => (v, left.map .char ++ rest)
    | none => .error (.unexpected .value cs.length)

mutual

/-- The value in front of a text, in which `room` arrays and objects may be nested. The argument
after it bounds how many parts are read one inside or after another, and is never reached when it
exceeds twice the length of the text. -/
def value (room : Nat) : Nat → List Code → Reading Json
  | 0, cs => .error (.unexpected .value cs.length)
  | _ + 1, .char '"' :: rest => (textAfterMark rest).map fun (t, rest) => (.str t, rest)
  | bound + 1, .char '[' :: rest =>
    if room == 0 then .error .overNested
    else
      match skipSpace rest with
      | .char ']' :: rest => .ok (.arr [], rest)
      | cs => (items (room - 1) bound cs).map fun (vs, rest) => (.arr vs, rest)
  | bound + 1, .char '\x7b' :: rest =>
    if room == 0 then .error .overNested
    else
      match skipSpace rest with
      | .char '\x7d' :: rest => .ok (.obj [], rest)
      | cs =>
        (members (room - 1) bound cs).map fun (ms, rest) => (.obj (Association.ofList ms), rest)
  | _ + 1, cs => plainValue cs

def items (room : Nat) : Nat → List Code → Except Stop (List Json × List Code)
  | 0, cs => .error (.unexpected .value cs.length)
  | bound + 1, cs => do
    let (v, rest) ← value room bound cs
    match skipSpace rest with
    | .char ']' :: rest => .ok ([v], rest)
    | .char ',' :: rest =>
      let (vs, rest) ← items room bound (skipSpace rest)
      .ok (v :: vs, rest)
    | rest => .error (.unexpected .comma rest.length)

def members (room : Nat) : Nat → List Code → Except Stop (List (Text × Json) × List Code)
  | 0, cs => .error (.unexpected .value cs.length)
  | bound + 1, .char '"' :: rest => do
    let (name, rest) ← textAfterMark rest
    match skipSpace rest with
    | .char ':' :: rest =>
      let (v, rest) ← value room bound (skipSpace rest)
      match skipSpace rest with
      | .char '\x7d' :: rest => .ok ([(name, v)], rest)
      | .char ',' :: rest =>
        let (ms, rest) ← members room bound (skipSpace rest)
        .ok ((name, v) :: ms, rest)
      | rest => .error (.unexpected .comma rest.length)
    | rest => .error (.unexpected .colon rest.length)
  | _ + 1, cs => .error (.unexpected .memberName cs.length)

end

/-- A text of exactly one value, with white space around it, in which `room` arrays and objects may
be nested. -/
def document (room : Nat) (cs : List Code) : Except Stop Json :=
  match cs with
  | .char '\uFEFF' :: _ => .error (.unexpected .noByteOrderMark cs.length)
  | _ => do
    let (v, rest) ← value room (2 * cs.length + 2) (skipSpace cs)
    match skipSpace rest with
    | [] => .ok v
    | rest => .error (.unexpected .endOfText rest.length)

inductive ReadError
  | unexpected (what : Expectation) (line column index : Nat)
  | longInteger (digits : Nat)
  | overNested
  deriving DecidableEq, Repr

/-- The line and the column of the place after some codes, both counted from one. -/
def lineAndColumn (before : List Code) : Nat × Nat :=
  (before.count (.char '\n') + 1, (before.reverse.takeWhile (· != .char '\n')).length + 1)

def Stop.located (cs : List Code) : Stop → ReadError
  | .longInteger digits => .longInteger digits
  | .overNested => .overNested
  | .unexpected what left =>
    let index := cs.length - left
    let (line, column) := lineAndColumn (cs.take index)
    .unexpected what line column index

def ReadError.message : ReadError → String
  | .unexpected what line column index =>
    s!"{what.text}: line {line} column {column} (char {index})"
  | .longInteger digits => Number.tooManyDigits digits
  | .overNested => "Arrays and objects are nested too deeply"

def readWithin (room : Nat) (t : Text) : Except ReadError Json :=
  (document room t.codes).mapError (Stop.located t.codes)

/-- How many arrays and objects may be nested. -/
def nestingLimit : Nat := 975

def read (t : Text) : Except ReadError Json := readWithin nestingLimit t

end ClusterStack.Json
