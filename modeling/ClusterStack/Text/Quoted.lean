import ClusterStack.Text.Basic
import ClusterStack.Text.Printable
/-!
# Quoted text

Text in quotation marks, for messages: single quotes, or double quotes around a text that holds a
single and no double one. The backslash and the chosen mark are escaped, and so is every character
that is not printable, halves of surrogate pairs included.
-/
namespace ClusterStack.Text

def hexDigit (n : Nat) : Char :=
  if n < 10 then Char.ofNat ('0'.toNat + n) else Char.ofNat ('a'.toNat + (n - 10))

/-- The last `width` hexadecimal digits of a number, most significant first. -/
def hexDigits : Nat → Nat → List Char
  | 0, _ => []
  | width + 1, n => hexDigits width (n / 16) ++ [hexDigit (n % 16)]

def quoteMark (t : Text) : Char :=
  if t.codes.contains (.char '\'') && !t.codes.contains (.char '"') then '"' else '\''

def quoteCharacter (mark c : Char) : List Char :=
  if c == mark || c == '\\' then ['\\', c]
  else if c == '\n' then ['\\', 'n']
  else if c == '\r' then ['\\', 'r']
  else if c == '\t' then ['\\', 't']
  else if isPrintable c then [c]
  else if c.toNat < 0x100 then ['\\', 'x'] ++ hexDigits 2 c.toNat
  else if c.toNat < 0x10000 then ['\\', 'u'] ++ hexDigits 4 c.toNat
  else ['\\', 'U'] ++ hexDigits 8 c.toNat

def quoteCode (mark : Char) : Code → List Char
  | .char c => quoteCharacter mark c
  | half => ['\\', 'u'] ++ hexDigits 4 half.value

def quoted (t : Text) : String :=
  let mark := quoteMark t
  String.ofList (mark :: t.codes.flatMap (quoteCode mark) ++ [mark])

end ClusterStack.Text
