/-!
# Blank characters and trimming

The 29 characters that count as white space around a piece of text: the ASCII separators and
controls, and every Unicode space or line separator. Trimming removes them from the ends and never
touches what stands between.
-/
namespace ClusterStack.Text

/-- A character that trimming removes. The zero-width characters are not among them. -/
def isBlank (c : Char) : Bool :=
  let n := c.toNat
  (0x09 ≤ n && n ≤ 0x0D) || (0x1C ≤ n && n ≤ 0x20) || n == 0x85 || n == 0xA0 || n == 0x1680 ||
    (0x2000 ≤ n && n ≤ 0x200A) || n == 0x2028 || n == 0x2029 || n == 0x202F || n == 0x205F ||
    n == 0x3000

def dropBlanks (cs : List Char) : List Char := cs.dropWhile isBlank

def dropTrailingBlanks (cs : List Char) : List Char := (cs.reverse.dropWhile isBlank).reverse

def trim (cs : List Char) : List Char := dropTrailingBlanks (dropBlanks cs)

def strip (s : String) : String := String.ofList (trim s.toList)

def stripEnd (s : String) : String := String.ofList (dropTrailingBlanks s.toList)

/-- No character of the text is anything but blank; true of the empty text. -/
def isAllBlank (s : String) : Bool := s.toList.all isBlank

end ClusterStack.Text
