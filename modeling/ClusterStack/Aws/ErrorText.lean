import ClusterStack.Text.Blank
import ClusterStack.Text.DecimalDigit
import ClusterStack.Text.WordCharacter
/-!
# The error line of the `aws` program

A failed call says so in the form

    An error occurred (CODE) when calling the NAME operation (reached max retries: N): DETAIL

in which the two parts between the code and the colon may be missing. The line may stand anywhere in
what the program printed, and the detail extends to the end of it. `errorAt?` reads the form at one
place; `readErrorText` takes the first place where it can be read.
-/
namespace ClusterStack.Aws

def errorOpening : List Char := "An error occurred (".toList

def callOpening : List Char := " when calling the ".toList

def callClosing : List Char := " operation".toList

def retriesOpening : List Char := " (reached max retries: ".toList

/-- The rest after a non-empty run of some characters between two given texts. -/
def afterRun? (opening : List Char) (inRun : Char → Bool) (closing cs : List Char) :
    Option (List Char) := do
  let cs ← opening.isPrefixOf? cs
  if (cs.takeWhile inRun).isEmpty then none else closing.isPrefixOf? (cs.dropWhile inRun)

def skipCall (cs : List Char) : List Char :=
  (afterRun? callOpening Text.isWordCharacter callClosing cs).getD cs

def skipRetries (cs : List Char) : List Char :=
  (afterRun? retriesOpening Text.isDecimalDigit [')'] cs).getD cs

/-- The code and the detail of a text that is of the form from its first character on. -/
def errorAt? (cs : List Char) : Option (List Char × List Char) := do
  let cs ← errorOpening.isPrefixOf? cs
  let code := cs.takeWhile (· != ')')
  if code.isEmpty then none
  else
    let cs ← [')'].isPrefixOf? (cs.dropWhile (· != ')'))
    let detail ← [':', ' '].isPrefixOf? (skipRetries (skipCall cs))
    some (code, detail)

def findError? : List Char → Option (List Char × List Char)
  | [] => none
  | c :: cs => (errorAt? (c :: cs)).or (findError? cs)

/-- The code and the detail of what a failed call printed, without blank characters around the
detail. Where the form is nowhere, the code is `Unknown` and the detail all that was printed. -/
def readErrorText (printed : String) : String × String :=
  match findError? printed.toList with
  | some (code, detail) => (String.ofList code, String.ofList (Text.trim detail))
  | none => ("Unknown", Text.strip printed)

end ClusterStack.Aws
