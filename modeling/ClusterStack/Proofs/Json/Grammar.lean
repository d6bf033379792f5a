import ClusterStack.Json.Reader
/-!
# The grammar of JSON texts

Which text denotes which value, in which up to so many arrays and objects are nested. The standard
grammar is extended by the words for numbers that are not finite. A text that is in order up to a place
where a value may begin leads to that place, whatever comes after it.
-/
namespace ClusterStack.Json

open Text (Code)

/-- The characters of a text, as the codes that they are read from. -/
abbrev coded (cs : List Char) : List Code := cs.map .char

def Space (cs : List Code) : Prop := ∀ c ∈ cs, isSpace c = true

/-- A mark with white space around it. -/
inductive Marked (mark : Char) : List Code → Prop
  | between {before after : List Code} : Space before → Space after →
      Marked mark (before ++ .char mark :: after)

/-- A mark that ends an array or an object, with white space before it. -/
inductive Closing (mark : Char) : List Code → Prop
  | after {before : List Code} : Space before → Closing mark (before ++ [.char mark])

/-- A mark that begins an array or an object, with white space after it. -/
inductive Opening (mark : Char) : List Code → Prop
  | before {after : List Code} : Space after → Opening mark (.char mark :: after)

structure Digits (ds : List Char) : Prop where
  some : ds ≠ []
  each : ∀ d ∈ ds, Text.isAsciiDigit d = true

/-- The digits of a whole number: a zero by itself, or digits that begin with another one. -/
inductive Whole : List Char → Prop
  | zero : Whole ['0']
  | positive {first : Char} {others : List Char} : first ≠ '0' → Digits (first :: others) →
      Whole (first :: others)

/-- A fraction, which may be missing, and its digits. -/
inductive Fraction : List Char → List Char → Prop
  | none : Fraction [] []
  | digits {ds : List Char} : Digits ds → Fraction ('.' :: ds) ds

/-- The signs that an exponent may have, and whether they make it negative. -/
def exponentSigns : List (List Char × Bool) := [([], false), (['+'], false), (['-'], true)]

def signed (negative : Bool) (n : Nat) : Int := if negative then -n else n

inductive Exponent : List Char → Option Int → Prop
  | none : Exponent [] none
  | digits {mark : Char} {sign ds : List Char} {negative : Bool} : mark = 'e' ∨ mark = 'E' →
      (sign, negative) ∈ exponentSigns → Digits ds →
      Exponent (mark :: (sign ++ ds)) (some (signed negative (Text.digitsValue ds)))

def minus (negative : Bool) : List Char := if negative then ['-'] else []

/-- A number in digits. It is an integer if it has neither fraction nor exponent, and then it has to be
short enough. -/
inductive Numeral : List Char → Json → Prop
  | integer {whole : List Char} (negative : Bool) : Whole whole → whole.length ≤ Number.digitLimit →
      Numeral (minus negative ++ whole) (.int (signed negative (Text.digitsValue whole)))
  | float {whole fraction digits exponent : List Char} {power : Option Int} (negative : Bool) :
      Whole whole → Fraction fraction digits → Exponent exponent power →
      fraction ≠ [] ∨ exponent ≠ [] →
      Numeral (minus negative ++ whole ++ fraction ++ exponent) (.float (.ofDecimal negative
        (Text.digitsValue (whole ++ digits)) (power.getD 0 - digits.length)))

/-- One part of a text between its marks. -/
inductive Part : List Code → Piece → Prop
  | plain {c : Code} : c ≠ .char '"' → c ≠ .char '\\' → 0x20 ≤ c.value → Part [c] (.plain c)
  | short {c : Code} {x : Char} : shortEscape? c = some x → Part [.char '\\', c] (.plain (.char x))
  | unit {a b c d : Code} {n : Nat} : hexUnit? a b c d = some n →
      Part [.char '\\', .char 'u', a, b, c, d] (.escaped (.ofUnit n))

inductive Parts : List Code → List Piece → Prop
  | nil : Parts [] []
  | cons {cs others : List Code} {piece : Piece} {pieces : List Piece} : Part cs piece →
      Parts others pieces → Parts (cs ++ others) (piece :: pieces)

/-- A text between its marks. -/
inductive Quoted : List Code → Text → Prop
  | marks {cs : List Code} {pieces : List Piece} : Parts cs pieces →
      Quoted (.char '"' :: cs ++ [.char '"']) ⟨joinPieces pieces⟩

/-- What a part of a text stands for: a value, or what an array or an object holds from some place to
its closing mark. -/
inductive Content
  | value (v : Json)
  | items (vs : List Json)
  | members (ms : List (Text × Json))

/-- The text denotes the content, with no more arrays and objects nested in it than there is room for. Of
members with one name, the first place and the last value are kept. -/
inductive Denotes : Nat → List Code → Content → Prop
  | word {room : Nat} {word : String} {v : Json} : (word, v) ∈ words →
      Denotes room (coded word.toList) (.value v)
  | number {room : Nat} {cs : List Char} {v : Json} : Numeral cs v → Denotes room (coded cs) (.value v)
  | text {room : Nat} {cs : List Code} {t : Text} : Quoted cs t → Denotes room cs (.value (.str t))
  | noItems {room : Nat} {opening : List Code} : Opening '[' opening →
      Denotes (room + 1) (opening ++ [.char ']']) (.value (.arr []))
  | array {room : Nat} {opening cs : List Code} {vs : List Json} : Opening '[' opening →
      Denotes room cs (.items vs) → Denotes (room + 1) (opening ++ cs) (.value (.arr vs))
  | noMembers {room : Nat} {opening : List Code} : Opening '\x7b' opening →
      Denotes (room + 1) (opening ++ [.char '\x7d']) (.value (.obj []))
  | object {room : Nat} {opening cs : List Code} {ms : List (Text × Json)} : Opening '\x7b' opening →
      Denotes room cs (.members ms) →
      Denotes (room + 1) (opening ++ cs) (.value (.obj (Association.ofList ms)))
  | lastItem {room : Nat} {cs closing : List Code} {v : Json} : Denotes room cs (.value v) →
      Closing ']' closing → Denotes room (cs ++ closing) (.items [v])
  | nextItem {room : Nat} {cs comma others : List Code} {v : Json} {vs : List Json} :
      Denotes room cs (.value v) → Marked ',' comma → Denotes room others (.items vs) →
      Denotes room (cs ++ comma ++ others) (.items (v :: vs))
  | lastMember {room : Nat} {quoted colon cs closing : List Code} {name : Text} {v : Json} :
      Quoted quoted name → Marked ':' colon → Denotes room cs (.value v) → Closing '\x7d' closing →
      Denotes room (quoted ++ colon ++ cs ++ closing) (.members [(name, v)])
  | nextMember {room : Nat} {quoted colon cs comma others : List Code} {name : Text} {v : Json}
      {ms : List (Text × Json)} : Quoted quoted name → Marked ':' colon → Denotes room cs (.value v) →
      Marked ',' comma → Denotes room others (.members ms) →
      Denotes room (quoted ++ colon ++ cs ++ comma ++ others) (.members ((name, v) :: ms))

/-- A text of one value with white space around it. -/
inductive Document (room : Nat) : List Code → Json → Prop
  | around {before cs after : List Code} {v : Json} : Space before → Denotes room cs (.value v) →
      Space after → Document room (before ++ cs ++ after) v

inductive Place
  | value
  | items
  | members

/-- The text is in order up to a place where a value, an item or a member has to begin, which leaves so
much room for arrays and objects. -/
inductive LeadsTo (limit : Nat) : Place → Nat → List Code → Prop
  | start {before : List Code} : Space before → LeadsTo limit .value limit before
  | array {room : Nat} {cs opening : List Code} : LeadsTo limit .value (room + 1) cs →
      Opening '[' opening → LeadsTo limit .items room (cs ++ opening)
  | item {room : Nat} {cs : List Code} : LeadsTo limit .items room cs → LeadsTo limit .value room cs
  | nextItem {room : Nat} {cs item comma : List Code} {v : Json} : LeadsTo limit .items room cs →
      Denotes room item (.value v) → Marked ',' comma →
      LeadsTo limit .items room (cs ++ (item ++ comma))
  | object {room : Nat} {cs opening : List Code} : LeadsTo limit .value (room + 1) cs →
      Opening '\x7b' opening → LeadsTo limit .members room (cs ++ opening)
  | member {room : Nat} {cs quoted colon : List Code} {name : Text} : LeadsTo limit .members room cs →
      Quoted quoted name → Marked ':' colon → LeadsTo limit .value room (cs ++ (quoted ++ colon))
  | nextMember {room : Nat} {cs quoted colon item comma : List Code} {name : Text} {v : Json} :
      LeadsTo limit .members room cs → Quoted quoted name → Marked ':' colon →
      Denotes room item (.value v) → Marked ',' comma →
      LeadsTo limit .members room (cs ++ (quoted ++ colon ++ item ++ comma))

/-- What makes more of a whole number that it is put behind. -/
inductive Continuation : List Char → Prop
  | digit {d : Char} : Text.isAsciiDigit d = true → Continuation [d]
  | fraction {d : Char} : Text.isAsciiDigit d = true → Continuation ['.', d]
  | exponent {mark d : Char} {sign : List Char} {negative : Bool} : mark = 'e' ∨ mark = 'E' →
      (sign, negative) ∈ exponentSigns → Text.isAsciiDigit d = true →
      Continuation (mark :: (sign ++ [d]))

/-- The text is in order up to an integer with so many digits, which are too many. -/
inductive MeetsLongInteger (limit : Nat) : List Code → Nat → Prop
  | at {room : Nat} {before after : List Code} {whole : List Char} (negative : Bool) :
      LeadsTo limit .value room before → Whole whole → Number.digitLimit < whole.length →
      (∀ more, Continuation more → ¬coded more <+: after) →
      MeetsLongInteger limit (before ++ coded (minus negative ++ whole) ++ after) whole.length

/-- The text is in order up to an array or object that is nested once too often. -/
inductive MeetsNesting (limit : Nat) : List Code → Prop
  | at {before after : List Code} {mark : Char} : LeadsTo limit .value 0 before →
      mark = '[' ∨ mark = '\x7b' → MeetsNesting limit (before ++ .char mark :: after)

end ClusterStack.Json
