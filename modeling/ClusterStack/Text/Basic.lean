/-!
# Texts

A text is a sequence of characters, among which halves of surrogate pairs may stand. UTF-16 writes a
character beyond U+FFFF as a high half and a low half, and a JSON text can spell one half without
the other. A text without such halves is an ordinary string: `string?` gives it back, and
`string?_ofString` says that it does. Where a text is shown, U+FFFD stands for each half.
-/
namespace ClusterStack

/-- One place of a text: a character, or a half with the ten bits that it contributes to one. -/
inductive Text.Code
  | char (c : Char)
  | high (bits : Fin 0x400)
  | low (bits : Fin 0x400)
  deriving DecidableEq, Repr

structure Text where
  codes : List Text.Code
  deriving DecidableEq, Repr, Inhabited

namespace Text

/-- What stands for a value below 0x10000: a half of a pair, or a character. -/
def Code.ofUnit (n : Nat) : Code :=
  if n / 0x400 == 0xD800 / 0x400 then .high (Fin.ofNat 0x400 n)
  else if n / 0x400 == 0xDC00 / 0x400 then .low (Fin.ofNat 0x400 n)
  else .char (Char.ofNat n)

def Code.value : Code → Nat
  | .char c => c.toNat
  | .high bits => 0xD800 + bits
  | .low bits => 0xDC00 + bits

def pairCharacter (high low : Fin 0x400) : Char := Char.ofNat (0x10000 + high * 0x400 + low)

def Code.character? : Code → Option Char
  | .char c => some c
  | _ => none

def Code.shown : Code → Char
  | .char c => c
  | _ => '\uFFFD'

def ofString (s : String) : Text := ⟨s.toList.map .char⟩

instance : Coe String Text := ⟨ofString⟩

def singleton (code : Code) : Text := ⟨[code]⟩

/-- The string that a text without halves is. -/
def string? (t : Text) : Option String := (t.codes.mapM Code.character?).map String.ofList

protected def toString (t : Text) : String := String.ofList (t.codes.map Code.shown)

instance : ToString Text := ⟨Text.toString⟩

/-- A text as it is shown, where nothing is shown of a missing one. -/
def shownIfGiven (t : Option Text) : String := (t.map Text.toString).getD ""

def isEmpty (t : Text) : Bool := t.codes.isEmpty

def isOneOf (t : Text) (strings : List String) : Bool := strings.any fun s => t == ofString s

/-- The first text does not come after the second in the order of the code points. -/
def le (s t : Text) : Bool :=
  !(t.codes.map Code.value).lex (s.codes.map Code.value) Nat.blt

theorem toString_ofString (s : String) : (ofString s).toString = s := by
  simp only [ofString, Text.toString, List.map_map]
  rw [show Code.shown ∘ Code.char = id from rfl, List.map_id, String.ofList_toList]

theorem mapM_character?_char (cs : List Char) :
    (cs.map Code.char).mapM Code.character? = some cs := by
  induction cs with
  | nil => rfl
  | cons c cs ih => simp [List.mapM_cons, Code.character?, ih]

theorem string?_ofString (s : String) : (ofString s).string? = some s := by
  simp only [ofString, string?, mapM_character?_char]
  rw [Option.map_some, String.ofList_toList]

theorem ofString_injective ⦃s t : String⦄ (same : ofString s = ofString t) : s = t := by
  have read := string?_ofString s
  rw [same, string?_ofString] at read
  exact (Option.some.inj read).symm

theorem isEmpty_eq_false {t : Text} (filled : t ≠ "") : t.isEmpty = false := by
  obtain ⟨codes⟩ := t
  cases codes with
  | nil => exact absurd rfl filled
  | cons code rest => rfl

theorem isEmpty_ofString {s : String} (filled : s ≠ "") : (ofString s).isEmpty = false :=
  isEmpty_eq_false fun same => filled (ofString_injective same)

end Text

end ClusterStack
