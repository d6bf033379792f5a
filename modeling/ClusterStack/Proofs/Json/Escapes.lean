import ClusterStack.Json.Writer
import ClusterStack.Proofs.Json.Grammar
import Mathlib.Tactic.SplitIfs
/-!
# Texts with escapes

The writer spells a text in ASCII, and between its marks the spelling stands for the text. The escape of
a character is one part, or two for the halves of a surrogate pair, and their pieces are joined to the
character again.
-/
namespace ClusterStack.Json

open Text (Code)

theorem hexValue_hexDigit {n : Nat} (h : n < 16) : hexValue? (Text.hexDigit n) = some n := by
  have each : ∀ d : Fin 16, hexValue? (Text.hexDigit d) = some d.val := by decide
  exact each ⟨n, h⟩

theorem hexDigits_four (n : Nat) : Text.hexDigits 4 n =
    [Text.hexDigit (n / 4096 % 16), Text.hexDigit (n / 256 % 16), Text.hexDigit (n / 16 % 16),
      Text.hexDigit (n % 16)] := by
  simp [Text.hexDigits, Nat.div_div_eq_div_mul]

theorem hexUnit_hexDigits {n : Nat} (h : n < 0x10000) :
    hexUnit? (.char (Text.hexDigit (n / 4096 % 16))) (.char (Text.hexDigit (n / 256 % 16)))
      (.char (Text.hexDigit (n / 16 % 16))) (.char (Text.hexDigit (n % 16))) = some n := by
  have digit (m : Nat) : hexValue? (Text.hexDigit (m % 16)) = some (m % 16) :=
    hexValue_hexDigit (Nat.mod_lt m (by decide))
  have sum : ((n / 4096 % 16 * 16 + n / 256 % 16) * 16 + n / 16 % 16) * 16 + n % 16 = n := by omega
  simp only [hexUnit?, Code.character?, Option.bind_some, digit, Option.bind_eq_bind,
    Option.pure_def, sum]

theorem ofUnit_character {c : Char} (h : c.toNat < 0x10000) : Code.ofUnit c.toNat = .char c := by
  have valid : c.toNat < 0xD800 ∨ 0xDFFF < c.toNat ∧ c.toNat < 0x110000 := c.valid
  have low : (c.toNat / 0x400 == 0xD800 / 0x400) = false := by
    rw [beq_eq_false_iff_ne]
    omega
  have high : (c.toNat / 0x400 == 0xDC00 / 0x400) = false := by
    rw [beq_eq_false_iff_ne]
    omega
  rw [Code.ofUnit, low, high, if_neg Bool.false_ne_true, if_neg Bool.false_ne_true, Char.ofNat_toNat]

theorem ofUnit_high (bits : Fin 0x400) : Code.ofUnit (0xD800 + bits) = .high bits := by
  have this : ((0xD800 + bits.val) / 0x400 == 0xD800 / 0x400) = true := by
    rw [beq_iff_eq]
    omega
  rw [Code.ofUnit, this, if_pos rfl]
  congr 1
  ext
  simp [Fin.ofNat]
  omega

theorem ofUnit_low (bits : Fin 0x400) : Code.ofUnit (0xDC00 + bits) = .low bits := by
  have high : ((0xDC00 + bits.val) / 0x400 == 0xD800 / 0x400) = false := by
    rw [beq_eq_false_iff_ne]
    omega
  have low : ((0xDC00 + bits.val) / 0x400 == 0xDC00 / 0x400) = true := by
    rw [beq_iff_eq]
    omega
  rw [Code.ofUnit, high, low, if_neg Bool.false_ne_true, if_pos rfl]
  congr 1
  ext
  simp [Fin.ofNat]
  omega

theorem part_escapeUnit {n : Nat} (small : n < 0x10000) :
    Part (coded (escapeUnit n)) (.escaped (.ofUnit n)) := by
  rw [escapeUnit, hexDigits_four]
  exact .unit (hexUnit_hexDigits small)

theorem Parts.append {cs others : List Code} {pieces more : List Piece} (parts : Parts cs pieces)
    (parts' : Parts others more) : Parts (cs ++ others) (pieces ++ more) := by
  induction parts with
  | nil => exact parts'
  | cons part _ ih =>
      rw [List.append_assoc]
      exact .cons part ih

/-- Inside the marks of a text, the characters stand for these codes, whatever comes after. -/
def Spells (cs : List Char) (codes : List Code) : Prop :=
  ∃ pieces : List Piece, Parts (coded cs) pieces ∧
    ∀ others, joinPieces (pieces ++ others) = codes ++ joinPieces others

theorem spells_nil : Spells [] [] := ⟨[], .nil, fun _ => rfl⟩

theorem Spells.append {cs cs' : List Char} {codes codes' : List Code} (first : Spells cs codes)
    (second : Spells cs' codes') : Spells (cs ++ cs') (codes ++ codes') := by
  obtain ⟨pieces, parts, joins⟩ := first
  obtain ⟨pieces', parts', joins'⟩ := second
  refine ⟨pieces ++ pieces', ?_, fun others => ?_⟩
  · rw [coded, List.map_append]
    exact parts.append parts'
  · rw [List.append_assoc, joins, joins', List.append_assoc]

theorem Part.spells {cs : List Char} {c : Char} {piece : Piece} (part : Part (coded cs) piece)
    (joins : ∀ others, joinPieces (piece :: others) = .char c :: joinPieces others) :
    Spells cs [.char c] := by
  have parts := Parts.cons part .nil
  rw [List.append_nil] at parts
  exact ⟨[piece], parts, joins⟩

theorem spells_short {x c : Char} (short : shortEscape? (.char x) = some c) :
    Spells ['\\', x] [.char c] := by
  have part : Part (coded ['\\', x]) (.plain (.char c)) := .short short
  exact part.spells fun _ => rfl

theorem spells_unit {c : Char} (small : c.toNat < 0x10000) :
    Spells (escapeUnit c.toNat) [.char c] := by
  refine (part_escapeUnit small).spells fun others => ?_
  rw [ofUnit_character small]
  rfl

theorem spells_pair (high low : Fin 0x400) :
    Spells (escapeUnit (0xD800 + high) ++ escapeUnit (0xDC00 + low))
      [.char (Text.pairCharacter high low)] := by
  have first := part_escapeUnit (show 0xD800 + high.val < 0x10000 by omega)
  have second := part_escapeUnit (show 0xDC00 + low.val < 0x10000 by omega)
  rw [ofUnit_high] at first
  rw [ofUnit_low] at second
  refine ⟨[.escaped (.high high), .escaped (.low low)], ?_, fun _ => rfl⟩
  have parts := Parts.cons first (.cons second .nil)
  rwa [List.append_nil, ← List.map_append] at parts

theorem spells_escapeCharacter (c : Char) : Spells (escapeCharacter c) [.char c] := by
  unfold escapeCharacter
  split_ifs with quote backslash newline carriage tab feed back shown small
  · rw [eq_of_beq quote]
    exact spells_short rfl
  · rw [eq_of_beq backslash]
    exact spells_short rfl
  · rw [eq_of_beq newline]
    exact spells_short rfl
  · rw [eq_of_beq carriage]
    exact spells_short rfl
  · rw [eq_of_beq tab]
    exact spells_short rfl
  · rw [eq_of_beq feed]
    exact spells_short rfl
  · rw [eq_of_beq back]
    exact spells_short rfl
  · rw [Bool.and_eq_true, decide_eq_true_eq] at shown
    rw [beq_iff_eq] at quote backslash
    have plain : Part (coded [c]) (.plain (.char c)) :=
      .plain (fun same => quote (Code.char.inj same)) (fun same => backslash (Code.char.inj same))
        shown.1
    exact plain.spells fun _ => rfl
  · exact spells_unit small
  · have valid : c.toNat < 0x110000 := by
      rcases c.valid with below | ⟨-, below⟩
      · exact Nat.lt_trans below (by decide)
      · exact below
    have whole : 0x10000 + (c.toNat - 0x10000) / 0x400 * 0x400 + (c.toNat - 0x10000) % 0x400 =
        c.toNat := by omega
    have pair := spells_pair ⟨(c.toNat - 0x10000) / 0x400, by omega⟩
      ⟨(c.toNat - 0x10000) % 0x400, Nat.mod_lt _ (by decide)⟩
    simp only [Text.pairCharacter, whole, Char.ofNat_toNat] at pair
    exact pair

theorem spells_string (s : String) :
    Spells ((Text.ofString s).codes.flatMap escapeCode) (Text.ofString s).codes := by
  rw [Text.ofString]
  induction s.toList with
  | nil => exact spells_nil
  | cons c cs ih => exact (spells_escapeCharacter c).append ih

theorem quoted_writeText (s : String) :
    Quoted (coded (writeText (Text.ofString s))) (Text.ofString s) := by
  obtain ⟨pieces, parts, joins⟩ := spells_string s
  have joined : joinPieces pieces = (Text.ofString s).codes := by
    have alone := joins []
    rwa [List.append_nil, joinPieces, List.append_nil] at alone
  have quoted := Quoted.marks parts
  rw [joined] at quoted
  unfold writeText coded
  rw [List.map_append, List.map_cons]
  exact quoted

def Ascii (cs : List Char) : Prop := ∀ c ∈ cs, c.toNat < 0x80

theorem Ascii.append {cs others : List Char} (h : Ascii cs) (h' : Ascii others) :
    Ascii (cs ++ others) := fun c member => (List.mem_append.mp member).elim (h c) (h' c)

theorem ascii_cons {c : Char} {cs : List Char} : Ascii (c :: cs) ↔ c.toNat < 0x80 ∧ Ascii cs :=
  List.forall_mem_cons

theorem ascii_nil : Ascii [] := nofun

theorem Ascii.between {mark : Char} {cs others : List Char} (h : Ascii cs) (ascii : mark.toNat < 0x80)
    (h' : Ascii others) : Ascii (cs ++ mark :: ' ' :: others) :=
  h.append (ascii_cons.mpr ⟨ascii, ascii_cons.mpr ⟨by decide, h'⟩⟩)

theorem ascii_short {x : Char} (h : x.toNat < 0x80) : Ascii ['\\', x] :=
  ascii_cons.mpr ⟨by decide, ascii_cons.mpr ⟨h, ascii_nil⟩⟩

theorem ascii_escapeUnit (n : Nat) : Ascii (escapeUnit n) := by
  have each : ∀ d : Fin 16, (Text.hexDigit d).toNat < 0x80 := by decide
  have digit (m : Nat) : (Text.hexDigit (m % 16)).toNat < 0x80 := each ⟨m % 16, Nat.mod_lt m (by decide)⟩
  simp only [escapeUnit, hexDigits_four, ascii_cons, digit, true_and]
  exact ⟨by decide, by decide, ascii_nil⟩

theorem ascii_escapeCharacter (c : Char) : Ascii (escapeCharacter c) := by
  unfold escapeCharacter
  split_ifs with quote backslash newline carriage tab feed back shown small
  · exact ascii_short (by decide)
  · exact ascii_short (by decide)
  · exact ascii_short (by decide)
  · exact ascii_short (by decide)
  · exact ascii_short (by decide)
  · exact ascii_short (by decide)
  · exact ascii_short (by decide)
  · rw [Bool.and_eq_true, decide_eq_true_eq, decide_eq_true_eq] at shown
    have most : c.toNat ≤ 0x7E := shown.2
    exact ascii_cons.mpr ⟨by omega, ascii_nil⟩
  · exact ascii_escapeUnit _
  · exact (ascii_escapeUnit _).append (ascii_escapeUnit _)

theorem ascii_writeText (t : Text) : Ascii (writeText t) := by
  intro c member
  rw [writeText, List.mem_append, List.mem_cons, List.mem_flatMap] at member
  rcases member with (rfl | ⟨code, -, inside⟩) | closing
  · decide
  · cases code with
    | char x => exact ascii_escapeCharacter x c inside
    | high bits => exact ascii_escapeUnit _ c inside
    | low bits => exact ascii_escapeUnit _ c inside
  · rw [List.mem_singleton.mp closing]
    decide

example : writeText "caf\u00e9 \"\\\x7f\n🔑" =
    "\"caf\\u00e9 \\\"\\\\\\u007f\\n\\ud83d\\udd11\"".toList := by
  decide +kernel

end ClusterStack.Json
