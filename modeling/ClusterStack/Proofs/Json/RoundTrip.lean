import ClusterStack.Proofs.Association
import ClusterStack.Proofs.Json.Documents
import ClusterStack.Proofs.Json.Escapes
/-!
# Reading what was written

What is written of a value denotes the value, so that the reader takes the text back to it. Numbers are
left out: that the digits of a float denote it is a matter of its shortest text.
-/
namespace ClusterStack

namespace Json

open Text (Code)

/-- The text of a member. -/
def writeMember (m : Text × Json) : List Char := writeText m.1 ++ ':' :: ' ' :: m.2.write

theorem writeItems_eq_map (items : List Json) : writeItems items = items.map write := by
  induction items with
  | nil => rfl
  | cons v vs ih => exact congrArg (v.write :: ·) ih

theorem writeMembers_eq_map (members : List (Text × Json)) :
    writeMembers members = members.map writeMember := by
  induction members with
  | nil => rfl
  | cons m ms ih => exact congrArg (writeMember m :: ·) ih

/-- The members under these names, which are texts without halves of surrogate pairs. -/
def withNames (members : List (String × Json)) : List (Text × Json) :=
  members.map fun (name, v) => (Text.ofString name, v)

/-- The value has no numbers, its texts and the names of its members are strings, no two members of an
object have one name, and `room` is enough for the arrays and objects nested in it. -/
inductive Legible : Nat → Json → Prop
  | null (room : Nat) : Legible room .null
  | bool (room : Nat) (b : Bool) : Legible room (.bool b)
  | str (room : Nat) (s : String) : Legible room (.str s)
  | arr {room : Nat} {items : List Json} (each : ∀ v ∈ items, Legible room v) :
    Legible (room + 1) (.arr items)
  | obj {room : Nat} {members : List (String × Json)} (distinct : (members.map Prod.fst).Nodup)
      (each : ∀ m ∈ members, Legible room m.2) : Legible (room + 1) (.obj (withNames members))

theorem nodup_withNames {members : List (String × Json)} (distinct : (members.map Prod.fst).Nodup) :
    ((withNames members).map Prod.fst).Nodup := by
  have names : (withNames members).map Prod.fst = (members.map Prod.fst).map Text.ofString := by
    simp only [withNames, List.map_map]
    rfl
  rw [names]
  exact distinct.map Text.ofString_injective

section

variable {room : Nat}

theorem marked_blank (mark : Char) : Marked mark [.char mark, .char ' '] :=
  @Marked.between mark [] _ (List.forall_mem_nil _) (List.forall_mem_singleton.mpr rfl)

theorem closing_bare (mark : Char) : Closing mark [.char mark] := 
  @Closing.after mark [] (List.forall_mem_nil _)

/-- Parts that are written one behind the other denote what they are put together to. -/
theorem denotes_joinParts {α : Type} {part : α → List Char} {together : List α → Content}
    {closing : List Code} {Fits : α → Prop}
    (last : ∀ a, Fits a → Denotes room (coded (part a) ++ closing) (together [a]))
    (next : ∀ a, Fits a → ∀ cs others, Denotes room cs (together others) →
      Denotes room (coded (part a) ++ [.char ',', .char ' '] ++ cs) (together (a :: others)))
    {a : α} {others : List α} (each : ∀ b ∈ a :: others, Fits b) :
    Denotes room (coded (joinParts ((a :: others).map part)) ++ closing) (together (a :: others)) := by
  have first := each a List.mem_cons_self
  induction others generalizing a with
  | nil => exact last a first
  | cons b others ih =>
      have rest := ih (fun c member => each c (List.mem_cons_of_mem a member))
        (each b (List.mem_cons_of_mem a List.mem_cons_self))
      have shape : joinParts ((a :: b :: others).map part) =
          part a ++ [',', ' '] ++ joinParts ((b :: others).map part) := by
        rw [List.append_assoc]
        rfl
      rw [shape, coded, List.map_append, List.map_append, List.append_assoc]
      exact next a first _ _ rest

theorem denotes_writeItems {v : Json} {vs : List Json}
    (each : ∀ w ∈ v :: vs, Denotes room (coded w.write) (.value w)) :
    Denotes room (coded (joinParts (writeItems (v :: vs))) ++ [.char ']']) (.items (v :: vs)) := by
  rw [writeItems_eq_map]
  exact denotes_joinParts (fun w first => .lastItem first (closing_bare ']'))
    (fun w first _ _ rest => .nextItem first (marked_blank ',') rest) each

theorem coded_writeMember (name : Text) (v : Json) : coded (writeMember (name, v)) =
    coded (writeText name) ++ [.char ':', .char ' '] ++ coded v.write := by
  rw [writeMember, coded, List.map_append, List.append_assoc]
  rfl

theorem denotes_writeMembers {m : String × Json} {ms : List (String × Json)}
    (each : ∀ w ∈ m :: ms, Denotes room (coded w.2.write) (.value w.2)) :
    Denotes room (coded (joinParts (writeMembers (withNames (m :: ms)))) ++ [.char '\x7d'])
      (.members (withNames (m :: ms))) := by
  rw [writeMembers_eq_map, withNames, List.map_map]
  refine @denotes_joinParts room _ _ (fun ms => .members (withNames ms)) _ _ (fun w first => ?_)
    (fun w first cs others rest => ?_) _ _ each
  · dsimp only [Function.comp]
    rw [coded_writeMember]
    exact .lastMember (quoted_writeText _) (marked_blank ':') first (closing_bare '\x7d')
  · dsimp only [Function.comp]
    rw [coded_writeMember]
    exact .nextMember (quoted_writeText _) (marked_blank ':') first (marked_blank ',') rest

theorem coded_enclosed (opening closing : Char) (cs : List Char) :
    coded (opening :: cs ++ [closing]) = [.char opening] ++ (coded cs ++ [.char closing]) := by
  rw [coded, List.map_append]
  rfl

theorem Legible.denotes {v : Json} (h : Legible room v) : Denotes room (coded v.write) (.value v) := by
  have opened (mark : Char) : Opening mark [.char mark] := .before (List.forall_mem_nil _)
  induction h with
  | null room => exact @Denotes.word room "null" .null (by simp [words])
  | bool room b =>
      cases b with
      | false => exact @Denotes.word room "false" (.bool false) (by simp [words])
      | true => exact @Denotes.word room "true" (.bool true) (by simp [words])
  | str room s => exact .text (quoted_writeText s)
  | @arr room vs each ih =>
      cases vs with
      | nil => exact .noItems (opened '[')
      | cons v vs =>
          rw [write, coded_enclosed]
          exact .array (opened '[') (denotes_writeItems ih)
  | @obj room ms distinct each ih =>
      cases ms with
      | nil => exact .noMembers (opened '\x7b')
      | cons m ms =>
          have denotes := Denotes.object (opened '\x7b') (denotes_writeMembers ih)
          rw [Association.ofList_of_nodup (nodup_withNames distinct)] at denotes
          rw [write, coded_enclosed]
          exact denotes

end

theorem ascii_joinParts {parts : List (List Char)} (each : ∀ part ∈ parts, Ascii part) :
    Ascii (joinParts parts) := by
  induction parts with
  | nil => exact List.forall_mem_nil _
  | cons part others ih =>
      have first := each part List.mem_cons_self
      have rest := ih fun other member => each other (List.mem_cons_of_mem part member)
      cases others with
      | nil => exact first
      | cons other others => exact first.between (by decide) rest

theorem ascii_enclosed {opening closing : Char} {cs : List Char} (h : Ascii cs)
    (marks : opening.toNat < 0x80 ∧ closing.toNat < 0x80) : Ascii (opening :: cs ++ [closing]) :=
  (ascii_cons.mpr ⟨marks.1, h⟩).append (ascii_cons.mpr ⟨marks.2, ascii_nil⟩)

theorem Legible.ascii {room : Nat} {v : Json} (h : Legible room v) : Ascii v.write := by
  induction h with
  | null room =>
      have text : Json.null.write = ['n', 'u', 'l', 'l'] := rfl
      simp only [text, ascii_cons, ascii_nil]
      decide
  | bool room b =>
      cases b with
      | true =>
          have text : (Json.bool true).write = ['t', 'r', 'u', 'e'] := rfl
          simp only [text, ascii_cons, ascii_nil]
          decide
      | false =>
          have text : (Json.bool false).write = ['f', 'a', 'l', 's', 'e'] := rfl
          simp only [text, ascii_cons, ascii_nil]
          decide
  | str room s => exact ascii_writeText s
  | @arr room vs each ih =>
      refine ascii_enclosed (ascii_joinParts fun part member => ?_) (by decide)
      rw [writeItems_eq_map] at member
      obtain ⟨v, inside, rfl⟩ := List.mem_map.mp member
      exact ih v inside
  | @obj room ms distinct each ih =>
      refine ascii_enclosed (ascii_joinParts fun part member => ?_) (by decide)
      rw [writeMembers_eq_map] at member
      obtain ⟨m, listed, rfl⟩ := List.mem_map.mp member
      obtain ⟨n, inside, rfl⟩ := List.mem_map.mp listed
      exact (ascii_writeText n.1).between (by decide) (ih n inside)

/-- What is written of such a value is read back from the text. -/
theorem readWithin_toText {room : Nat} {v : Json} (h : Legible room v) :
    readWithin room v.toText = .ok v := by
  have codes : (Text.ofString v.toText).codes = coded v.write := by
    rw [Text.ofString, toText, String.toList_ofList]
  have document : Document room ([] ++ coded v.write ++ []) v :=
    .around (List.forall_mem_nil _) h.denotes (List.forall_mem_nil _)
  rw [List.append_nil, List.nil_append, ← codes] at document
  exact readWithin_eq_ok_iff.mpr document

end Json

end ClusterStack
