import ClusterStack.Proofs.Json.Grammar
/-!
# Texts between marks

The reader takes a text apart into the parts that it consists of, up to its closing mark. It never stops
there for anything but a part that is out of order.
-/
namespace ClusterStack.Json

open Text (Code)

variable {opening : Nat} {rest : List Code}

theorem prepend_eq_ok {piece : Piece} {r : Reading (List Piece)} {pieces : List Piece}
    (h : r.prepend piece = .ok (pieces, rest)) :
    ∃ others, r = .ok (others, rest) ∧ pieces = piece :: others := by
  cases r with
  | error stop => cases h
  | ok read =>
      cases h
      exact ⟨_, rfl, rfl⟩

theorem textPieces_plain {c : Code} (mark : c ≠ .char '"') (escape : c ≠ .char '\\')
    (shown : 0x20 ≤ c.value) :
    textPieces opening (c :: rest) = (textPieces opening rest).prepend (.plain c) := by
  rw [textPieces]
  · exact if_neg (Nat.not_lt.mpr shown)
  · exact mark
  all_goals
    intros
    exact escape ‹_›

theorem textPieces_short {c : Code} {x : Char} (short : shortEscape? c = some x) :
    textPieces opening (.char '\\' :: c :: rest) =
      (textPieces opening rest).prepend (.plain (.char x)) := by
  have notUnit : c ≠ .char 'u' := by
    rintro rfl
    cases short
  rw [textPieces]
  · rw [short]
  all_goals
    intros
    exact notUnit ‹_›

theorem textPieces_unit {a b c d : Code} {n : Nat} (unit : hexUnit? a b c d = some n)
    (followed : rest ≠ []) : textPieces opening (.char '\\' :: .char 'u' :: a :: b :: c :: d :: rest) =
      (textPieces opening rest).prepend (.escaped (.ofUnit n)) := by
  rw [textPieces, unit]
  dsimp only
  rw [List.isEmpty_eq_false_iff.mpr followed, if_neg Bool.false_ne_true]

theorem Part.textPieces_append {cs : List Code} {piece : Piece} (part : Part cs piece)
    (followed : rest ≠ []) :
    textPieces opening (cs ++ rest) = (textPieces opening rest).prepend piece := by
  cases part with
  | plain mark escape shown => exact textPieces_plain mark escape shown
  | short short => exact textPieces_short short
  | unit unit => exact textPieces_unit unit followed

theorem Parts.textPieces_append {cs : List Code} {pieces : List Piece} (parts : Parts cs pieces) :
    textPieces opening (cs ++ .char '"' :: rest) = .ok (pieces, rest) := by
  induction parts with
  | nil => rw [List.nil_append, textPieces]
  | cons part others ih =>
      rw [List.append_assoc,
        part.textPieces_append (List.append_ne_nil_of_right_ne_nil _ (List.cons_ne_nil _ _)), ih]
      rfl

theorem parts_of_textPieces {cs : List Code} {pieces : List Piece}
    (h : textPieces opening cs = .ok (pieces, rest)) :
    ∃ inner, cs = inner ++ .char '"' :: rest ∧ Parts inner pieces := by
  have more {cs front : List Code} {piece : Piece} {pieces : List Piece} (part : Part front piece)
      (ih : ∀ {others}, textPieces opening cs = .ok (others, rest) →
        ∃ inner, cs = inner ++ .char '"' :: rest ∧ Parts inner others)
      (h : (textPieces opening cs).prepend piece = .ok (pieces, rest)) :
      ∃ inner, front ++ cs = inner ++ .char '"' :: rest ∧ Parts inner pieces := by
    obtain ⟨others, read, rfl⟩ := prepend_eq_ok h
    obtain ⟨inner, rfl, parts⟩ := ih read
    exact ⟨front ++ inner, (List.append_assoc ..).symm, .cons part parts⟩
  fun_induction textPieces opening cs generalizing pieces with
  | case2 rest =>
      cases h
      exact ⟨[], rfl, .nil⟩
  | case5 a b c d rest n unit followed ih => exact more (.unit unit) ih h
  | case8 c rest _ _ x short ih => exact more (.short short) ih h
  | case11 c rest mark ends _ _ escape shown ih =>
      have notEscape : c ≠ .char '\\' := by
        intro same
        cases rest with
        | nil => exact ends same rfl
        | cons next rest => exact escape next rest same rfl
      exact more (.plain mark notEscape (Nat.not_lt.mp shown)) ih h
  | _ => cases h

theorem textPieces_error {cs : List Code} {stop : Stop} (h : textPieces opening cs = .error stop) :
    ∃ what left, stop = .unexpected what left := by
  have more {cs : List Code} {piece : Piece}
      (ih : textPieces opening cs = .error stop → ∃ what left, stop = .unexpected what left)
      (h : (textPieces opening cs).prepend piece = .error stop) :
      ∃ what left, stop = .unexpected what left := by
    cases read : textPieces opening cs with
    | ok r =>
        rw [read] at h
        cases h
    | error stop' =>
        rw [read] at h
        cases h
        exact ih read
  fun_induction textPieces opening cs with
  | case2 rest => cases h
  | case5 a b c d rest n unit followed ih => exact more ih h
  | case8 c rest _ _ x short ih => exact more ih h
  | case11 c rest _ _ _ _ _ _ ih => exact more ih h
  | _ =>
      cases h
      exact ⟨_, _, rfl⟩

theorem textAfterMark_eq_ok_iff {cs : List Code} {t : Text} : textAfterMark cs = .ok (t, rest) ↔
    ∃ quoted, Quoted quoted t ∧ .char '"' :: cs = quoted ++ rest := by
  unfold textAfterMark
  constructor
  · intro read
    cases parts : textPieces (cs.length + 1) cs with
    | error stop =>
        rw [parts] at read
        cases read
    | ok r =>
        obtain ⟨pieces, left⟩ := r
        rw [parts] at read
        cases read
        obtain ⟨inner, rfl, inside⟩ := parts_of_textPieces parts
        refine ⟨_, .marks inside, ?_⟩
        simp only [List.cons_append, List.append_assoc, List.nil_append]
  · rintro ⟨-, ⟨parts⟩, shape⟩
    rw [List.cons_append, List.cons_append, List.append_assoc] at shape
    obtain ⟨-, rfl⟩ := List.cons.inj shape
    rw [List.cons_append, List.nil_append, parts.textPieces_append]
    rfl

theorem textAfterMark_error {cs : List Code} {stop : Stop} (h : textAfterMark cs = .error stop) :
    ∃ what left, stop = .unexpected what left := by
  unfold textAfterMark at h
  cases read : textPieces (cs.length + 1) cs with
  | ok r =>
      rw [read] at h
      cases h
  | error stop' =>
      rw [read] at h
      cases h
      exact textPieces_error read

end ClusterStack.Json
