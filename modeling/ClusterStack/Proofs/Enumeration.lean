import ClusterStack.Json.Scalar
import ClusterStack.Proofs.Association
import Mathlib.Data.List.Perm.Basic
/-!
# Texts in order, each once

Where texts are collected, each is kept once, and they are put in the order of their code points. Which
list comes out depends on nothing but which texts are collected. JSON values that are texts are told
apart and ordered in the same way.
-/
namespace ClusterStack

namespace Text

def codePoints (t : Text) : List Nat := t.codes.map Code.value

/-- The first text comes before the second in the order of the code points. -/
def Precedes (s t : Text) : Prop := List.Lex (· < ·) s.codePoints t.codePoints

/-- The list holds the wanted texts, each once, in the order of their code points. -/
structure Enumerates (texts : List Text) (wanted : Text → Prop) : Prop where
  ascending : texts.Pairwise Precedes
  complete : ∀ t, t ∈ texts ↔ wanted t

/-- A half of a pair is no character. -/
theorem Code.value_injective {a b : Code} (same : a.value = b.value) : a = b := by
  have apart (c : Char) : c.toNat < 0xD800 ∨ 0xDFFF < c.toNat := by
    rcases c.valid with low | ⟨high, -⟩
    · exact .inl low
    · exact .inr high
  cases a with
  | char c =>
      have whole := apart c
      cases b with
      | char d => exact congrArg char (Char.toNat_inj.mp same)
      | high bits | low bits =>
          simp only [value] at same
          omega
  | high bits =>
      cases b with
      | char d =>
          have whole := apart d
          simp only [value] at same
          omega
      | high bits' =>
          simp only [value] at same
          exact congrArg high (Fin.ext (by omega))
      | low bits' =>
          simp only [value] at same
          omega
  | low bits =>
      cases b with
      | char d =>
          have whole := apart d
          simp only [value] at same
          omega
      | high bits' =>
          simp only [value] at same
          omega
      | low bits' =>
          simp only [value] at same
          exact congrArg low (Fin.ext (by omega))

theorem codePoints_injective {s t : Text} (same : s.codePoints = t.codePoints) : s = t := by
  obtain ⟨codes⟩ := s
  obtain ⟨codes'⟩ := t
  have all : codes = codes' := List.map_injective_iff.mpr (fun _ _ => Code.value_injective) same
  rw [all]

theorem le_iff {s t : Text} : s.le t = true ↔ ¬ t.Precedes s := by
  unfold le Precedes
  rw [List.lex_eq_decide_lex, Bool.not_eq_true', decide_eq_false_iff_not]
  simp only [Nat.blt_eq, codePoints]

theorem Precedes.asymm {s t : Text} (h : s.Precedes t) : ¬ t.Precedes s :=
  List.lex_asymm Nat.lt_asymm h

theorem not_precedes_trans {s t u : Text} (first : ¬ t.Precedes s) (second : ¬ u.Precedes t) :
    ¬ u.Precedes s :=
  @List.le_trans Nat _ _ _ _ s.codePoints t.codePoints u.codePoints first second

theorem eq_of_not_precedes {s t : Text} (forth : ¬ s.Precedes t) (back : ¬ t.Precedes s) : s = t :=
  codePoints_injective (@List.le_antisymm Nat _ _ s.codePoints t.codePoints back forth)

theorem pairwise_sorted (texts : List Text) :
    (texts.mergeSort le).Pairwise fun s t => ¬ t.Precedes s := by
  have transitive (s t u : Text) (first : s.le t = true) (second : t.le u = true) : s.le u = true :=
    le_iff.mpr (not_precedes_trans (le_iff.mp first) (le_iff.mp second))
  have total (s t : Text) : (s.le t || t.le s) = true := by
    rw [Bool.or_eq_true, le_iff, le_iff]
    by_cases back : t.Precedes s
    · exact .inr back.asymm
    · exact .inl back
  have sorted := List.pairwise_mergeSort transitive total texts
  exact sorted.imp fun ordered => le_iff.mp ordered

theorem enumerates_sorted (texts : List Text) :
    Enumerates (texts.eraseDups.mergeSort le) (· ∈ texts) where
  ascending := by
    have distinct : (texts.eraseDups.mergeSort le).Nodup :=
      List.nodup_mergeSort.mpr (Association.nodup_eraseDups texts)
    refine (distinct.and (pairwise_sorted _)).imp ?_
    rintro s t ⟨apart, ordered⟩
    by_contra forth
    exact apart (eq_of_not_precedes forth ordered)
  complete t := by rw [List.mem_mergeSort, List.mem_eraseDups]

/-- There is one enumeration. -/
theorem Enumerates.unique {texts others : List Text} {wanted : Text → Prop}
    (h : Enumerates texts wanted) (h' : Enumerates others wanted) : texts = others := by
  have strict {s t : Text} (ordered : s.Precedes t) : s ≠ t := by
    rintro rfl
    exact ordered.asymm ordered
  have distinct : texts.Nodup := h.ascending.imp strict
  have distinct' : others.Nodup := h'.ascending.imp strict
  have same : texts.Perm others := by
    rw [List.perm_ext_iff_of_nodup distinct distinct']
    intro t
    rw [h.complete, h'.complete]
  refine List.Perm.eq_of_pairwise ?_ h.ascending h'.ascending same
  intro s t _ _ ordered reversed
  exact absurd reversed ordered.asymm

theorem Enumerates.congr {texts : List Text} {wanted wanted' : Text → Prop}
    (h : Enumerates texts wanted) (same : ∀ t, wanted t ↔ wanted' t) : Enumerates texts wanted' where
  ascending := h.ascending
  complete t := (h.complete t).trans (same t)

end Text

theorem foldl_kept_eq_eraseDups {α : Type} [BEq α] [LawfulBEq α] (items : List α) :
    items.foldl (fun kept a => if kept.contains a then kept else kept ++ [a]) [] =
      items.eraseDups := by
  induction items using List.reverseRecOn with
  | nil => rfl
  | append_singleton items a ih =>
      have known : items.eraseDups.contains a = items.contains a := by
        rw [Bool.eq_iff_iff, List.contains_iff_mem, List.contains_iff_mem, List.mem_eraseDups]
      rw [List.foldl_append, ih, List.foldl_cons, List.foldl_nil, Association.eraseDups_concat, known]

namespace Json

theorem sameKey_str (s t : Text) : sameKey (.str s) (.str t) = (s == t) := by
  rw [Bool.eq_iff_iff]
  simp [sameKey, key?]

theorem distinct_texts (texts : List Text) :
    distinct (texts.map .str) = texts.eraseDups.map .str := by
  induction texts using List.reverseRecOn with
  | nil => rfl
  | append_singleton texts t ih =>
      have known : (texts.eraseDups.map Json.str).any (sameKey · (.str t)) = texts.contains t := by
        rw [Bool.eq_iff_iff, List.contains_iff_mem, List.any_map, List.any_eq_true]
        simp [sameKey_str]
      have step : distinct ((texts ++ [t]).map .str) =
          if (distinct (texts.map .str)).any (sameKey · (.str t)) then distinct (texts.map .str)
          else distinct (texts.map .str) ++ [.str t] := by
        unfold distinct
        rw [List.map_append, List.foldl_append]
        rfl
      rw [step, ih, known, Association.eraseDups_concat]
      split
      · rfl
      · rw [List.map_append, List.map_singleton]

theorem comparable_texts (texts : List Text) : comparable (texts.map .str) = true := by
  simp [comparable, key?, Key.le?]

theorem sort_texts (texts : List Text) :
    sort? (texts.map .str) = some ((texts.mergeSort Text.le).map .str) := by
  unfold sort?
  rw [comparable_texts, List.length_map]
  split
  · rename_i few
    have ordered : texts.Pairwise fun s t => s.le t = true := by
      rcases texts with _ | ⟨t, _ | ⟨u, rest⟩⟩
      · exact .nil
      · exact List.pairwise_singleton _ t
      · simp at few
    rw [List.mergeSort_of_pairwise ordered]
  · simp only [if_true, Option.some.injEq]
    rw [List.map_mergeSort]
    intro s _ t _
    rfl

end Json

end ClusterStack
