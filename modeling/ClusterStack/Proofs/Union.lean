import ClusterStack.Association
import ClusterStack.Json.Scalar
import Mathlib.Data.List.Induction
/-!
# Unions of tables

A table is united with another one by inserting the entries of the other in order. It makes no
difference whether the other was put together from its own entries before. Which keys are one is told by
a relation that need not hold between a key and itself: an array or object is not a key at all.
-/
namespace ClusterStack

namespace Association

variable {κ ν : Type} (same : κ → κ → Bool)

/-- The entries with all pairs inserted from left to right. -/
def unite (entries pairs : List (κ × ν)) : List (κ × ν) :=
  pairs.foldl (fun entries p => insertBy same p.1 p.2 entries) entries

/-- One of the keys is this one. -/
def Holds (key : κ) (keys : List κ) : Prop := ∃ k ∈ keys, same k key = true

/-- No two keys are one. -/
def Distinct (keys : List κ) : Prop := keys.Pairwise fun k l => same k l = false

structure Agree : Prop where
  symm : ∀ {k l}, same k l = true → same l k = true
  trans : ∀ {k l m}, same k l = true → same l m = true → same k m = true

theorem unite_append (entries pairs more : List (κ × ν)) :
    unite same entries (pairs ++ more) = unite same (unite same entries pairs) more :=
  List.foldl_append

section

variable {same} {key other : κ} {value value' : ν} {entries pairs : List (κ × ν)}

theorem insertBy_cons (entry : κ × ν) : insertBy same key value (entry :: entries) =
    if same entry.1 key then (entry.1, value) :: entries else entry :: insertBy same key value entries :=
  rfl

theorem holds_cons {k : κ} {keys : List κ} :
    Holds same key (k :: keys) ↔ same k key = true ∨ Holds same key keys := by
  simp only [Holds, List.mem_cons, exists_eq_or_imp]

theorem not_holds_nil : ¬Holds same key [] := by
  rintro ⟨k, member, -⟩
  cases member

theorem keys_insertBy_of_holds (held : Holds same key (entries.map Prod.fst)) :
    (insertBy same key value entries).map Prod.fst = entries.map Prod.fst := by
  induction entries with
  | nil => exact absurd held not_holds_nil
  | cons entry rest ih =>
    rw [insertBy_cons]
    split
    · rfl
    · rename_i apart
      exact congrArg (entry.1 :: ·) (ih ((holds_cons.mp held).resolve_left apart))

theorem insertBy_of_not_holds (new : ¬Holds same key (entries.map Prod.fst)) :
    insertBy same key value entries = entries ++ [(key, value)] := by
  induction entries with
  | nil => rfl
  | cons entry rest ih =>
    obtain ⟨apart, new⟩ := not_or.mp (mt holds_cons.mpr new)
    rw [insertBy_cons, if_neg apart, ih new]
    rfl

theorem holds_insertBy (held : Holds same key (entries.map Prod.fst)) :
    Holds same key ((insertBy same other value entries).map Prod.fst) := by
  by_cases old : Holds same other (entries.map Prod.fst)
  · rwa [keys_insertBy_of_holds old]
  · obtain ⟨k, member, equal⟩ := held
    rw [insertBy_of_not_holds old, List.map_append]
    exact ⟨k, List.mem_append_left _ member, equal⟩

theorem distinct_insertBy (distinct : Distinct same (entries.map Prod.fst)) :
    Distinct same ((insertBy same key value entries).map Prod.fst) := by
  by_cases old : Holds same key (entries.map Prod.fst)
  · rwa [keys_insertBy_of_holds old]
  · rw [insertBy_of_not_holds old, List.map_append]
    refine List.pairwise_append.mpr ⟨distinct, List.pairwise_singleton _ _, fun k member l last => ?_⟩
    rw [List.map_singleton, List.mem_singleton] at last
    subst last
    exact Bool.eq_false_iff.mpr fun equal => old ⟨k, member, equal⟩

theorem distinct_unite (pairs : List (κ × ν)) : Distinct same ((unite same [] pairs).map Prod.fst) := by
  induction pairs using List.reverseRecOn with
  | nil => exact List.Pairwise.nil
  | append_singleton pairs p ih =>
    rw [unite_append]
    exact distinct_insertBy ih

end

namespace Agree

variable {same} {key other : κ} {value value' : ν} {entries pairs : List (κ × ν)}
  (agree : Agree same)

include agree

theorem congr (equal : same key other = true) (k : κ) : same k key = same k other :=
  Bool.eq_iff_iff.mpr ⟨fun met => agree.trans met equal, fun met => agree.trans met (agree.symm equal)⟩

/-- Of two values inserted under one key the second is left. -/
theorem insertBy_insertBy (equal : same other key = true) :
    insertBy same key value (insertBy same other value' entries) =
      insertBy same other value entries := by
  induction entries with
  | nil => exact if_pos equal
  | cons entry rest ih =>
    have alike := agree.congr equal entry.1
    rw [insertBy_cons, insertBy_cons]
    split
    · rename_i met
      rw [insertBy_cons, if_pos (alike ▸ met)]
    · rename_i apart
      rw [insertBy_cons, if_neg (alike ▸ apart), ih]

/-- A key that has its place already is inserted before or after another one alike. -/
theorem insertBy_comm (held : Holds same key (entries.map Prod.fst)) (apart : same other key = false) :
    insertBy same key value (insertBy same other value' entries) =
      insertBy same other value' (insertBy same key value entries) := by
  induction entries with
  | nil => exact absurd held not_holds_nil
  | cons entry rest ih =>
    by_cases first : same entry.1 key = true
    · have later : ¬same entry.1 other = true := fun met => by
        rw [agree.trans (agree.symm met) first] at apart
        cases apart
      simp only [insertBy_cons, first, later, Bool.false_eq_true, if_true, if_false]
    · have held' := (holds_cons.mp held).resolve_left first
      by_cases second : same entry.1 other = true
      · simp only [insertBy_cons, first, second, Bool.false_eq_true, if_true, if_false]
      · simp only [insertBy_cons, first, second, Bool.false_eq_true, if_false, ih held']

theorem insertBy_unite (held : Holds same key (entries.map Prod.fst))
    (apart : ∀ p ∈ pairs, same p.1 key = false) :
    insertBy same key value (unite same entries pairs) =
      unite same (insertBy same key value entries) pairs := by
  induction pairs generalizing entries with
  | nil => rfl
  | cons p rest ih =>
    obtain ⟨here, later⟩ := List.forall_mem_cons.mp apart
    change insertBy same key value (unite same (insertBy same p.1 p.2 entries) rest) = _
    rw [ih (holds_insertBy held) later, agree.insertBy_comm held here]
    rfl

theorem holds_inserted (equal : same other key = true) :
    Holds same key ((insertBy same other value entries).map Prod.fst) := by
  by_cases old : Holds same other (entries.map Prod.fst)
  · rw [keys_insertBy_of_holds old]
    obtain ⟨k, member, met⟩ := old
    exact ⟨k, member, agree.trans met equal⟩
  · rw [insertBy_of_not_holds old, List.map_append]
    exact ⟨other, List.mem_append_right _ (List.mem_singleton_self other), equal⟩

theorem unite_insertBy (distinct : Distinct same (pairs.map Prod.fst)) :
    unite same entries (insertBy same key value pairs) =
      insertBy same key value (unite same entries pairs) := by
  induction pairs generalizing entries with
  | nil => rfl
  | cons p rest ih =>
    obtain ⟨apart, others⟩ := List.pairwise_cons.mp distinct
    change _ = insertBy same key value (unite same (insertBy same p.1 p.2 entries) rest)
    rw [insertBy_cons]
    split
    · rename_i equal
      have apart' : ∀ q ∈ rest, same q.1 key = false := by
        intro q member
        have unequal := apart q.1 (List.mem_map_of_mem member)
        refine Bool.eq_false_iff.mpr fun met => ?_
        rw [agree.trans equal (agree.symm met)] at unequal
        cases unequal
      rw [agree.insertBy_unite (agree.holds_inserted equal) apart', agree.insertBy_insertBy equal]
      rfl
    · exact ih others

/-- Uniting with pairs is uniting with the table that the pairs make. -/
theorem unite_unite (entries pairs : List (κ × ν)) :
    unite same entries (unite same [] pairs) = unite same entries pairs := by
  induction pairs using List.reverseRecOn with
  | nil => rfl
  | append_singleton pairs p ih =>
    rw [unite_append, unite_append]
    change unite same entries (insertBy same p.1 p.2 (unite same [] pairs)) =
      insertBy same p.1 p.2 (unite same entries pairs)
    rw [agree.unite_insertBy (distinct_unite pairs), ih]

end Agree

end Association

theorem Json.sameKey_iff {a b : Json} :
    Json.sameKey a b = true ↔ ∃ k, a.key? = some k ∧ b.key? = some k := by
  unfold Json.sameKey
  split
  · rename_i k l ha hb
    rw [ha, hb, beq_iff_eq]
    exact ⟨fun same => ⟨k, rfl, congrArg some same.symm⟩, fun ⟨m, hk, hl⟩ =>
      (Option.some.inj hk).trans (Option.some.inj hl).symm⟩
  · rename_i no
    exact ⟨nofun, fun ⟨k, ha, hb⟩ => (no k k ha hb).elim⟩

theorem Json.agree_sameKey : Association.Agree Json.sameKey where
  symm same := by
    obtain ⟨k, ha, hb⟩ := sameKey_iff.mp same
    exact sameKey_iff.mpr ⟨k, hb, ha⟩
  trans same same' := by
    obtain ⟨k, ha, hb⟩ := sameKey_iff.mp same
    obtain ⟨l, hb', hc⟩ := sameKey_iff.mp same'
    cases hb.symm.trans hb'
    exact sameKey_iff.mpr ⟨k, ha, hc⟩

end ClusterStack
