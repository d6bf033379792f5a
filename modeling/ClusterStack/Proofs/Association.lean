import ClusterStack.Association
import Mathlib.Data.List.Induction
import Mathlib.Data.List.Nodup
/-!
# What a list of insertions leaves

Whatever is inserted, each key stands once, in the place of its first insertion, with the value of its
last one.
-/
namespace ClusterStack.Association

variable {κ ν : Type} [BEq κ]

theorem ofList_append (pairs : List (κ × ν)) (p : κ × ν) :
    ofList (pairs ++ [p]) = insert p.1 p.2 (ofList pairs) := by
  simp only [ofList, List.foldl_append, List.foldl_cons, List.foldl_nil]

theorem find_cons (key : κ) (entry : κ × ν) (rest : List (κ × ν)) : find? (· == key) (entry :: rest) =
    if entry.1 == key then some entry.2 else find? (· == key) rest := rfl

variable [LawfulBEq κ]

theorem insert_new {key : κ} {entries : List (κ × ν)} (new : key ∉ entries.map Prod.fst) (value : ν) :
    insert key value entries = entries ++ [(key, value)] := by
  induction entries with
  | nil => rfl
  | cons entry rest ih =>
      obtain ⟨k, v⟩ := entry
      rw [List.map_cons, List.mem_cons, not_or] at new
      have other : (k == key) = false := beq_eq_false_iff_ne.mpr (Ne.symm new.1)
      have later : insertBy (· == ·) key value rest = rest ++ [(key, value)] := ih new.2
      simp only [insert, insertBy, other, later, Bool.false_eq_true, if_false, List.cons_append]

theorem foldl_insert_new {entries rest : List (κ × ν)}
    (distinct : ((entries ++ rest).map Prod.fst).Nodup) :
    rest.foldl (fun entries p => insert p.1 p.2 entries) entries = entries ++ rest := by
  induction rest generalizing entries with
  | nil => exact (List.append_nil entries).symm
  | cons p rest ih =>
      rw [List.append_cons] at distinct ⊢
      have new : p.1 ∉ entries.map Prod.fst := by
        rw [List.map_append, List.map_append] at distinct
        intro member
        exact (List.nodup_append.mp (List.nodup_append.mp distinct).1).2.2 p.1 member p.1
          List.mem_cons_self rfl
      rw [List.foldl_cons, insert_new new, ih distinct]

theorem ofList_of_nodup {pairs : List (κ × ν)} (distinct : (pairs.map Prod.fst).Nodup) :
    ofList pairs = pairs := foldl_insert_new distinct

/-- A key that is there keeps its place. -/
theorem keys_insert_of_mem {key : κ} {entries : List (κ × ν)} (old : key ∈ entries.map Prod.fst)
    (value : ν) : (insert key value entries).map Prod.fst = entries.map Prod.fst := by
  induction entries with
  | nil => cases old
  | cons entry rest ih =>
      obtain ⟨k, v⟩ := entry
      rw [insert, insertBy]
      split
      · rfl
      · rename_i other
        have later : key ∈ rest.map Prod.fst := by
          rcases List.mem_cons.mp old with rfl | later
          · simp at other
          · exact later
        exact congrArg (k :: ·) (ih later)

/-- A value that was met before is met as if it were not there. -/
theorem eraseDups_concat (keys : List κ) (key : κ) : (keys ++ [key]).eraseDups =
    if keys.contains key then keys.eraseDups else keys.eraseDups ++ [key] := by
  rw [List.eraseDups_append, List.cons_removeAll]
  cases keys.contains key with
  | true => exact List.append_nil _
  | false => rfl

theorem nodup_eraseDups (keys : List κ) : keys.eraseDups.Nodup := by
  induction keys using List.reverseRecOn with
  | nil => exact List.nodup_nil
  | append_singleton keys key ih =>
      rw [eraseDups_concat]
      split
      · exact ih
      · rename_i new
        have fresh : key ∉ keys.eraseDups := by
          rw [List.mem_eraseDups]
          exact fun member => new (List.contains_iff_mem.mpr member)
        exact ih.append (List.nodup_singleton key) (List.disjoint_singleton.mpr fresh)

/-- The keys stand in the order of their first insertions. -/
theorem keys_ofList (pairs : List (κ × ν)) :
    (ofList pairs).map Prod.fst = (pairs.map Prod.fst).eraseDups := by
  induction pairs using List.reverseRecOn with
  | nil => rfl
  | append_singleton pairs p ih =>
      have known : p.1 ∈ (ofList pairs).map Prod.fst ↔ p.1 ∈ pairs.map Prod.fst := by
        rw [ih, List.mem_eraseDups]
      rw [ofList_append, List.map_append, List.map_singleton, eraseDups_concat, ← ih]
      split
      · rename_i old
        exact keys_insert_of_mem (known.mpr (List.contains_iff_mem.mp old)) p.2
      · rename_i new
        have fresh : p.1 ∉ (ofList pairs).map Prod.fst :=
          fun member => new (List.contains_iff_mem.mpr (known.mp member))
        rw [insert_new fresh, List.map_append, List.map_singleton]

theorem find_insert (wanted key : κ) (value : ν) (entries : List (κ × ν)) :
    find? (· == wanted) (insert key value entries) =
      if key == wanted then some value else find? (· == wanted) entries := by
  induction entries with
  | nil => rfl
  | cons entry rest ih =>
      obtain ⟨k, v⟩ := entry
      rw [insert, insertBy]
      by_cases same : k = key
      · subst same
        simp only [beq_self_eq_true, if_true, find_cons]
        split <;> rfl
      · have apart : (k == key) = false := beq_eq_false_iff_ne.mpr same
        simp only [apart, Bool.false_eq_true, if_false, find_cons]
        by_cases here : k = wanted
        · have other : (key == wanted) = false :=
            beq_eq_false_iff_ne.mpr fun met => same (here.trans met.symm)
          simp only [here, other, beq_self_eq_true, if_true, Bool.false_eq_true, if_false]
        · have passed : (k == wanted) = false := beq_eq_false_iff_ne.mpr here
          simp only [passed, Bool.false_eq_true, if_false]
          exact ih

/-- Under each key stands the value of its last insertion. -/
theorem find_ofList (pairs : List (κ × ν)) (key : κ) :
    find? (· == key) (ofList pairs) = (pairs.findRev? (·.1 == key)).map Prod.snd := by
  rw [List.findRev?_eq_find?_reverse]
  induction pairs using List.reverseRecOn with
  | nil => rfl
  | append_singleton pairs p ih =>
      rw [ofList_append, find_insert, ih, List.reverse_append, List.reverse_singleton,
        List.singleton_append]
      cases here : p.1 == key with
      | true => simp [here]
      | false => simp [here]

theorem mem_iff_find {entries : List (κ × ν)} (distinct : (entries.map Prod.fst).Nodup) {key : κ}
    {value : ν} : (key, value) ∈ entries ↔ find? (· == key) entries = some value := by
  induction entries with
  | nil => simp [find?]
  | cons entry rest ih =>
      obtain ⟨k, v⟩ := entry
      obtain ⟨new, others⟩ := List.nodup_cons.mp distinct
      rw [find_cons, List.mem_cons, ih others]
      by_cases same : k = key
      · subst same
        simp only [beq_self_eq_true, if_true, Option.some.injEq, Prod.mk.injEq, true_and]
        constructor
        · rintro (rfl | later)
          · rfl
          · rw [← ih others] at later
            exact absurd (List.mem_map_of_mem later) new
        · exact fun met => .inl met.symm
      · have passed : (k == key) = false := beq_eq_false_iff_ne.mpr same
        simp only [passed, Bool.false_eq_true, if_false, Prod.mk.injEq]
        exact or_iff_right fun met => same met.1.symm

end ClusterStack.Association
