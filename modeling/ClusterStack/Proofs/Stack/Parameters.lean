import ClusterStack.Stack.Parameter
import Mathlib.Data.List.Induction
import Mathlib.Data.List.Nodup
/-!
# Laws of parameter sets

A set is a list without two parameters of one key. A parameter under a new key is appended, and one
under a key of the set takes the place of the parameter that is there. A set in which every parameter
has a value is known by its keys and values alone.
-/
namespace ClusterStack.Stack

namespace ParameterKey

theorem find_name (key : ParameterKey) : all.find? (·.name == key.name) = some key := by
  cases key <;> decide

theorem name_injective : Function.Injective name := by
  intro a b same
  have found := find_name a
  rw [same, find_name] at found
  exact (Option.some.inj found).symm

end ParameterKey

namespace Parameters

theorem place_of_new {p : Parameter} {items : List Parameter} (new : p.key ∉ items.map Parameter.key) :
    place p items = items ++ [p] := by
  induction items with
  | nil => rfl
  | cons q rest ih =>
      rw [List.map_cons, List.mem_cons, not_or] at new
      have other : (q.key == p.key) = false := beq_eq_false_iff_ne.mpr (Ne.symm new.1)
      simp only [place, other, Bool.false_eq_true, if_false, ih new.2]
      rfl

theorem place_of_mem {p : Parameter} {items : List Parameter}
    (distinct : (items.map Parameter.key).Nodup) (member : p.key ∈ items.map Parameter.key) :
    place p items = items.map fun q => if q.key = p.key then p else q := by
  induction items with
  | nil => cases member
  | cons q rest ih =>
      rw [List.map_cons, List.nodup_cons] at distinct
      rw [List.map_cons, place]
      by_cases same : q.key = p.key
      · -- The keys after this one are other keys, so that nothing is replaced behind it.
        have kept : rest.map (fun q => if q.key = p.key then p else q) = rest := by
          refine (List.map_congr_left fun r hr => ?_).trans (List.map_id rest)
          have other : r.key ≠ p.key := by
            intro again
            exact distinct.1 (same ▸ again ▸ List.mem_map_of_mem hr)
          exact if_neg other
        rw [beq_iff_eq.mpr same, if_pos rfl, if_pos same, kept]
      · have later : p.key ∈ rest.map Parameter.key := by
          rw [List.map_cons, List.mem_cons] at member
          exact member.resolve_left (Ne.symm same)
        rw [beq_eq_false_iff_ne.mpr same, if_neg Bool.false_ne_true, if_neg same,
          ih distinct.2 later]

/-- In a set of one parameter for every key, each is found under its key. -/
theorem find_map_all {set : Parameters} {f : ParameterKey → Parameter}
    (listed : set.toList = ParameterKey.all.map f) (keyed : ∀ key, (f key).key = key.name)
    (key : ParameterKey) : set.find? key.name = some (f key) := by
  have same : ((fun p : Parameter => p.key == key.name) ∘ f) = fun k => k.name == key.name := by
    funext k
    rw [Function.comp_apply, keyed]
  rw [find?, listed, List.find?_map, same, ParameterKey.find_name, Option.map_some]

theorem has_iff {set : Parameters} {key : ParameterKey} :
    set.has key = true ↔ key.name ∈ set.keys := by
  rw [has, find?, List.find?_isSome, keys, List.mem_map]
  simp only [beq_iff_eq]

theorem has_put {set : Parameters} {key wanted : ParameterKey} {value : Text} :
    (set.put key value).has wanted = true ↔ wanted = key ∨ set.has wanted = true := by
  rw [has_iff, has_iff, ← ParameterKey.name_injective.eq_iff]
  exact mem_keys_place

/-- The set that has these values and keeps none of the stack. Of the values under one key it has the
last one. -/
def ofValues (values : List (ParameterKey × Text)) : Parameters :=
  values.foldl (fun set (key, value) => set.put key value) empty

section

variable {values : List (ParameterKey × Text)} {key : ParameterKey}

theorem ofValues_append (more : List (ParameterKey × Text)) : ofValues (values ++ more) =
    more.foldl (fun set (key, value) => set.put key value) (ofValues values) := List.foldl_append

theorem has_ofValues : (ofValues values).has key = true ↔ key ∈ values.map Prod.fst := by
  induction values using List.reverseRecOn with
  | nil => exact iff_of_false nofun nofun
  | append_singleton values entry ih =>
      rw [ofValues_append, List.foldl_cons, List.foldl_nil, has_put, ih, List.map_append, List.mem_append,
        List.map_singleton, List.mem_singleton]
      exact or_comm

/-- Values under different keys stand in the set as they are. -/
theorem toList_ofValues (distinct : (values.map Prod.fst).Nodup) :
    (ofValues values).toList = values.map fun (key, value) => ⟨key.name, some value, false⟩ := by
  induction values using List.reverseRecOn with
  | nil => rfl
  | append_singleton values entry ih =>
      rw [List.map_append, List.map_singleton, ← List.concat_eq_append, List.nodup_concat] at distinct
      have new := mt has_iff.mpr (mt has_ofValues.mp distinct.1)
      rw [List.map_append, ← ih distinct.2, ofValues_append]
      exact place_of_new new

theorem mem_ofValues (distinct : (values.map Prod.fst).Nodup) {value : Text}
    (member : (key, value) ∈ values) : ⟨key.name, some value, false⟩ ∈ (ofValues values).toList := by
  rw [toList_ofValues distinct]
  exact List.mem_map_of_mem member

theorem put_mem (distinct : (values.map Prod.fst).Nodup) (member : key ∈ values.map Prod.fst)
    (value : Text) : (ofValues values).put key value =
      ofValues (values.map fun (k, v) => (k, if k = key then value else v)) := by
  have keys : (values.map fun (k, v) => (k, if k = key then value else v)).map Prod.fst =
      values.map Prod.fst := by
    rw [List.map_map]
    rfl
  refine Parameters.ext ((place_of_mem (ofValues values).distinct ?_).trans ?_)
  · exact has_iff.mp (has_ofValues.mpr member)
  rw [toList_ofValues distinct, toList_ofValues (keys ▸ distinct), List.map_map, List.map_map]
  refine List.map_congr_left fun entry _ => ?_
  obtain ⟨k, v⟩ := entry
  by_cases same : k = key
  · subst same
    simp
  · have other : k.name ≠ key.name := ParameterKey.name_injective.ne same
    simp [same, other]

/-- The list of parameters that is submitted for the set. -/
theorem toRequest_ofValues (distinct : (values.map Prod.fst).Nodup) :
    (ofValues values).toRequest = values.map fun (key, value) =>
      .obj [("ParameterKey", .str key.name), ("ParameterValue", .str value),
        ("UsePreviousValue", .bool false)] := by
  rw [toRequest, toList_ofValues distinct, List.map_map]
  rfl

end

theorem mem_of_find {set : Parameters} {key : String} {p : Parameter}
    (h : set.find? key = some p) : p ∈ set.toList ∧ p.key = key := by
  unfold find? at h
  exact ⟨List.mem_of_find?_eq_some h, by simpa using List.find?_some h⟩

/-- A parameter of the set is the one that is found under its key. -/
theorem find_of_mem {set : Parameters} {p : Parameter} (member : p ∈ set.toList) :
    set.find? p.key = some p := by
  have some : (set.find? p.key).isSome = true :=
    List.find?_isSome.mpr ⟨p, member, beq_self_eq_true _⟩
  obtain ⟨q, found⟩ := Option.isSome_iff_exists.mp some
  obtain ⟨there, same⟩ := mem_of_find found
  rwa [List.inj_on_of_nodup_map set.distinct there member same] at found

end Parameters

end ClusterStack.Stack
