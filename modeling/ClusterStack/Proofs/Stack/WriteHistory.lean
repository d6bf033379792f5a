import ClusterStack.Proofs.Association
import ClusterStack.Proofs.Stack.RequestText
/-!
# What a history of writes leaves

A set is used step by step, and a step that fails leaves it as it was. Whatever the steps are, the set is
the one that the successful writes alone leave: a dictionary in which every key stands where it was first
written, with the parameter that was last written under it.
-/
namespace ClusterStack.Stack.Parameters

/-- An operation on a set that may fail. -/
inductive Step
  | add (key : String) (value : Json)
  | addPrevious (key : String) (flag : Json)
  | get (key : String)
  | validate

def Step.perform (set : Parameters) : Step → Except Failure Parameters
  | .add key value => set.add key value
  | .addPrevious key flag => set.addPrevious key flag
  | .get key => (set.get key).map fun _ => set
  | .validate => set.validate.map fun _ => set

/-- What the step writes if it succeeds. -/
def Step.written : Step → List Parameter
  | .add key value => [⟨key, value.text?, false⟩]
  | .addPrevious key flag =>
    match Validation.boolean flag with
    | .valid kept => [⟨key, none, kept⟩]
    | .invalid _ => []
  | .get _ | .validate => []

/-- The set after a step. A step that fails leaves it as it was. -/
def after (set : Parameters) (step : Step) : Parameters :=
  match step.perform set with
  | .ok next => next
  | .error _ => set

/-- The successful writes among the steps, in order. -/
def writes (set : Parameters) : List Step → List Parameter
  | [] => []
  | step :: rest =>
    (match step.perform set with
      | .ok _ => step.written
      | .error _ => []) ++ writes (set.after step) rest

inductive Start
  | new
  | keeping (keys : List String)

def Start.keys : Start → List String
  | .new => []
  | .keeping keys => keys

def Start.written (start : Start) : List Parameter := start.keys.map fun key => ⟨key, none, true⟩

def Start.set : Start → Except Failure Parameters
  | .new => .ok empty
  | .keeping keys => Parameters.keeping keys

/-- The set that these writes leave, the last of which comes last. -/
def ofWrites (written : List Parameter) : Parameters := written.foldl overwrite empty

def lastWrite? (written : List Parameter) (key : String) : Option Parameter :=
  written.findRev? (·.key == key)

/-- The set as a dictionary of its parameters. -/
def entries (set : Parameters) : List (String × Parameter) := set.toList.map fun p => (p.key, p)

section

variable {set : Parameters} {written : List Parameter} {key : String}

theorem ofWrites_append (more : List Parameter) :
    ofWrites (written ++ more) = more.foldl overwrite (ofWrites written) := List.foldl_append

/-- A parameter takes the place in a set that it takes in the dictionary. -/
theorem entries_overwrite (p : Parameter) :
    (set.overwrite p).entries = Association.insert p.key p set.entries := by
  unfold entries overwrite Association.insert
  dsimp only
  generalize set.toList = items
  induction items with
  | nil => rfl
  | cons q rest ih =>
      rw [List.map_cons, Association.insertBy, place]
      by_cases same : q.key = p.key
      · rw [if_pos (beq_iff_eq.mpr same), if_pos (beq_iff_eq.mpr same), List.map_cons, same]
      · rw [if_neg (mt beq_iff_eq.mp same), if_neg (mt beq_iff_eq.mp same), List.map_cons, ih]

theorem entries_ofWrites :
    (ofWrites written).entries = Association.ofList (written.map fun p => (p.key, p)) := by
  induction written using List.reverseRecOn with
  | nil => rfl
  | append_singleton written p ih =>
      rw [ofWrites_append, List.map_append, List.map_singleton, Association.ofList_append, ← ih]
      exact entries_overwrite p

theorem map_entries : set.entries.map Prod.fst = set.keys := by
  simp [entries, keys]

theorem find_entries : Association.find? (· == key) set.entries = set.find? key := by
  unfold entries find?
  generalize set.toList = items
  induction items with
  | nil => rfl
  | cons p rest ih =>
      rw [List.map_cons, Association.find_cons, ih, List.find?_cons]
      split
      · rename_i here
        rw [here]
      · rename_i other
        rw [Bool.eq_false_iff.mpr other]

/-- The keys stand in the order of their first writes. -/
theorem keys_ofWrites : (ofWrites written).keys = (written.map Parameter.key).eraseDups := by
  rw [← map_entries, entries_ofWrites, Association.keys_ofList, List.map_map]
  rfl

theorem find_ofWrites : (ofWrites written).find? key = lastWrite? written key := by
  have same : (fun entry : String × Parameter => entry.1 == key) ∘ (fun p => (p.key, p)) =
      (·.key == key) := rfl
  rw [← find_entries, entries_ofWrites, Association.find_ofList, lastWrite?,
    List.findRev?_eq_find?_reverse, List.findRev?_eq_find?_reverse, ← List.map_reverse, List.find?_map,
    same, Option.map_map]
  exact Option.map_id'

theorem lastWrite_isSome : (lastWrite? written key).isSome = true ↔ ∃ p ∈ written, p.key = key := by
  rw [lastWrite?, List.findRev?_eq_find?_reverse, List.find?_isSome]
  simp

theorem mem_ofWrites {p : Parameter} (h : p ∈ (ofWrites written).toList) : p ∈ written := by
  induction written using List.reverseRecOn with
  | nil => cases h
  | append_singleton written q ih =>
      rw [ofWrites_append] at h
      rcases mem_place h with rfl | old
      · exact List.mem_append_right _ (List.mem_singleton_self p)
      · exact List.mem_append_left _ (ih old)

end

/-- The parameter has a key and not both a value of its own and that of the stack. -/
def Sound (p : Parameter) : Prop :=
  Text.isAllBlank p.key = false ∧ (p.value = none ∨ p.usePrevious = false)

section

open Validation (nullable text boolean)

variable {set next : Parameters} {key : String} {value flag : Json}

theorem nullable_text {given : Option Text} : nullable text value = .valid given ↔
    (value = .null ∨ ∃ t, value = .str t) ∧ given = value.text? := by
  constructor
  · intro h
    cases value with
    | null =>
        cases h
        exact ⟨.inl rfl, rfl⟩
    | str t =>
        cases h
        exact ⟨.inr ⟨t, rfl⟩, rfl⟩
    | _ => cases h
  · rintro ⟨rfl | ⟨t, rfl⟩, rfl⟩
    · rfl
    · rfl

theorem store_eq {given : Option Text} {kept : Bool} (named : Text.isAllBlank key = false)
    (read : nullable text value = .valid given) (judged : boolean flag = .valid kept) :
    set.store key value flag = .ok (set.overwrite ⟨key, given, kept⟩) := by
  rw [store, named, if_neg Bool.false_ne_true]
  simp only [readAs, check_shape, read, judged]
  rfl

theorem add_ok_iff : set.add key value = .ok next ↔
    Text.isAllBlank key = false ∧ (value = .null ∨ ∃ t, value = .str t) ∧
      next = set.overwrite ⟨key, value.text?, false⟩ := by
  constructor
  · intro h
    obtain ⟨named, given, kept, read, ⟨⟩, rfl⟩ := store_ok h
    obtain ⟨fits, rfl⟩ := nullable_text.mp read
    exact ⟨named, fits, rfl⟩
  · rintro ⟨named, fits, rfl⟩
    exact store_eq named (nullable_text.mpr ⟨fits, rfl⟩) rfl

theorem addPrevious_ok_iff : set.addPrevious key flag = .ok next ↔
    Text.isAllBlank key = false ∧
      ∃ kept, boolean flag = .valid kept ∧ next = set.overwrite ⟨key, none, kept⟩ := by
  constructor
  · intro h
    obtain ⟨named, given, kept, ⟨⟩, judged, rfl⟩ := store_ok h
    exact ⟨named, kept, judged, rfl⟩
  · rintro ⟨named, kept, judged, rfl⟩
    exact store_eq named rfl judged

theorem perform_ok {step : Step} (h : step.perform set = .ok next) :
    (∀ p ∈ step.written, Sound p) ∧ next = step.written.foldl overwrite set := by
  cases step with
  | add key value =>
      obtain ⟨named, -, rfl⟩ := add_ok_iff.mp h
      exact ⟨List.forall_mem_singleton.mpr ⟨named, .inr rfl⟩, rfl⟩
  | addPrevious key flag =>
      obtain ⟨named, kept, judged, rfl⟩ := addPrevious_ok_iff.mp h
      rw [Step.written, judged]
      exact ⟨List.forall_mem_singleton.mpr ⟨named, .inl rfl⟩, rfl⟩
  | get key =>
      rw [Step.perform] at h
      cases found : set.get key with
      | error failure =>
          rw [found] at h
          cases h
      | ok p =>
          rw [found] at h
          cases h
          exact ⟨nofun, rfl⟩
  | validate =>
      rw [Step.perform] at h
      cases judged : set.validate with
      | error failure =>
          rw [judged] at h
          cases h
      | ok u =>
          rw [judged] at h
          cases h
          exact ⟨nofun, rfl⟩

theorem foldl_after (steps : List Step) : (∀ p ∈ writes set steps, Sound p) ∧
    steps.foldl after set = (writes set steps).foldl overwrite set := by
  induction steps generalizing set with
  | nil => exact ⟨nofun, rfl⟩
  | cons step rest ih =>
      obtain ⟨sound, leaves⟩ := @ih (set.after step)
      rw [writes, List.foldl_cons, List.foldl_append, leaves]
      cases performed : step.perform set with
      | error failure =>
          have same : set.after step = set := by rw [after, performed]
          rw [same] at sound ⊢
          exact ⟨sound, rfl⟩
      | ok next =>
          have moved : set.after step = next := by rw [after, performed]
          obtain ⟨first, rfl⟩ := perform_ok performed
          rw [moved] at sound ⊢
          exact ⟨List.forall_mem_append.mpr ⟨first, sound⟩, rfl⟩

theorem foldlM_keeping (keys : List String) :
    keys.foldlM (fun set key => set.addPrevious key (.bool true)) set =
      match keys.find? Text.isAllBlank with
      | some key => .error (.parameter key .blankKey)
      | none => .ok ((keys.map fun key => (⟨key, none, true⟩ : Parameter)).foldl overwrite set) := by
  induction keys generalizing set with
  | nil => rfl
  | cons key rest ih =>
      rw [List.foldlM_cons]
      cases blank : Text.isAllBlank key with
      | true =>
          rw [List.find?_cons_of_pos blank, addPrevious, store, if_pos blank]
          rfl
      | false =>
          rw [List.find?_cons_of_neg (Bool.eq_false_iff.mp blank), addPrevious,
            store_eq blank rfl (rfl : boolean (.bool true) = .valid true)]
          exact ih

end

/-- What a set tells is what the writes tell, the last of which comes last. -/
structure Recounts (set : Parameters) (written : List Parameter) : Prop where
  /-- The set is the dictionary of the writes. -/
  dictionary : set.entries = Association.ofList (written.map fun p => (p.key, p))
  order : set.keys = (written.map Parameter.key).eraseDups
  distinct : set.keys.Nodup
  named : ∀ key ∈ set.keys, Text.isAllBlank key = false
  got : ∀ key, set.get key = match lastWrite? written key with
    | some p => .ok p
    | none => .error (.parameter key .notFound)
  contained : ∀ key, set.contains key = true ↔ ∃ p ∈ written, p.key = key
  counted : set.size = set.keys.length
  listed : set.toList.map some = set.keys.map (lastWrite? written)
  requested : set.toRequest.map some =
    set.keys.map fun key => (lastWrite? written key).map Parameter.toRequest
  exclusive : ∀ p ∈ set.toList, p.value = none ∨ p.usePrevious = false

theorem recounts_ofWrites {written : List Parameter} (sound : ∀ p ∈ written, Sound p) :
    (ofWrites written).Recounts written := by
  have order : (ofWrites written).keys = (written.map Parameter.key).eraseDups := keys_ofWrites
  have listed {α : Type} (f : Parameter → α) : (ofWrites written).toList.map (fun p => some (f p)) =
      (ofWrites written).keys.map fun key => (lastWrite? written key).map f := by
    rw [keys, List.map_map]
    refine List.map_congr_left fun p member => ?_
    rw [Function.comp_apply, ← find_ofWrites, find_of_mem member]
    rfl
  exact {
    dictionary := entries_ofWrites
    order := order
    distinct := (ofWrites written).distinct
    named := by
      intro key member
      obtain ⟨p, inside, rfl⟩ := List.mem_map.mp member
      exact (sound p (mem_ofWrites inside)).1
    got := by
      intro key
      cases told : lastWrite? written key with
      | none => simp only [get, find_ofWrites, told]
      | some p => simp only [get, find_ofWrites, told]
    contained := by
      intro key
      rw [contains, find_ofWrites]
      exact lastWrite_isSome
    counted := (List.length_map Parameter.key).symm
    listed := by simpa using listed id
    requested := by
      rw [toRequest, List.map_map]
      exact listed Parameter.toRequest
    exclusive := fun p inside => (sound p (mem_ofWrites inside)).2 }

theorem Start.set_eq (start : Start) : start.set = match start.keys.find? Text.isAllBlank with
    | some key => .error (.parameter key .blankKey)
    | none => .ok (ofWrites start.written) := by
  cases start with
  | new => rfl
  | keeping keys => exact foldlM_keeping keys

theorem Start.sound {start : Start} (named : start.keys.find? Text.isAllBlank = none) :
    ∀ p ∈ start.written, Sound p := by
  intro p member
  obtain ⟨key, inside, rfl⟩ := List.mem_map.mp member
  have blank := List.find?_eq_none.mp named key inside
  exact ⟨Bool.eq_false_iff.mpr blank, .inl rfl⟩

/-- Operations on a set go on with the writes that it has already seen. -/
theorem after_ofWrites (written : List Parameter) (steps : List Step) :
    steps.foldl after (ofWrites written) = ofWrites (written ++ writes (ofWrites written) steps) := by
  rw [ofWrites_append]
  exact (foldl_after steps).2

theorem keys_prefix (written : List Parameter) (more : List Step) :
    (ofWrites written).keys <+: (more.foldl after (ofWrites written)).keys := by
  rw [after_ofWrites, keys_ofWrites, keys_ofWrites, List.map_append, List.eraseDups_append]
  exact List.prefix_append _ _

/-- Whatever operations a set goes through, it is left as the successful writes alone leave it: the keys
stand in the order of their first writes and keep it, under each key stands its last write, and a failed
operation changes nothing. -/
theorem operations_leave_last_writes (start : Start) (steps : List Step) :
    match start.set with
    | .error failure => ∃ key, start.keys.find? Text.isAllBlank = some key ∧
        failure = .parameter key .blankKey
    | .ok first =>
      let written := start.written ++ first.writes steps
      let final := steps.foldl after first
      final.Recounts written ∧
        (∀ more : List Step, final.keys <+: (more.foldl after final).keys) ∧
        (∀ key value, (∃ next, final.add key value = .ok next) ↔
          Text.isAllBlank key = false ∧ (value = .null ∨ ∃ t, value = .str t)) ∧
        (∀ key flag, (∃ next, final.addPrevious key flag = .ok next) ↔
          Text.isAllBlank key = false ∧ ∃ kept, Validation.boolean flag = .valid kept) ∧
        ∀ step failure, step.perform final = .error failure →
          final.after step = final ∧ final.writes [step] = [] := by
  rw [start.set_eq]
  cases named : start.keys.find? Text.isAllBlank with
  | some key => exact ⟨key, rfl, rfl⟩
  | none =>
      dsimp -zeta only
      intro written final
      have history : final = ofWrites written := after_ofWrites start.written steps
      have sound : ∀ p ∈ written, Sound p := by
        intro p member
        rcases List.mem_append.mp member with begun | later
        · exact start.sound named p begun
        · exact (foldl_after steps).1 p later
      refine ⟨?_, ?_, fun key value => ?_, fun key flag => ?_, fun step failure failed => ?_⟩
      · rw [history]
        exact recounts_ofWrites sound
      · rw [history]
        exact keys_prefix written
      · simp only [add_ok_iff, exists_and_left, exists_eq, and_true]
      · simp only [addPrevious_ok_iff, exists_and_left, exists_comm, exists_eq, and_true]
      · rw [after, writes, failed]
        exact ⟨rfl, rfl⟩

example :
    let steps : List Step := [.add "VpcId" (.str "vpc-1"), .addPrevious "KeyName" (.bool true),
      .add "\t" (.str "lost"), .add "KeyName" (.int 3), .addPrevious "VpcId" (.bool false)]
    steps.foldl after empty = ⟨[⟨"VpcId", none, false⟩, ⟨"KeyName", none, true⟩], by decide⟩ := by
  decide +kernel

end ClusterStack.Stack.Parameters
