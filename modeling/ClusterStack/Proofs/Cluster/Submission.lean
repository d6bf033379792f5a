import ClusterStack.Proofs.Cluster.CreationOrder
import ClusterStack.Proofs.Number.Numerals
import ClusterStack.Proofs.Rehearsals
import ClusterStack.Proofs.Stack.Validation
import ClusterStack.Proofs.Template.Assignment
/-!
# What a creation submits

The parameters of a new stack come from the options, the configuration and the look-up of an image, and
are put into the set at different times. The list that is submitted in the end is known in advance: it
depends on the options, the number that the size stands for and the image that was looked up alone.
-/
namespace ClusterStack.Cluster

open Stack (Parameter Parameters ParameterKey)

namespace CreationOptions

variable (o : CreationOptions)

/-- What the options say about parameters, where an empty option says nothing and the size is written
as its numeral. -/
def stated (size : Option Nat) : List (ParameterKey × Option Text) :=
  let text (option : Option String) : Option Text := (nonempty? option).map Text.ofString
  [(.size, size.map fun n => Text.ofString (toString n)),
    (.zones, text o.zones),
    (.securityGroup, text o.securityGroup),
    (.sourceCidr, text o.sourceCidr),
    (.port, text o.port),
    (.subnets, text o.subnets),
    (.vpc, text o.vpc),
    (.instanceType, text o.instanceType),
    (.keyPair, text o.keyPair),
    (.image, text o.image)]

/-- The values that a creation submits, in order. The last one is the image that was looked up, if one
was. -/
def values (cluster : String) (size : Option Nat) (image : Option Text) :
    List (ParameterKey × Text) :=
  ((o.stated size).filterMap fun (key, value) => value.map (key, ·)) ++
    ((.cluster, (cluster : Text)) ::
      ((if o.withoutPublicAddress then [(.publicAddress, ("false" : Text))] else []) ++
        image.toList.map (.image, ·)))

/-- What is put into the set before the size is replaced by its numeral. -/
def entries (cluster : String) : List (ParameterKey × String) :=
  o.givenParameters ++
    ((.cluster, cluster) :: (if o.withoutPublicAddress then [(.publicAddress, "false")] else []))

theorem keys_sublist {α β γ : Type} (f : β → Option γ) (entries : List (α × β)) :
    ((entries.filterMap fun (key, value) => (f value).map (key, ·)).map Prod.fst).Sublist
      (entries.map Prod.fst) := by
  induction entries with
  | nil => exact List.Sublist.slnil
  | cons entry rest ih =>
      obtain ⟨key, value⟩ := entry
      simp only [List.filterMap_cons, List.map_cons]
      cases f value with
      | none => exact ih.cons key
      | some text => exact ih.cons_cons key

theorem optionKeys_nodup :
    (o.parameterOptions.map Prod.fst ++ [ParameterKey.cluster, .publicAddress]).Nodup := by
  have keys : o.parameterOptions.map Prod.fst = [.size, .zones, .securityGroup, .sourceCidr, .port,
    .subnets, .vpc, .instanceType, .keyPair, .image] := rfl
  rw [keys]
  decide

theorem entries_nodup (cluster : String) : ((o.entries cluster).map Prod.fst).Nodup := by
  refine List.Sublist.nodup ?_ o.optionKeys_nodup
  unfold entries
  rw [List.map_append]
  refine (keys_sublist nonempty? o.parameterOptions).append ?_
  cases o.withoutPublicAddress with
  | true => exact List.Sublist.refl _
  | false => exact List.cons_sublist_cons.mpr (List.nil_sublist _)

theorem parameters_none (cluster : String) : o.parameters cluster none =
    Parameters.ofValues ((o.entries cluster).map fun (key, value) => (key, (value : Text))) := by
  unfold parameters entries Parameters.ofValues
  rw [List.foldl_map, List.foldl_append, List.foldl_cons]
  cases o.withoutPublicAddress <;> rfl

variable {size : Option Nat}

theorem stated_eq : o.stated size = o.parameterOptions.map fun (key, value) =>
    (key, if key = .size then size.map fun n => Text.ofString (toString n)
      else (nonempty? value).map Text.ofString) := rfl

/-- The values that are put, with a text for each that agrees with what the options say. -/
theorem entries_map (text : ParameterKey → String → Text) (cluster : String)
    (others : ∀ key, key ≠ .size → ∀ value, text key value = value)
    (sizes : (nonempty? o.size).map (text .size) = size.map fun n => Text.ofString (toString n)) :
    ((o.entries cluster).map fun (key, value) => (key, text key value)) =
      o.values cluster size none := by
  unfold entries values
  rw [List.map_append]
  refine congrArg₂ (· ++ ·) ?_ ?_
  · rw [givenParameters, List.map_filterMap, stated_eq, List.filterMap_map]
    refine List.filterMap_congr fun (key, value) member => ?_
    rw [Function.comp_apply]
    dsimp only
    by_cases keyed : key = .size
    · subst keyed
      have same : value = o.size := by simpa [parameterOptions] using member
      rw [if_pos rfl, ← sizes, same, Option.map_map, Option.map_map]
      rfl
    · rw [if_neg keyed, Option.map_map, Option.map_map]
      refine congrArg (Option.map · (nonempty? value)) (funext fun v => ?_)
      exact congrArg (Prod.mk key) (others key keyed v)
  · rw [List.map_cons, Option.toList_none, List.map_nil, List.append_nil]
    refine congrArg₂ List.cons (congrArg (Prod.mk _) (others _ (by decide) _)) ?_
    cases o.withoutPublicAddress with
    | true => exact congrArg (fun t => [(ParameterKey.publicAddress, t)]) (others _ (by decide) _)
    | false => rfl

/-- The set that a creation starts from, when it is known which number the size stands for. -/
theorem parameters_eq (sized : Operator.Sized o size) (cluster : String) :
    o.parameters cluster size = Parameters.ofValues (o.values cluster size none) := by
  cases sized with
  | notGiven absent =>
      rw [parameters_none, o.entries_map (fun _ => Text.ofString) cluster fun _ _ _ => rfl]
      rw [absent]
      rfl
  | @given text n present read =>
      have start : o.parameters cluster (some n) =
        (o.parameters cluster none).put .size (toString n) := rfl
      have member : .size ∈ (o.entries cluster).map Prod.fst := by
        refine List.mem_map.mpr ⟨(.size, text), List.mem_append_left _ ?_, rfl⟩
        refine List.mem_filterMap.mpr ⟨(.size, o.size), List.mem_cons_self, ?_⟩
        dsimp only
        rw [present]
        rfl
      have keys : ((o.entries cluster).map fun (key, value) => (key, (value : Text))).map Prod.fst =
          (o.entries cluster).map Prod.fst := by
        rw [List.map_map]
        rfl
      rw [start, parameters_none, Parameters.put_mem (keys ▸ o.entries_nodup cluster) (keys ▸ member),
        List.map_map]
      refine congrArg Parameters.ofValues (o.entries_map
        (fun key value => if key = .size then Text.ofString (toString n) else value) cluster ?_ ?_)
      · intro key other value
        exact if_neg other
      · rw [present]
        rfl

theorem values_some (cluster : String) (id : Text) :
    o.values cluster size (some id) = o.values cluster size none ++ [(.image, id)] := by
  unfold values
  rw [Option.toList_some, Option.toList_none, List.map_nil, List.append_nil, List.append_assoc,
    List.cons_append]
  rfl

theorem image_mem {cluster : String} :
    ParameterKey.image ∈ (o.values cluster size none).map Prod.fst ↔ nonempty? o.image ≠ none := by
  simp [values, stated, Option.ne_none_iff_exists']

theorem ne_empty_of_nonempty {option : Option String} {s : String} (given : nonempty? option = some s) :
    s ≠ "" := bne_iff_ne.mp (Option.filter_eq_some_iff.mp given).2

/-- A value is a string, which is not empty unless it is the name of the cluster, or the image that was
looked up. -/
theorem string_of_mem_values {cluster : String} {image : Option Text} {entry : ParameterKey × Text}
    (member : entry ∈ o.values cluster size image) :
    (∃ s : String, entry.2 = s ∧ (s = cluster ∨ s ≠ "")) ∨ image = some entry.2 := by
  unfold values at member
  simp only [List.mem_append, List.mem_cons] at member
  rcases member with stated | rfl | hidden | looked
  · rw [stated_eq, List.filterMap_map] at stated
    obtain ⟨⟨key, option⟩, -, shown⟩ := List.mem_filterMap.mp stated
    obtain ⟨text, said, rfl⟩ := Option.map_eq_some_iff.mp shown
    dsimp only at said ⊢
    split at said
    · obtain ⟨n, -, rfl⟩ := Option.map_eq_some_iff.mp said
      exact .inl ⟨toString n, rfl, .inr (by simp)⟩
    · obtain ⟨s, given, rfl⟩ := Option.map_eq_some_iff.mp said
      exact .inl ⟨s, rfl, .inr (ne_empty_of_nonempty given)⟩
  · exact .inl ⟨cluster, rfl, .inl rfl⟩
  · split at hidden
    · rw [List.mem_singleton.mp hidden]
      exact .inl ⟨"false", rfl, .inr (by decide)⟩
    · cases hidden
  · obtain ⟨id, given, rfl⟩ := List.mem_map.mp looked
    exact .inr (Option.mem_toList.mp given)

theorem values_nodup (cluster : String) : ((o.values cluster size none).map Prod.fst).Nodup := by
  refine List.Sublist.nodup ?_ o.optionKeys_nodup
  have stated : (o.stated size).map Prod.fst = o.parameterOptions.map Prod.fst := rfl
  unfold values
  rw [List.map_append, ← stated]
  refine (keys_sublist id (o.stated size)).append ?_
  cases o.withoutPublicAddress with
  | true => exact List.Sublist.refl _
  | false => exact List.cons_sublist_cons.mpr (List.nil_sublist _)

end CreationOptions

/-- What holds of every list of values that is submitted for a new stack. -/
structure Submittable (values : List (ParameterKey × Text)) : Prop where
  distinct : (values.map Prod.fst).Nodup
  needed : ∀ key ∈ [ParameterKey.keyPair, .cluster, .image], key ∈ values.map Prod.fst
  given : ∀ entry ∈ values, entry.2.isEmpty = false
  declared : ∀ entry ∈ values, Template.isDeclared entry.1.name = true

theorem submittable_of_valid {values : List (ParameterKey × Text)}
    (distinct : (values.map Prod.fst).Nodup) (valid : (Parameters.ofValues values).validate = .ok ()) :
    Submittable values := by
  obtain ⟨needed, given⟩ := Parameters.validate_ok_iff.mp valid
  refine ⟨distinct, fun key member => Parameters.has_ofValues.mp (needed key member), ?_,
    fun entry _ => Template.isDeclared_name entry.1⟩
  intro (key, value) member
  have valid := Stack.Parameter.isValid_iff.mp (given _ (Parameters.mem_ofValues distinct member))
  obtain ⟨text, same, filled⟩ := valid.resolve_right Bool.false_ne_true
  cases same
  exact filled

namespace Operator

variable (operator : Operator)

/-- The image that a creation looks up in these exchanges: none if one is given, or else the one that
is found for the region. -/
inductive Chooses (o : CreationOptions) : List Exchange → Option Text → Prop
  | given : nonempty? o.image ≠ none → Chooses o [] none
  | found {region : String} {id : Text} {looked : List Exchange} : nonempty? o.image = none →
      nonempty? operator.config.region = some region →
      (operator.images.find region).Plays looked (.done id) → Chooses o looked (some id)

theorem plays_findImage_done {looked : List Exchange} {id : Text}
    (h : operator.findImage.Plays looked (.done id)) : ∃ region,
      nonempty? operator.config.region = some region ∧
        (operator.images.find region).Plays looked (.done id) := by
  unfold findImage at h
  cases here : nonempty? operator.config.region with
  | none =>
      rw [here] at h
      exact nomatch h.2
  | some region =>
      rw [here] at h
      refine ⟨region, rfl, ?_⟩
      rcases Program.plays_bind.mp h with ⟨image, first, rest, rfl, hp, noted⟩ | ⟨_, _, no⟩ | ⟨_, no⟩
      · obtain ⟨rfl, same⟩ := Program.plays_note.mp noted
        cases same
        obtain ⟨inner, found, same⟩ := Program.plays_mapFailure.mp hp
        rw [List.append_nil]
        cases inner with
        | done image =>
            cases same
            exact found
        | failed failure => cases same
        | unfinished => cases same
      · cases no
      · cases no

theorem plays_withImage_done {o : CreationOptions} {size : Option Nat} {cluster : String}
    {looked : List Exchange} {complete : Parameters}
    (h : (operator.withImage (.ofValues (o.values cluster size none))).Plays looked
      (.done complete)) : ∃ image, operator.Chooses o looked image ∧
        complete = .ofValues (o.values cluster size image) ∧
        ((o.values cluster size image).map Prod.fst).Nodup := by
  unfold withImage at h
  by_cases given : nonempty? o.image = none
  · have absent : ParameterKey.image ∉ (o.values cluster size none).map Prod.fst := by
      rw [o.image_mem]
      exact not_not_intro given
    rw [if_neg (mt Parameters.has_ofValues.mp absent)] at h
    obtain ⟨inner, asked, same⟩ := Program.plays_map.mp h
    cases inner with
    | done id =>
        cases same
        obtain ⟨region, here, found⟩ := operator.plays_findImage_done asked
        refine ⟨some id, .found given here found, ?_, ?_⟩
        · rw [o.values_some, Parameters.ofValues_append]
          rfl
        · rw [o.values_some, List.map_append, List.map_singleton, ← List.concat_eq_append]
          exact (o.values_nodup cluster).concat absent
    | failed failure => cases same
    | unfinished => cases same
  · rw [if_pos (Parameters.has_ofValues.mpr (o.image_mem.mpr given))] at h
    obtain ⟨rfl, same⟩ := h
    cases same
    exact ⟨none, .given given, rfl, o.values_nodup cluster⟩

/-- A call that asks for a stack, in a play of its creation. -/
theorem call_createStack {template : Except Failure String}
    (atHand : operator.template = .ofExcept template) {parameters : Parameters}
    {es : List Exchange} {outcome : Outcome Text}
    (h : (operator.createStack parameters).Plays es outcome) {e : Exchange} (member : e ∈ es)
    (asks : e.call.operation = "create-stack") :
    ∃ body, e.call = operator.stack.creationCall body parameters := by
  rcases operator.plays_createStack atHand h with
    ⟨rfl, -⟩ | ⟨body, created, rest, rfl, changed, -⟩
  · cases member
  · rcases List.mem_cons.mp member with rfl | later
    · exact ⟨body, rfl⟩
    · -- The one change is the creation itself, and what follows it only reads.
      rw [changes_cons_of_change (operator.stack.creationCall_changes body parameters)] at changed
      have unchanged := (List.cons.inj changed).2
      exact absurd later (not_mem_of_changes_eq_nil unchanged (asks ▸ by decide))

theorem call_stack {template : Except Failure String}
    (atHand : operator.template = .ofExcept template) {replacing : Bool} {parameters : Parameters}
    {es : List Exchange} {outcome : Outcome Text}
    (h : (if replacing = true then do
        operator.removeStack
        operator.createStack parameters
      else operator.createStack parameters).Plays es outcome) {e : Exchange} (member : e ∈ es)
    (asks : e.call.operation = "create-stack") :
    ∃ body, e.call = operator.stack.creationCall body parameters := by
  have removed {first : List Exchange} {ending : Outcome Unit}
      (play : operator.removeStack.Plays first ending) : e ∉ first := by
    intro early
    obtain ⟨_, _, -, changed, -⟩ := operator.plays_removeStack play
    have made := mem_changes early (asks ▸ by decide)
    rw [changed, asks] at made
    exact absurd made (by decide)
  cases replacing with
  | false => exact operator.call_createStack atHand h member asks
  | true =>
      rw [if_pos rfl] at h
      rcases Program.plays_bind.mp h with ⟨_, first, rest, rfl, hp, hf⟩ | ⟨_, hp, -⟩ | ⟨hp, -⟩
      · rcases List.mem_append.mp member with early | later
        · exact absurd early (removed hp)
        · exact operator.call_createStack atHand hf later asks
      · exact absurd member (removed hp)
      · exact absurd member (removed hp)

end Operator

/-- An item of a submitted list, which sets the value. -/
def valueItem : ParameterKey × Text → Json := fun (key, value) =>
  .obj [("ParameterKey", .str key.name), ("ParameterValue", .str value),
    ("UsePreviousValue", .bool false)]

/-- The call for a new stack with these values. -/
def submissionCall (stack : Stack.Handle) (body : String) (values : List (ParameterKey × Text)) :
    Invocation :=
  stack.service.invocation "create-stack" stack.name ["--template-body", body, "--capabilities",
    Stack.rolesAcknowledged, "--parameters", ((Json.arr (values.map valueItem)).toText : String)]

theorem creationCall_ofValues (stack : Stack.Handle) (body : String)
    {values : List (ParameterKey × Text)} (distinct : (values.map Prod.fst).Nodup) :
    stack.creationCall body (.ofValues values) = submissionCall stack body values := by
  unfold Stack.Handle.creationCall Stack.Service.submission Parameters.requestText submissionCall
  rw [Parameters.toRequest_ofValues distinct]
  rfl

namespace Operator

/-- Where a creation asks for a stack, it has looked up an image unless one is given and has created the
cluster. It submits the values of the options, which are valid and have passed the check of the
network. -/
theorem plays_create_course {operator : Operator} {template : Except Failure String}
    (atHand : operator.template = .ofExcept template) {o : CreationOptions} {es : List Exchange}
    {outcome : Outcome Text} (h : (operator.create o).Plays es outcome) {e : Exchange} (member : e ∈ es)
    (asks : e.call.operation = "create-stack") :
    ∃ described looked founded others body size image,
      es = ⟨operator.stack.statusCall, described⟩ :: looked ++
        ⟨Service.creationCall operator.access operator.config.cluster, founded⟩ :: others ∧ e ∈ others ∧
      Sized o size ∧ operator.Chooses o looked image ∧
      e.call = submissionCall operator.stack body (o.values operator.config.cluster size image) ∧
      Submittable (o.values operator.config.cluster size image) ∧
      networkFault? (o.parameters operator.config.cluster size) = none := by
  have change : e.call.operation ∉ readings := asks ▸ by decide
  rcases operator.plays_create_guarded h with ⟨rfl, -⟩ | ⟨-, -, size, sized, h₁⟩
  · cases member
  obtain ⟨described, es₁, shape, h₂⟩ := (operator.checks_ensureRoom _ _).bind h₁
  have later : e ∈ es₁ :=
    mem_of_mem_cons_reading (shape ▸ member) operator.stack.statusCall_reads change
  rcases h₂ with ⟨rfl, -⟩ | ⟨replacing, -, h₂⟩
  · cases later
  have fits := operator.plays_furnish_fit h₂ (List.ne_nil_of_mem later)
  rcases operator.plays_furnish h₂ with
    ⟨none, -⟩ | ⟨complete, looked, founded, others, rfl, none, -, found, valid, created⟩
  · exact absurd later (not_mem_of_changes_eq_nil none change)
  rw [o.parameters_eq sized] at found
  obtain ⟨image, chosen, rfl, distinct⟩ := operator.plays_withImage_done found
  have last : e ∈ others := by
    rcases List.mem_append.mp later with early | later
    · exact absurd early (not_mem_of_changes_eq_nil none change)
    · rcases List.mem_cons.mp later with rfl | last
      · exact absurd asks (by change "create-cluster" ≠ "create-stack"; decide)
      · exact last
  rcases created with ⟨rfl, -⟩ | h₃
  · cases last
  obtain ⟨body, call⟩ := operator.call_stack atHand h₃ last asks
  rw [creationCall_ofValues operator.stack body distinct] at call
  exact ⟨described, looked, founded, others, body, size, image, shape, last, sized, chosen, call,
    submittable_of_valid distinct valid, fits⟩

/-- Whatever is replied, every stack that a creation asks for is submitted with the values of the
options, with the size as the numeral of a positive number, and with the image that was looked up
before the cluster was created, unless one is given. -/
theorem creation_submits_values {σ : Type} (config : Config) (images : Image.Source)
    (template : Except Failure String) (pages : Nat) (o : CreationOptions) (backend : Backend σ)
    (s : σ) :
    let operator : Operator := ⟨config, images, .ofExcept template, pages⟩
    let es := (operator.create o).exchanges backend s
    ∀ e ∈ es, e.call.operation = "create-stack" → ∃ described looked founded others body size image,
      es = ⟨operator.stack.statusCall, described⟩ :: looked ++
        ⟨Service.creationCall operator.access config.cluster, founded⟩ :: others ∧ e ∈ others ∧
      Sized o size ∧ operator.Chooses o looked image ∧
      e.call = submissionCall operator.stack body (o.values config.cluster size image) ∧
      Submittable (o.values config.cluster size image) ∧
      ∀ n, size = some n → ∃ text, nonempty? o.size = some text ∧
        Text.digitsValue (Text.trim text.toList) = n ∧ 0 < n ∧
        Number.IsNumeral (toString n).toList n := by
  intro operator es e member asks
  obtain ⟨described, looked, founded, others, body, size, image, shape, last, sized, chosen, call,
      submittable, -⟩ :=
    plays_create_course rfl (Program.plays_run backend (operator.create o) s) member asks
  refine ⟨described, looked, founded, others, body, size, image, shape, last, sized, chosen, call,
    submittable, ?_⟩
  rintro n rfl
  cases sized with
  | given given read =>
      obtain ⟨-, value, pos⟩ := sizeOfText_ok read
      exact ⟨_, given, value, pos, Number.isNumeral_toString pos⟩

def threeInstances : CreationOptions where
  acknowledged := true
  force := false
  keyPair := some "key"
  image := none
  size := some "03"
  zones := none
  securityGroup := some ""
  sourceCidr := none
  port := none
  subnets := none
  vpc := none
  instanceType := none
  withoutPublicAddress := true

/-- There is no stack yet, and the cluster is created. -/
def freshCluster : Aws.Script := [
  ("describe-stacks", [.refusing ("An error occurred (ValidationError) when calling the " ++
    "DescribeStacks operation: Stack does not exist")]),
  ("create-cluster", [.answering (.obj [("cluster", .obj [])]) 1])]

theorem creation_submits_three :
    let config : Config := ⟨"demo", some "us-east-1", none, usualStackPrefix⟩
    let operator : Operator := ⟨config, .listed Image.usualTable, .ofExcept (.ok ""), 1⟩
    ∃ e ∈ (operator.create threeInstances).exchanges Aws.scripted freshCluster, ∃ body,
      e.call = submissionCall operator.stack body [(.size, "3"), (.keyPair, "key"), (.cluster, "demo"),
        (.publicAddress, "false"), (.image, "ami-2b3b6041")] := by
  intro config operator
  have third : (((operator.create threeInstances).exchanges Aws.scripted freshCluster)[2]?.map
      fun e => e.call.operation) = some "create-stack" := by
    decide +kernel
  obtain ⟨e, found, asks⟩ := Option.map_eq_some_iff.mp third
  have member := List.mem_of_getElem? found
  obtain ⟨-, looked, -, -, body, size, image, -, -, sized, chosen, call, -, numeral⟩ :=
    creation_submits_values config (.listed Image.usualTable) (.ok "") 1 threeInstances Aws.scripted
      freshCluster e member asks
  refine ⟨e, member, body, ?_⟩
  cases sized with
  | notGiven absent => cases absent
  | @given _ n =>
      obtain ⟨text, given, value, -⟩ := numeral n rfl
      cases given
      obtain rfl : 3 = n := value
      cases chosen with
      | given given => exact absurd rfl given
      | found absent here found =>
          cases here
          obtain ⟨-, same⟩ := found
          cases same
          exact call

end Operator

end ClusterStack.Cluster
