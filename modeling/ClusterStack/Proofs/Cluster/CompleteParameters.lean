import ClusterStack.Proofs.Cluster.Network
import ClusterStack.Proofs.Cluster.Rejections
import ClusterStack.Proofs.Cluster.SizeText
import ClusterStack.Proofs.Stack.Validation
/-!
# Parameters of a creation

The parameters of a new stack are stored and looked up by operations that fail on a blank key and on an
absent one, and are validated before they are used. A creation never comes to these failures: its keys
are known, it looks a parameter up only when it is there, and the guards leave nothing for the validation
to find but an empty image.
-/
namespace ClusterStack.Cluster

open Stack (Parameters ParameterKey)

/-- The parameters of the options, each stored by the operation that checks its key. -/
def CreationOptions.checkedParameters (o : CreationOptions) (cluster : String) (size : Option Nat) :
    Except Failure Parameters := do
  let given ← o.givenParameters.foldlM (fun set (key, value) => set.add key.name (.str value))
    Parameters.empty
  let named ← given.add ParameterKey.cluster.name (.str cluster)
  let addressed ← if o.withoutPublicAddress then
      named.add ParameterKey.publicAddress.name (.str "false")
    else .ok named
  match size with
  | some n => addressed.add ParameterKey.size.name (.str (toString n))
  | none => .ok addressed

/-- Whether there are zones, but not two of them, where they are read by the operation that fails if
there are none. -/
def checkedZones (parameters : Parameters) : Except Failure Bool :=
  if parameters.has .zones then
    (parameters.get ParameterKey.zones.name).map fun zones => partCount (zones.value.getD "") != 2
  else .ok false

def checkedNetworkFault (parameters : Parameters) : Except Failure (Option Refusal) :=
  let given := parameters.has
  if given .zones && given .vpc then .ok (some .vpcAndZones)
  else
    (checkedZones parameters).map fun odd =>
      if odd then some .zonesNotTwo
      else if given .securityGroup && !given .vpc then some .securityGroupWithoutVpc
      else if given .vpc && !given .subnets then some .vpcWithoutSubnets
      else if given .subnets && !given .vpc then some .subnetsWithoutVpc
      else none

theorem add_name (set : Parameters) (key : ParameterKey) (value : Text) :
    set.add key.name (.str value) = .ok (set.put key value) := by
  have named : Text.isAllBlank key.name = false := by
    cases key <;> decide
  exact Parameters.store_eq named rfl rfl

theorem CreationOptions.checkedParameters_eq (o : CreationOptions) (cluster : String)
    (size : Option Nat) : o.checkedParameters cluster size = .ok (o.parameters cluster size) := by
  have stored (set : Parameters) : o.givenParameters.foldlM
      (fun set (key, value) => set.add key.name (.str value)) set =
      (.ok (o.givenParameters.foldl (fun set (key, value) => set.put key value) set) :
        Except Failure Parameters) := by
    simp only [add_name]
    exact List.foldlM_pure
  unfold checkedParameters parameters
  rw [stored]
  simp only [add_name]
  cases o.withoutPublicAddress <;> cases size <;> rfl

theorem checkedZones_eq (parameters : Parameters) : checkedZones parameters =
    .ok (parameters.has .zones && partCount (((parameters.find? ParameterKey.zones.name).bind
      Stack.Parameter.value).getD "") != 2) := by
  unfold checkedZones Parameters.has Parameters.get
  cases parameters.find? ParameterKey.zones.name <;> rfl

theorem checkedNetworkFault_eq (parameters : Parameters) :
    checkedNetworkFault parameters = .ok (networkFault? parameters) := by
  unfold checkedNetworkFault networkFault?
  rw [checkedZones_eq]
  dsimp only
  split <;> rfl

section

variable {values : List (ParameterKey × Text)} (distinct : (values.map Prod.fst).Nodup)

include distinct

theorem offends_ofValues {key : ParameterKey} {value : Text} (member : (key, value) ∈ values) :
    (Parameters.ofValues values).offends key.name = value.isEmpty := by
  have found : (Parameters.ofValues values).find? key.name = some ⟨key.name, some value, false⟩ :=
    Parameters.find_of_mem (Parameters.mem_ofValues distinct member)
  rw [Parameters.offends, found]
  simp [Stack.Parameter.isValid]

/-- Values for the needed keys are valid if none of them is empty. -/
theorem validate_filled (keyed : Given values .keyPair) (named : Given values .cluster)
    (image : Given values .image) (filled : ∀ entry ∈ values, entry.2.isEmpty = false) :
    (Parameters.ofValues values).validate = .ok () := by
  have needed : ∀ key ∈ ParameterKey.needed, (Parameters.ofValues values).has key = true :=
    List.forall_mem_cons.mpr ⟨has_ofValues_iff.mpr keyed, List.forall_mem_cons.mpr
      ⟨has_ofValues_iff.mpr named, List.forall_mem_singleton.mpr (has_ofValues_iff.mpr image)⟩⟩
  have valid : ∀ p ∈ (Parameters.ofValues values).toList, p.isValid = true := by
    rw [Parameters.toList_ofValues distinct]
    exact List.forall_mem_map.mpr fun entry member =>
      Stack.Parameter.isValid_iff.mpr (.inl ⟨entry.2, rfl, filled entry member⟩)
  exact Parameters.validate_ok_iff.mpr ⟨needed, valid⟩

/-- An empty image is the first offender if the key pair and the cluster are named. -/
theorem validate_emptyImage {keyPair cluster : Text} (keyed : (ParameterKey.keyPair, keyPair) ∈ values)
    (named : (ParameterKey.cluster, cluster) ∈ values) (image : (ParameterKey.image, ("" : Text)) ∈ values)
    (filled : keyPair.isEmpty = false) (filled' : cluster.isEmpty = false) :
    (Parameters.ofValues values).validate =
      .error (.parameter ParameterKey.image.name .neitherValueNorPrevious) := by
  have first := (offends_ofValues distinct keyed).trans filled
  have second := (offends_ofValues distinct named).trans filled'
  have offends : (Parameters.ofValues values).offends ParameterKey.image.name = true :=
    offends_ofValues distinct image
  have there : (Parameters.ofValues values).contains ParameterKey.image.name = true :=
    Parameters.has_ofValues.mpr (List.mem_map_of_mem image)
  have offender : (Parameters.ofValues values).checkOrder.find? (Parameters.ofValues values).offends =
      some ParameterKey.image.name := by
    -- The search passes the key pair and the cluster, and stops at the image.
    change List.find? _ (ParameterKey.keyPair.name :: ParameterKey.cluster.name ::
      ParameterKey.image.name :: _) = _
    rw [List.find?_cons_of_neg (Bool.eq_false_iff.mp first),
      List.find?_cons_of_neg (Bool.eq_false_iff.mp second), List.find?_cons_of_pos offends]
  refine Parameters.validate_error_iff.mpr ⟨_, offender, ?_⟩
  rw [Parameters.faultOf, there]
  rfl

end

namespace CreationOptions

variable {o : CreationOptions} {size : Option Nat} {cluster : String}

/-- With a named cluster, a creation starts from values of which none is empty. -/
theorem values_filled (named : cluster ≠ "") :
    ∀ entry ∈ o.values cluster size none, entry.2.isEmpty = false := by
  intro entry member
  rcases o.string_of_mem_values member with ⟨s, same, filled⟩ | no
  · rw [same]
    rcases filled with rfl | filled
    · exact Text.isEmpty_ofString named
    · exact Text.isEmpty_ofString filled
  · cases no

end CreationOptions

namespace Operator

variable (operator : Operator)

def checkedNetwork (parameters : Parameters) : Program Unit := do
  match ← Program.ofExcept (checkedNetworkFault parameters) with
  | some fault => refuse fault
  | none => pure ()

def checkedImage (parameters : Parameters) : Program Parameters :=
  if parameters.has .image then pure parameters
  else do
    let image ← operator.findImage
    Program.ofExcept (parameters.add ParameterKey.image.name (.str image))

/-- A creation up to the validation of its parameters, with the operations on them that may fail. The
answer tells also whether a stack is to be replaced. -/
def prepare (o : CreationOptions) : Program (Bool × Parameters) := do
  ensure o.acknowledged .iamNotAcknowledged
  let cluster ← operator.chosenName
  let size ← givenSize o
  let parameters ← Program.ofExcept (o.checkedParameters cluster size)
  let replacing ← operator.ensureRoom cluster o.force
  ensure (parameters.has .keyPair) .keyPairNotGiven
  checkedNetwork parameters
  let complete ← operator.checkedImage parameters
  pure (replacing, complete)

theorem checkedNetwork_eq (parameters : Parameters) :
    checkedNetwork parameters = ensureNetwork parameters := by
  rw [checkedNetwork, checkedNetworkFault_eq]
  rfl

theorem checkedImage_eq (parameters : Parameters) :
    operator.checkedImage parameters = operator.withImage parameters := by
  unfold checkedImage withImage
  simp only [add_name]
  rfl

/-- What a preparation does after the guards that ask nothing. -/
def equip (cluster : String) (force : Bool) (parameters : Parameters) : Program (Bool × Parameters) := do
  let replacing ← operator.ensureRoom cluster force
  ensure (parameters.has .keyPair) .keyPairNotGiven
  ensureNetwork parameters
  let complete ← operator.withImage parameters
  pure (replacing, complete)

theorem prepare_eq (o : CreationOptions) : operator.prepare o = (do
    ensure o.acknowledged .iamNotAcknowledged
    let cluster ← operator.chosenName
    let size ← givenSize o
    operator.equip cluster o.force (o.parameters cluster size)) := by
  unfold prepare
  simp only [CreationOptions.checkedParameters_eq, checkedNetwork_eq, checkedImage_eq]
  rfl

/-- A creation is its preparation, the validation of the parameters and what comes after it. -/
theorem create_eq_prepare (o : CreationOptions) : operator.create o = (do
    let (replacing, complete) ← operator.prepare o
    Program.ofExcept complete.validate
    operator.establish complete replacing) := by
  rw [prepare_eq]
  unfold create chosenName equip establish
  simp only [Program.bind_assoc]
  rfl

theorem failsOnly_equip (cluster : String) (force : Bool) (parameters : Parameters) :
    (operator.equip cluster force parameters).FailsOnly fun failure => ¬ failure.IsOfParameter := by
  have service {failure : Failure} (h : failure.IsOfService) : ¬ failure.IsOfParameter :=
    mt Failure.IsOfParameter.isRejection h.not_isRejection
  refine Program.FailsOnly.bind ?_ fun _ => (failsOnly_ensure id).bind fun _ =>
    (failsOnly_ensureNetwork fun _ => id).bind fun _ => ?_
  · exact (operator.failsOnly_exists.mono fun _ => service).bind fun _ =>
      (failsOnly_ensure id).bind fun _ => Program.failsOnly_pure _
  · exact (operator.failsOnly_withImage (fun _ => id) (fun _ => service) fun _ => id).bind fun _ =>
      Program.failsOnly_pure _

/-- Nothing after the validation rejects a parameter, if the template does not. -/
theorem failsOnly_establish
    (readable : operator.template.FailsOnly fun failure => ¬ failure.IsOfParameter)
    (complete : Parameters) (replacing : Bool) :
    (operator.establish complete replacing).FailsOnly fun failure => ¬ failure.IsOfParameter := by
  have kept {failure : Failure} (h : ¬ failure.IsRejection) : ¬ failure.IsOfParameter :=
    mt Failure.IsOfParameter.isRejection h
  have creates : (operator.createStack complete).FailsOnly fun failure => ¬ failure.IsOfParameter := by
    refine (readable.remotely fun failure fine => ?_).bind fun body => ?_
    · unfold Failure.ofCall
      split
      · exact id
      · exact fine
    have waits := Stack.Wait.creation.failsOnly_run operator.stack operator.pages
    refine ((operator.commits_create body complete).not_rejects.mono fun _ => kept).bind fun id => ?_
    exact (waits.mono fun _ blames => kept blames.not_isRejection).bind fun _ => Program.failsOnly_pure id
  refine ((operator.uses_createCluster.failsOnly nofun).mono
    fun _ service => kept service.not_isRejection).bind fun _ => ?_
  cases replacing with
  | false => exact creates
  | true => exact (operator.commits_removeStack.not_rejects.mono fun _ => kept).bind fun _ => creates

section

variable {operator} {o : CreationOptions} {es : List Exchange}

/-- Where a creation is prepared, it has asked for the stack and looked up an image unless one is given,
and the parameters are those of the options. -/
theorem plays_prepare_done {replacing : Bool} {complete : Parameters}
    (h : (operator.prepare o).Plays es (.done (replacing, complete))) :
    ∃ described looked size image, es = ⟨operator.stack.statusCall, described⟩ :: looked ∧
      changes es = [] ∧ operator.config.cluster ≠ "" ∧
      Given (o.values operator.config.cluster size none) .keyPair ∧ operator.Chooses o looked image ∧
      complete = .ofValues (o.values operator.config.cluster size image) ∧
      ((o.values operator.config.cluster size image).map Prod.fst).Nodup := by
  rw [prepare_eq] at h
  rcases operator.plays_guarded h with ⟨-, failure, -, no⟩ | ⟨-, named, size, sized, h₁⟩
  · cases no
  obtain ⟨described, looked, rfl, ⟨-, failure, no⟩ | ⟨replacing', -, h₂⟩⟩ :=
    (operator.checks_ensureRoom _ _).bind h₁
  · cases no
  rcases plays_ensure_bind h₂ with ⟨-, -, no⟩ | ⟨keyed, h₃⟩
  · cases no
  rcases (silent_ensureNetwork _).bind h₃ with ⟨-, failure, no⟩ | ⟨-, h₄⟩
  · cases no
  obtain ⟨inner, found, same⟩ := Program.plays_map.mp h₄
  cases inner with
  | done complete' =>
      cases same
      rw [o.parameters_eq sized] at found keyed
      obtain ⟨image, chosen, rfl, distinct⟩ := operator.plays_withImage_done found
      refine ⟨described, looked, size, image, rfl, ?_, named, has_ofValues_iff.mp keyed, chosen, rfl,
        distinct⟩
      rw [changes_cons_of_reading operator.stack.statusCall_reads]
      exact (operator.reads_withImage _).changes_eq_nil found
  | failed failure => cases same
  | unfinished => cases same

/-- The values of a prepared creation are valid unless an empty image was found. -/
theorem validate_chosen {size : Option Nat} {image : Option Text} {looked : List Exchange}
    (named : operator.config.cluster ≠ "")
    (keyed : Given (o.values operator.config.cluster size none) .keyPair)
    (chosen : operator.Chooses o looked image)
    (distinct : ((o.values operator.config.cluster size image).map Prod.fst).Nodup) :
    (Parameters.ofValues (o.values operator.config.cluster size image)).validate =
      if image = some ("" : Text) then .error (.parameter ParameterKey.image.name .neitherValueNorPrevious)
      else .ok () := by
  have filled := @CreationOptions.values_filled o size _ named
  obtain ⟨⟨_, keyPair⟩, keyed, rfl⟩ := List.mem_map.mp keyed
  have clustered : (ParameterKey.cluster, (operator.config.cluster : Text)) ∈
      o.values operator.config.cluster size none :=
    List.mem_append_right _ List.mem_cons_self
  cases chosen with
  | given given =>
      rw [if_neg nofun]
      exact validate_filled distinct (List.mem_map_of_mem keyed) (List.mem_map_of_mem clustered)
        (o.image_mem.mpr given) filled
  | @found region id =>
      rw [o.values_some] at distinct ⊢
      have keyed' := List.mem_append_left [(ParameterKey.image, id)] keyed
      have clustered' := List.mem_append_left [(ParameterKey.image, id)] clustered
      have image : (ParameterKey.image, id) ∈ o.values operator.config.cluster size none ++ [(.image, id)] :=
        List.mem_append_right _ (List.mem_singleton_self _)
      by_cases empty : id = ""
      · subst empty
        rw [if_pos rfl]
        exact validate_emptyImage distinct keyed' clustered' image (filled _ keyed) (filled _ clustered)
      · rw [if_neg (mt Option.some.inj empty)]
        refine validate_filled distinct (List.mem_map_of_mem keyed') (List.mem_map_of_mem clustered')
          (List.mem_map_of_mem image) (List.forall_mem_append.mpr ⟨filled, ?_⟩)
        exact List.forall_mem_singleton.mpr (Text.isEmpty_eq_false empty)

/-- The only parameter that the preparation itself rejects is the size, before any call. -/
theorem plays_prepare_rejected {key : String} {fault : ParameterFault}
    (h : (operator.prepare o).Plays es (.failed (.parameter key fault))) :
    key = ParameterKey.size.name ∧ es = [] ∧
      ∃ size, nonempty? o.size = some size ∧ fault = .malformedSize size := by
  rw [prepare_eq] at h
  rcases operator.plays_guarded h with ⟨rfl, failure, barred, same⟩ | ⟨-, -, size, -, h₁⟩
  · cases same
    cases barred with
    | @creationSize _ size _ given unread =>
        rcases sizeOfText_error_cases unread with same | ⟨count, same⟩
        · cases same
          exact ⟨rfl, rfl, size, given, rfl⟩
        · cases same
  · exact absurd trivial (operator.failsOnly_equip _ _ _ _ _ h₁)

/-- A creation that rejects a parameter after its preparation has found an empty image. -/
theorem plays_create_rejected
    (readable : operator.template.FailsOnly fun failure => ¬ failure.IsOfParameter)
    {key : String} {fault : ParameterFault}
    (h : (operator.create o).Plays es (.failed (.parameter key fault))) :
    (operator.prepare o).Plays es (.failed (.parameter key fault)) ∨
      key = ParameterKey.image.name ∧ fault = .neitherValueNorPrevious ∧ changes es = [] ∧
        ∃ described looked, es = ⟨operator.stack.statusCall, described⟩ :: looked ∧
          operator.Chooses o looked (some "") := by
  rw [create_eq_prepare] at h
  rcases Program.plays_bind.mp h with
    ⟨⟨replacing, complete⟩, first, rest, rfl, prepared, h₁⟩ | ⟨failure, prepared, same⟩ | ⟨-, same⟩
  · obtain ⟨described, looked, size, image, rfl, unchanged, named, keyed, chosen, rfl, distinct⟩ :=
      plays_prepare_done prepared
    have verdict := validate_chosen named keyed chosen distinct
    dsimp only at h₁
    by_cases empty : image = some ("" : Text)
    · rw [if_pos empty] at verdict
      rw [verdict] at h₁
      obtain ⟨rfl, same⟩ := h₁
      cases same
      rw [List.append_nil]
      exact .inr ⟨rfl, rfl, unchanged, described, looked, rfl, empty ▸ chosen⟩
    · rw [if_neg empty] at verdict
      rw [verdict] at h₁
      exact absurd trivial (operator.failsOnly_establish readable _ _ _ _ h₁)
  · cases same
    exact .inl prepared
  · cases same

end

/-- A creation is prepared by operations on its parameters that fail on blank and on absent keys, but it
never fails for them. A parameter is rejected only if it is the size, before any call, or if no image is
given and an empty one was found for the region, before any change. The parameters of every other
creation that is prepared are valid. -/
theorem creation_rejects_size_or_image {σ : Type} (config : Config) (images : Image.Source)
    (template : Except Failure String) (pages : Nat)
    (readable : ∀ key fault, template ≠ .error (.parameter key fault)) (o : CreationOptions)
    (backend : Backend σ) (s : σ) :
    let operator : Operator := ⟨config, images, .ofExcept template, pages⟩
    let es := (operator.create o).exchanges backend s
    let outcome := ((operator.create o).run backend s).outcome
    (operator.create o = do
      let (replacing, complete) ← operator.prepare o
      Program.ofExcept complete.validate
      operator.establish complete replacing) ∧
    (∀ key fault, outcome = .failed (.parameter key fault) →
      (key = "AsgMaxSize" ∧ es = [] ∧
        ∃ size, nonempty? o.size = some size ∧ fault = .malformedSize size) ∨
      (key = "EcsAmiId" ∧ fault = .neitherValueNorPrevious ∧ nonempty? o.image = none ∧
        changes es = [] ∧ ∃ region described looked, nonempty? config.region = some region ∧
          es = ⟨operator.stack.statusCall, described⟩ :: looked ∧
          (images.find region).Plays looked (.done ""))) ∧
    (∀ replacing complete, ((operator.prepare o).run backend s).outcome = .done (replacing, complete) →
      ∃ described looked image,
        (operator.prepare o).exchanges backend s = ⟨operator.stack.statusCall, described⟩ :: looked ∧
        operator.Chooses o looked image ∧
        complete.validate = if image = some ("" : Text) then
            .error (.parameter "EcsAmiId" .neitherValueNorPrevious)
          else .ok ()) := by
  intro operator es outcome
  refine ⟨operator.create_eq_prepare o, fun key fault failed => ?_, fun replacing complete done => ?_⟩
  · have readable' : operator.template.FailsOnly fun failure => ¬ failure.IsOfParameter := by
      refine Program.failsOnly_ofExcept fun failure unread => ?_
      cases failure with
      | parameter key fault => exact absurd unread (readable key fault)
      | _ => exact id
    have play : (operator.create o).Plays es outcome := Program.plays_run backend _ s
    rw [failed] at play
    rcases plays_create_rejected readable' play with
      early | ⟨rfl, rfl, unchanged, described, looked, shape, chosen⟩
    · exact .inl (plays_prepare_rejected early)
    · cases chosen with
      | found absent here found =>
          exact .inr ⟨rfl, rfl, absent, unchanged, _, described, looked, here, shape, found⟩
  · have play := Program.plays_run backend (operator.prepare o) s
    rw [done] at play
    obtain ⟨described, looked, size, image, shape, -, named, keyed, chosen, rfl, distinct⟩ :=
      plays_prepare_done play
    exact ⟨described, looked, image, shape, chosen, validate_chosen named keyed chosen distinct⟩

/-- The table names an empty image for the region. -/
def emptyImage : Image.Source := .listed [("us-east-1", "")]

theorem emptyImage_rejected :
    let operator : Operator := ⟨demoOperator.config, emptyImage, .ofExcept (.ok ""), 1⟩
    let creation := operator.create threeInstances
    (creation.run Aws.scripted freshCluster).outcome =
      .failed (.parameter "EcsAmiId" .neitherValueNorPrevious) ∧
    changes (creation.exchanges Aws.scripted freshCluster) = [] ∧
    ∃ region described looked, nonempty? operator.config.region = some region ∧
      creation.exchanges Aws.scripted freshCluster = ⟨operator.stack.statusCall, described⟩ :: looked ∧
      (emptyImage.find region).Plays looked (.done "") := by
  intro operator creation
  have failed : (creation.run Aws.scripted freshCluster).outcome =
      .failed (.parameter "EcsAmiId" .neitherValueNorPrevious) := by decide +kernel
  obtain ⟨-, rejected, -⟩ := creation_rejects_size_or_image demoOperator.config emptyImage (.ok "") 1
    nofun threeInstances Aws.scripted freshCluster
  rcases rejected _ _ failed with ⟨no, -⟩ | ⟨-, -, -, unchanged, found⟩
  · exact absurd no (by decide)
  · exact ⟨failed, unchanged, found⟩

end Operator

end ClusterStack.Cluster
