import ClusterStack.Proofs.Cluster.Recovery
import ClusterStack.Proofs.Cluster.Submission
import ClusterStack.Proofs.Stack.WriteHistory
/-!
# The network of a new stack

A new stack gets a network of its own, or is placed in a given one. Which of the submitted values go
together is checked by five rules, one after another, before anything is created. The rule for the two
zones of a new network counts commas: the text on either side of the one comma may be empty.
-/
namespace ClusterStack.Cluster

open Stack (Parameters ParameterKey)

def Given (values : List (ParameterKey × Text)) (key : ParameterKey) : Prop :=
  key ∈ values.map Prod.fst

instance (values : List (ParameterKey × Text)) (key : ParameterKey) : Decidable (Given values key) :=
  inferInstanceAs (Decidable (_ ∈ _))

/-- A text with one comma, which may stand at either end. -/
def TwoParts (text : Text) : Prop :=
  ∃ first second, text.codes = first ++ .char ',' :: second ∧ .char ',' ∉ first ∧ .char ',' ∉ second

/-- Two names with a comma between them. -/
def TwoNames (text : Text) : Prop :=
  ∃ first second, text.codes = first ++ .char ',' :: second ∧ .char ',' ∉ first ∧ .char ',' ∉ second ∧
    first ≠ [] ∧ second ≠ []

/-- What is submitted describes one network. -/
structure FitsNetwork (values : List (ParameterKey × Text)) : Prop where
  apart : ¬(Given values .zones ∧ Given values .vpc)
  zones : ∀ zones, (.zones, zones) ∈ values → TwoParts zones
  secured : Given values .securityGroup → Given values .vpc
  placed : Given values .vpc ↔ Given values .subnets

/-- The rule that a refusal stands for is broken. -/
def Breaks (values : List (ParameterKey × Text)) : Refusal → Prop
  | .vpcAndZones => Given values .zones ∧ Given values .vpc
  | .zonesNotTwo => ∃ zones, (.zones, zones) ∈ values ∧ ¬TwoParts zones
  | .securityGroupWithoutVpc => Given values .securityGroup ∧ ¬Given values .vpc
  | .vpcWithoutSubnets => Given values .vpc ∧ ¬Given values .subnets
  | .subnetsWithoutVpc => Given values .subnets ∧ ¬Given values .vpc
  | _ => False

def networkRules : List Refusal :=
  [.vpcAndZones, .zonesNotTwo, .securityGroupWithoutVpc, .vpcWithoutSubnets, .subnetsWithoutVpc]

def BreaksFirst (values : List (ParameterKey × Text)) (refusal : Refusal) : Prop :=
  Breaks values refusal ∧ ∃ before after, networkRules = before ++ refusal :: after ∧
    ∀ earlier ∈ before, ¬Breaks values earlier

variable {values : List (ParameterKey × Text)}

theorem fitsNetwork_iff : FitsNetwork values ↔ ∀ refusal ∈ networkRules, ¬Breaks values refusal := by
  simp only [networkRules, List.forall_mem_cons, Breaks]
  constructor
  · rintro ⟨apart, zones, secured, placed⟩
    refine ⟨apart, ?_, fun ⟨group, outside⟩ => outside (secured group),
      fun ⟨vpc, bare⟩ => bare (placed.mp vpc), fun ⟨subnets, outside⟩ => outside (placed.mpr subnets),
      nofun⟩
    rintro ⟨text, member, odd⟩
    exact odd (zones text member)
  · rintro ⟨apart, zones, secured, placed, subnets, -⟩
    refine ⟨apart, fun text member => ?_, fun group => ?_, fun vpc => ?_, fun given => ?_⟩
    · exact Classical.byContradiction fun odd => zones ⟨text, member, odd⟩
    · exact Classical.byContradiction fun outside => secured ⟨group, outside⟩
    · exact Classical.byContradiction fun bare => placed ⟨vpc, bare⟩
    · exact Classical.byContradiction fun outside => subnets ⟨given, outside⟩

theorem partCount_eq_two_iff (text : Text) : partCount text = 2 ↔ TwoParts text := by
  unfold partCount TwoParts
  constructor
  · intro two
    have once : text.codes.count (.char ',') = 1 := Nat.succ.inj two
    obtain ⟨first, second, shape, before⟩ := List.eq_append_cons_of_mem
      (List.count_pos_iff.mp (once ▸ Nat.zero_lt_one))
    refine ⟨first, second, shape, before, ?_⟩
    rw [shape, List.count_append, List.count_cons_self, List.count_eq_zero.mpr before] at once
    exact List.count_eq_zero.mp (by omega)
  · rintro ⟨first, second, shape, before, after⟩
    rw [shape, List.count_append, List.count_cons_self, List.count_eq_zero.mpr before,
      List.count_eq_zero.mpr after]

theorem find_ofValues {key : ParameterKey} {value : Text} (distinct : (values.map Prod.fst).Nodup)
    (member : (key, value) ∈ values) :
    ((Parameters.ofValues values).find? key.name).bind Stack.Parameter.value = some value := by
  exact congrArg (Option.bind · Stack.Parameter.value)
    (Parameters.find_of_mem (Parameters.mem_ofValues distinct member))

theorem has_ofValues_iff {key : ParameterKey} :
    (Parameters.ofValues values).has key = true ↔ Given values key := Parameters.has_ofValues

theorem zoneCount_iff (distinct : (values.map Prod.fst).Nodup) :
    let zoneCount := partCount ((((Parameters.ofValues values).find? ParameterKey.zones.name).bind
      Stack.Parameter.value).getD "")
    Given values .zones ∧ zoneCount ≠ 2 ↔ Breaks values .zonesNotTwo := by
  constructor
  · rintro ⟨given, odd⟩
    obtain ⟨⟨key, text⟩, member, rfl⟩ := List.mem_map.mp given
    rw [find_ofValues distinct member] at odd
    exact ⟨text, member, mt (partCount_eq_two_iff text).mpr odd⟩
  · rintro ⟨text, member, odd⟩
    rw [find_ofValues distinct member]
    exact ⟨List.mem_map_of_mem member, mt (partCount_eq_two_iff text).mp odd⟩

open Classical in
/-- The check finds the first rule that is broken. -/
theorem networkFault_eq_find (distinct : (values.map Prod.fst).Nodup) :
    networkFault? (.ofValues values) = networkRules.find? fun refusal => Breaks values refusal := by
  have first (rule : Refusal) (later : List Refusal) :
      (rule :: later).find? (fun refusal => Breaks values refusal) =
        if Breaks values rule then some rule else later.find? fun refusal => Breaks values refusal := by
    rw [List.find?_cons]
    by_cases broken : Breaks values rule
    · rw [decide_eq_true broken, if_pos broken]
    · rw [decide_eq_false broken, if_neg broken]
  unfold networkFault? networkRules
  simp only [first, List.find?_nil, Bool.and_eq_true, Bool.not_eq_true', ← Bool.not_eq_true,
    has_ofValues_iff, bne_iff_ne]
  refine ite_congr rfl (fun _ => rfl) fun _ => ?_
  refine ite_congr (propext (zoneCount_iff distinct)) (fun _ => rfl) fun _ => ?_
  refine ite_congr rfl (fun _ => rfl) fun _ => ?_
  refine ite_congr rfl (fun _ => rfl) fun _ => ?_
  exact ite_congr rfl (fun _ => rfl) fun _ => rfl

theorem networkFault_eq_none_iff (distinct : (values.map Prod.fst).Nodup) :
    networkFault? (.ofValues values) = none ↔ FitsNetwork values := by
  classical
  rw [networkFault_eq_find distinct, List.find?_eq_none, fitsNetwork_iff]
  simp only [decide_eq_true_iff]

theorem networkFault_eq_some_iff (distinct : (values.map Prod.fst).Nodup) {refusal : Refusal} :
    networkFault? (.ofValues values) = some refusal ↔ BreaksFirst values refusal := by
  classical
  rw [networkFault_eq_find distinct, List.find?_eq_some_iff_append]
  simp only [decide_eq_true_iff, Bool.not_eq_true', decide_eq_false_iff_not]
  rfl

/-- An image says nothing about the network. -/
theorem fitsNetwork_append_image {image : Text} :
    FitsNetwork (values ++ [(.image, image)]) ↔ FitsNetwork values := by
  have same (key : ParameterKey) (other : key ≠ .image) :
      Given (values ++ [(.image, image)]) key ↔ Given values key := by
    unfold Given
    rw [List.map_append, List.mem_append]
    exact or_iff_left fun last => other (List.mem_singleton.mp last)
  have zones (text : Text) : (.zones, text) ∈ values ++ [(.image, image)] ↔ (.zones, text) ∈ values := by
    rw [List.mem_append]
    exact or_iff_left fun last => nomatch List.mem_singleton.mp last
  rw [fitsNetwork_iff, fitsNetwork_iff]
  simp only [networkRules, List.forall_mem_cons, Breaks, zones, same, ne_eq, reduceCtorEq,
    not_false_eq_true]

namespace Operator

variable {operator : Operator}

theorem plays_create_submits {template : Except Failure String}
    (atHand : operator.template = .ofExcept template) {o : CreationOptions} {es : List Exchange}
    {outcome : Outcome Text} (h : (operator.create o).Plays es outcome) {e : Exchange} (member : e ∈ es)
    (asks : e.call.operation = "create-stack") : ∃ body size looked image,
      Sized o size ∧ operator.Chooses o looked image ∧
      e.call = submissionCall operator.stack body (o.values operator.config.cluster size image) ∧
      FitsNetwork (o.values operator.config.cluster size image) := by
  obtain ⟨-, looked, -, -, body, size, image, -, -, sized, chosen, call, -, sound⟩ :=
    plays_create_course atHand h member asks
  rw [o.parameters_eq sized] at sound
  have fits := (networkFault_eq_none_iff (o.values_nodup _)).mp sound
  refine ⟨body, size, looked, image, sized, chosen, call, ?_⟩
  cases image with
  | none => exact fits
  | some id => exact o.values_some _ id ▸ fitsNetwork_append_image.mpr fits

/-- What is told of the stack leaves room for a new one. -/
def LeavesRoom (operator : Operator) (o : CreationOptions) (described : Reply) : Prop :=
  operator.stack.presenceIn described = .missing ∨
    operator.stack.presenceIn described = .existing ∧ o.force = true

theorem create_eq {o : CreationOptions} {size : Option Nat} (acknowledged : o.acknowledged = true)
    (named : operator.config.cluster ≠ "") (sized : Sized o size) :
    operator.create o = operator.ensureRoom operator.config.cluster o.force >>=
      operator.furnish (o.parameters operator.config.cluster size) := by
  unfold create chosenName givenSize
  rw [acknowledged, bne_iff_ne.mpr named]
  cases sized with
  | notGiven absent =>
      rw [absent]
      rfl
  | given present read =>
      rw [present]
      simp only [read]
      rfl

section

variable {σ : Type} {backend : Backend σ} {s : σ}

theorem leads_ensureRoom {o : CreationOptions}
    (room : operator.LeavesRoom o (backend s operator.stack.statusCall).1) : ∃ replacing,
    (operator.ensureRoom operator.config.cluster o.force).Leads backend s
      [replyTo backend s operator.stack.statusCall] (.done replacing)
      (backend s operator.stack.statusCall).2 := by
  have asked := operator.stack.asks_exists.leads backend s
  unfold ensureRoom
  rcases room with missing | ⟨existing, forced⟩
  · rw [@Stack.Handle.existsIn_of_presence _ _ false missing] at asked
    exact ⟨false, asked.bind ((Program.leads_pure ()).bind (Program.leads_pure false))⟩
  · rw [@Stack.Handle.existsIn_of_presence _ _ true existing] at asked
    rw [forced]
    exact ⟨true, asked.bind ((Program.leads_pure ()).bind (Program.leads_pure true))⟩

/-- A creation that gets as far as the network, and breaks a rule about it. -/
theorem leads_create_unfit {o : CreationOptions} {size : Option Nat} {refusal : Refusal}
    (acknowledged : o.acknowledged = true) (named : operator.config.cluster ≠ "")
    (sized : Sized o size) (room : operator.LeavesRoom o (backend s operator.stack.statusCall).1)
    (keyed : Given (o.values operator.config.cluster size none) .keyPair)
    (first : BreaksFirst (o.values operator.config.cluster size none) refusal) :
    (operator.create o).Leads backend s [replyTo backend s operator.stack.statusCall]
      (.failed (.refused refusal)) (backend s operator.stack.statusCall).2 := by
  have fault := (networkFault_eq_some_iff (o.values_nodup _)).mpr first
  obtain ⟨replacing, looked⟩ := leads_ensureRoom room
  rw [create_eq acknowledged named sized, o.parameters_eq sized]
  refine looked.bind ?_
  rw [operator.furnish_unfit (Parameters.has_ofValues.mpr keyed) fault]
  exact Program.leads_fail _

end

/-- Whatever is replied, every stack that a creation asks for is submitted with values that describe
one network. Where the options do not, and the guards before this one pass, the creation is refused
after one call, for the first rule that is broken. -/
theorem creation_network {σ : Type} (config : Config) (images : Image.Source)
    (template : Except Failure String) (pages : Nat) (o : CreationOptions) (backend : Backend σ)
    (s : σ) :
    let operator : Operator := ⟨config, images, .ofExcept template, pages⟩
    let es := (operator.create o).exchanges backend s
    let described := (backend s operator.stack.statusCall).1
    (∀ e ∈ es, e.call.operation = "create-stack" → ∃ body size image, Sized o size ∧
      e.call = submissionCall operator.stack body (o.values config.cluster size image) ∧
      FitsNetwork (o.values config.cluster size image)) ∧
    (∀ size, o.acknowledged = true → config.cluster ≠ "" → Sized o size →
      Given (o.values config.cluster size none) .keyPair → operator.LeavesRoom o described →
      ¬FitsNetwork (o.values config.cluster size none) → ∃ refusal,
        BreaksFirst (o.values config.cluster size none) refusal ∧
        es = [⟨operator.stack.statusCall, described⟩] ∧
        ((operator.create o).run backend s).outcome = .failed (.refused refusal)) := by
  intro operator es described
  refine ⟨fun e member asks => ?_, fun size acknowledged named sized keyed room unfit => ?_⟩
  · obtain ⟨body, size, -, image, sized, -, call, fits⟩ :=
      plays_create_submits rfl (Program.plays_run backend (operator.create o) s) member asks
    exact ⟨body, size, image, sized, call, fits⟩
  · have distinct := @CreationOptions.values_nodup o size config.cluster
    obtain ⟨refusal, fault⟩ := Option.ne_none_iff_exists'.mp
      (mt (networkFault_eq_none_iff distinct).mp unfit)
    have first := (networkFault_eq_some_iff distinct).mp fault
    have refused : (operator.create o).Leads backend s _ _ _ :=
      leads_create_unfit acknowledged named sized room keyed first
    exact ⟨refusal, first, refused.through, refused.ending⟩

/-- A new network and a given one at once, where the given one lacks its subnets as well. -/
def bothNetworks : CreationOptions :=
  { threeInstances with zones := some "us-east-1a,us-east-1b", vpc := some "vpc-1" }

theorem bothNetworks_refused :
    let creation := demoOperator.create bothNetworks
    let values := bothNetworks.values "demo" (some 3) none
    BreaksFirst values .vpcAndZones ∧ Breaks values .vpcWithoutSubnets ∧
    (creation.exchanges Aws.scripted freshCluster).map Exchange.call = [demoOperator.stack.statusCall] ∧
    (creation.run Aws.scripted freshCluster).outcome = .failed (.refused .vpcAndZones) := by
  intro creation values
  have missing : demoOperator.stack.presenceIn
      (Aws.scripted freshCluster demoOperator.stack.statusCall).1 = .missing := by decide +kernel
  have ended : (creation.run Aws.scripted freshCluster).outcome = .failed (.refused .vpcAndZones) := by
    decide +kernel
  have vpc : Given values .vpc := by decide
  have bare : ¬Given values .subnets := by decide
  obtain ⟨refusal, first, through, refused⟩ := (creation_network demoOperator.config
    (.listed Image.usualTable) (.ok "") 1 bothNetworks Aws.scripted freshCluster).2 (some 3) rfl
      (by decide) (.given rfl (by decide +kernel)) (by decide) (.inl missing)
      fun fits => bare (fits.placed.mp vpc)
  cases refused.symm.trans ended
  exact ⟨first, ⟨vpc, bare⟩, congrArg (List.map Exchange.call) through, ended⟩

/-- A text that ends with a comma is not two names. -/
theorem not_twoNames_of_last {text : Text} {front : List Text.Code}
    (last : text.codes = front ++ [.char ',']) : ¬TwoNames text := by
  rintro ⟨first, second, shape, -, after, -, filled⟩
  obtain rfl | ⟨between, final, rfl⟩ := second.eq_nil_or_concat'
  · exact filled rfl
  · have same : (first ++ Text.Code.char ',' :: between) ++ [final] = front ++ [.char ','] := by
      rw [← last, shape, List.append_assoc, List.cons_append]
    cases (List.append_inj' same rfl).2
    exact after (List.mem_append_right _ List.mem_cons_self)

def oneZone : CreationOptions := { threeInstances with
  size := none
  image := some "ami-1"
  zones := some "us-east-1a,"
  withoutPublicAddress := false }

/-- A single zone with a comma after it is submitted for two. -/
theorem oneZone_submitted :
    ∃ e ∈ (demoOperator.create oneZone).exchanges Aws.scripted freshCluster, ∃ body,
      e.call = submissionCall demoOperator.stack body [(.zones, "us-east-1a,"), (.keyPair, "key"),
        (.image, "ami-1"), (.cluster, "demo")] ∧ ¬TwoNames "us-east-1a," := by
  have third : (((demoOperator.create oneZone).exchanges Aws.scripted freshCluster)[2]?.map
      fun e => e.call.operation) = some "create-stack" := by
    decide +kernel
  obtain ⟨e, found, asks⟩ := Option.map_eq_some_iff.mp third
  have member := List.mem_of_getElem? found
  obtain ⟨body, size, looked, image, sized, chosen, call, -⟩ :=
    @plays_create_submits demoOperator (.ok "") rfl _ _ _
      (Program.plays_run Aws.scripted _ freshCluster) _ member asks
  have submitted : oneZone.values "demo" none none = ([(.zones, "us-east-1a,"), (.keyPair, "key"),
      (.image, "ami-1"), (.cluster, "demo")] : List (ParameterKey × Text)) := by decide +kernel
  have last : (Text.ofString "us-east-1a,").codes = (Text.ofString "us-east-1a").codes ++ [.char ','] := by
    decide +kernel
  refine ⟨e, member, body, ?_, not_twoNames_of_last last⟩
  cases sized with
  | given present => cases present
  | notGiven =>
      cases chosen with
      | found absent => cases absent
      | given => exact submitted ▸ call

end Operator

end ClusterStack.Cluster
