import ClusterStack.Cluster.Listing
import ClusterStack.Proofs.Cluster.Calls
import ClusterStack.Proofs.Faults
import ClusterStack.Proofs.Stack.Calls
/-!
# Methods of the services

Every call of a command is made by a method of a service. A method is known by the operation that it
calls, and its failures are reported under its title and the resource that it is about. Which failures
a method ends with is told by the reply to its last call alone; where a method calls several times,
all replies before that one are sound.
-/
namespace ClusterStack

namespace Stack.Handle

/-- The identifier of a stack in the reply to an operation on it. -/
def idIn (operation : String) (reply : Reply) : Except Failure Text :=
  (Aws.readReply operation reply).bind fun answer =>
    Aws.responseMember (.obj answer) "StackId" (readAs "str" Validation.text) operation

theorem idIn_eq_ok_iff {operation : String} {reply : Reply} {id : Text} :
    idIn operation reply = .ok id ↔ ∃ answer, Aws.readReply operation reply = .ok answer ∧
      Json.member? answer "StackId" = some (.str id) := by
  constructor
  · intro h
    obtain ⟨answer, answered, identified⟩ := ok_of_bind h
    obtain ⟨part, found, shape⟩ := Aws.responseMember_ok identified
    cases part with
    | str t =>
        cases shape
        exact ⟨answer, answered, found⟩
    | _ => cases shape
  · rintro ⟨answer, answered, found⟩
    rw [idIn, answered]
    change Aws.responseMember (.obj answer) "StackId" _ _ = _
    simp only [Aws.responseMember, found]
    rfl

end Stack.Handle

theorem Stack.Service.asks_submit (service : Service) (operation action name : String)
    (arguments : List Text) (parameters : Parameters) :
    (service.submit operation action name arguments parameters).Asks
      (service.invocation operation name (arguments ++ submission parameters))
      (Handle.idIn operation) := by
  unfold submit
  exact Program.asks_request.noted fun id es outcome h => Program.plays_note.mp h

namespace Cluster

namespace Service

def nameIn (operation cluster : String) (reply : Reply) : Except Failure Json :=
  (Aws.readReply operation reply).bind (readName operation cluster)

theorem nameIn_ok {operation : String} (cluster : String) {reply : Reply}
    (holds : HoldsCluster operation reply) : ∃ name, nameIn operation cluster reply = .ok name := by
  obtain ⟨answer, members, answered, found⟩ := holds
  refine ⟨(Json.member? members "clusterName").getD (.str cluster), ?_⟩
  rw [nameIn, answered]
  change (Aws.responseMember (.obj answer) "cluster" _ operation).map _ = _
  simp only [Aws.responseMember, found]
  rfl

theorem asks_create (access : Aws.Access) (cluster : String) :
    (create access cluster).Asks (creationCall access cluster) (nameIn "create-cluster" cluster) :=
  Program.asks_request.noted fun _ _ _ h => Program.plays_note.mp h

theorem asks_delete (access : Aws.Access) (cluster : String) :
    (delete access cluster).Asks (removalCall access cluster) (nameIn "delete-cluster" cluster) :=
  Program.asks_request.noted fun _ _ _ h => Program.plays_note.mp h

def statusIn (cluster : String) (reply : Reply) : Except Failure (Option Json) :=
  (Aws.readReply "describe-clusters" reply).bind (readStatus? cluster)

theorem statusIn_active {reply : Reply} (active : ReportsActive reply) (cluster : String) :
    statusIn cluster reply = .ok (some (.str "ACTIVE")) := by
  obtain ⟨answer, first, others, answered, unfailed, listed, status⟩ := active
  rw [statusIn, answered]
  change readStatus? cluster answer = _
  unfold readStatus?
  rw [unfailed, listed]
  have told : Aws.Answer.member (.obj first) "status" = .ok (.str "ACTIVE") := by
    change Except.ok ((Json.member? first "status").getD .null) = _
    rw [status]
    rfl
  change (Aws.Answer.member (.obj first) "status" >>= fun status => pure (some status)) = _
  rw [told]
  rfl

def arnsIn (reply : Reply) : Except Failure (List Json) :=
  (Aws.readReply "list-tasks" reply).bind fun answer => Aws.Answer.elementsOf answer "taskArns"

def tasksIn (reply : Reply) : Except Failure (List Task) :=
  (Aws.readReply "describe-tasks" reply).bind fun answer =>
    Aws.responseMember (.obj answer) "tasks" (readAs "list[EcsTask]" (Validation.list Task.check))
      "describe-tasks"

/-- The entries with those that the reply adds. -/
def instancesIn (entries : List (Json × Json)) (reply : Reply) :
    Except Failure (List (Json × Json)) :=
  (Aws.readReply "describe-container-instances" reply).bind fun answer =>
    (Aws.Answer.elementsOf answer "containerInstances").bind fun descriptions =>
      descriptions.foldlM readInstance entries

end Service

def Instances.addressesIn (reply : Reply) : Except Failure (List (Json × Json)) :=
  (Aws.readReply "describe-instances" reply).bind Instances.readReservations

inductive Method
  | createStack
  | updateStack
  | deleteStack
  | describeStacks
  | describeStackEvents
  | createCluster
  | deleteCluster
  | describeClusters
  | listTasks
  | describeTasks
  | describeContainerInstances
  | describeInstances
  | resolveImageId
  deriving DecidableEq

namespace Method

def all : List Method := [.createStack, .updateStack, .deleteStack, .describeStacks,
  .describeStackEvents, .createCluster, .deleteCluster, .describeClusters, .listTasks, .describeTasks,
  .describeContainerInstances, .describeInstances, .resolveImageId]

def operation : Method → String
  | .createStack => "create-stack"
  | .updateStack => "update-stack"
  | .deleteStack => "delete-stack"
  | .describeStacks => "describe-stacks"
  | .describeStackEvents => "describe-stack-events"
  | .createCluster => "create-cluster"
  | .deleteCluster => "delete-cluster"
  | .describeClusters => "describe-clusters"
  | .listTasks => "list-tasks"
  | .describeTasks => "describe-tasks"
  | .describeContainerInstances => "describe-container-instances"
  | .describeInstances => "describe-instances"
  | .resolveImageId => "get-parameter"

def title : Method → String
  | .createStack => "CreateStack"
  | .updateStack => "UpdateStack"
  | .deleteStack => "DeleteStack"
  | .describeStacks => "DescribeStacks"
  | .describeStackEvents => "DescribeStackEvents"
  | .createCluster => "CreateCluster"
  | .deleteCluster => "DeleteCluster"
  | .describeClusters => "DescribeClusters"
  | .listTasks => "ListTasks"
  | .describeTasks => "DescribeTasks"
  | .describeContainerInstances => "DescribeContainerInstances"
  | .describeInstances => "DescribeInstances"
  | .resolveImageId => "ResolveImageId"

/-- The method that makes this call. -/
def of? (call : Invocation) : Option Method :=
  all.find? fun method => method.operation == call.operation

theorem of?_eq {call : Invocation} {method : Method} (h : call.operation = method.operation) :
    of? call = some method := by
  unfold of?
  rw [h]
  cases method <;> decide

end Method

namespace Service

theorem halts_gather {α β : Type} {judgement : Judgement} {own : Failure → Prop}
    {act : α → Program (List β)} (h : ∀ a, (act a).Halts judgement own) (items : List α) :
    (gather act items).Halts judgement own := by
  induction items with
  | nil => exact Program.halts_pure []
  | cons a rest ih =>
      refine (h a).bind fun first => ?_
      exact ih.bind fun others => Program.halts_pure (first ++ others)

theorem error_bind_congr {α β : Type} {e : Except Failure α} {f g : α → Except Failure β}
    {cause : Failure} (same : ∀ a, f a = .error cause ↔ g a = .error cause) :
    e.bind f = .error cause ↔ e.bind g = .error cause := by
  cases e with
  | error failure => exact Iff.rfl
  | ok a => exact same a

theorem store_error_iff (k value : Json) (entries others : List (Json × Json)) {cause : Failure} :
    Aws.Answer.store k value entries = .error cause ↔
      Aws.Answer.store k value others = .error cause := by
  unfold Aws.Answer.store
  cases Aws.Answer.key k with
  | ok k => exact ⟨nofun, nofun⟩
  | error failure => exact Iff.rfl

/-- Whether a description is fit to be read does not depend on the entries read before. -/
theorem readInstance_error_iff (entries others : List (Json × Json)) {description : Json}
    {cause : Failure} : readInstance entries description = .error cause ↔
      readInstance others description = .error cause := by
  refine error_bind_congr fun arn => ?_
  split
  · exact ⟨nofun, nofun⟩
  · refine error_bind_congr fun id => ?_
    split
    · exact ⟨nofun, nofun⟩
    · exact store_error_iff arn id entries others

theorem readInstances_error_iff (descriptions : List Json) (entries others : List (Json × Json))
    {cause : Failure} : descriptions.foldlM readInstance entries = .error cause ↔
      descriptions.foldlM readInstance others = .error cause := by
  induction descriptions generalizing entries others with
  | nil => exact ⟨nofun, nofun⟩
  | cons description rest ih =>
      rw [List.foldlM_cons, List.foldlM_cons]
      cases he : readInstance entries description with
      | error failure =>
          rw [(readInstance_error_iff entries others).mp he]
      | ok read =>
          cases ho : readInstance others description with
          | error failure =>
              rw [(readInstance_error_iff entries others).mpr ho] at he
              cases he
          | ok read' => exact ih read read'

theorem instancesIn_error_iff (entries others : List (Json × Json)) {reply : Reply}
    {cause : Failure} :
    instancesIn entries reply = .error cause ↔ instancesIn others reply = .error cause := by
  refine error_bind_congr fun answer => error_bind_congr fun descriptions => ?_
  exact readInstances_error_iff descriptions entries others

end Service

namespace Operator

variable (operator : Operator)

def resource : Method → String
  | .createStack | .updateStack | .deleteStack | .describeStacks | .describeStackEvents =>
    operator.config.stackName
  | .resolveImageId => operator.config.region.getD ""
  | _ => operator.config.cluster

/-- The method ends with this failure on the reply to its last call. -/
def FailsWith (reply : Reply) (cause : Failure) : Method → Prop
  | .createStack => Stack.Handle.idIn "create-stack" reply = .error cause
  | .updateStack => Stack.Handle.idIn "update-stack" reply = .error cause
  | .deleteStack => Aws.readReply "delete-stack" reply = .error cause
  | .describeStacks => operator.stack.statusIn reply = .error cause
  | .describeStackEvents => Stack.Handle.pageIn reply = .error cause
  | .createCluster => Service.nameIn "create-cluster" operator.config.cluster reply = .error cause
  | .deleteCluster => Service.nameIn "delete-cluster" operator.config.cluster reply = .error cause
  | .describeClusters => Service.statusIn operator.config.cluster reply = .error cause
  | .listTasks => Service.arnsIn reply = .error cause
  | .describeTasks => Service.tasksIn reply = .error cause
  | .describeContainerInstances => Service.instancesIn [] reply = .error cause
  | .describeInstances => Instances.addressesIn reply = .error cause
  | .resolveImageId => ∃ instanceType profile, operator.images = .recommended instanceType profile ∧
      Image.readRecommended (Image.Variant.ofInstanceType (instanceType.getD "")).parameter
        (operator.config.region.getD "") reply = .error cause

structure Faults (method : Method) (e : Exchange) (cause : Failure) : Prop where
  calls : Method.of? e.call = some method
  fails : operator.FailsWith e.reply cause method

def Sound (e : Exchange) : Prop := ∀ method cause, ¬ operator.Faults method e cause

/-- A fault is blamed for the failure of its method, reported under the title and the resource if it is
one of a call. -/
def judgement : Judgement where
  sound := operator.Sound
  blamed e failure := ∃ method cause, operator.Faults method e cause ∧
    failure = Failure.ofCall method.title (operator.resource method) cause

/-- The judgement on the calls of one method, before its failures are reported. -/
def judgementOf (method : Method) : Judgement where
  sound e := Method.of? e.call = some method ∧ ∀ cause, ¬ operator.FailsWith e.reply cause method
  blamed := operator.Faults method

variable {operator}

theorem sound_of {e : Exchange} {method : Method} (calls : Method.of? e.call = some method)
    (h : ∀ cause, ¬ operator.FailsWith e.reply cause method) : operator.Sound e := by
  rintro other cause ⟨calls', fails⟩
  rw [calls] at calls'
  cases calls'
  exact h cause fails

variable (operator) {α : Type} {p : Program α}

/-- A method that halts at faults still does when its failures are reported. -/
theorem halts_remotely (method : Method) {own own' : Failure → Prop}
    (halts : p.Halts (operator.judgementOf method) own)
    (reported : ∀ failure, own failure →
      own' (Failure.ofCall method.title (operator.resource method) failure)) :
    (p.remotely method.title (operator.resource method)).Halts operator.judgement own' := by
  intro es outcome play
  obtain ⟨inner, hp, rfl⟩ := Program.plays_mapFailure.mp play
  cases halts es inner hp with
  | sound all kept =>
      refine .sound (fun e member => sound_of (all e member).1 (all e member).2) fun failure same => ?_
      cases inner with
      | failed cause =>
          cases same
          exact reported cause (kept cause rfl)
      | done a => cases same
      | unfinished => cases same
  | fault before all blamed =>
      exact .fault before (fun e member => sound_of (all e member).1 (all e member).2)
        ⟨method, _, blamed, rfl⟩

/-- The program calls by this method alone, and stops at its first fault. -/
def Uses (method : Method) (p : Program α) : Prop :=
  p.Halts (operator.judgementOf method) fun _ => False

theorem Uses.halts {method : Method} {own : Failure → Prop} (uses : operator.Uses method p) :
    (p.remotely method.title (operator.resource method)).Halts operator.judgement own :=
  operator.halts_remotely method uses fun _ (no : False) => no.elim

section

variable {call : Invocation} {read : Reply → Except Failure α}

theorem halts_of_asks (method : Method) {own : Failure → Prop} (asks : p.Asks call read)
    (calls : call.operation = method.operation)
    (reads : ∀ reply cause, operator.FailsWith reply cause method ↔ read reply = .error cause) :
    p.Halts (operator.judgementOf method) own := by
  refine asks.halts (fun reply a hr => ⟨Method.of?_eq calls, fun cause fails => ?_⟩)
    fun reply cause hr => ⟨Method.of?_eq calls, (reads reply cause).mpr hr⟩
  have failed := (reads reply cause).mp fails
  rw [hr] at failed
  cases failed

end

theorem error_bind_ok {β : Type} {e : Except Failure α} {f : α → β} {cause : Failure} :
    e = .error cause ↔ (e.bind fun a => .ok (f a)) = .error cause := by
  cases e with
  | ok a => exact ⟨nofun, nofun⟩
  | error failure =>
      constructor
      · rintro ⟨rfl⟩
        rfl
      · rintro ⟨rfl⟩
        rfl

theorem uses_createStack (template : String) (parameters : Stack.Parameters) :
    operator.Uses .createStack
      (operator.stack.service.create operator.stack.name template parameters) :=
  operator.halts_of_asks .createStack (Stack.Service.asks_submit _ _ _ _ _ _) rfl fun _ _ => Iff.rfl

theorem uses_updateStack (parameters : Stack.Parameters) :
    operator.Uses .updateStack (operator.stack.service.update operator.stack.name parameters) :=
  operator.halts_of_asks .updateStack (Stack.Service.asks_submit _ _ _ _ _ _) rfl fun _ _ => Iff.rfl

theorem uses_deleteStack :
    operator.Uses .deleteStack (operator.stack.service.delete operator.stack.name) :=
  operator.halts_of_asks .deleteStack Program.asks_request rfl fun _ _ => error_bind_ok

theorem uses_status :
    operator.Uses .describeStacks (operator.stack.service.status operator.stack.name) :=
  operator.halts_of_asks .describeStacks Program.asks_request rfl fun _ _ => Iff.rfl

theorem uses_createCluster :
    operator.Uses .createCluster (Service.create operator.access operator.config.cluster) :=
  operator.halts_of_asks .createCluster (Service.asks_create _ _) rfl fun _ _ => Iff.rfl

theorem uses_deleteCluster :
    operator.Uses .deleteCluster (Service.delete operator.access operator.config.cluster) :=
  operator.halts_of_asks .deleteCluster (Service.asks_delete _ _) rfl fun _ _ => Iff.rfl

theorem uses_listTasks (desiredStatus : String) : operator.Uses .listTasks
    (Service.listTasks operator.access operator.config.cluster desiredStatus) :=
  operator.halts_of_asks .listTasks Program.asks_request rfl fun _ _ => Iff.rfl

/-- Whether the first cluster is active, in what was read of its status. -/
def Service.tellsActive (status : Option Json) : Bool :=
  status.bind Json.text? == some (Service.active : Text)

theorem asks_isActive :
    (Service.isActive operator.access operator.config.cluster).Asks
      (Service.activeCall operator.access operator.config.cluster)
      fun reply => (Service.statusIn operator.config.cluster reply).bind fun status =>
        .ok (Service.tellsActive status) := by
  refine Program.asks_request.andThen fun status es outcome h => ?_
  cases status with
  | none => exact h
  | some status =>
      unfold Service.tellsActive
      cases active : status.text? == some (Service.active : Text) with
      | true =>
          simp only [active, if_true] at h
          rw [Option.bind_some, active]
          exact h
      | false =>
          simp only [active, Bool.false_eq_true, if_false] at h
          rw [Option.bind_some, active]
          exact h

theorem uses_isActive :
    operator.Uses .describeClusters (Service.isActive operator.access operator.config.cluster) :=
  operator.halts_of_asks .describeClusters operator.asks_isActive rfl fun _ _ => error_bind_ok

theorem uses_describeTasks (tasks : List Json) : operator.Uses .describeTasks
    (Service.describeTasks operator.access operator.config.cluster tasks) := by
  refine Service.halts_gather (fun batch => ?_) _
  exact operator.halts_of_asks .describeTasks Program.asks_request rfl fun _ _ => Iff.rfl

theorem uses_instanceIds (arns : List Json) : operator.Uses .describeContainerInstances
    (Service.instanceIds operator.access operator.config.cluster arns) := by
  refine Program.halts_foldlM (fun entries batch => ?_) _ _
  exact operator.halts_of_asks .describeContainerInstances Program.asks_request rfl
    fun _ _ => Service.instancesIn_error_iff [] entries

theorem uses_describeInstances (ids : List Json) :
    operator.Uses .describeInstances (Instances.addresses operator.access ids) := by
  unfold Instances.addresses
  split
  · exact Program.halts_pure []
  · exact operator.halts_of_asks .describeInstances Program.asks_request rfl fun _ _ => Iff.rfl

theorem asks_recommended (instanceType profile : Option String) (region : String) :
    ∃ call, call.operation = "get-parameter" ∧
      ((Image.Source.recommended instanceType profile).find region).Asks call
        (Image.readRecommended (Image.Variant.ofInstanceType (instanceType.getD "")).parameter region) := by
  simp only [Image.Source.find, Image.chooseParameter]
  cases (Image.Variant.ofInstanceType (instanceType.getD "")).name? with
  | none => exact ⟨_, rfl, Program.asks_request⟩
  | some name => exact ⟨_, rfl, Program.asks_request⟩

/-- An image that is not listed is a failure of the look-up itself; a recommended one is asked for. -/
theorem halts_find {region : String} (here : operator.config.region.getD "" = region) :
    (operator.images.find region).Halts (operator.judgementOf .resolveImageId)
      fun failure => ∃ fault, failure = .image fault := by
  subst here
  cases images : operator.images with
  | listed table =>
      unfold Image.Source.find
      dsimp only
      split
      · exact Program.halts_pure _
      · exact Program.halts_fail ⟨_, rfl⟩
  | recommended instanceType profile =>
      obtain ⟨call, calls, asks⟩ := asks_recommended instanceType profile
        (operator.config.region.getD "")
      refine operator.halts_of_asks .resolveImageId asks calls fun reply cause => ⟨?_, fun h => ?_⟩
      · rintro ⟨type, owner, same, h⟩
        rw [images] at same
        cases same
        exact h
      · exact ⟨instanceType, profile, images, h⟩

end Operator

theorem Service.reportsActive_iff {cluster : String} {reply : Reply} : ReportsActive reply ↔
    (statusIn cluster reply).map Operator.Service.tellsActive = .ok true := by
  constructor
  · intro active
    rw [statusIn_active active]
    rfl
  intro told
  cases read : statusIn cluster reply with
  | error cause =>
      rw [read] at told
      cases told
  | ok status =>
      rw [read] at told
      cases status with
      | none => cases told
      | some status =>
          obtain ⟨answer, answered, read⟩ := ok_of_bind read
          obtain ⟨unfailed, first, others, listed, active⟩ :=
            readStatus_active cluster read (beq_iff_eq.mp (Except.ok.inj told))
          exact ⟨answer, first, others, answered, unfailed, listed, active⟩

end Cluster

end ClusterStack
