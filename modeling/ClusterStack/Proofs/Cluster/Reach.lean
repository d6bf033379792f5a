import ClusterStack.Proofs.Cluster.ResizeOrder
import ClusterStack.Proofs.Cluster.Unforeseen
/-!
# What a command can reach

Every call of a command is made in the region and with the profile of its configuration, and is about
the cluster or the stack of the configuration. Only the recommended image belongs to nobody, and the
instances that are asked for are those that the cluster has told of before.
-/
namespace ClusterStack.Cluster

/-- A description in the reply about container instances names this instance. -/
def Service.TellsInstance (id : Json) (reply : Reply) : Prop :=
  ∃ answer descriptions description,
    Aws.readReply "describe-container-instances" reply = .ok answer ∧
    Aws.Answer.elementsOf answer "containerInstances" = .ok descriptions ∧
    description ∈ descriptions ∧ Aws.Answer.member description "ec2InstanceId" = .ok id

namespace Config

variable (config : Config)

def invocation (service operation : String) (arguments : List Json) : Invocation :=
  ⟨service, operation, arguments, config.region, config.profile⟩

def stackCall (operation : String) (arguments : List Text) : Invocation :=
  config.invocation "cloudformation" operation
    (.str "--stack-name" :: .str config.stackName :: arguments.map Json.str)

def clusterCall (operation flag : String) (others : List Json) : Invocation :=
  config.invocation "ecs" operation (.str flag :: .str config.cluster :: others)

/-- The call is one of those that there are for a cluster. Identifiers of instances have to be told. -/
inductive Reaches (told : Json → Prop) : Invocation → Prop
  | createStack (template parameters : Text) : Reaches told (config.stackCall "create-stack"
      ["--template-body", template, "--capabilities", "CAPABILITY_IAM", "--parameters", parameters])
  | updateStack (parameters : Text) : Reaches told (config.stackCall "update-stack"
      ["--use-previous-template", "--capabilities", "CAPABILITY_IAM", "--parameters", parameters])
  | deleteStack : Reaches told (config.stackCall "delete-stack" [])
  | describeStacks : Reaches told (config.stackCall "describe-stacks" [])
  | newestEvents (count : Text) :
      Reaches told (config.stackCall "describe-stack-events" ["--max-items", count])
  | olderEvents (count token : Text) : Reaches told (config.stackCall "describe-stack-events"
      ["--max-items", count, "--starting-token", token])
  | createCluster : Reaches told (config.clusterCall "create-cluster" "--cluster-name" [])
  | deleteCluster : Reaches told (config.clusterCall "delete-cluster" "--cluster" [])
  | describeClusters : Reaches told (config.clusterCall "describe-clusters" "--clusters" [])
  | listTasks (status : String) : Reaches told (config.clusterCall "list-tasks" "--cluster"
      [.str "--desired-status", .str status])
  | describeTasks (tasks : List Json) : Reaches told (config.clusterCall "describe-tasks" "--cluster"
      (.str "--tasks" :: tasks))
  | describeContainerInstances (arns : List Json) : Reaches told
      (config.clusterCall "describe-container-instances" "--cluster"
        (.str "--container-instances" :: arns))
  | describeInstances {ids : List Json} : (∀ id ∈ ids, told id) → Reaches told
      (config.invocation "ec2" "describe-instances" (.str "--instance-ids" :: ids))
  | getParameter (name : String) : Reaches told
      (config.invocation "ssm" "get-parameter" [.str "--name", .str name])

/-- A reply about container instances of the cluster names this instance. -/
def Tells (es : List Exchange) (id : Json) : Prop :=
  ∃ e ∈ es, Service.TellsInstance id e.reply ∧ ∃ arns, e.call =
    config.clusterCall "describe-container-instances" "--cluster" (.str "--container-instances" :: arns)

/-- How every command line ends. -/
def lineEnd : List Json :=
  [.str "--output", .str "json"] ++
    ((nonempty? config.region).map fun region => [.str "--region", .str region]).getD [] ++
    ((nonempty? config.profile).map fun profile => [.str "--profile", .str profile]).getD []

/-- What the call names is the stack, the cluster or instances that were told of. -/
structure Names (told : Json → Prop) (call : Invocation) : Prop where
  stack : call.service = "cloudformation" → ∃ others : List Text,
    call.arguments = .str "--stack-name" :: .str config.stackName :: others.map Json.str
  cluster : call.service = "ecs" → ∃ flag others, flag ∈ ["--cluster-name", "--cluster", "--clusters"] ∧
    call.arguments = .str (Text.ofString flag) :: .str config.cluster :: others
  instances : call.service = "ec2" →
    ∃ ids, call.arguments = .str "--instance-ids" :: ids ∧ ∀ id ∈ ids, told id
  changes : call.operation ∉ readings → call.service = "cloudformation" ∨
    call.service = "ecs" ∧ ∃ flag : String, call.arguments = [.str flag, .str config.cluster]
  line : call.commandLine =
    .str call.service :: .str call.operation :: call.arguments ++ config.lineEnd

/-- Each call is about the cluster, and asks for no instances but those that were told of before. -/
def Keeps (es : List Exchange) : Prop :=
  ∀ before e after, es = before ++ e :: after → config.Reaches (config.Tells before) e.call

/-- The action calls nothing but what belongs to the cluster, and asks for no instances. -/
def Own : Action → Prop
  | .invoked call => config.Reaches (fun _ => False) call
  | _ => True

variable {config}

theorem Reaches.mono {told more : Json → Prop} {call : Invocation} (h : config.Reaches told call)
    (includes : ∀ id, told id → more id) : config.Reaches more call := by
  cases h with
  | describeInstances all => exact .describeInstances fun id member => includes id (all id member)
  | _ => constructor

theorem givenFlag_eq (flag : String) (value : Option String) : givenFlag flag value =
    ((nonempty? value).map fun given => [.str flag, .str given]).getD [] := by
  cases value with
  | none => rfl
  | some given =>
      by_cases empty : given = ""
      · rw [empty]
        rfl
      · simp [givenFlag, nonempty?, Option.filter, empty]

theorem commandLine_invocation (service operation : String) (arguments : List Json) :
    (config.invocation service operation arguments).commandLine =
      .str service :: .str operation :: arguments ++ config.lineEnd := by
  simp only [Invocation.commandLine, invocation, givenFlag_eq, lineEnd, List.append_assoc,
    List.cons_append]

section

variable {told : Json → Prop}

theorem names_stackCall (operation : String) (arguments : List Text) :
    config.Names told (config.stackCall operation arguments) where
  stack _ := ⟨arguments, rfl⟩
  cluster other := absurd other (show "cloudformation" ≠ "ecs" by decide)
  instances other := absurd other (show "cloudformation" ≠ "ec2" by decide)
  changes _ := .inl rfl
  line := commandLine_invocation ..

theorem names_clusterCall {operation flag : String} {others : List Json}
    (known : flag ∈ ["--cluster-name", "--cluster", "--clusters"])
    (small : operation ∈ readings ∨ others = []) :
    config.Names told (config.clusterCall operation flag others) where
  stack other := absurd other (show "ecs" ≠ "cloudformation" by decide)
  cluster _ := ⟨flag, others, known, rfl⟩
  instances other := absurd other (show "ecs" ≠ "ec2" by decide)
  changes change := by
    rcases small with reads | rfl
    · exact absurd reads change
    · exact .inr ⟨rfl, flag, rfl⟩
  line := commandLine_invocation ..

theorem names_describeInstances {ids : List Json} (all : ∀ id ∈ ids, told id) :
    config.Names told (config.invocation "ec2" "describe-instances" (.str "--instance-ids" :: ids)) where
  stack other := absurd other (show "ec2" ≠ "cloudformation" by decide)
  cluster other := absurd other (show "ec2" ≠ "ecs" by decide)
  instances _ := ⟨ids, rfl, all⟩
  changes change := absurd (show "describe-instances" ∈ readings by decide) change
  line := commandLine_invocation ..

theorem names_getParameter (name : String) :
    config.Names told (config.invocation "ssm" "get-parameter" [.str "--name", .str name]) where
  stack other := absurd other (show "ssm" ≠ "cloudformation" by decide)
  cluster other := absurd other (show "ssm" ≠ "ecs" by decide)
  instances other := absurd other (show "ssm" ≠ "ec2" by decide)
  changes change := absurd (show "get-parameter" ∈ readings by decide) change
  line := commandLine_invocation ..

theorem Reaches.names {call : Invocation} (h : config.Reaches told call) : config.Names told call := by
  cases h with
  | createCluster => exact names_clusterCall (by decide) (.inr rfl)
  | deleteCluster => exact names_clusterCall (by decide) (.inr rfl)
  | describeClusters => exact names_clusterCall (by decide) (.inl (by decide))
  | listTasks => exact names_clusterCall (by decide) (.inl (by decide))
  | describeTasks => exact names_clusterCall (by decide) (.inl (by decide))
  | describeContainerInstances => exact names_clusterCall (by decide) (.inl (by decide))
  | describeInstances all => exact names_describeInstances all
  | getParameter name => exact names_getParameter name
  | _ => exact names_stackCall _ _

end

theorem keeps_of_own {es : List Exchange} (own : ∀ e ∈ es, config.Own (.invoked e.call)) :
    config.Keeps es := by
  rintro before e after rfl
  have here := own e (List.mem_append_right before List.mem_cons_self)
  exact here.mono fun _ no => no.elim

theorem Keeps.snoc {es : List Exchange} {last : Exchange} (h : config.Keeps es)
    (reaches : config.Reaches (config.Tells es) last.call) : config.Keeps (es ++ [last]) := by
  intro before e after shape
  rcases List.eq_nil_or_concat after with rfl | ⟨others, final, rfl⟩
  · obtain ⟨rfl, same⟩ := List.append_inj' shape rfl
    obtain rfl := List.singleton_inj.mp same
    exact reaches
  · rw [List.concat_eq_append, ← List.cons_append, ← List.append_assoc] at shape
    exact h before e others (List.append_inj' shape rfl).1

end Config

namespace Operator

variable (operator : Operator)

theorem own_admits : operator.stack.Admits operator.config.Own where
  idle action quiet := by
    cases action with
    | invoked call => cases quiet
    | _ => trivial
  page token := by
    cases token with
    | none => exact .newestEvents _
    | some token =>
        change operator.config.Reaches _ (Stack.Handle.pageCall operator.stack (some token))
        unfold Stack.Handle.pageCall Stack.Handle.tokenArguments
        dsimp only
        split
        · exact .newestEvents _
        · exact .olderEvents _ token
  status := .describeStacks

theorem own_create (template : String) (parameters : Stack.Parameters) :
    (operator.stack.create template parameters).Does operator.config.Own := by
  refine Program.Does.remotely _ _ (Program.Does.bind ?_ fun id => ⟨trivial, trivial⟩)
  exact Program.does_request (.createStack template parameters.requestText)

theorem own_update (parameters : Stack.Parameters) :
    (operator.stack.update parameters).Does operator.config.Own := by
  refine Program.Does.remotely _ _ (Program.Does.bind ?_ fun id => ⟨trivial, trivial⟩)
  exact Program.does_request (.updateStack parameters.requestText)

theorem own_delete : operator.stack.delete.Does operator.config.Own :=
  Program.Does.remotely _ _ (Program.does_request .deleteStack)

theorem own_createCluster :
    ((Service.create operator.access operator.config.cluster).remotely "CreateCluster"
      operator.config.cluster).Does operator.config.Own := by
  refine Program.Does.remotely _ _ (Program.Does.bind ?_ fun name => ⟨trivial, trivial⟩)
  exact Program.does_request .createCluster

theorem own_deleteCluster :
    ((Service.delete operator.access operator.config.cluster).remotely "DeleteCluster"
      operator.config.cluster).Does operator.config.Own := by
  refine Program.Does.remotely _ _ (Program.Does.bind ?_ fun name => ⟨trivial, trivial⟩)
  exact Program.does_request .deleteCluster

theorem own_ensureActive :
    (operator.ensureActive operator.config.cluster).Does operator.config.Own :=
  operator.does_ensureActive (fun _ _ => trivial) .describeClusters

theorem own_tasks (desiredStatus : String) :
    (operator.tasks operator.config.cluster desiredStatus).Does operator.config.Own :=
  operator.does_tasks_of (.listTasks desiredStatus) .describeTasks

theorem own_onStanding {α : Type} {act : Stack.Handle → Program α}
    (acts : (act operator.stack).Does operator.config.Own) :
    (operator.onStanding act).Does operator.config.Own := by
  refine operator.own_ensureActive.bind fun _ => ?_
  unfold existingStack
  rw [Program.bind_assoc]
  refine operator.own_admits.does_exists.bind fun found => ?_
  rw [Program.bind_assoc]
  exact (does_ensure _ _).bind fun _ => acts

theorem own_dismantle : (operator.dismantle operator.stack).Does operator.config.Own := by
  refine operator.own_delete.bind fun _ => ⟨trivial, ?_⟩
  refine (operator.own_admits.does_awaitDeletion operator.pages).bind fun _ => ?_
  exact operator.own_deleteCluster.bind fun _ => trivial

theorem own_adjust (size : Nat) : (operator.adjust size operator.stack).Does operator.config.Own :=
  (operator.own_update _).bind fun _ => ⟨trivial, operator.own_admits.does_awaitUpdate operator.pages⟩

variable {operator}

/-- Where a recommended image is looked up, it is with the profile of the configuration, and the
template is at hand. -/
structure Settled (operator : Operator) : Prop where
  images : ∀ instanceType profile, operator.images = .recommended instanceType profile →
    profile = operator.config.profile
  template : ∃ read, operator.template = .ofExcept read

namespace Settled

variable (settled : operator.Settled)

include settled

theorem own_withImage (parameters : Stack.Parameters) :
    (operator.withImage parameters).Does operator.config.Own := by
  refine operator.does_withImage (fun _ _ => trivial) (fun region call given asks => ?_) parameters
  generalize source : operator.images = images at asks
  cases asks with
  | recommended instanceType profile parameter =>
      obtain rfl := settled.images instanceType profile source
      rw [← Option.eq_some_of_filter_eq_some given]
      exact .getParameter parameter

theorem own_createStack (parameters : Stack.Parameters) :
    (operator.createStack parameters).Does operator.config.Own := by
  obtain ⟨read, atHand⟩ := settled.template
  unfold createStack
  rw [atHand]
  refine Program.Does.bind (Program.Does.remotely _ _ (Program.does_ofExcept read)) fun template => ?_
  refine (operator.own_create template parameters).bind fun id => ⟨trivial, ?_⟩
  exact (operator.own_admits.does_awaitCreation operator.pages).bind fun _ => trivial

theorem own_furnish (parameters : Stack.Parameters) (replacing : Bool) :
    (operator.furnish parameters replacing).Does operator.config.Own := by
  refine (does_ensure _ _).bind fun _ => (does_ensureNetwork _).bind fun _ => ?_
  refine (settled.own_withImage parameters).bind fun complete => ?_
  refine (Program.does_ofExcept _).bind fun _ => operator.own_createCluster.bind fun _ => ?_
  cases replacing with
  | false => exact settled.own_createStack complete
  | true =>
      refine Program.Does.bind ?_ fun _ => settled.own_createStack complete
      exact operator.own_delete.bind fun _ =>
        ⟨trivial, operator.own_admits.does_awaitDeletion operator.pages⟩

end Settled

section

variable {entries entries' : List (Json × Json)}

theorem mem_insertBy {same : Json → Json → Bool} {k v : Json} {q : Json × Json}
    (h : q ∈ Association.insertBy same k v entries) : q.2 = v ∨ q ∈ entries := by
  induction entries with
  | nil =>
      obtain rfl := List.mem_singleton.mp h
      exact .inl rfl
  | cons first rest ih =>
      rw [Association.insertBy] at h
      split at h
      · rcases List.mem_cons.mp h with rfl | later
        · exact .inl rfl
        · exact .inr (List.mem_cons_of_mem first later)
      · rcases List.mem_cons.mp h with rfl | later
        · exact .inr List.mem_cons_self
        · exact (ih later).imp_right (List.mem_cons_of_mem first)

theorem readInstance_told {description : Json}
    (h : Service.readInstance entries description = .ok entries') :
    ∀ q ∈ entries', q ∈ entries ∨ Aws.Answer.member description "ec2InstanceId" = .ok q.2 := by
  intro q member
  obtain ⟨arn, -, h⟩ := ok_of_bind h
  split at h
  · cases h
    exact .inl member
  obtain ⟨id, read, h⟩ := ok_of_bind h
  split at h
  · cases h
    exact .inl member
  unfold Aws.Answer.store at h
  cases known : Aws.Answer.key arn with
  | error failure =>
      rw [known] at h
      cases h
  | ok key =>
      rw [known] at h
      cases h
      rcases mem_insertBy member with same | old
      · exact .inr (same ▸ read)
      · exact .inl old

theorem instancesIn_told {reply : Reply} (h : Service.instancesIn entries reply = .ok entries') :
    ∀ q ∈ entries', q ∈ entries ∨ Service.TellsInstance q.2 reply := by
  obtain ⟨answer, answered, h⟩ := ok_of_bind h
  obtain ⟨descriptions, listed, h⟩ := ok_of_bind h
  have all : ∀ more : List Json, more ⊆ descriptions → ∀ entries : List (Json × Json),
      more.foldlM Service.readInstance entries = .ok entries' →
      ∀ q ∈ entries', q ∈ entries ∨ Service.TellsInstance q.2 reply := by
    intro more
    induction more with
    | nil =>
        rintro - entries ⟨rfl⟩ q member
        exact .inl member
    | cons description rest ih =>
        intro inside entries h q member
        rw [List.foldlM_cons] at h
        obtain ⟨next, first, others⟩ := ok_of_bind h
        obtain ⟨here, later⟩ := List.cons_subset.mp inside
        rcases ih later next others q member with old | told
        · rcases readInstance_told first q old with old | told
          · exact .inl old
          · exact .inr ⟨answer, descriptions, description, answered, listed, here, told⟩
        · exact .inr told
  exact all descriptions (List.Subset.refl _) entries h

theorem instancesIn_all_told {replies : List Reply}
    (h : replies.foldlM Service.instancesIn entries = .ok entries') :
    ∀ q ∈ entries', q ∈ entries ∨ ∃ reply ∈ replies, Service.TellsInstance q.2 reply := by
  induction replies generalizing entries with
  | nil =>
      cases h
      exact fun q member => .inl member
  | cons reply rest ih =>
      intro q member
      rw [List.foldlM_cons] at h
      obtain ⟨next, first, others⟩ := ok_of_bind h
      rcases ih others q member with old | ⟨later, inside, told⟩
      · rcases instancesIn_told first q old with old | told
        · exact .inl old
        · exact .inr ⟨reply, List.mem_cons_self, told⟩
      · exact .inr ⟨later, List.mem_cons_of_mem reply inside, told⟩

theorem mem_distinct {values : List Json} {v : Json} (h : v ∈ Json.distinct values) : v ∈ values := by
  have all : ∀ (more kept : List Json), v ∈ more.foldl (fun kept v =>
      if kept.any (Json.sameKey · v) then kept else kept ++ [v]) kept → v ∈ kept ∨ v ∈ more := by
    intro more
    induction more with
    | nil => exact fun kept member => .inl member
    | cons first rest ih =>
        intro kept member
        rcases ih _ member with old | later
        · dsimp only at old
          split at old
          · exact .inl old
          · rcases List.mem_append.mp old with old | new
            · exact .inl old
            · exact .inr (List.mem_cons.mpr (.inl (List.mem_singleton.mp new)))
        · exact .inr (List.mem_cons_of_mem first later)
  exact (all values [] h).resolve_left nofun

theorem mapM_key {values keyed : List Json} (h : values.mapM Aws.Answer.key = .ok keyed) :
    keyed = values := by
  induction values generalizing keyed with
  | nil =>
      cases h
      rfl
  | cons v rest ih =>
      rw [List.mapM_cons] at h
      obtain ⟨w, first, h⟩ := ok_of_bind h
      obtain ⟨others, later, h⟩ := ok_of_bind h
      cases h
      unfold Aws.Answer.key at first
      split at first
      · cases first
        rw [ih later]
      · cases first

theorem distinctValues_subset {ids : List Json} (h : distinctValues entries = .ok ids) :
    ∀ id ∈ ids, ∃ q ∈ entries, q.2 = id := by
  obtain ⟨values, keyed, h⟩ := ok_of_bind h
  obtain rfl := mapM_key keyed
  intro id member
  apply List.mem_map.mp
  apply mem_distinct
  unfold Json.sort? at h
  split at h
  · rename_i sorted found
    cases h
    split at found
    · cases found
      exact member
    · split at found
      · cases found
        exact List.mem_mergeSort.mp member
      · cases found
  · cases h

end

/-- A listing asks for instances only in its last call, and for those that its own calls before have
told of. -/
theorem keeps_list {es : List Exchange} {outcome : Outcome (List ContainerRow)}
    (h : operator.list.Plays es outcome) : operator.config.Keeps es := by
  rcases operator.plays_list_guarded h with ⟨rfl, -⟩ | ⟨-, h₁⟩
  · exact Config.keeps_of_own nofun
  have active : operator.activeTasks.Does operator.config.Own :=
    operator.own_ensureActive.bind fun _ => (operator.own_tasks _).bind fun _ =>
      (operator.own_tasks _).bind fun _ => trivial
  rw [operator.listActive_eq] at h₁
  obtain ⟨asked, inner, rest, rfl, listed, follows⟩ := Program.follows_of_plays h₁
  have own := active.plays listed
  cases inner with
  | failed failure =>
      obtain ⟨rfl, -⟩ := follows
      rw [List.append_nil]
      exact Config.keeps_of_own own
  | unfinished =>
      obtain ⟨rfl, -⟩ := follows
      rw [List.append_nil]
      exact Config.keeps_of_own own
  | done tasks =>
      obtain ⟨_, located, -⟩ := Program.plays_map.mp follows
      rcases plays_addresses located with ⟨rfl, -⟩ | ⟨described, last, rfl, -, all, found⟩
      · rw [List.append_nil]
        exact Config.keeps_of_own own
      have keeps : operator.config.Keeps (asked ++ described) := by
        refine Config.keeps_of_own fun e member => ?_
        rcases List.mem_append.mp member with early | late
        · exact own e early
        · obtain ⟨arns, asks⟩ := all e late
          rw [asks]
          exact .describeContainerInstances arns
      rw [← List.append_assoc]
      cases found with
      | unread none | unsorted none =>
          rw [none, List.append_nil]
          exact keeps
      | @sorted entries ids read sorted looked =>
          rcases looked with rfl | ⟨reply, rfl⟩
          · rw [List.append_nil]
            exact keeps
          refine keeps.snoc (.describeInstances fun id member => ?_)
          obtain ⟨q, inside, rfl⟩ := distinctValues_subset sorted id member
          obtain ⟨reply, replied, told⟩ := (instancesIn_all_told read q inside).resolve_left nofun
          obtain ⟨e, here, rfl⟩ := List.mem_map.mp replied
          exact ⟨e, List.mem_append_right asked here, told, all e here⟩

/-- Every command keeps to its cluster. -/
theorem keeps_perform (settled : operator.Settled) {command : Command} {es : List Exchange}
    {outcome : Outcome command.Answer} (h : (operator.perform command).Plays es outcome) :
    operator.config.Keeps es := by
  cases command with
  | creation o =>
      rcases operator.plays_create_guarded h with ⟨rfl, -⟩ | ⟨-, -, size, -, h₁⟩
      · exact Config.keeps_of_own nofun
      · have own : (operator.ensureRoom operator.config.cluster o.force).Does operator.config.Own :=
          operator.own_admits.does_exists.bind fun _ => (does_ensure _ _).bind fun _ => trivial
        exact Config.keeps_of_own ((own.bind fun _ => settled.own_furnish _ _).plays h₁)
  | deletion o =>
      rcases operator.plays_delete_guarded h with ⟨rfl, -⟩ | ⟨-, -, h₁⟩
      · exact Config.keeps_of_own nofun
      · exact Config.keeps_of_own ((operator.own_onStanding operator.own_dismantle).plays h₁)
  | resizing o =>
      rcases operator.plays_resize_guarded h with ⟨rfl, -⟩ | ⟨-, -, text, size, -, -, h₁⟩
      · exact Config.keeps_of_own nofun
      · exact Config.keeps_of_own ((operator.own_onStanding (operator.own_adjust size)).plays h₁)
  | listing => exact keeps_list h

end Operator

end ClusterStack.Cluster
