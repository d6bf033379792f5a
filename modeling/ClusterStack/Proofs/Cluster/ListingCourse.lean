import ClusterStack.Proofs.Cluster.Placement
import ClusterStack.Proofs.Cluster.Unforeseen
/-!
# The course of a listing

Where all replies to a listing are well-formed, it goes through five kinds of calls. What each of them
asks is told by the replies to those before it, and the rows are told by all of them together.
-/
namespace ClusterStack.Cluster

/-- The reply to the call is well-formed, and the cluster is active in it if it is about the cluster. -/
structure WellAnswered (e : Exchange) : Prop where
  active : e.call.operation = "describe-clusters" → Service.ReportsActive e.reply
  listed : e.call.operation = "list-tasks" → ∃ arns, Service.arnsIn e.reply = .ok arns
  described : e.call.operation = "describe-tasks" → ∃ tasks, Service.tasksIn e.reply = .ok tasks
  placed : e.call.operation = "describe-container-instances" →
    ∃ placements, Service.placementsIn e.reply = some placements
  located : e.call.operation = "describe-instances" →
    ∃ reports, Instances.reportsIn e.reply = some reports

theorem exists_ok_iff {α : Type} {e : Except Failure α} : (∃ a, e = .ok a) ↔ e.isOk = true := by
  cases e with
  | ok a => exact iff_of_true ⟨a, rfl⟩ rfl
  | error failure => exact iff_of_false nofun nofun

theorem wellAnswered_iff {e : Exchange} : WellAnswered e ↔
    (e.call.operation = "describe-clusters" →
      (Service.statusIn "" e.reply).map Operator.Service.tellsActive = .ok true) ∧
    (e.call.operation = "list-tasks" → (Service.arnsIn e.reply).isOk = true) ∧
    (e.call.operation = "describe-tasks" → (Service.tasksIn e.reply).isOk = true) ∧
    (e.call.operation = "describe-container-instances" →
      (Service.placementsIn e.reply).isSome = true) ∧
    (e.call.operation = "describe-instances" → (Instances.reportsIn e.reply).isSome = true) := by
  simp only [← Service.reportsActive_iff, ← exists_ok_iff, Option.isSome_iff_exists]
  constructor
  · rintro ⟨active, listed, described, placed, located⟩
    exact ⟨active, listed, described, placed, located⟩
  · rintro ⟨active, listed, described, placed, located⟩
    exact ⟨active, listed, described, placed, located⟩

instance (e : Exchange) : Decidable (WellAnswered e) := decidable_of_iff _ wellAnswered_iff.symm

/-- What all replies to the calls of an operation tell. -/
def told {α : Type} (operation : String) (read : Reply → List α) (es : List Exchange) : List α :=
  (repliesTo operation es).flatMap read

def tasksTold : List Exchange → List Task :=
  told "describe-tasks" fun reply => (Service.tasksIn reply).toOption.getD []

def placementsTold : List Exchange → List (Text × Text) :=
  told "describe-container-instances" fun reply => (Service.placementsIn reply).getD []

def reportsTold : List Exchange → List (Text × Option Text) :=
  told "describe-instances" fun reply => (Instances.reportsIn reply).getD []

section

variable {α : Type} {operation : String} {read : Reply → List α} {es : List Exchange}

theorem told_append (first rest : List Exchange) :
    told operation read (first ++ rest) = told operation read first ++ told operation read rest := by
  simp only [told, repliesTo_append, List.flatMap_append]

theorem told_of_others (others : ∀ e ∈ es, e.call.operation ≠ operation) :
    told operation read es = [] := by
  rw [told, repliesTo_of_others others, List.flatMap_nil]

theorem told_of_known {known : List String} (kinds : ∀ e ∈ es, e.call.operation ∈ known)
    (other : operation ∉ known) : told operation read es = [] :=
  told_of_others fun e member same => other (same ▸ kinds e member)

theorem told_of_all (all : ∀ e ∈ es, e.call.operation = operation) :
    told operation read es = es.flatMap fun e => read e.reply := by
  rw [told, repliesTo_of_all all, List.flatMap_map]

end

/-- All items are passed on once and in order, at most a hundred in a call. -/
def Batched (call : List Json → Invocation) (items : List Json) (asked : List Exchange) : Prop :=
  ∃ parts : List (List Json), parts.flatten = items ∧ (∀ part ∈ parts, part ≠ [] ∧ part.length ≤ 100) ∧
    asked.map Exchange.call = parts.map call

theorem batchesOf_flatten {α : Type} {count : Nat} {items : List α} (enough : items.length ≤ count) :
    (Service.batchesOf Service.batchSize count items).flatten = items := by
  induction count generalizing items with
  | zero =>
      cases items with
      | nil => rfl
      | cons item rest => cases enough
  | succ count ih =>
      cases items with
      | nil => rfl
      | cons item rest =>
          have fewer : ((item :: rest).drop Service.batchSize).length ≤ count := by
            simp only [List.length_drop, List.length_cons, Service.batchSize] at enough ⊢
            omega
          change ((item :: rest).take Service.batchSize ++ (Service.batchesOf _ count _).flatten) = _
          rw [ih fewer, List.take_append_drop]

theorem batchesOf_bounded {α : Type} (count : Nat) (items : List α) :
    ∀ part ∈ Service.batchesOf Service.batchSize count items, part ≠ [] ∧ part.length ≤ 100 := by
  induction count generalizing items with
  | zero => cases items <;> exact nofun
  | succ count ih =>
      cases items with
      | nil => exact nofun
      | cons item rest =>
          refine List.forall_mem_cons.mpr ⟨⟨?_, List.length_take_le _ _⟩, ih _⟩
          exact List.cons_ne_nil item (rest.take 99)

theorem batched_batches {call : List Json → Invocation} {items : List Json} {asked : List Exchange}
    (calls : asked.map Exchange.call = (Service.batches items).map call) : Batched call items asked :=
  ⟨Service.batches items, batchesOf_flatten (Nat.le_refl _), batchesOf_bounded _ _, calls⟩

namespace Operator

variable (operator : Operator)

/-- The tasks of this desired status are listed, and then the listed ones are described. -/
def AsksTasks (status : String) (asked : List Exchange) : Prop :=
  ∃ listed arns described,
    asked = ⟨Service.tasksCall operator.access operator.config.cluster status, listed⟩ :: described ∧
    Service.arnsIn listed = .ok arns ∧
    Batched (Service.descriptionCall operator.access operator.config.cluster) arns described

/-- The container instances of the tasks are described, each once and in order. -/
def AsksPlacements (tasks : List Task) (asked : List Exchange) : Prop :=
  ∃ arns, Text.Enumerates arns (fun arn => arn.isEmpty = false ∧
      ∃ task ∈ tasks, task.containerInstance = some arn) ∧
    Batched (Service.instancesCall operator.access operator.config.cluster) (arns.map .str) asked

/-- The instances that container instances are known to be are described in one call, each once and in
order, if there are any. -/
def AsksAddresses (placements : List (Text × Text)) (asked : List Exchange) : Prop :=
  ∃ ids, Text.Enumerates ids (fun id => ∃ arn, lastTold placements arn = some id) ∧
    asked.map Exchange.call =
      if ids = [] then [] else [Instances.addressesCall operator.access (ids.map .str)]

/-- A listing of an active cluster asks for the tasks of either status, and then for where they are. -/
structure Course (es : List Exchange) (active : Reply) (ran halted placed located : List Exchange) :
    Prop where
  shape : es = ⟨Service.activeCall operator.access operator.config.cluster, active⟩ ::
    (ran ++ (halted ++ (placed ++ located)))
  isActive : Service.ReportsActive active
  asksRunning : operator.AsksTasks running ran
  asksStopped : operator.AsksTasks stopped halted
  tasks : tasksTold es = tasksTold ran ++ tasksTold halted
  asksPlacements : operator.AsksPlacements (tasksTold es) placed
  asksAddresses : operator.AsksAddresses (placementsTold es) located

end Operator

/-- Described one after another in well-formed replies, the results are put together in order. -/
theorem Service.plays_gather {α β : Type} {act : α → Program (List β)} {call : α → Invocation}
    {read : Reply → Except Failure (List β)} (asks : ∀ a, (act a).Asks (call a) read) {items : List α}
    {es : List Exchange} {outcome : Outcome (List β)} (h : (gather act items).Plays es outcome)
    (fit : ∀ e ∈ es, (∃ a, e.call = call a) → ∃ told, read e.reply = .ok told) :
    es.map Exchange.call = items.map call ∧
      outcome = .done (es.flatMap fun e => (read e.reply).toOption.getD []) := by
  induction items generalizing es outcome with
  | nil =>
      obtain ⟨rfl, rfl⟩ := h
      exact ⟨rfl, rfl⟩
  | cons a rest ih =>
      obtain ⟨reply, others, rfl, ⟨first, read, h⟩ | ⟨failure, unread, -⟩⟩ := (asks a).bind h
      · obtain ⟨inner, later, rfl⟩ := Program.plays_map.mp h
        obtain ⟨calls, rfl⟩ := ih later fun e member => fit e (List.mem_cons_of_mem _ member)
        refine ⟨congrArg (call a :: ·) calls, ?_⟩
        simp only [List.flatMap_cons, read]
        rfl
      · obtain ⟨told, read⟩ := fit _ List.mem_cons_self ⟨a, rfl⟩
        rw [unread] at read
        cases read

theorem call_of_calls {ι : Type} {call : ι → Invocation} {items : List ι} {es : List Exchange}
    (calls : es.map Exchange.call = items.map call) : ∀ e ∈ es, ∃ item, e.call = call item := by
  intro e member
  have among : e.call ∈ items.map call := by
    rw [← calls]
    exact List.mem_map_of_mem member
  obtain ⟨item, -, same⟩ := List.mem_map.mp among
  exact ⟨item, same.symm⟩

theorem Instances.plays_addresses_told {access : Aws.Access} {ids : List Text} {es : List Exchange}
    {outcome : Outcome (List (Json × Json))} (h : (addresses access (ids.map .str)).Plays es outcome)
    (well : ∀ e ∈ es, WellAnswered e) :
    es.map Exchange.call = (if ids = [] then [] else [addressesCall access (ids.map .str)]) ∧
      outcome = .done (table Json.ofText? (reportsTold es)) := by
  rcases plays_addresses h with ⟨none, rfl, rfl⟩ | ⟨wanted, reply, rfl, rfl⟩
  · rw [if_pos (List.map_eq_nil_iff.mp none)]
    exact ⟨rfl, rfl⟩
  · obtain ⟨reports, read⟩ := (well _ (List.mem_singleton_self _)).located rfl
    have one : ∀ e ∈ [Exchange.mk (addressesCall access (ids.map .str)) reply],
        e.call.operation = "describe-instances" := List.forall_mem_singleton.mpr rfl
    rw [if_neg fun none => wanted (List.map_eq_nil_iff.mpr none), reportsTold, told_of_all one,
      List.flatMap_singleton, read, addressesIn_of_reports read]
    exact ⟨rfl, rfl⟩

namespace Operator

variable {operator : Operator} {es : List Exchange}

theorem plays_tasks_told {status : String} {outcome : Outcome (List Task)}
    (h : (operator.tasks operator.config.cluster status).Plays es outcome)
    (well : ∀ e ∈ es, WellAnswered e) :
    operator.AsksTasks status es ∧ outcome = .done (tasksTold es) := by
  have lists : (Service.listTasks operator.access operator.config.cluster status).Asks
      (Service.tasksCall operator.access operator.config.cluster status) Service.arnsIn :=
    Program.asks_request
  have describes (part : List Json) :
      (Service.describeBatch operator.access operator.config.cluster part).Asks
        (Service.descriptionCall operator.access operator.config.cluster part) Service.tasksIn :=
    Program.asks_request
  obtain ⟨listed, described, rfl, ⟨arns, read, h⟩ | ⟨failure, unread, -⟩⟩ :=
    (lists.remotely "ListTasks" operator.config.cluster).bind h
  · have both : described.map Exchange.call = (Service.batches arns).map
          (Service.descriptionCall operator.access operator.config.cluster) ∧
        outcome = .done (described.flatMap fun e => (Service.tasksIn e.reply).toOption.getD []) := by
      split at h
      · rename_i none
        obtain ⟨rfl, rfl⟩ := h
        rw [List.isEmpty_iff.mp none]
        exact ⟨rfl, rfl⟩
      · obtain ⟨inner, gathered, rfl⟩ := Program.plays_mapFailure.mp h
        obtain ⟨calls, rfl⟩ := Service.plays_gather describes gathered fun e member ⟨part, call⟩ =>
          (well e (List.mem_cons_of_mem _ member)).described (congrArg Invocation.operation call)
        exact ⟨calls, rfl⟩
    obtain ⟨calls, rfl⟩ := both
    have describe : ∀ e ∈ described, e.call.operation = "describe-tasks" := by
      intro e member
      obtain ⟨part, call⟩ := call_of_calls calls e member
      exact congrArg Invocation.operation call
    refine ⟨⟨listed, arns, described, rfl, mapError_eq_ok_iff.mp read, batched_batches calls⟩, ?_⟩
    rw [tasksTold, ← List.singleton_append, told_append, told_of_all describe, told_of_others,
      List.nil_append]
    refine List.forall_mem_singleton.mpr ?_
    change "list-tasks" ≠ "describe-tasks"
    decide
  · obtain ⟨arns, read⟩ := (well _ List.mem_cons_self).listed rfl
    rw [mapError_eq_ok_iff.mpr read] at unread
    cases unread

theorem foldlM_placementsTold {placed : List Exchange}
    (describe : ∀ e ∈ placed, e.call.operation = "describe-container-instances")
    (well : ∀ e ∈ placed, WellAnswered e) :
    (placed.map Exchange.reply).foldlM Service.instancesIn [] =
      .ok (table .str (placementsTold placed)) := by
  have fit : ∀ reply ∈ placed.map Exchange.reply,
      Service.placementsIn reply = some ((Service.placementsIn reply).getD []) := by
    refine List.forall_mem_map.mpr fun e inside => ?_
    obtain ⟨told, read⟩ := (well e inside).placed (describe e inside)
    rw [read]
    rfl
  have read := Service.adds_placements.foldlM (mapM_eq_some fit) []
  rw [placementsTold, told_of_all describe]
  rw [List.nil_append, List.map_map] at read
  exact read

theorem AsksTasks.operations {status : String} (asks : operator.AsksTasks status es) :
    ∀ e ∈ es, e.call.operation ∈ ["list-tasks", "describe-tasks"] := by
  obtain ⟨listed, arns, described, rfl, -, parts, -, -, calls⟩ := asks
  refine List.forall_mem_cons.mpr ⟨List.mem_cons_self, fun e member => ?_⟩
  obtain ⟨part, call⟩ := call_of_calls calls e member
  rw [call]
  exact List.mem_cons_of_mem _ List.mem_cons_self

theorem AsksPlacements.operations {tasks : List Task} (asks : operator.AsksPlacements tasks es) :
    ∀ e ∈ es, e.call.operation ∈ ["describe-container-instances"] := by
  obtain ⟨arns, -, parts, -, -, calls⟩ := asks
  intro e member
  obtain ⟨part, call⟩ := call_of_calls calls e member
  rw [call]
  exact List.mem_cons_self

theorem AsksAddresses.operations {placements : List (Text × Text)}
    (asks : operator.AsksAddresses placements es) :
    ∀ e ∈ es, e.call.operation ∈ ["describe-instances"] := by
  obtain ⟨ids, -, calls⟩ := asks
  intro e member
  have among := List.mem_map_of_mem (f := Exchange.call) member
  rw [calls] at among
  split at among
  · cases among
  · rw [List.mem_singleton.mp among]
    exact List.mem_cons_self

theorem plays_addresses_told {tasks : List Task} {outcome : Outcome (List (Json × Json))}
    (h : (operator.addresses operator.config.cluster tasks).Plays es outcome)
    (well : ∀ e ∈ es, WellAnswered e) :
    ∃ placed located, es = placed ++ located ∧ operator.AsksPlacements tasks placed ∧
      operator.AsksAddresses (placementsTold placed) located ∧
      outcome = .done (joined (placementsTold placed) (reportsTold located)) := by
  have asked := enumerates_containerInstances tasks
  rcases plays_addresses_described h with
    ⟨nowhere, rfl, rfl⟩ | ⟨placed, located, rfl, -, calls, follows⟩
  · rw [List.map_eq_nil_iff.mp nowhere] at asked
    have none : Text.Enumerates [] fun id => ∃ arn, lastTold (placementsTold []) arn = some id :=
      ⟨.nil, fun id => iff_of_false List.not_mem_nil (fun ⟨arn, no⟩ => by cases no)⟩
    exact ⟨[], [], rfl, ⟨[], asked, batched_batches rfl⟩, ⟨[], none, rfl⟩, rfl⟩
  obtain ⟨wellPlaced, wellLocated⟩ := List.forall_mem_append.mp well
  have describe : ∀ e ∈ placed, e.call.operation = "describe-container-instances" := by
    intro e member
    obtain ⟨part, -, same⟩ := List.mem_map.mp (calls.subset (List.mem_map_of_mem member))
    rw [← same]
    rfl
  have read := foldlM_placementsTold describe wellPlaced
  rcases follows with ⟨cause, unread, -⟩ | ⟨entries, told, complete, follows⟩
  · rw [read] at unread
    cases unread
  rw [read] at told
  cases told
  obtain ⟨ids, sorted, enumerates⟩ := distinctValues_table (placementsTold placed)
  unfold locate at follows
  rw [sorted] at follows
  obtain ⟨_, reported, rfl⟩ := Program.plays_map.mp follows
  obtain ⟨_, looked, rfl⟩ := Program.plays_mapFailure.mp reported
  obtain ⟨asks, rfl⟩ := Instances.plays_addresses_told looked wellLocated
  exact ⟨placed, located, rfl, ⟨_, asked, batched_batches complete⟩, ⟨ids, enumerates, asks⟩, rfl⟩

/-- The row of a container, with the address that is told of its task. -/
def rowTold (placements : List (Text × Text)) (reports : List (Text × Option Text)) (task : Task)
    (c : Container) : ContainerRow :=
  ContainerRow.ofContainer (Text.shownIfGiven (publicAddress? placements reports task)) task c

theorem keys_of_placementsTold (es : List Exchange) :
    ∀ p ∈ placementsTold es, p.1.isEmpty = false := by
  intro p member
  obtain ⟨reply, -, inside⟩ := List.mem_flatMap.mp member
  cases read : Service.placementsIn reply with
  | none =>
      rw [read] at inside
      cases inside
  | some placements =>
      rw [read] at inside
      exact Service.keys_of_placements read p inside

theorem plays_ensureActive_told {α : Type} {f : Unit → Program α} {outcome : Outcome α}
    (h : (operator.ensureActive operator.config.cluster >>= f).Plays es outcome)
    (well : ∀ e ∈ es, WellAnswered e) :
    ∃ active rest, es = ⟨Service.activeCall operator.access operator.config.cluster, active⟩ :: rest ∧
      Service.ReportsActive active ∧ (f ()).Plays rest outcome := by
  rw [ensureActive, Program.bind_assoc] at h
  obtain ⟨active, rest, rfl, known⟩ :=
    (operator.asks_isActive.remotely "DescribeClusters" operator.config.cluster).bind h
  have reports := (well _ List.mem_cons_self).active rfl
  rw [Service.statusIn_active reports] at known
  rcases known with ⟨found, ⟨rfl⟩, h⟩ | ⟨failure, no, -⟩
  · exact ⟨active, rest, rfl, reports, h⟩
  · cases no

/-- Each kind of call tells its part alone. -/
theorem told_listing {active : Reply} {ran halted placed located : List Exchange} {tasks : List Task}
    {placements : List (Text × Text)} (asksRunning : operator.AsksTasks running ran)
    (asksStopped : operator.AsksTasks stopped halted)
    (asksPlacements : operator.AsksPlacements tasks placed)
    (asksAddresses : operator.AsksAddresses placements located) :
    let es := ⟨Service.activeCall operator.access operator.config.cluster, active⟩ ::
      (ran ++ (halted ++ (placed ++ located)))
    tasksTold es = tasksTold ran ++ tasksTold halted ∧ placementsTold es = placementsTold placed ∧
      reportsTold es = reportsTold located := by
  have first : ∀ e ∈ [Exchange.mk (Service.activeCall operator.access operator.config.cluster) active],
      e.call.operation ∈ ["describe-clusters"] := List.forall_mem_singleton.mpr List.mem_cons_self
  have second := asksRunning.operations
  have third := asksStopped.operations
  have fourth := asksPlacements.operations
  have fifth := asksAddresses.operations
  simp only [← List.singleton_append (l := ran ++ _), tasksTold, placementsTold, reportsTold, told_append]
  refine ⟨?_, ?_, ?_⟩
  · rw [told_of_known first (by decide), told_of_known fourth (by decide),
      told_of_known fifth (by decide)]
    simp only [List.nil_append, List.append_nil]
  · rw [told_of_known first (by decide), told_of_known second (by decide),
      told_of_known third (by decide), told_of_known fifth (by decide)]
    simp only [List.nil_append, List.append_nil]
  · rw [told_of_known first (by decide), told_of_known second (by decide),
      told_of_known third (by decide), told_of_known fourth (by decide)]
    simp only [List.nil_append]

theorem plays_listActive_told {outcome : Outcome (List ContainerRow)}
    (h : operator.listActive.Plays es outcome) (well : ∀ e ∈ es, WellAnswered e) :
    (∃ active ran halted placed located, operator.Course es active ran halted placed located) ∧
      outcome = .done ((tasksTold es).flatMap fun task =>
        task.containers.map (rowTold (placementsTold es) (reportsTold es) task)) := by
  obtain ⟨active, rest, rfl, reports, h⟩ := plays_ensureActive_told h well
  have well := (List.forall_mem_cons.mp well).2
  obtain ⟨ran, inner, rest, rfl, first, h⟩ := Program.follows_of_plays h
  obtain ⟨wellRan, well⟩ := List.forall_mem_append.mp well
  obtain ⟨asksRunning, rfl⟩ := plays_tasks_told first wellRan
  obtain ⟨halted, inner, rest, rfl, second, h⟩ := Program.follows_of_plays h
  obtain ⟨wellHalted, well⟩ := List.forall_mem_append.mp well
  obtain ⟨asksStopped, rfl⟩ := plays_tasks_told second wellHalted
  obtain ⟨looked, inner, rest, rfl, third, h⟩ := Program.follows_of_plays h
  obtain ⟨wellLooked, -⟩ := List.forall_mem_append.mp well
  obtain ⟨placed, located, rfl, asksPlacements, asksAddresses, rfl⟩ :=
    plays_addresses_told third wellLooked
  obtain ⟨rfl, rfl⟩ := h
  rw [List.append_nil]
  obtain ⟨tasks, placements, addresses⟩ :=
    told_listing asksRunning asksStopped asksPlacements asksAddresses
  rw [← tasks] at asksPlacements
  rw [← placements] at asksAddresses
  refine ⟨⟨active, ran, halted, placed, located,
    ⟨rfl, reports, asksRunning, asksStopped, tasks, asksPlacements, asksAddresses⟩⟩, ?_⟩
  rw [tasks, placements, addresses]
  refine congrArg Outcome.done (List.flatMap_congr fun task _ => ?_)
  rw [rowsOf, addressOf_joined _ (keys_of_placementsTold placed)]
  rfl

theorem list_eq (named : operator.config.cluster ≠ "") : operator.list = operator.listActive := by
  unfold list chosenName
  rw [bne_iff_ne.mpr named]
  rfl

end Operator

end ClusterStack.Cluster
