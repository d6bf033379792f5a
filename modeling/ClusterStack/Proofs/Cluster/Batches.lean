import ClusterStack.Proofs.Aws.Outcomes
import ClusterStack.Proofs.Cluster.ListingCourse
import ClusterStack.Proofs.Executions
import ClusterStack.Proofs.Union
/-!
# Descriptions in batches

Tasks and container instances are described a hundred at a time. The identifiers are passed on once and
in order, the first failure of a batch is the end, and otherwise the answers together are what one call
for all identifiers would give.
-/
namespace ClusterStack

/-- Every reply in a run is an answer of the outside in some state. -/
theorem Program.answered_of_exchanges {α σ : Type} {backend : Backend σ} {p : Program α} {s : σ}
    {e : Exchange} (member : e ∈ p.exchanges backend s) :
    ∃ state, e.reply = (backend state e.call).1 := by
  induction p generalizing s with
  | done a => cases member
  | fail failure => cases member
  | unfinished => cases member
  | invoke call next ih =>
    rcases List.mem_cons.mp member with rfl | later
    · exact ⟨s, rfl⟩
    · exact ih _ later
  | log level message next ih => exact ih member
  | pause milliseconds next ih => exact ih member

namespace Validation

variable {α : Type}

/-- The value of a check without issues. -/
def Checked.value? : Checked α → Option α
  | .valid a => some a
  | .invalid _ => none

theorem value_listFrom (check : Check α) (i : Nat) (items : List Json) :
    (listFrom check i items).value? = items.mapM fun v => (check v).value? := by
  induction items generalizing i with
  | nil => rfl
  | cons v rest ih =>
    rw [List.mapM_cons, ← ih (i + 1), listFrom]
    cases check v <;> cases listFrom check (i + 1) rest <;> rfl

end Validation

namespace Cluster.Service

theorem batchesOf_full {α : Type} (count : Nat) (items : List α) :
    ∀ part ∈ (batchesOf batchSize count items).dropLast, part.length = 100 := by
  induction count generalizing items with
  | zero => cases items <;> exact nofun
  | succ count ih =>
    cases items with
    | nil => exact nofun
    | cons item rest =>
      change ∀ part ∈ ((item :: rest).take batchSize ::
        batchesOf batchSize count ((item :: rest).drop batchSize)).dropLast, _
      cases others : batchesOf batchSize count ((item :: rest).drop batchSize) with
      | nil => exact nofun
      | cons second more =>
        have further : (item :: rest).drop batchSize ≠ [] := by
          intro none
          rw [none] at others
          cases count <;> cases others
        refine List.forall_mem_cons.mpr ⟨?_, others ▸ ih _⟩
        rw [Ne, List.drop_eq_nil_iff, Nat.not_le] at further
        exact List.length_take_of_le (Nat.le_of_lt further)

/-- The parts are asked about one after another, up to the first reply that cannot be read. -/
inductive SentInTurn {α : Type} (call : List Json → Invocation) (read : Reply → Except Failure α) :
    List (List Json) → List Exchange → Except Failure (List α) → Prop
  | none : SentInTurn call read [] [] (.ok [])
  | next {part parts reply answer es answers} (fit : read reply = .ok answer)
      (rest : SentInTurn call read parts es answers) :
      SentInTurn call read (part :: parts) (⟨call part, reply⟩ :: es) (answers.map (answer :: ·))
  | failed {part parts reply failure} (unfit : read reply = .error failure) :
      SentInTurn call read (part :: parts) [⟨call part, reply⟩] (.error failure)

section

variable {α β : Type} {call : List Json → Invocation} {read : Reply → Except Failure α}
  {parts : List (List Json)} {es : List Exchange} {answers : Except Failure (List α)}

/-- Where all replies can be read, every part has been asked about. -/
theorem SentInTurn.calls (sent : SentInTurn call read parts es answers) (all : answers.isOk = true) :
    es.map Exchange.call = parts.map call := by
  induction sent with
  | none => rfl
  | @next part parts reply answer es answers fit rest ih =>
    cases answers with
    | error failure => cases all
    | ok others => rw [List.map_cons, List.map_cons, ih rfl]
  | failed unfit => cases all

/-- What is known of the answer for each part is known of all answers together. -/
theorem SentInTurn.toOption_eq (sent : SentInTurn call read parts es answers)
    {told : List Json → Option α}
    (each : ∀ part ∈ parts, ∀ e ∈ es, e.call = call part → (read e.reply).toOption = told part) :
    answers.toOption = parts.mapM told := by
  induction sent with
  | none => rfl
  | @next part parts reply answer es answers fit rest ih =>
    have here := each part List.mem_cons_self _ List.mem_cons_self rfl
    have later := ih fun part' member e among =>
      each part' (List.mem_cons_of_mem _ member) e (List.mem_cons_of_mem _ among)
    rw [List.mapM_cons, ← here, ← later, fit]
    cases answers <;> rfl
  | @failed part parts reply failure unfit =>
    have here := each part List.mem_cons_self _ List.mem_cons_self rfl
    rw [List.mapM_cons, ← here, unfit]
    rfl

theorem SentInTurn.served {σ : Type} {backend : Backend σ} {p : Program β} {s : σ} {ids : List Json}
    (sent : SentInTurn call read (batches ids) (p.exchanges backend s) answers)
    (told : List Json → Option α) (serves : ∀ part state, part ≠ [] → part.length ≤ 100 →
      (read (backend state (call part)).1).toOption = told part) :
    answers.toOption = (batches ids).mapM told := by
  refine sent.toOption_eq fun part among e member called => ?_
  obtain ⟨state, answered⟩ := Program.answered_of_exchanges member
  obtain ⟨some, bounded⟩ := batchesOf_bounded _ _ part among
  rw [answered, called]
  exact serves part state some bounded

end

variable {access : Aws.Access} {cluster : String} {es : List Exchange}

variable (access cluster) in
theorem asks_describeBatch (part : List Json) :
    (describeBatch access cluster part).Asks (descriptionCall access cluster part) tasksIn :=
  Program.asks_request

variable (access cluster) in
theorem asks_instancesOfBatch (entries : List (Json × Json)) (part : List Json) :
    (instancesOfBatch access cluster entries part).Asks (instancesCall access cluster part)
      (instancesIn entries) :=
  Program.asks_request

theorem plays_describeTasks (parts : List (List Json)) {outcome : Outcome (List Task)}
    (play : (gather (describeBatch access cluster) parts).Plays es outcome) :
    ∃ answers, SentInTurn (descriptionCall access cluster) tasksIn parts es answers ∧
      outcome = .ofExcept (answers.map List.flatten) := by
  induction parts generalizing es outcome with
  | nil =>
    obtain ⟨rfl, rfl⟩ := play
    exact ⟨_, .none, rfl⟩
  | cons part parts ih =>
    obtain ⟨reply, rest, rfl, ⟨first, fit, play⟩ | ⟨failure, unfit, rfl, rfl⟩⟩ :=
      (asks_describeBatch access cluster part).bind play
    · obtain ⟨inner, later, rfl⟩ := Program.plays_map.mp play
      obtain ⟨answers, sent, rfl⟩ := ih later
      refine ⟨_, .next fit sent, ?_⟩
      cases answers <;> rfl
    · exact ⟨_, .failed unfit, rfl⟩

/-- The ARN of a container instance and its EC2 identifier, if a description has both. -/
def pair? (description : Json) : Except Failure (Option (Json × Json)) := do
  let arn ← Aws.Answer.member description "containerInstanceArn"
  if arn.isVoid then pure none
  else
    let id ← Aws.Answer.member description "ec2InstanceId"
    if id.isVoid then pure none else (Aws.Answer.key arn).map fun arn => some (arn, id)

/-- The table that a reply makes of the pairs in it. -/
def tableIn (reply : Reply) : Except Failure (List (Json × Json)) :=
  (Aws.readReply "describe-container-instances" reply).bind fun answer =>
    (Aws.Answer.elementsOf answer "containerInstances").bind fun descriptions =>
      (descriptions.mapM pair?).map fun pairs => Association.unite Json.sameKey [] pairs.reduceOption

/-- A description adds its pair to the entries, if it has one. -/
theorem readInstance_eq (entries : List (Json × Json)) (description : Json) :
    readInstance entries description =
      (pair? description).map fun pair => Association.unite Json.sameKey entries pair.toList := by
  unfold readInstance pair?
  cases Aws.Answer.member description "containerInstanceArn" with
  | error failure => rfl
  | ok arn =>
    cases Aws.Answer.member description "ec2InstanceId" with
    | error failure => cases void : arn.isVoid <;> simp only [bind, Except.bind, void] <;> rfl
    | ok id =>
      cases void : arn.isVoid <;> cases void' : id.isVoid <;>
        simp only [bind, Except.bind, void, void'] <;> try rfl
      unfold Aws.Answer.store
      cases Aws.Answer.key arn <;> rfl

theorem readInstances_eq (entries : List (Json × Json)) (descriptions : List Json) :
    descriptions.foldlM readInstance entries = (descriptions.mapM pair?).map fun pairs =>
      Association.unite Json.sameKey entries pairs.reduceOption := by
  induction descriptions generalizing entries with
  | nil => rfl
  | cons description rest ih =>
    rw [List.foldlM_cons, List.mapM_cons, readInstance_eq]
    cases pair? description with
    | error failure => rfl
    | ok pair =>
      change rest.foldlM readInstance (Association.unite Json.sameKey entries pair.toList) = _
      rw [ih]
      cases rest.mapM pair? with
      | error failure => rfl
      | ok pairs => cases pair <;> rfl

/-- A reply adds its table to the entries. -/
theorem instancesIn_eq (entries : List (Json × Json)) (reply : Reply) :
    instancesIn entries reply = (tableIn reply).map (Association.unite Json.sameKey entries) := by
  unfold instancesIn tableIn
  cases Aws.readReply "describe-container-instances" reply with
  | error failure => rfl
  | ok answer =>
    change (Aws.Answer.elementsOf answer "containerInstances").bind _ =
      ((Aws.Answer.elementsOf answer "containerInstances").bind _).map _
    cases Aws.Answer.elementsOf answer "containerInstances" with
    | error failure => rfl
    | ok descriptions =>
      change descriptions.foldlM readInstance entries = ((descriptions.mapM pair?).map _).map _
      rw [readInstances_eq]
      cases descriptions.mapM pair? with
      | error failure => rfl
      | ok pairs => exact congrArg Except.ok (Json.agree_sameKey.unite_unite entries _).symm

theorem plays_instanceIds (parts : List (List Json)) (entries : List (Json × Json))
    {outcome : Outcome (List (Json × Json))}
    (play : (parts.foldlM (instancesOfBatch access cluster) entries).Plays es outcome) :
    ∃ tables, SentInTurn (instancesCall access cluster) tableIn parts es tables ∧
      outcome = .ofExcept (tables.map fun tables =>
        tables.foldl (Association.unite Json.sameKey) entries) := by
  induction parts generalizing es entries with
  | nil =>
    obtain ⟨rfl, rfl⟩ := play
    exact ⟨_, .none, rfl⟩
  | cons part parts ih =>
    rw [List.foldlM_cons] at play
    obtain ⟨reply, rest, rfl, ⟨read, told, later⟩ | ⟨failure, told, rfl, rfl⟩⟩ :=
      (asks_instancesOfBatch access cluster entries part).bind play
    · rw [instancesIn_eq] at told
      cases fit : tableIn reply with
      | error failure =>
        rw [fit] at told
        cases told
      | ok table =>
        rw [fit] at told
        cases told
        obtain ⟨tables, sent, rfl⟩ := ih _ later
        refine ⟨_, .next fit sent, ?_⟩
        cases tables <;> rfl
    · rw [instancesIn_eq] at told
      cases unfit : tableIn reply with
      | error cause =>
        rw [unfit] at told
        cases told
        exact ⟨_, .failed unfit, rfl⟩
      | ok table =>
        rw [unfit] at told
        cases told

/-- The reply lists these descriptions of tasks. -/
def ListsTasks (descriptions : List Json) (reply : Reply) : Prop :=
  ∃ answer, Aws.readReply "describe-tasks" reply = .ok answer ∧
    Json.member? answer "tasks" = some (.arr descriptions)

theorem ListsTasks.toOption_tasksIn {descriptions : List Json} {reply : Reply}
    (lists : ListsTasks descriptions reply) :
    (tasksIn reply).toOption = descriptions.mapM fun v => (Task.check v).value? := by
  obtain ⟨answer, read, listed⟩ := lists
  rw [← Validation.value_listFrom Task.check 0]
  unfold tasksIn
  rw [read]
  change (Aws.responseMember (.obj answer) "tasks" _ "describe-tasks").toOption = _
  unfold Aws.responseMember
  simp only [listed, readAs, Validation.list]
  cases Validation.listFrom Task.check 0 descriptions <;> rfl

theorem mapM_flatMap {ι α β : Type} (f : α → Option β) (list : ι → List α) (items : List ι) :
    (items.mapM fun item => (list item).mapM f).map List.flatten = (items.flatMap list).mapM f := by
  induction items with
  | nil => rfl
  | cons item rest ih =>
    rw [List.mapM_cons, List.flatMap_cons, List.mapM_append, ← ih]
    cases (list item).mapM f with
    | none => rfl
    | some first => cases rest.mapM fun item => (list item).mapM f <;> rfl

theorem flatMap_batches {α : Type} (f : Json → List α) (ids : List Json) :
    ((batches ids).flatMap fun part => part.flatMap f) = ids.flatMap f := by
  have flat : (batches ids).flatMap id = ids := by
    rw [List.flatMap_id]
    exact batchesOf_flatten (Nat.le_refl _)
  conv_rhs => rw [← flat, List.flatMap_assoc]
  rfl

theorem foldl_unite (table : Json → List (Json × Json)) (parts : List (List Json))
    (entries : List (Json × Json)) :
    (parts.map fun part => Association.unite Json.sameKey [] (part.flatMap table)).foldl
        (Association.unite Json.sameKey) entries =
      Association.unite Json.sameKey entries (parts.flatMap fun part => part.flatMap table) := by
  induction parts generalizing entries with
  | nil => rfl
  | cons part rest ih =>
    rw [List.map_cons, List.foldl_cons, ih, Json.agree_sameKey.unite_unite, List.flatMap_cons,
      Association.unite_append]

section

variable (access : Aws.Access) (cluster : String) (ids : List Json) {σ : Type} (backend : Backend σ)
  (s : σ)

theorem describeTasks_sent : ∃ answers,
    SentInTurn (descriptionCall access cluster) tasksIn (batches ids)
      ((describeTasks access cluster ids).exchanges backend s) answers ∧
    ((describeTasks access cluster ids).run backend s).outcome =
      .ofExcept (answers.map List.flatten) :=
  plays_describeTasks (batches ids) (Program.plays_run backend _ s)

theorem instanceIds_sent : ∃ tables,
    SentInTurn (instancesCall access cluster) tableIn (batches ids)
      ((instanceIds access cluster ids).exchanges backend s) tables ∧
    ((instanceIds access cluster ids).run backend s).outcome =
      .ofExcept (tables.map fun tables => tables.foldl (Association.unite Json.sameKey) []) :=
  plays_instanceIds (batches ids) [] (Program.plays_run backend _ s)

end

theorem ofExcept_eq_done_iff {α : Type} {e : Except Failure α} {a : α} :
    Outcome.ofExcept e = .done a ↔ e.toOption = some a := by
  cases e <;> simp [Outcome.ofExcept, Except.toOption]

section

variable {σ : Type} {backend : Backend σ} {ids : List Json} {s : σ}

/-- Where each batch is answered with what its tasks are described as, the answers are read as one
answer with all descriptions. -/
theorem describeTasks_done_iff {described : Json → List Json}
    (lists : ∀ part state, part ≠ [] → part.length ≤ 100 →
      ListsTasks (part.flatMap described) (backend state (descriptionCall access cluster part)).1)
    (found : List Task) :
    ((describeTasks access cluster ids).run backend s).outcome = .done found ↔
      ((ids.flatMap described).mapM fun v => (Task.check v).value?) = some found := by
  obtain ⟨answers, sent, ending⟩ := describeTasks_sent access cluster ids backend s
  have told := sent.served _ fun part state some bounded =>
    (lists part state some bounded).toOption_tasksIn
  have flat : (answers.map List.flatten).toOption = answers.toOption.map List.flatten := by
    cases answers <;> rfl
  rw [ending, ofExcept_eq_done_iff, flat, told, mapM_flatMap, flatMap_batches]

theorem instanceIds_done {table : Json → List (Json × Json)}
    (unites : ∀ part state, part ≠ [] → part.length ≤ 100 →
      tableIn (backend state (instancesCall access cluster part)).1 =
        .ok (Association.unite Json.sameKey [] (part.flatMap table))) :
    ((instanceIds access cluster ids).run backend s).outcome =
      .done (Association.unite Json.sameKey [] (ids.flatMap table)) := by
  obtain ⟨tables, sent, ending⟩ := instanceIds_sent access cluster ids backend s
  have told := sent.served
    (fun part => pure (Association.unite Json.sameKey [] (part.flatMap table)))
    fun part state some bounded => by
      rw [unites part state some bounded]
      rfl
  rw [List.mapM_pure] at told
  rw [toOption_eq_some.mp told] at ending
  rw [ending]
  exact congrArg Outcome.done ((foldl_unite table _ []).trans (by rw [flatMap_batches]))

end

/-- However many identifiers there are, they are passed on in order, a hundred in each call but the
last. The calls stop at the first reply that cannot be read, and its failure is the outcome. Where a
batch is answered with what the answers for its identifiers are together, the outcome is that of one
call for all identifiers: the descriptions of tasks in order, and the pairs of container instances that
have both an ARN and an EC2 identifier, united from left to right. -/
theorem described_in_batches (access : Aws.Access) (cluster : String) (ids : List Json) {σ : Type}
    (backend : Backend σ) (s : σ) :
    let parts := batches ids
    let tasks := describeTasks access cluster ids
    let instances := instanceIds access cluster ids
    (parts.flatten = ids ∧ (∀ part ∈ parts, part ≠ [] ∧ part.length ≤ 100) ∧
      ∀ part ∈ parts.dropLast, part.length = 100) ∧
    (ids = [] → tasks.exchanges backend s = [] ∧ instances.exchanges backend s = []) ∧
    (∃ answers,
      SentInTurn (descriptionCall access cluster) tasksIn parts (tasks.exchanges backend s) answers ∧
      (tasks.run backend s).outcome = .ofExcept (answers.map List.flatten)) ∧
    (∃ tables,
      SentInTurn (instancesCall access cluster) tableIn parts (instances.exchanges backend s) tables ∧
      (instances.run backend s).outcome =
        .ofExcept (tables.map fun tables => tables.foldl (Association.unite Json.sameKey) [])) ∧
    (∀ described : Json → List Json,
      (∀ part state, part ≠ [] → part.length ≤ 100 →
        ListsTasks (part.flatMap described) (backend state (descriptionCall access cluster part)).1) →
      ∀ (τ : Type) (single : Backend τ) (t : τ),
        ListsTasks (ids.flatMap described) (single t (descriptionCall access cluster ids)).1 →
        ∀ found, (tasks.run backend s).outcome = .done found ↔
          ((describeBatch access cluster ids).run single t).outcome = .done found) ∧
    ∀ table : Json → List (Json × Json),
      (∀ part state, part ≠ [] → part.length ≤ 100 →
        tableIn (backend state (instancesCall access cluster part)).1 =
          .ok (Association.unite Json.sameKey [] (part.flatMap table))) →
      ∀ (τ : Type) (single : Backend τ) (t : τ),
        tableIn (single t (instancesCall access cluster ids)).1 =
          .ok (Association.unite Json.sameKey [] (ids.flatMap table)) →
        (instances.run backend s).outcome =
            .done (Association.unite Json.sameKey [] (ids.flatMap table)) ∧
          ((instancesOfBatch access cluster [] ids).run single t).outcome =
            .done (Association.unite Json.sameKey [] (ids.flatMap table)) := by
  refine ⟨⟨batchesOf_flatten (Nat.le_refl _), batchesOf_bounded _ _, batchesOf_full _ _⟩, ?_,
    describeTasks_sent access cluster ids backend s, instanceIds_sent access cluster ids backend s,
    fun described lists τ single t whole found => ?_, fun table unites τ single t whole => ?_⟩
  · rintro rfl
    exact ⟨rfl, rfl⟩
  · rw [describeTasks_done_iff lists, ((asks_describeBatch access cluster ids).leads single t).ending,
      ofExcept_eq_done_iff, whole.toOption_tasksIn]
  · have asks := asks_instancesOfBatch access cluster [] ids
    refine ⟨instanceIds_done unites, (asks.leads single t).ending.trans ?_⟩
    rw [instancesIn_eq, whole]
    exact congrArg Outcome.done (Json.agree_sameKey.unite_unite [] _)

/-- The reply that lists these items under a name. -/
def listing (name : String) (items : List Json) : Reply :=
  .exited 0 (Stack.bytes (Json.obj [(name, .arr items)]).toText) []

theorem readReply_listing (operation name : String) {items : List Json}
    (legible : ∀ room, ∀ v ∈ items, Json.Legible (room + 1) v) :
    Aws.readReply operation (listing name items) = .ok [(name, .arr items)] := by
  have object (room : Nat) : Json.Legible (room + 3) (.obj (Json.withNames [(name, .arr items)])) :=
    .obj (List.nodup_singleton name) (List.forall_mem_singleton.mpr (.arr (legible room)))
  exact Aws.readReply_eq_ok_iff.mpr ⟨_, _, rfl, Aws.prints_toText (object (Json.nestingLimit - 3))⟩

/-- The name that an identifier is, if it is a text of characters alone. -/
def named? (id : Json) : Option String := id.text?.bind Text.string?

/-- The task that goes by a name is described by its ARN. -/
def taskNamed (name : String) : Json := .obj [("taskArn", .str ("demo/" ++ name : String))]

def instanceNamed (name : String) : Json × Json :=
  (.str ("demo/" ++ name : String), .str ("i-" ++ name : String))

def tasksOf (id : Json) : List Json := (named? id).toList.map taskNamed

def instancesOf (id : Json) : List (Json × Json) := (named? id).toList.map instanceNamed

/-- The description of a container instance by its ARN and its EC2 identifier. -/
def descriptionOf (pair : Json × Json) : Json :=
  .obj [("containerInstanceArn", pair.1), ("ec2InstanceId", pair.2)]

/-- A service that knows a task and a container instance by every name. -/
def knowing : Backend Unit := fun s call =>
  let ids := call.arguments.drop 3
  (if call.operation = "describe-tasks" then listing "tasks" (ids.flatMap tasksOf)
    else listing "containerInstances" ((ids.flatMap instancesOf).map descriptionOf), s)

theorem flatMap_named {α : Type} (f : String → α) (ids : List Json) :
    (ids.flatMap fun id => (named? id).toList.map f) = (ids.filterMap named?).map f := by
  rw [List.filterMap_eq_flatMap_toList, List.map_flatMap]

theorem knowing_tasks (access : Aws.Access) (cluster : String) (ids : List Json) (s : Unit) :
    ListsTasks (ids.flatMap tasksOf) (knowing s (descriptionCall access cluster ids)).1 := by
  refine ⟨_, readReply_listing "describe-tasks" "tasks" fun room v member => ?_, rfl⟩
  obtain ⟨id, -, told⟩ := List.mem_flatMap.mp member
  obtain ⟨name, -, rfl⟩ := List.mem_map.mp told
  exact @Json.Legible.obj room [("taskArn", _)] (List.nodup_singleton _)
    (List.forall_mem_singleton.mpr (.str room _))

theorem pair_instance (name : String) :
    pair? (descriptionOf (instanceNamed name)) = .ok (some (instanceNamed name)) := by
  have arn : (Json.str ("demo/" ++ name : String)).isVoid = false := Text.isEmpty_ofString (by simp)
  have id : (Json.str ("i-" ++ name : String)).isVoid = false := Text.isEmpty_ofString (by simp)
  change (if (Json.str ("demo/" ++ name : String)).isVoid then Except.ok none
    else if (Json.str ("i-" ++ name : String)).isVoid then Except.ok none
    else Except.ok (some (instanceNamed name))) = _
  rw [arn, id]
  rfl

theorem knowing_instances (access : Aws.Access) (cluster : String) (ids : List Json) (s : Unit) :
    tableIn (knowing s (instancesCall access cluster ids)).1 =
      .ok (Association.unite Json.sameKey [] (ids.flatMap instancesOf)) := by
  have reply : (knowing s (instancesCall access cluster ids)).1 =
      listing "containerInstances" ((ids.flatMap instancesOf).map descriptionOf) := rfl
  have known : ids.flatMap instancesOf = (ids.filterMap named?).map instanceNamed :=
    flatMap_named instanceNamed ids
  rw [reply, known]
  generalize ids.filterMap named? = names
  have legible (room : Nat) : ∀ v ∈ (names.map instanceNamed).map descriptionOf,
      Json.Legible (room + 1) v := by
    refine List.forall_mem_map.mpr (List.forall_mem_map.mpr fun name _ => ?_)
    have distinct : ["containerInstanceArn", "ec2InstanceId"].Nodup := by decide
    refine @Json.Legible.obj room [("containerInstanceArn", _), ("ec2InstanceId", _)] distinct ?_
    simp only [List.forall_mem_cons]
    exact ⟨.str room _, .str room _, nofun⟩
  have elements (items : List Json) :
      Aws.Answer.elementsOf [("containerInstances", .arr items)] "containerInstances" = .ok items := by
    cases items <;> rfl
  have pairs : ((names.map instanceNamed).map descriptionOf).mapM pair? =
      .ok ((names.map instanceNamed).map some) := by
    have each : (pair? ∘ descriptionOf) ∘ instanceNamed = fun name => pure (some (instanceNamed name)) :=
      funext pair_instance
    rw [List.mapM_map, List.mapM_map, each, List.mapM_pure, List.map_map]
    rfl
  have all : ((names.map instanceNamed).map some).reduceOption = names.map instanceNamed :=
    List.filterMap_map.trans List.filterMap_some
  unfold tableIn
  rw [readReply_listing _ _ legible]
  change (Aws.Answer.elementsOf _ _).bind _ = _
  rw [elements]
  change ((((names.map instanceNamed).map descriptionOf).mapM pair?).map _) = _
  rw [pairs]
  exact congrArg (fun told => Except.ok (Association.unite Json.sameKey [] told)) all

def manyNames : List Json := (List.range 150).map fun n => .str (toString n)

/-- A hundred and fifty tasks are described by two calls, and so are as many container instances. -/
theorem manyNames_described :
    let tasks := describeTasks ⟨none, none⟩ "demo" manyNames
    let instances := instanceIds ⟨none, none⟩ "demo" manyNames
    (batches manyNames).map List.length = [100, 50] ∧
    (batches manyNames).flatten = manyNames ∧
    (tasks.exchanges knowing ()).map Exchange.call =
      (batches manyNames).map (descriptionCall ⟨none, none⟩ "demo") ∧
    (∃ found, found.length = 150 ∧ (tasks.run knowing ()).outcome = .done found ∧
      ((describeBatch ⟨none, none⟩ "demo" manyNames).run knowing ()).outcome = .done found) ∧
    (instances.run knowing ()).outcome =
      .done (Association.unite Json.sameKey [] (manyNames.flatMap instancesOf)) ∧
    ((instancesOfBatch ⟨none, none⟩ "demo" [] manyNames).run knowing ()).outcome =
      .done (Association.unite Json.sameKey [] (manyNames.flatMap instancesOf)) := by
  intro tasks instances
  obtain ⟨⟨flat, -, -⟩, -, ⟨answers, sent, ended⟩, -, alike, united⟩ :=
    described_in_batches ⟨none, none⟩ "demo" manyNames knowing ()
  have one := knowing_tasks ⟨none, none⟩ "demo" manyNames ()
  have lengths : (batches manyNames).map List.length = [100, 50] := by decide +kernel
  have read : ((manyNames.flatMap tasksOf).mapM fun v => (Task.check v).value?).map List.length =
      some 150 := by decide +kernel
  obtain ⟨found, checked, length⟩ := Option.map_eq_some_iff.mp read
  have single : ((describeBatch ⟨none, none⟩ "demo" manyNames).run knowing ()).outcome = .done found := by
    rw [((asks_describeBatch ⟨none, none⟩ "demo" manyNames).leads knowing ()).ending,
      ofExcept_eq_done_iff, one.toOption_tasksIn, checked]
  have batched := (alike tasksOf (fun part state _ _ => knowing_tasks _ _ part state) Unit knowing ()
    one found).mpr single
  obtain ⟨union, whole⟩ := united instancesOf (fun part state _ _ => knowing_instances _ _ part state)
    Unit knowing () (knowing_instances _ _ manyNames ())
  have answered : answers.isOk = true := by
    rw [ended] at batched
    cases answers with
    | error failure => cases batched
    | ok described => rfl
  exact ⟨lengths, flat, sent.calls answered, ⟨found, length, batched, single⟩, union, whole⟩

end Cluster.Service

end ClusterStack
