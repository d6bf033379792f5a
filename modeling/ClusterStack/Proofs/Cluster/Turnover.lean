import ClusterStack.Proofs.Cluster.ListingCourse
import ClusterStack.Proofs.Rehearsals
import ClusterStack.Proofs.Runs
import Mathlib.Data.List.Nodup
/-!
# Tasks that stop during a listing

The running tasks of a cluster and the stopped ones are listed by two calls, and between these calls
the tasks go on. A task that stops after the first call and before the second is in both lists, and its
containers are shown for both. Nothing else is shown twice.
-/
namespace ClusterStack

namespace Cluster

/-- What there is on a cluster at a moment: its tasks, each one once. A task has no two containers of one
name. -/
structure Census where
  tasks : List Task
  distinct : (tasks.map Task.arn).Nodup
  named : ∀ task ∈ tasks, (task.containers.map Container.name).Nodup

/-- The task is there, and is meant to be in this status. -/
def Census.Has (census : Census) (status : String) (arn : Text) : Prop :=
  ∃ task ∈ census.tasks, task.arn = arn ∧ task.desiredStatus = some (status : Text)

/-- The containers of tasks, each known by the task and its name. -/
def containersOf (tasks : List Task) : List (Text × Text) :=
  tasks.flatMap fun task => task.containers.map fun c => (task.arn, c.name)

namespace Operator

variable {σ : Type} (operator : Operator) (backend : Backend σ) (census : σ → Census)

/-- The service tells of the tasks that there are at the moment of a call. A list is of all tasks with the
status, each one once, and descriptions are of tasks that they were asked for, each one once. From call
to call the tasks may change. -/
structure Tells : Prop where
  lists : ∀ s status arns, Service.arnsIn
      (backend s (Service.tasksCall operator.access operator.config.cluster status)).1 = .ok arns →
    arns.Nodup ∧ ∀ arn, arn ∈ arns ↔ ∃ t, arn = .str t ∧ (census s).Has status t
  describes : ∀ s arns tasks, Service.tasksIn
      (backend s (Service.descriptionCall operator.access operator.config.cluster arns)).1 = .ok tasks →
    tasks.Nodup ∧ ∀ task ∈ tasks, task ∈ (census s).tasks ∧ .str task.arn ∈ arns

variable {operator backend census} {s : σ} {tasks : List Task}

/-- Described one part after another, each task that was asked for once is described once at most. -/
theorem Tells.gathered (tells : operator.Tells backend census) {parts : List (List Json)}
    (once : parts.flatten.Nodup)
    (ended : ((Service.gather (Service.describeBatch operator.access operator.config.cluster)
      parts).run backend s).outcome = .done tasks) :
    (tasks.map Task.arn).Nodup ∧
      ∀ task ∈ tasks, .str task.arn ∈ parts.flatten ∧ (task.containers.map Container.name).Nodup := by
  induction parts generalizing s tasks with
  | nil =>
      cases ended
      exact ⟨List.nodup_nil, nofun⟩
  | cons part parts ih =>
      obtain ⟨first, here, ended⟩ := Program.done_of_bind ended
      obtain ⟨others, later, ended⟩ := Program.done_of_bind ended
      cases ended
      rw [List.flatten_cons, List.nodup_append] at once
      obtain ⟨-, onceLater, apart⟩ := once
      obtain ⟨single, asked⟩ := tells.describes _ _ _ (Program.done_of_request here)
      obtain ⟨distinct, known⟩ := ih onceLater later
      have distinctHere : (first.map Task.arn).Nodup := by
        refine single.map_on fun task member task' member' same => ?_
        exact List.inj_on_of_nodup_map (census s).distinct (asked task member).1 (asked task' member').1 same
      refine ⟨?_, ?_⟩
      · rw [List.map_append, List.nodup_append]
        refine ⟨distinctHere, distinct, ?_⟩
        -- A task in two parts would have been asked for twice.
        rintro arn member arn' member' rfl
        obtain ⟨task, among, rfl⟩ := List.mem_map.mp member
        obtain ⟨task', among', same⟩ := List.mem_map.mp member'
        refine apart _ (asked task among).2 _ ?_ rfl
        rw [← same]
        exact (known task' among').1
      · intro task member
        rw [List.flatten_cons]
        rcases List.mem_append.mp member with among | among
        · exact ⟨List.mem_append_left _ (asked task among).2,
            (census s).named task (asked task among).1⟩
        · exact ⟨List.mem_append_right _ (known task among).1, (known task among).2⟩

/-- The tasks of a status are those that have it at the moment of the first call. -/
theorem Tells.listed (tells : operator.Tells backend census) {status : String}
    (ended : ((operator.tasks operator.config.cluster status).run backend s).outcome = .done tasks) :
    (tasks.map Task.arn).Nodup ∧ ∀ task ∈ tasks, (census s).Has status task.arn ∧
      (task.containers.map Container.name).Nodup := by
  obtain ⟨arns, listed, ended⟩ := Program.done_of_bind ended
  obtain ⟨once, all⟩ := tells.lists s status arns
    (Program.done_of_request (Program.done_of_mapFailure listed))
  split at ended
  · cases ended
    exact ⟨List.nodup_nil, nofun⟩
  · have flat : (Service.batches arns).flatten = arns := batchesOf_flatten (Nat.le_refl _)
    obtain ⟨distinct, known⟩ := tells.gathered (flat.symm ▸ once) (Program.done_of_mapFailure ended)
    refine ⟨distinct, fun task member => ?_⟩
    obtain ⟨asked, named⟩ := known task member
    rw [flat, all] at asked
    obtain ⟨t, same, has⟩ := asked
    cases same
    exact ⟨has, named⟩

theorem nodup_containersOf (distinct : (tasks.map Task.arn).Nodup)
    (named : ∀ task ∈ tasks, (task.containers.map Container.name).Nodup) :
    (containersOf tasks).Nodup := by
  refine List.nodup_flatMap.mpr ⟨fun task member => ?_, ?_⟩
  · refine List.Nodup.of_map Prod.snd ?_
    rw [List.map_map]
    exact named task member
  · refine (List.pairwise_map.mp distinct).imp fun other container here there => other ?_
    obtain ⟨c, -, rfl⟩ := List.mem_map.mp here
    obtain ⟨c', -, same⟩ := List.mem_map.mp there
    exact (congrArg Prod.fst same).symm

theorem mem_containersOf {container : Text × Text} (member : container ∈ containersOf tasks) :
    ∃ task ∈ tasks, task.arn = container.1 := by
  obtain ⟨task, among, inside⟩ := List.mem_flatMap.mp member
  obtain ⟨c, -, rfl⟩ := List.mem_map.mp inside
  exact ⟨task, among, rfl⟩

theorem Tells.count_le_one (tells : operator.Tells backend census) {status : String}
    (ended : ((operator.tasks operator.config.cluster status).run backend s).outcome = .done tasks)
    (container : Text × Text) :
    (containersOf tasks).count container ≤ 1 ∧
      (0 < (containersOf tasks).count container → (census s).Has status container.1) := by
  obtain ⟨distinct, known⟩ := tells.listed ended
  refine ⟨List.nodup_iff_count_le_one.mp (nodup_containersOf distinct fun task member =>
    (known task member).2) container, fun some => ?_⟩
  obtain ⟨task, member, same⟩ := mem_containersOf (List.count_pos_iff.mp some)
  exact same ▸ (known task member).1

/-- In a run that lists containers, a container is listed at most once for the running tasks, and at most
once for the stopped ones. It is listed more than once only if its task was meant to run when the running
tasks were listed, and to be stopped when the stopped ones were. It is then listed twice, once for each
of these. -/
theorem listing_repeats_only_stopping {σ : Type} (operator : Operator) (backend : Backend σ)
    (census : σ → Census) (tells : operator.Tells backend census) (s : σ) {rows : List ContainerRow}
    (ended : (operator.list.run backend s).outcome = .done rows) :
    let cluster := operator.config.cluster
    let atRunning := ((operator.ensureActive cluster).run backend s).state
    let atStopped := ((operator.tasks cluster running).run backend atRunning).state
    ∃ ran halted addresses,
      ((operator.tasks cluster running).run backend atRunning).outcome = .done ran ∧
      ((operator.tasks cluster stopped).run backend atStopped).outcome = .done halted ∧
      rows = (ran ++ halted).flatMap (rowsOf addresses) ∧
      ∀ container, (containersOf ran).count container ≤ 1 ∧ (containersOf halted).count container ≤ 1 ∧
        (containersOf (ran ++ halted)).count container ≤ 2 ∧
        (1 < (containersOf (ran ++ halted)).count container →
          (containersOf ran).count container = 1 ∧ (containersOf halted).count container = 1 ∧
          (census atRunning).Has running container.1 ∧ (census atStopped).Has stopped container.1) := by
  intro cluster atRunning atStopped
  have named : operator.config.cluster ≠ "" := by
    intro unnamed
    unfold list chosenName at ended
    rw [unnamed] at ended
    cases ended
  rw [list_eq named] at ended
  obtain ⟨-, -, ended⟩ := Program.done_of_bind ended
  obtain ⟨ran, first, ended⟩ := Program.done_of_bind ended
  obtain ⟨halted, second, ended⟩ := Program.done_of_bind ended
  obtain ⟨addresses, -, ended⟩ := Program.done_of_bind ended
  cases ended
  refine ⟨ran, halted, addresses, first, second, rfl, fun container => ?_⟩
  obtain ⟨fewRan, hasRan⟩ := tells.count_le_one first container
  obtain ⟨fewHalted, hasHalted⟩ := tells.count_le_one second container
  have both : (containersOf (ran ++ halted)).count container =
      (containersOf ran).count container + (containersOf halted).count container := by
    rw [containersOf, List.flatMap_append, List.count_append]
    rfl
  rw [both]
  refine ⟨fewRan, fewHalted, Nat.add_le_add fewRan fewHalted, fun repeated => ?_⟩
  have ranOnce : (containersOf ran).count container = 1 := by omega
  have haltedOnce : (containersOf halted).count container = 1 := by omega
  exact ⟨ranOnce, haltedOnce, hasRan (ranOnce ▸ Nat.zero_lt_one), hasHalted (haltedOnce ▸ Nat.zero_lt_one)⟩

def ofDemo : Operator := ⟨⟨"demo", none, none, usualStackPrefix⟩, .listed [], .ofExcept (.ok ""), 1⟩

/-- The status that the only task is meant to be in, which is changed after the third call. -/
def meantAt (moment : Nat) : String := if moment < 3 then running else stopped

def onlyTask (status : String) : Task :=
  ⟨"t", none, none, none, some status, [⟨none, "web", none, none, none, none, []⟩]⟩

def onlyTaskAt (moment : Nat) : Census where
  tasks := [onlyTask (meantAt moment)]
  distinct := List.nodup_singleton _
  named := List.forall_mem_singleton.mpr (List.nodup_singleton _)

def printing (output : String) : Reply := .exited 0 (Stack.bytes output) []

def description (status : String) : Reply :=
  if status = running then printing ("\x7b\"tasks\":[\x7b\"taskArn\":\"t\"," ++
    "\"desiredStatus\":\"RUNNING\",\"containers\":[\x7b\"name\":\"web\"\x7d]\x7d]\x7d")
  else printing ("\x7b\"tasks\":[\x7b\"taskArn\":\"t\"," ++
    "\"desiredStatus\":\"STOPPED\",\"containers\":[\x7b\"name\":\"web\"\x7d]\x7d]\x7d")

/-- The services of a cluster with the task, at one moment after another. -/
def stopping : Backend Nat := fun moment call =>
  let texts := call.arguments.filterMap Json.text?
  let reply :=
    if call.operation = "describe-clusters" then
      printing "\x7b\"clusters\":[\x7b\"status\":\"ACTIVE\"\x7d]\x7d"
    else if call.operation = "list-tasks" then
      if texts.getLast? = some (meantAt moment : Text) then printing "\x7b\"taskArns\":[\"t\"]\x7d"
      else printing "\x7b\x7d"
    else if ("t" : Text) ∈ texts.drop 3 then description (meantAt moment)
    else printing "\x7b\"tasks\":[]\x7d"
  (reply, moment + 1)

theorem str_of_text {v : Json} {t : Text} (read : v.text? = some t) : v = .str t := by
  cases v with
  | str s =>
      cases read
      rfl
  | _ => cases read

theorem arns_of_texts {reply : Reply} {texts : List Text} {arns : List Json}
    (told : (Service.arnsIn reply).map (List.map Json.text?) = .ok (texts.map some))
    (read : Service.arnsIn reply = .ok arns) : arns = texts.map .str := by
  rw [read] at told
  have same : arns.map Json.text? = texts.map some := Except.ok.inj told
  clear told read
  induction arns generalizing texts with
  | nil => rw [List.map_eq_nil_iff.mp same.symm, List.map_nil]
  | cons v arns ih =>
      cases texts with
      | nil => cases same
      | cons t texts =>
          obtain ⟨here, later⟩ := List.cons.inj same
          rw [List.map_cons, str_of_text here, ih later]

theorem meantAt_cases (moment : Nat) : meantAt moment = running ∨ meantAt moment = stopped := by
  unfold meantAt
  split
  · exact .inl rfl
  · exact .inr rfl

theorem onlyTaskAt_has {moment : Nat} {status : String} {arn : Text} :
    (onlyTaskAt moment).Has status arn ↔ arn = ("t" : Text) ∧ status = meantAt moment := by
  constructor
  · rintro ⟨task, member, rfl, meant⟩
    rw [List.mem_singleton.mp member] at meant ⊢
    exact ⟨rfl, (Text.ofString_injective (Option.some.inj meant)).symm⟩
  · rintro ⟨rfl, rfl⟩
    exact ⟨_, List.mem_singleton_self _, rfl, rfl⟩

theorem tells_stopping : ofDemo.Tells stopping onlyTaskAt where
  lists moment status arns read := by
    have one : (Service.arnsIn (printing "\x7b\"taskArns\":[\"t\"]\x7d")).map (List.map Json.text?) =
        .ok [some "t"] := by decide +kernel
    have none : (Service.arnsIn (printing "\x7b\x7d")).map (List.map Json.text?) = .ok [] := by
      decide +kernel
    have reply : (stopping moment (Service.tasksCall ofDemo.access ofDemo.config.cluster status)).1 =
        if some (status : Text) = some (meantAt moment : Text) then
          printing "\x7b\"taskArns\":[\"t\"]\x7d"
        else printing "\x7b\x7d" := rfl
    rw [reply] at read
    simp only [onlyTaskAt_has]
    by_cases meant : status = meantAt moment
    · rw [if_pos (by rw [meant])] at read
      obtain rfl : arns = [("t" : Text)].map .str := arns_of_texts one read
      subst meant
      simp
    · rw [if_neg fun same => meant (Text.ofString_injective (Option.some.inj same))] at read
      obtain rfl : arns = ([] : List Text).map .str := arns_of_texts none read
      simp [meant]
  describes moment arns tasks read := by
    have described {status : String} (meant : status = running ∨ status = stopped) :
        Service.tasksIn (description status) = .ok [onlyTask status] := by
      rcases meant with rfl | rfl <;> decide +kernel
    have none : Service.tasksIn (printing "\x7b\"tasks\":[]\x7d") = .ok [] := by decide +kernel
    have reply : (stopping moment (Service.descriptionCall ofDemo.access ofDemo.config.cluster arns)).1 =
        if ("t" : Text) ∈ arns.filterMap Json.text? then description (meantAt moment)
        else printing "\x7b\"tasks\":[]\x7d" := rfl
    rw [reply] at read
    split at read
    · rename_i asked
      rw [described (meantAt_cases moment)] at read
      cases read
      refine ⟨List.nodup_singleton _, List.forall_mem_singleton.mpr ⟨List.mem_singleton_self _, ?_⟩⟩
      obtain ⟨v, member, read⟩ := List.mem_filterMap.mp asked
      exact str_of_text read ▸ member
    · rw [none] at read
      cases read
      exact ⟨List.nodup_nil, nofun⟩

def onlyRow : ContainerRow := ⟨"t/web", "", "", "", ""⟩

theorem list_stopping : (ofDemo.list.run stopping 0).outcome = .done [onlyRow, onlyRow] := by
  decide +kernel

theorem stopping_listed :
    let atRunning := ((ofDemo.ensureActive "demo").run stopping 0).state
    let atStopped := ((ofDemo.tasks "demo" running).run stopping atRunning).state
    ofDemo.Tells stopping onlyTaskAt ∧
    (ofDemo.list.run stopping 0).outcome = .done [onlyRow, onlyRow] ∧
    ∃ ran halted addresses,
      ((ofDemo.tasks "demo" running).run stopping atRunning).outcome = .done ran ∧
      ((ofDemo.tasks "demo" stopped).run stopping atStopped).outcome = .done halted ∧
      [onlyRow, onlyRow] = (ran ++ halted).flatMap (rowsOf addresses) ∧
      ∀ container, (containersOf ran).count container ≤ 1 ∧ (containersOf halted).count container ≤ 1 ∧
        (containersOf (ran ++ halted)).count container ≤ 2 ∧
        (1 < (containersOf (ran ++ halted)).count container →
          (containersOf ran).count container = 1 ∧ (containersOf halted).count container = 1 ∧
          (onlyTaskAt atRunning).Has running container.1 ∧
            (onlyTaskAt atStopped).Has stopped container.1) :=
  ⟨tells_stopping, list_stopping,
    listing_repeats_only_stopping ofDemo stopping onlyTaskAt tells_stopping 0 list_stopping⟩

/-- There is only one container at any moment, and a listing shows it twice. -/
theorem stoppedTask_listed_twice :
    ofDemo.Tells stopping onlyTaskAt ∧
    (∀ moment, containersOf (onlyTaskAt moment).tasks = [(("t" : Text), ("web" : Text))]) ∧
    ∃ row, (ofDemo.list.run stopping 0).outcome = .done [row, row] :=
  ⟨tells_stopping, fun _ => rfl, _, list_stopping⟩

end Operator

end Cluster

end ClusterStack
