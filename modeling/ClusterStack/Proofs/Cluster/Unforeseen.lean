import ClusterStack.Proofs.Cluster.FailStop
import ClusterStack.Proofs.Cluster.Leftovers
import ClusterStack.Proofs.Number.Numerals
/-!
# Failures that nothing foresees

A command reports most failures: refusals, rejected parameters, missing images, failed stacks and failed
calls. What it cannot report has one of three reasons: the size of the cluster is written with too many
digits, a reply is of a shape that no reader of it is prepared for, or the identifiers of the instances
cannot be told apart and put in order. Every one of these is known from the command and its exchanges.
-/
namespace ClusterStack.Cluster.Operator

variable (operator : Operator)

/-- A reply cannot be used for this reason, which is not one that a call reports. -/
def Blames (es : List Exchange) (failure : Failure) : Prop :=
  failure.isOfCall = false ∧ failure.isReported = false ∧
    ∃ e ∈ es, ∃ method, operator.Faults method e failure

/-- Every failure of the program that is not reported is blamed on a reply. -/
def Accountable {α : Type} (p : Program α) : Prop :=
  ∀ es failure, p.Plays es (.failed failure) → failure.isReported = false → operator.Blames es failure

variable {operator} {α β : Type} {es : List Exchange} {failure : Failure}

theorem Blames.of_subset {others : List Exchange} (blames : operator.Blames es failure)
    (more : ∀ e ∈ es, e ∈ others) : operator.Blames others failure := by
  obtain ⟨raw, silent, e, member, method, faults⟩ := blames
  exact ⟨raw, silent, e, more e member, method, faults⟩

theorem Blames.prepend {first : List Exchange} (blames : operator.Blames es failure) :
    operator.Blames (first ++ es) failure := blames.of_subset fun _ => List.mem_append_right first

/-- A fault whose failure is reported is one of a call, and another one is to blame itself. -/
theorem blames_of_faults {e : Exchange} {method : Method} {cause : Failure} {operation resource : String}
    (faults : operator.Faults method e cause) (member : e ∈ es)
    (silent : (Failure.ofCall operation resource cause).isReported = false) :
    operator.Blames es (Failure.ofCall operation resource cause) := by
  unfold Failure.ofCall at silent ⊢
  cases call : cause.isOfCall with
  | true =>
      rw [call] at silent
      cases silent
  | false =>
      rw [call] at silent
      exact ⟨call, silent, e, member, method, faults⟩

theorem accountable_pure (a : α) : operator.Accountable (pure a : Program α) := by
  rintro es failure ⟨-, no⟩
  cases no

theorem accountable_refuse (refusal : Refusal) : operator.Accountable (refuse refusal : Program α) := by
  rintro es failure ⟨-, same⟩ silent
  cases same
  cases silent

theorem accountable_ensure (condition : Bool) (refusal : Refusal) :
    operator.Accountable (ensure condition refusal) := by
  cases condition with
  | true => exact accountable_pure ()
  | false => exact accountable_refuse refusal

theorem accountable_of_halts {p : Program α} {own : Failure → Prop}
    (halts : p.Halts operator.judgement own)
    (reported : ∀ failure, own failure → failure.isReported = true) :
    operator.Accountable p := by
  intro es failure play silent
  generalize ending : Outcome.failed failure = outcome at play
  cases halts es outcome play with
  | sound all kept =>
      rw [reported failure (kept failure ending.symm)] at silent
      cases silent
  | fault before all blamed =>
      obtain ⟨method, cause, faults, rfl⟩ := blamed
      cases ending
      exact blames_of_faults faults (List.mem_append_right _ (List.mem_singleton_self _)) silent

theorem Uses.accountable {p : Program α} {method : Method} (uses : operator.Uses method p) :
    operator.Accountable (p.remotely method.title (operator.resource method)) := by
  have halts : (p.remotely method.title (operator.resource method)).Halts operator.judgement
      fun _ => False := uses.halts
  exact accountable_of_halts halts nofun

theorem Accountable.bind {p : Program α} {f : α → Program β} (first : operator.Accountable p)
    (rest : ∀ a, operator.Accountable (f a)) : operator.Accountable (p >>= f) := by
  intro es failure play silent
  rcases Program.plays_bind.mp play with ⟨a, es', es'', rfl, -, hf⟩ | ⟨_, hp, same⟩ | ⟨-, same⟩
  · exact (rest a es'' failure hf silent).prepend
  · cases same
    exact first es failure hp silent
  · cases same

variable (operator)

variable {operator}

variable (operator)

theorem accountable_ensureActive :
    operator.Accountable (operator.ensureActive operator.config.cluster) :=
  (Uses.accountable operator.uses_isActive).bind fun _ => accountable_ensure _ _

/-- The replies that describe container instances. -/
def instanceReplies (es : List Exchange) : List Reply :=
  (es.filter fun e => e.call.operation == "describe-container-instances").map Exchange.reply

/-- The last exchange describes container instances, and the identifiers of the instances that all such
replies tell cannot be told apart and put in order. -/
def Unsortable (es : List Exchange) (failure : Failure) : Prop :=
  ∃ before last entries, es = before ++ [last] ∧
    last.call.operation = "describe-container-instances" ∧
    (instanceReplies es).foldlM Service.instancesIn [] = .ok entries ∧
    distinctValues entries = .error failure

/-- The action is not a call that describes container instances. -/
def Elsewhere : Action → Prop
  | .invoked call => call.operation ≠ "describe-container-instances"
  | _ => True

/-- The descriptions of container instances are read reply by reply. -/
theorem plays_instancesOfBatch (batches : List (List Json)) (entries : List (Json × Json))
    {outcome : Outcome (List (Json × Json))}
    (h : (batches.foldlM (Service.instancesOfBatch operator.access operator.config.cluster)
      entries).Plays es outcome) :
    es.map Exchange.call <+:
        batches.map (Service.instancesCall operator.access operator.config.cluster) ∧
      (batches ≠ [] → es ≠ []) ∧
      outcome = .ofExcept ((es.map Exchange.reply).foldlM Service.instancesIn entries) ∧
      (∀ read, outcome = .done read → es.length = batches.length) := by
  induction batches generalizing entries es with
  | nil =>
      obtain ⟨rfl, rfl⟩ := h
      exact ⟨List.prefix_rfl, fun some => absurd rfl some, rfl, fun _ _ => rfl⟩
  | cons batch rest ih =>
      rw [List.foldlM_cons] at h
      have asks : (Service.instancesOfBatch operator.access operator.config.cluster entries batch).Asks
          _ (Service.instancesIn entries) := Program.asks_request
      obtain ⟨reply, others, rfl, ⟨read, told, h₁⟩ | ⟨failure, told, rfl, rfl⟩⟩ := asks.bind h
      · obtain ⟨all, -, same, whole⟩ := ih read h₁
        refine ⟨List.cons_prefix_cons.mpr ⟨rfl, all⟩, fun _ => List.cons_ne_nil _ _, ?_, ?_⟩
        · rw [same, List.map_cons, List.foldlM_cons, told]
          rfl
        · exact fun last done => congrArg (· + 1) (whole last done)
      · refine ⟨List.cons_prefix_cons.mpr ⟨rfl, List.nil_prefix⟩, fun _ => List.cons_ne_nil _ _, ?_, nofun⟩
        rw [List.map_cons, List.foldlM_cons, told]
        rfl

/-- Every failure of a play with these exchanges and this ending is reported, or blamed on a reply. -/
def Accounted (es : List Exchange) (outcome : Outcome α) : Prop :=
  ∀ failure, outcome = .failed failure → failure.isReported = false → operator.Blames es failure

variable {operator}

theorem Accountable.accounted {p : Program α} (accountable : operator.Accountable p)
    {outcome : Outcome α} (play : p.Plays es outcome) : operator.Accounted es outcome := by
  rintro failure rfl silent
  exact accountable es failure play silent

theorem batches_ne_nil {items : List α} (some : items ≠ []) : Service.batches items ≠ [] := by
  cases items with
  | nil => exact absurd rfl some
  | cons item rest => exact List.cons_ne_nil _ _

variable (operator) in
/-- How the look-up of addresses goes on after the descriptions of container instances: they cannot be
read, or what they identify cannot be put in order, or neither of both. -/
inductive Located (described rest : List Exchange) (outcome : Outcome (List (Json × Json))) : Prop
  | unread {cause : Failure} : rest = [] →
      (described.map Exchange.reply).foldlM Service.instancesIn [] = .error cause →
      operator.Accounted (described ++ rest) outcome → Located described rest outcome
  | unsorted {entries : List (Json × Json)} {failure : Failure} : rest = [] →
      (described.map Exchange.reply).foldlM Service.instancesIn [] = .ok entries →
      distinctValues entries = .error failure → outcome = .failed failure →
      Located described rest outcome
  | sorted {entries : List (Json × Json)} {ids : List Json} :
      (described.map Exchange.reply).foldlM Service.instancesIn [] = .ok entries →
      distinctValues entries = .ok ids →
      (rest = [] ∨ ∃ reply, rest = [⟨Instances.addressesCall operator.access ids, reply⟩]) →
      operator.Accounted (described ++ rest) outcome →
      Located described rest outcome

theorem Located.elsewhere {described rest : List Exchange} {outcome : Outcome (List (Json × Json))}
    (located : operator.Located described rest outcome) :
    ∀ e ∈ rest, e.call.operation ≠ "describe-container-instances" := by
  cases located with
  | unread none | unsorted none =>
      rw [none]
      exact nofun
  | sorted _ _ asked =>
      rcases asked with rfl | ⟨reply, rfl⟩
      · exact nofun
      · refine List.forall_mem_singleton.mpr ?_
        change "describe-instances" ≠ "describe-container-instances"
        decide

variable (operator) in
/-- What is left of the look-up of addresses when it is known which instances the container instances
are. -/
def locate (entries : List (Json × Json)) : Program (List (Json × Json)) := do
  let ids ← Program.ofExcept (distinctValues entries)
  let known ← (Instances.addresses operator.access ids).remotely "DescribeInstances"
    operator.config.cluster
  pure (entries.map fun (arn, id) => (arn, (Aws.Answer.lookup? id known).getD .null))

/-- The look-up of addresses describes container instances first, if there are any, and goes on if all
descriptions can be read. -/
theorem plays_addresses_described {tasks : List Task} {outcome : Outcome (List (Json × Json))}
    (h : (operator.addresses operator.config.cluster tasks).Plays es outcome) :
    let arns := (containerInstances tasks).map Json.str
    let asks := (Service.batches arns).map
      (Service.instancesCall operator.access operator.config.cluster)
    (arns = [] ∧ es = [] ∧ outcome = .done []) ∨
    ∃ described rest, es = described ++ rest ∧ described ≠ [] ∧ described.map Exchange.call <+: asks ∧
      ((∃ cause, (described.map Exchange.reply).foldlM Service.instancesIn [] = .error cause ∧
          rest = [] ∧
          ((Service.instanceIds operator.access operator.config.cluster arns).remotely
            "DescribeContainerInstances" operator.config.cluster).Plays described outcome) ∨
        ∃ entries, (described.map Exchange.reply).foldlM Service.instancesIn [] = .ok entries ∧
          described.map Exchange.call = asks ∧ (operator.locate entries).Plays rest outcome) := by
  unfold addresses at h
  cases found : containerInstances tasks with
  | nil =>
      rw [found] at h
      obtain ⟨rfl, rfl⟩ := h
      exact .inl ⟨rfl, rfl, rfl⟩
  | cons arn arns =>
      rw [found] at h
      obtain ⟨described, inner, rest, rfl, gathered, follows⟩ := Program.follows_of_plays h
      obtain ⟨read, play, rfl⟩ := Program.plays_mapFailure.mp gathered
      obtain ⟨calls, some, rfl, whole⟩ := operator.plays_instancesOfBatch _ _ play
      refine .inr ⟨described, rest, rfl, some (batches_ne_nil (List.cons_ne_nil _ _)), calls, ?_⟩
      cases told : (described.map Exchange.reply).foldlM Service.instancesIn [] with
      | error cause =>
          rw [told] at follows gathered
          obtain ⟨rfl, rfl⟩ := follows
          exact .inl ⟨cause, rfl, rfl, gathered⟩
      | ok entries =>
          rw [told] at follows whole
          have complete := whole entries rfl
          exact .inr ⟨entries, rfl, calls.eq_of_length (by simpa using complete), follows⟩

theorem plays_addresses {tasks : List Task} {outcome : Outcome (List (Json × Json))}
    (h : (operator.addresses operator.config.cluster tasks).Plays es outcome) :
    (es = [] ∧ ∃ addresses, outcome = .done addresses) ∨
    ∃ described rest, es = described ++ rest ∧ described ≠ [] ∧
      (∀ e ∈ described, ∃ arns,
        e.call = Service.instancesCall operator.access operator.config.cluster arns) ∧
      operator.Located described rest outcome := by
  rcases plays_addresses_described h with
    ⟨-, rfl, rfl⟩ | ⟨described, rest, rfl, some, calls, follows⟩
  · exact .inl ⟨rfl, [], rfl⟩
  refine .inr ⟨described, rest, rfl, some, ?_, ?_⟩
  · intro e member
    obtain ⟨batch, -, same⟩ := List.mem_map.mp (calls.subset (List.mem_map_of_mem member))
    exact ⟨batch, same.symm⟩
  rcases follows with ⟨cause, unread, rfl, gathered⟩ | ⟨entries, told, -, follows⟩
  · refine .unread rfl unread ?_
    rw [List.append_nil]
    exact (Uses.accountable (operator.uses_instanceIds _)).accounted gathered
  unfold locate at follows
  cases sorted : distinctValues entries with
  | error failure =>
      rw [sorted] at follows
      obtain ⟨rfl, rfl⟩ := follows
      exact .unsorted rfl told sorted rfl
  | ok ids =>
      rw [sorted] at follows
      have accountable := (Uses.accountable (operator.uses_describeInstances ids)).bind
        fun known => accountable_pure (entries.map fun (arn, id) =>
          (arn, (Aws.Answer.lookup? id known).getD .null))
      refine .sorted told sorted ?_ fun failure failed silent =>
        (accountable.accounted follows failure failed silent).prepend
      obtain ⟨_, asks, -⟩ := Program.plays_map.mp follows
      obtain ⟨_, asks, -⟩ := Program.plays_mapFailure.mp asks
      rcases Instances.plays_addresses asks with ⟨-, none, -⟩ | ⟨-, reply, one, -⟩
      · exact .inl none
      · exact .inr ⟨reply, one⟩

variable (operator) in
/-- What a listing asks before it looks up addresses. -/
def activeTasks : Program (List Task) := do
  operator.ensureActive operator.config.cluster
  let runningTasks ← operator.tasks operator.config.cluster running
  let stoppedTasks ← operator.tasks operator.config.cluster stopped
  pure (runningTasks ++ stoppedTasks)

variable (operator) in
theorem listActive_eq : operator.listActive = operator.activeTasks >>= fun tasks =>
    operator.addresses operator.config.cluster tasks >>= fun addresses =>
      pure (tasks.flatMap (rowsOf addresses)) := by
  unfold listActive activeTasks
  simp only [Program.bind_assoc]
  rfl

variable (operator) in
theorem accountable_activeTasks : operator.Accountable operator.activeTasks := by
  have asked (status : String) := accountable_of_halts
    (operator.halts_tasks status) (fun failure (no : False) => no.elim)
  exact operator.accountable_ensureActive.bind fun _ => (asked _).bind fun _ =>
    (asked _).bind fun _ => accountable_pure _

variable (operator) in
theorem does_activeTasks : operator.activeTasks.Does Elsewhere := by
  have asked (status : String) : (operator.tasks operator.config.cluster status).Does Elsewhere := by
    refine operator.does_tasks_of ?_ fun tasks => ?_
    · change "list-tasks" ≠ "describe-container-instances"
      decide
    · change "describe-tasks" ≠ "describe-container-instances"
      decide
  refine (operator.does_ensureActive (fun _ _ => trivial) ?_).bind fun _ => (asked _).bind fun _ =>
    (asked _).bind fun _ => trivial
  change "describe-clusters" ≠ "describe-container-instances"
  decide

theorem not_unsortable (elsewhere : ∀ e ∈ es, e.call.operation ≠ "describe-container-instances") :
    ¬ Unsortable es failure := by
  rintro ⟨before, last, entries, rfl, asks, -⟩
  exact elsewhere last (List.mem_append_right _ (List.mem_singleton_self last)) asks

theorem map_eq_failed {f : α → β} {outcome : Outcome α} :
    outcome.map f = .failed failure ↔ outcome = .failed failure := by
  cases outcome with
  | failed other =>
      constructor
      · rintro ⟨rfl⟩
        rfl
      · rintro ⟨rfl⟩
        rfl
  | _ => exact iff_of_false nofun nofun

/-- The look-up of addresses, after exchanges that describe no container instances, fails without a
report exactly for a reply or for identifiers that cannot be put in order. -/
theorem plays_addresses_silent {first : List Exchange} {tasks : List Task}
    {outcome : Outcome (List (Json × Json))}
    (before : ∀ e ∈ first, e.call.operation ≠ "describe-container-instances")
    (h : (operator.addresses operator.config.cluster tasks).Plays es outcome) :
    (∀ failure, outcome = .failed failure → failure.isReported = false →
      operator.Blames es failure ∨ Unsortable (first ++ es) failure) ∧
    ∀ failure, Unsortable (first ++ es) failure → outcome = .failed failure := by
  rcases plays_addresses h with ⟨rfl, addresses, rfl⟩ | ⟨described, rest, rfl, some, all, located⟩
  · refine ⟨nofun, fun failure unsortable => ?_⟩
    rw [List.append_nil] at unsortable
    exact absurd unsortable (not_unsortable before)
  have describes (e : Exchange) (member : e ∈ described) :
      e.call.operation = "describe-container-instances" := by
    obtain ⟨arns, asks⟩ := all e member
    rw [asks]
    rfl
  -- The replies that describe container instances are the ones of this look-up.
  have replies : instanceReplies (first ++ (described ++ rest)) = described.map Exchange.reply := by
    change repliesTo "describe-container-instances" _ = _
    rw [repliesTo_append, repliesTo_append, repliesTo_of_others before, repliesTo_of_all describes,
      repliesTo_of_others located.elsewhere, List.nil_append, List.append_nil]
  unfold Unsortable
  rw [replies]
  cases located with
  | unread _ unread accounted =>
      refine ⟨fun failure failed silent => .inl (accounted failure failed silent), ?_⟩
      rintro failure ⟨-, -, entries, -, -, read, -⟩
      rw [unread] at read
      cases read
  | @unsorted entries cause none read unsorted failed =>
      subst none failed
      constructor
      · rintro failure ⟨rfl⟩ -
        refine .inr ⟨first ++ described.dropLast, described.getLast some, entries, ?_, ?_, read, unsorted⟩
        · rw [List.append_nil, List.append_assoc, List.dropLast_append_getLast]
        · exact describes _ (List.getLast_mem some)
      · rintro failure ⟨-, -, entries', -, -, read', unsorted'⟩
        rw [read] at read'
        cases read'
        rw [unsorted] at unsorted'
        cases unsorted'
        rfl
  | sorted read sorted _ accounted =>
      refine ⟨fun failure failed silent => .inl (accounted failure failed silent), ?_⟩
      rintro failure ⟨-, -, entries', -, -, read', unsorted⟩
      rw [read] at read'
      cases read'
      rw [sorted] at unsorted
      cases unsorted

theorem plays_listActive_silent {outcome : Outcome (List ContainerRow)}
    (h : operator.listActive.Plays es outcome) :
    (∀ failure, outcome = .failed failure → failure.isReported = false →
      operator.Blames es failure ∨ Unsortable es failure) ∧
    ∀ failure, Unsortable es failure → outcome = .failed failure := by
  rw [listActive_eq] at h
  obtain ⟨first, inner, rest, rfl, asked, follows⟩ := Program.follows_of_plays h
  have before := operator.does_activeTasks.plays asked
  cases inner with
  | done tasks =>
      obtain ⟨inner, looked, rfl⟩ := Program.plays_map.mp follows
      obtain ⟨accounted, unsortable⟩ := plays_addresses_silent before looked
      simp only [map_eq_failed]
      refine ⟨fun failure failed silent => ?_, unsortable⟩
      exact (accounted failure failed silent).imp_left Blames.prepend
  | failed cause =>
      obtain ⟨rfl, rfl⟩ := follows
      rw [List.append_nil]
      refine ⟨?_, fun failure unsortable => absurd unsortable (not_unsortable before)⟩
      rintro failure ⟨rfl⟩ silent
      exact .inl (operator.accountable_activeTasks _ _ asked silent)
  | unfinished =>
      obtain ⟨rfl, rfl⟩ := follows
      rw [List.append_nil]
      exact ⟨nofun, fun failure unsortable => absurd unsortable (not_unsortable before)⟩

variable (operator) in
/-- The command comes to read its size, which has too many digits. -/
inductive Overlong : Command → Failure → Prop
  | creation {o : CreationOptions} {size : String} {count : Nat} : o.acknowledged = true →
      operator.config.cluster ≠ "" → nonempty? o.size = some size → IsOverlong size count →
      Overlong (.creation o) (.value (.longNumeral count))
  | resizing {o : ResizeOptions} {size : String} {count : Nat} : o.acknowledged = true →
      nonempty? o.size = some size → IsOverlong size count →
      Overlong (.resizing o) (.value (.longNumeral count))

variable (operator) in
/-- The command cannot report the failure, for one of three reasons. -/
inductive Unforeseen (command : Command) (es : List Exchange) (failure : Failure) : Prop
  | size : operator.Overlong command failure → Unforeseen command es failure
  | reply : operator.Blames es failure → Unforeseen command es failure
  | identifiers : command = .listing → Unsortable es failure → Unforeseen command es failure

theorem distinctValues_error {entries : List (Json × Json)}
    (h : distinctValues entries = .error failure) : ∃ fault, failure = .data fault := by
  have raises (v : Json) : RaisesOnly (fun failure => ∃ fault, failure = .data fault)
      (Aws.Answer.key v) := by
    unfold Aws.Answer.key
    split
    · exact raisesOnly_ok _
    · exact raisesOnly_error ⟨_, rfl⟩
  refine ((raisesOnly_mapM raises (entries.map Prod.snd)).bind fun values => ?_) failure h
  split
  · exact raisesOnly_ok _
  · exact raisesOnly_error ⟨_, rfl⟩

/-- What is unforeseen is too long a numeral, or neither of a call nor reported. -/
theorem Unforeseen.kind {command : Command} (unforeseen : operator.Unforeseen command es failure) :
    (∃ count, failure = .value (.longNumeral count)) ∨
      failure.isOfCall = false ∧ failure.isReported = false := by
  cases unforeseen with
  | size overlong => cases overlong <;> exact .inl ⟨_, rfl⟩
  | reply blames => exact .inr ⟨blames.1, blames.2.1⟩
  | identifiers _ unsortable =>
      obtain ⟨-, -, entries, -, -, -, unsorted⟩ := unsortable
      obtain ⟨fault, rfl⟩ := distinctValues_error unsorted
      exact .inr ⟨rfl, rfl⟩

section

variable {template : Except Failure String} (atHand : operator.template = .ofExcept template)

include atHand

/-- What cannot be used among the replies ends the command. -/
theorem Blames.ends {command : Command} {outcome : Outcome command.Answer}
    (blames : operator.Blames es failure) (h : (operator.perform command).Plays es outcome) :
    outcome = .failed failure := by
  obtain ⟨raw, -, e, member, method, faults⟩ := blames
  obtain ⟨before, after, rfl⟩ := List.append_of_mem member
  have unexcused : ¬ (operator.stageAfter before).Excuses method failure := by
    intro excused
    have absence (absent : failure.isAbsenceOfStack = true) : failure.isOfCall = true := by
      cases failure with
      | service => rfl
      | _ => cases absent
    generalize operator.stageAfter before = stage at excused
    cases excused with
    | absent gone => exact Bool.eq_false_iff.mp raw (absence gone)
    | gone _ gone => exact Bool.eq_false_iff.mp raw (absence gone)
    | unsearchable ofCall => exact Bool.eq_false_iff.mp raw ofCall
  obtain ⟨-, ended⟩ := (abides_perform atHand command h _ _ _ _ _ rfl faults).1 unexcused
  rw [ended, Failure.ofCall, raw]
  rfl

end

theorem Overlong.ends {command : Command} {outcome : Outcome command.Answer}
    (overlong : operator.Overlong command failure) (h : (operator.perform command).Plays es outcome) :
    outcome = .failed failure := by
  cases overlong with
  | @creation o size count acknowledged named given long =>
      rcases plays_ensure_bind h with ⟨unknown, -⟩ | ⟨-, h₁⟩
      · exact absurd acknowledged (Bool.eq_false_iff.mp unknown)
      rcases operator.plays_chosenName_bind h₁ with ⟨unnamed, -⟩ | ⟨-, h₂⟩
      · exact absurd unnamed named
      have sized : givenSize o = .fail (.value (.longNumeral count)) := by
        unfold givenSize
        rw [given]
        simp only [long.sizeOfText_eq]
        rfl
      rw [sized] at h₂
      exact h₂.2
  | resizing acknowledged given long =>
      rcases plays_ensure_bind h with ⟨unknown, -⟩ | ⟨-, h₁⟩
      · exact absurd acknowledged (Bool.eq_false_iff.mp unknown)
      rw [given] at h₁
      simp only [long.sizeOfText_eq] at h₁
      exact h₁.2

theorem Unsortable.ends {outcome : Outcome (List ContainerRow)} (unsortable : Unsortable es failure)
    (h : operator.list.Plays es outcome) : outcome = .failed failure := by
  rcases operator.plays_list_guarded h with ⟨rfl, -⟩ | ⟨-, h₁⟩
  · exact absurd unsortable (not_unsortable nofun)
  · exact (plays_listActive_silent h₁).2 failure unsortable

end ClusterStack.Cluster.Operator
