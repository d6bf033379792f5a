import ClusterStack.Proofs.Cluster.Commands
import ClusterStack.Proofs.Cluster.Quiet
import ClusterStack.Proofs.Cluster.Submission
/-!
# Stopping at faults

A command stops at the first call that fails, and the report names the method of this call and what it
was about. The exceptions are those that the stage of the run excuses. A command is followed here through
its quiet parts, its requests about the stack and the waits after them.
-/
namespace ClusterStack.Cluster.Operator

variable {operator : Operator} {α β : Type}
  {resumes : Stage → List Exchange → Outcome α → Prop} {stage : Stage} {es : List Exchange}
  {outcome : Outcome α}

/-- A wait after which nothing is left but to answer. -/
theorem agrees_pure {operation : Stack.Operation} (stays : operation ≠ .deletion)
    (reported : ∀ status, resumes (.searching operation status) []
      (.failed (.stack operator.stack.name (.failedStatus operation.wait.success status.toString))))
    (answer : Unit → α) : operator.Agrees operation (fun u => pure (answer u)) resumes := by
  refine ⟨reported, fun deletion => absurd deletion stays, ?_⟩
  rintro es outcome ⟨rfl, -⟩
  exact abides_nil

/-- A request about the stack starts the wait for its operation, unless it fails. -/
theorem abides_request {p : Program β} {f : β → Program α} {call : Invocation}
    {read : Reply → Except Failure β} (method : Method) {operation : Stack.Operation}
    (asks : p.Asks call read) (uses : operator.Uses method p)
    (starts : ∀ reply, operator.advance stage ⟨call, reply⟩ = .waiting operation)
    (requests : ¬ (method = .describeStacks ∨ method = .describeStackEvents))
    (h : (p.remotely method.title (operator.resource method) >>= f).Plays es outcome)
    (rest : ∀ b es', (f b).Plays es' outcome →
      operator.Abides resumes (.waiting operation) es' outcome) :
    operator.Abides resumes stage es outcome := by
  obtain ⟨first, reported, after, rfl, asked, follows⟩ := Program.follows_of_plays h
  obtain ⟨inner, called, rfl⟩ := Program.plays_mapFailure.mp asked
  obtain ⟨reply, rfl, ended⟩ := asks _ _ called
  cases inner with
  | done b =>
      have sound := (uses _ _ called).sound_of_done _ (List.mem_singleton_self _)
      refine abides_cons_sound (sound_of sound.1 sound.2) ?_
      rw [starts]
      exact rest b after follows
  | failed cause =>
      refine abides_fault (uses _ _ called).blamed_of_singleton (fun _ => follows) fun excused => ?_
      exact absurd excused.polls requests
  | unfinished => exact absurd ended.symm Outcome.ofExcept_ne_unfinished

/-- A deletion of the stack with the wait for it, and what goes on after it. -/
theorem abides_deletion {f : Unit → Program α} (agrees : operator.Agrees .deletion f resumes)
    {message : String} (h : (do
      operator.stack.delete
      Program.note .info message
      let gone ← operator.stack.awaitDeletion operator.pages
      f gone : Program α).Plays es outcome) :
    operator.Abides resumes stage es outcome := by
  refine abides_request .deleteStack Program.asks_request operator.uses_deleteStack (fun _ => rfl)
    (by decide) h fun _ es₁ h₁ => ?_
  exact abides_await agrees (Program.plays_note.mp h₁)

theorem advance_idle (reply : Reply) :
    operator.advance .idle ⟨operator.stack.statusCall, reply⟩ = .idle := by
  unfold advance
  rw [calls_status]

/-- The question whether there is a stack is a fault only if its reply leaves that open. -/
theorem abides_exists {f : Bool → Program α}
    (h : (operator.stack.exists? >>= f).Plays es outcome)
    (existing : ∀ es', (f true).Plays es' outcome → operator.Abides resumes .idle es' outcome)
    (missing : ∀ es', (f false).Plays es' outcome →
      resumes .idle es' outcome ∧ operator.Abides resumes .idle es' outcome) :
    operator.Abides resumes .idle es outcome := by
  obtain ⟨reply, after, rfl, told⟩ := operator.stack.asks_exists.bind h
  unfold Stack.Handle.existsIn at told
  cases read : operator.stack.statusIn reply with
  | ok status =>
      simp only [read] at told
      obtain ⟨found, same, hf⟩ | ⟨failure, no, -⟩ := told
      · cases same
        refine abides_cons_sound (sound_status read) ?_
        rw [advance_idle]
        exact existing after hf
      · cases no
  | error cause =>
      simp only [read] at told
      have faults : operator.Faults .describeStacks ⟨operator.stack.statusCall, reply⟩ cause :=
        ⟨calls_status, read⟩
      by_cases absent : cause.isAbsenceOfStack = true
      · rw [if_pos absent] at told
        obtain ⟨found, same, hf⟩ | ⟨failure, no, -⟩ := told
        · cases same
          refine abides_fault faults (fun unexcused => absurd (.absent absent) unexcused) fun _ => ?_
          rw [advance_idle]
          exact missing after hf
        · cases no
      · rw [if_neg absent] at told
        obtain ⟨found, no, -⟩ | ⟨failure, same, ended⟩ := told
        · cases no
        · cases same
          refine abides_fault faults (fun _ => ended) fun excused => ?_
          cases excused with
          | absent there => exact absurd there absent

variable (operator) in
/-- How a run of the command goes on after a fault that its stage excuses. A creation takes the stack
that is not there for none, and one that is gone for deleted; a deletion needs a stack in the first
place, and goes on with its cluster when the stack is gone; and a failed status is reported without a
reason. -/
def Resumes : (command : Command) → Stage → List Exchange → Outcome command.Answer → Prop
  | .creation o, .idle, es, outcome => ∃ size, Sized o size ∧
    (operator.furnish (o.parameters operator.config.cluster size) false).Plays es outcome
  | .creation _, .waiting _, es, outcome => ∃ parameters,
    (operator.createStack parameters).Plays es outcome
  | .deletion _, .waiting _, es, outcome => operator.removeCluster.Plays es outcome
  | .deletion _, .idle, es, outcome | .resizing _, .idle, es, outcome =>
    es = [] ∧ outcome = .failed (.refused (.stackNotFound operator.config.cluster))
  | _, .searching operation status, es, outcome => es = [] ∧ outcome = .failed
    (.stack operator.stack.name (.failedStatus operation.wait.success status.toString))
  | _, _, _, _ => False

theorem quiet_removeCluster : operator.Quiet operator.removeCluster := by
  refine Quiet.bind ⟨Uses.halts operator operator.uses_deleteCluster, Program.Does.remotely _ _ ?_⟩
    fun _ => quiet_ofExcept (.ok ())
  refine Program.Does.bind (Program.does_request ?_) fun _ => ⟨trivial, trivial⟩
  change "delete-cluster" ∉ aboutStack
  decide

section

variable {template : Except Failure String} (atHand : operator.template = .ofExcept template)

include atHand

theorem abides_createStack {o : CreationOptions} {parameters : Stack.Parameters} {outcome : Outcome Text}
    (h : (operator.createStack parameters).Plays es outcome) :
    operator.Abides (operator.Resumes (.creation o)) stage es outcome := by
  unfold createStack at h
  rw [atHand] at h
  rcases ((Program.silent_ofExcept template).remotely _ _).bind h with ⟨rfl, -⟩ | ⟨body, h₁⟩
  · exact abides_nil
  refine abides_request .createStack (Stack.Service.asks_submit _ _ _ _ _ _)
    (operator.uses_createStack body parameters) (fun reply => rfl) (by decide) h₁ fun id es₂ h₂ => ?_
  have agrees : operator.Agrees .creation (fun _ => pure id) (operator.Resumes (.creation o)) := by
    refine agrees_pure ?_ (fun status => ?_) fun _ => id
    · exact nofun
    · exact ⟨rfl, rfl⟩
  exact abides_await agrees (Program.plays_note.mp h₂)

theorem abides_furnish {o : CreationOptions} {parameters : Stack.Parameters} {replacing : Bool}
    {outcome : Outcome Text} (h : (operator.furnish parameters replacing).Plays es outcome) :
    operator.Abides (operator.Resumes (.creation o)) .idle es outcome := by
  refine (quiet_ensure _ _).abides_bind h fun _ es₁ h₁ => ?_
  refine (operator.quiet_ensureNetwork parameters).abides_bind h₁ fun _ es₂ h₂ => ?_
  refine (operator.quiet_withImage parameters).abides_bind h₂ fun complete es₃ h₃ => ?_
  refine (quiet_ofExcept complete.validate).abides_bind h₃ fun _ es₄ h₄ => ?_
  refine operator.quiet_createCluster.abides_bind h₄ fun _ es₅ h₅ => ?_
  cases replacing with
  | false => exact abides_createStack atHand h₅
  | true =>
      have agrees : operator.Agrees .deletion (fun _ => operator.createStack complete)
          (operator.Resumes (.creation o)) := {
        reported := fun status => ⟨rfl, rfl⟩
        gone := fun _ es outcome created => ⟨complete, created⟩
        further := fun es outcome created => abides_createStack atHand created }
      replace h₅ : (operator.removeStack >>= fun _ => operator.createStack complete).Plays es₅
        outcome := h₅
      unfold removeStack at h₅
      rw [Program.bind_assoc] at h₅
      exact abides_deletion agrees h₅

theorem abides_create {o : CreationOptions} {outcome : Outcome Text}
    (h : (operator.create o).Plays es outcome) :
    operator.Abides (operator.Resumes (.creation o)) .idle es outcome := by
  rcases operator.plays_create_guarded h with ⟨rfl, -⟩ | ⟨-, -, size, sized, h₁⟩
  · exact abides_nil
  unfold ensureRoom at h₁
  rw [Program.bind_assoc] at h₁
  refine abides_exists h₁ (fun es₂ h₂ => ?_) fun es₂ h₂ => ?_
  · rw [Program.bind_assoc] at h₂
    exact (quiet_ensure _ _).abides_bind h₂ fun _ es₃ h₃ => abides_furnish atHand h₃
  · exact ⟨⟨size, sized, h₂⟩, abides_furnish atHand h₂⟩

end

theorem abides_onStanding {act : Stack.Handle → Program α}
    (h : (operator.onStanding act).Plays es outcome)
    (absent : resumes .idle [] (.failed (.refused (.stackNotFound operator.config.cluster))))
    (acts : ∀ es', (act operator.stack).Plays es' outcome →
      operator.Abides resumes .idle es' outcome) :
    operator.Abides resumes .idle es outcome := by
  refine operator.quiet_ensureActive.abides_bind h fun _ es₁ h₁ => ?_
  unfold existingStack at h₁
  rw [Program.bind_assoc] at h₁
  refine abides_exists h₁ acts ?_
  rintro es₂ ⟨rfl, rfl⟩
  exact ⟨absent, abides_nil⟩

theorem abides_delete {o : DeletionOptions} {outcome : Outcome Unit}
    (h : (operator.delete o).Plays es outcome) :
    operator.Abides (operator.Resumes (.deletion o)) .idle es outcome := by
  rcases operator.plays_delete_guarded h with ⟨rfl, -⟩ | ⟨-, -, h₁⟩
  · exact abides_nil
  refine abides_onStanding h₁ ⟨rfl, rfl⟩ fun es₂ h₂ => ?_
  have agrees : operator.Agrees .deletion (fun _ => operator.removeCluster)
      (operator.Resumes (.deletion o)) := {
    reported := fun status => ⟨rfl, rfl⟩
    gone := fun _ es outcome removed => removed
    further := fun es outcome removed => operator.quiet_removeCluster.abides removed }
  exact abides_deletion agrees h₂

theorem abides_resize {o : ResizeOptions} {outcome : Outcome Unit}
    (h : (operator.resize o).Plays es outcome) :
    operator.Abides (operator.Resumes (.resizing o)) .idle es outcome := by
  rcases operator.plays_resize_guarded h with ⟨rfl, -⟩ | ⟨-, -, text, size, -, -, h₁⟩
  · exact abides_nil
  refine abides_onStanding h₁ ⟨rfl, rfl⟩ fun es₂ h₂ => ?_
  refine abides_request .updateStack (Stack.Service.asks_submit _ _ _ _ _ _)
    (operator.uses_updateStack _) (fun _ => rfl) (by decide) h₂ fun _ es₃ h₃ => ?_
  have waits := Program.plays_note.mp h₃
  rw [← Program.bind_pure (operator.stack.awaitUpdate operator.pages)] at waits
  have agrees : operator.Agrees .update pure (operator.Resumes (.resizing o)) := by
    refine agrees_pure ?_ (fun status => ?_) id
    · exact nofun
    · exact ⟨rfl, rfl⟩
  exact abides_await agrees waits

theorem abides_perform {template : Except Failure String}
    (atHand : operator.template = .ofExcept template) (command : Command)
    {outcome : Outcome command.Answer} (h : (operator.perform command).Plays es outcome) :
    operator.Abides (operator.Resumes command) .idle es outcome := by
  cases command with
  | creation o => exact abides_create atHand h
  | deletion o => exact abides_delete h
  | resizing o => exact abides_resize h
  | listing => exact operator.quiet_list.abides h

variable (operator) in
/-- The creation has to look up an image, and what it is told of the stack and its parameters pass the
guards that stand before that. -/
structure Resolves (o : CreationOptions) (described : Reply) (region : String) : Prop where
  room : ∃ found, operator.stack.existsIn described = .ok found ∧ (!found || o.force) = true
  given : ∀ size, Sized o size → (o.parameters operator.config.cluster size).has .keyPair = true ∧
    networkFault? (o.parameters operator.config.cluster size) = none
  image : nonempty? o.image = none
  here : nonempty? operator.config.region = some region

/-- An image that cannot be found without a call ends the creation in its place. -/
theorem plays_unresolved {o : CreationOptions} {described : Exchange} {rest : List Exchange}
    {outcome : Outcome Text} {region : String} {failure : Failure}
    (h : (operator.create o).Plays (described :: rest) outcome)
    (resolves : operator.Resolves o described.reply region)
    (unknown : operator.images.find region = .fail failure) (own : failure.isOfCall = false) :
    rest = [] ∧ outcome = .failed failure := by
  rcases operator.plays_create_guarded h with ⟨no, -⟩ | ⟨-, -, size, sized, h₁⟩
  · cases no
  unfold ensureRoom at h₁
  rw [Program.bind_assoc] at h₁
  obtain ⟨found, present, room⟩ := resolves.room
  obtain ⟨reply, after, shape, told⟩ := operator.stack.asks_exists.bind h₁
  cases shape
  rw [present] at told
  obtain ⟨_, same, h₂⟩ | ⟨_, no, -⟩ := told
  · cases same
    rw [Program.bind_assoc, room] at h₂
    obtain ⟨keyed, sound⟩ := resolves.given size sized
    have lacking : ¬ (o.parameters operator.config.cluster size).has .image = true := by
      rw [o.parameters_eq sized, Stack.Parameters.has_ofValues, o.image_mem]
      exact not_not_intro resolves.image
    have network : ensureNetwork (o.parameters operator.config.cluster size) = pure () := by
      unfold ensureNetwork
      rw [sound]
    have image : operator.withImage (o.parameters operator.config.cluster size) = .fail failure := by
      unfold withImage findImage
      rw [if_neg lacking, resolves.here]
      dsimp only
      rw [unknown]
      change Program.fail (Failure.ofCall _ _ failure) = _
      rw [Failure.ofCall, own]
      rfl
    unfold furnish at h₂
    rw [keyed, network, image] at h₂
    obtain ⟨rfl, rfl⟩ := h₂
    exact ⟨rfl, rfl⟩
  · cases no

/-- Whatever is replied, a call that fails is the last one of its run, and the run fails for it: as the
remote call of the method on its resource, or unchanged if the failure is not one of a call. The only
exceptions are those that the stage of the run excuses, after which the run resumes as laid down. An
image that is not found without a call ends the run in its place as well. -/
theorem failed_call_ends_run {σ : Type} (config : Config) (images : Image.Source)
    (template : Except Failure String) (pages : Nat) (command : Command) (backend : Backend σ)
    (s : σ) :
    let operator : Operator := ⟨config, images, .ofExcept template, pages⟩
    let es := (operator.perform command).exchanges backend s
    let outcome := ((operator.perform command).run backend s).outcome
    (∀ before e after method cause, es = before ++ e :: after → operator.Faults method e cause →
      (¬ (operator.stageAfter before).Excuses method cause → after = [] ∧ outcome = .failed
        (if cause.isOfCall then .remote method.title (operator.resource method) cause else cause)) ∧
      ((operator.stageAfter before).Excuses method cause →
        operator.Resumes command (operator.stageAfter before) after outcome)) ∧
    (∀ o described rest region fault, command = .creation o → es = described :: rest →
      operator.Resolves o described.reply region →
      images.find region = .fail (.image fault) → rest = [] ∧ outcome = .failed (.image fault)) := by
  intro operator es outcome
  have play : (operator.perform command).Plays es outcome := Program.plays_run backend _ s
  refine ⟨abides_perform rfl command play, ?_⟩
  rintro o described rest region fault rfl shape resolves unknown
  rw [shape] at play
  exact plays_unresolved play resolves unknown rfl

/-- There is an active cluster with a stack, which may not be updated. -/
def lockedStack : Aws.Script := Aws.standing "CREATE_COMPLETE" ++ [
  ("update-stack", [.refusing
    "An error occurred (AccessDenied) when calling the UpdateStack operation: no"])]

theorem split_getElem? {γ : Type} {items : List γ} {i : Nat} {item : γ} (h : items[i]? = some item) :
    items = items.take i ++ item :: items.drop (i + 1) := by
  obtain ⟨bound, rfl⟩ := List.getElem?_eq_some_iff.mp h
  rw [← List.drop_eq_getElem_cons bound, List.take_append_drop]

theorem lockedStack_ends_run :
    let config : Config := ⟨"demo", some "nowhere", none, usualStackPrefix⟩
    let operator : Operator := ⟨config, .listed Image.usualTable, .ofExcept (.ok ""), 1⟩
    let resizing : Command := .resizing ⟨true, some "2"⟩
    let refused : Failure := .service ⟨"AccessDenied", "no", "update-stack", some 254⟩
    (∃ before e, (operator.perform resizing).exchanges Aws.scripted lockedStack = before ++ [e] ∧
      operator.Faults .updateStack e refused) ∧
    ((operator.perform resizing).run Aws.scripted lockedStack).outcome =
      .failed (.remote "UpdateStack" "amazon-ecs-cli-setup-demo" refused) ∧
    ((operator.perform (.creation threeInstances)).run Aws.scripted freshCluster).outcome =
      .failed (.image (.regionNotListed "nowhere")) := by
  intro config operator resizing refused
  have third : (((operator.perform resizing).exchanges Aws.scripted lockedStack)[2]?.map fun e =>
      (e.call.operation, Stack.Handle.idIn "update-stack" e.reply)) =
        some ("update-stack", .error refused) := by
    decide +kernel
  have first : (((operator.create threeInstances).exchanges Aws.scripted freshCluster)[0]?.map
      fun e => operator.stack.existsIn e.reply) = some (.ok false) := by
    decide +kernel
  obtain ⟨e, found, told⟩ := Option.map_eq_some_iff.mp third
  obtain ⟨asks, unread⟩ := Prod.mk.inj told
  have faults : operator.Faults .updateStack e refused := ⟨Method.of?_eq asks, unread⟩
  have split := split_getElem? found
  obtain ⟨last, failed⟩ := ((failed_call_ends_run config (.listed Image.usualTable) (.ok "") 1
    resizing Aws.scripted lockedStack).1 _ _ _ _ _ split faults).1
      fun excused => absurd excused.polls (by decide)
  rw [last] at split
  obtain ⟨described, asked, room⟩ := Option.map_eq_some_iff.mp first
  have resolves : operator.Resolves threeInstances described.reply "nowhere" := by
    refine ⟨⟨false, room, rfl⟩, fun size sized => ?_, rfl, rfl⟩
    cases sized with
    | notGiven absent => cases absent
    | given given read =>
        cases given
        obtain ⟨-, value, -⟩ := sizeOfText_ok read
        cases value
        exact ⟨rfl, rfl⟩
  have unlisted := (failed_call_ends_run config (.listed Image.usualTable) (.ok "") 1
    (.creation threeInstances) Aws.scripted freshCluster).2 threeInstances described _ "nowhere"
      (.regionNotListed "nowhere") rfl (split_getElem? asked) resolves rfl
  exact ⟨⟨_, e, split, faults⟩, failed, unlisted.2⟩

end ClusterStack.Cluster.Operator
