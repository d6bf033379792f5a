import ClusterStack.Proofs.Cluster.Commands
import ClusterStack.Proofs.Stack.Confirmation
/-!
# The order of a creation

A cluster is created before its stack. A stack that is in the way is deleted in between, if that is
asked for, and the new one is only asked for when a reply has confirmed that the old one is gone. The
first reply about the stack decides which of this can happen at all.
-/
namespace ClusterStack.Cluster.Operator

variable (operator : Operator)

/-- What a creation goes through up to the creation of the cluster: the stack is asked for first, and
nothing is changed before all guards have passed. What follows is left as a play. -/
theorem plays_create {o : CreationOptions} {es : List Exchange} {outcome : Outcome Text}
    (h : (operator.create o).Plays es outcome) :
    (es = [] ∧ ∀ id, outcome ≠ .done id) ∨
    ∃ described rest, es = ⟨operator.stack.statusCall, described⟩ :: rest ∧
      ((changes rest = [] ∧ ∀ id, outcome ≠ .done id) ∨
        ∃ replacing parameters looked founded others,
          rest = looked ++ ⟨Service.creationCall operator.access operator.config.cluster, founded⟩ ::
            others ∧
          operator.stack.presenceIn described = (if replacing then .existing else .missing) ∧
          (replacing = true → o.force = true) ∧ changes looked = [] ∧
          ((others = [] ∧ ∀ id, outcome ≠ .done id) ∨
            (if replacing = true then do
                operator.removeStack
                operator.createStack parameters
              else operator.createStack parameters).Plays others outcome)) := by
  rcases operator.plays_create_guarded h with ⟨rfl, failure, -, rfl⟩ | ⟨-, -, size, -, h₁⟩
  · exact .inl ⟨rfl, nofun⟩
  -- The first call: from here on it is known what is told of the stack.
  obtain ⟨described, es₁, rfl, told⟩ := (operator.checks_ensureRoom _ _).bind h₁
  refine .inr ⟨described, es₁, rfl, ?_⟩
  rcases told with ⟨rfl, failure, rfl⟩ | ⟨replacing, ⟨presence, forced⟩, h₂⟩
  · exact .inl ⟨rfl, nofun⟩
  rcases operator.plays_furnish h₂ with
    unchanged | ⟨parameters, looked, founded, others, rfl, none, -, -, -, created⟩
  · exact .inl unchanged
  · exact .inr ⟨replacing, parameters, looked, founded, others, rfl, presence, forced, none, created⟩

theorem plays_removeStack {es : List Exchange} {outcome : Outcome Unit}
    (h : operator.removeStack.Plays es outcome) :
    ∃ deletion rest, es = ⟨operator.stack.deletionCall, deletion⟩ :: rest ∧
      changes es = ["delete-stack"] ∧
      (outcome = .done () → Stack.Handle.Accepted deletion ∧ ∃ during confirming,
        rest = during ++ [confirming] ∧
        (∀ e ∈ during, Stack.Wait.deletion.Undecided operator.stack e) ∧
        operator.stack.Confirms confirming) := by
  obtain ⟨deletion, rest, rfl, ⟨rfl, failure, rfl⟩ | ⟨-, accepted, waited⟩⟩ :=
    operator.stack.checks_delete.bind h
  · refine ⟨deletion, [], rfl, ?_, nofun⟩
    rw [changes_cons_of_change operator.stack.deletionCall_changes]
    rfl
  · have waited := Program.plays_note.mp waited
    have reads := (operator.stack.admits_reads.does_awaitDeletion operator.pages).changes_eq_nil waited
    refine ⟨deletion, rest, rfl, ?_, ?_⟩
    · rw [changes_cons_of_change operator.stack.deletionCall_changes, reads]
      rfl
    · rintro rfl
      exact ⟨accepted, operator.stack.plays_awaitDeletion_done waited⟩

/-- The new stack is complete only when a reply has told that, and its identifier is the one that the
creation was answered with. -/
theorem plays_createStack {template : Except Failure String}
    (atHand : operator.template = .ofExcept template) {parameters : Stack.Parameters}
    {es : List Exchange} {outcome : Outcome Text}
    (h : (operator.createStack parameters).Plays es outcome) :
    (es = [] ∧ ∀ id, outcome ≠ .done id) ∨
    ∃ body created rest, es = ⟨operator.stack.creationCall body parameters, created⟩ :: rest ∧
      changes es = ["create-stack"] ∧
      (∀ id, outcome = .done id → Stack.Handle.AnswersId created id ∧ ∃ during complete,
        rest = during ++ [⟨operator.stack.statusCall, complete⟩] ∧
        operator.stack.statusIn complete = .ok "CREATE_COMPLETE") := by
  unfold createStack at h
  rw [atHand] at h
  rcases ((Program.silent_ofExcept template).remotely _ _).bind h with
    ⟨rfl, failure, rfl⟩ | ⟨body, h₁⟩
  · exact .inl ⟨rfl, nofun⟩
  obtain ⟨created, rest, rfl, asked⟩ := (operator.stack.checks_create body parameters).bind h₁
  refine .inr ⟨body, created, rest, rfl, ?_⟩
  rw [changes_cons_of_change (operator.stack.creationCall_changes body parameters)]
  rcases asked with ⟨rfl, failure, rfl⟩ | ⟨id, answers, h₂⟩
  · exact ⟨rfl, nofun⟩
  obtain ⟨inner, waited, rfl⟩ := Program.plays_map.mp (Program.plays_note.mp h₂)
  have reads := (operator.stack.admits_reads.does_awaitCreation operator.pages).changes_eq_nil waited
  rw [reads]
  refine ⟨rfl, fun other done => ?_⟩
  cases inner with
  | done u =>
      cases done
      obtain ⟨during, complete, rfl, -, told⟩ :=
        Stack.Wait.creation.plays_run_done operator.stack waited
      exact ⟨answers, during, complete, rfl, told⟩
  | failed failure => cases done
  | unfinished => cases done

def stackChanges (replacing : Bool) : List String :=
  if replacing then ["delete-stack", "create-stack"] else ["create-stack"]

theorem plays_stack {template : Except Failure String}
    (atHand : operator.template = .ofExcept template) {replacing : Bool}
    {parameters : Stack.Parameters} {es : List Exchange} {outcome : Outcome Text}
    (h : (if replacing = true then do
        operator.removeStack
        operator.createStack parameters
      else operator.createStack parameters).Plays es outcome) :
    changes es <+: stackChanges replacing ∧
    (replacing = true → "create-stack" ∈ changes es →
      ∃ deletion during confirming created rest,
        es = ⟨operator.stack.deletionCall, deletion⟩ :: during ++ confirming :: created :: rest ∧
        Stack.Handle.Accepted deletion ∧
        (∀ e ∈ during, Stack.Wait.deletion.Undecided operator.stack e) ∧
        operator.stack.Confirms confirming ∧ created.call.operation = "create-stack") ∧
    (∀ id, outcome = .done id → ∃ earlier body created during complete,
      es = earlier ++ ⟨operator.stack.creationCall body parameters, created⟩ :: during ++
        [⟨operator.stack.statusCall, complete⟩] ∧
      Stack.Handle.AnswersId created id ∧
      operator.stack.statusIn complete = .ok "CREATE_COMPLETE") := by
  cases replacing with
  | false =>
      rcases operator.plays_createStack atHand h with
        ⟨rfl, undone⟩ | ⟨body, created, rest, rfl, made, completes⟩
      · exact ⟨List.nil_prefix, fun old => absurd old Bool.false_ne_true,
          fun id done => absurd done (undone id)⟩
      · refine ⟨by rw [made]; exact List.prefix_rfl, fun old => absurd old Bool.false_ne_true,
          fun id done => ?_⟩
        obtain ⟨answers, during, complete, rfl, told⟩ := completes id done
        exact ⟨[], body, created, during, complete, rfl, answers, told⟩
  | true =>
      rcases Program.plays_bind.mp h with
        ⟨u, first, rest, rfl, removed, h₁⟩ | ⟨failure, removed, rfl⟩ | ⟨removed, rfl⟩
      · obtain ⟨deletion, waited, rfl, deleted, confirmed⟩ := operator.plays_removeStack removed
        obtain ⟨accepted, during, confirming, rfl, undecided, confirms⟩ := confirmed rfl
        rw [changes_append, deleted]
        rcases operator.plays_createStack atHand h₁ with
          ⟨rfl, undone⟩ | ⟨body, created, rest, rfl, made, completes⟩
        · refine ⟨⟨["create-stack"], rfl⟩, fun _ made => ?_, fun id done => absurd done (undone id)⟩
          simp [changes] at made
        · rw [made]
          refine ⟨List.prefix_rfl, fun _ _ => ?_, fun id done => ?_⟩
          · refine ⟨deletion, during, confirming,
              ⟨operator.stack.creationCall body parameters, created⟩, rest, ?_, accepted, undecided,
              confirms, rfl⟩
            simp only [List.cons_append, List.append_assoc, List.nil_append]
          · obtain ⟨answers, after, complete, rfl, told⟩ := completes id done
            refine ⟨⟨operator.stack.deletionCall, deletion⟩ :: (during ++ [confirming]), body, created,
              after, complete, ?_, answers, told⟩
            simp only [List.append_assoc, List.cons_append]
      · obtain ⟨deletion, waited, rfl, deleted, -⟩ := operator.plays_removeStack removed
        rw [deleted]
        exact ⟨⟨["create-stack"], rfl⟩, fun _ made => by simp at made, fun id done => by cases done⟩
      · obtain ⟨deletion, waited, rfl, deleted, -⟩ := operator.plays_removeStack removed
        rw [deleted]
        exact ⟨⟨["create-stack"], rfl⟩, fun _ made => by simp at made, fun id done => by cases done⟩

/-- The changes that a creation may come to, by what the first reply about the stack tells. -/
def creationChanges (force : Bool) : Option Stack.Handle.Presence → List String
  | some .missing => ["create-cluster", "create-stack"]
  | some .existing => if force then ["create-cluster", "delete-stack", "create-stack"] else []
  | _ => []

/-- Whatever is replied, a creation makes its changes in one order, stops at the first failure, and
takes nothing back. An old stack is confirmed to be gone before the new one is asked for, and the
identifier that is answered is that of a stack which was told to be complete. -/
theorem creation_order {σ : Type} (config : Config) (images : Image.Source)
    (template : Except Failure String) (pages : Nat) (o : CreationOptions) (backend : Backend σ)
    (s : σ) :
    let operator : Operator := ⟨config, images, .ofExcept template, pages⟩
    let stack := operator.stack
    let es := (operator.create o).exchanges backend s
    let told := (es.find? fun e => e.call.operation == "describe-stacks").map fun e =>
      stack.presenceIn e.reply
    changes es <+: creationChanges o.force told ∧
    (told = some .existing → "create-stack" ∈ changes es →
      ∃ earlier deletion during confirming created rest,
        es = earlier ++ ⟨stack.deletionCall, deletion⟩ :: during ++ confirming :: created :: rest ∧
        Stack.Handle.Accepted deletion ∧
        (∀ e ∈ during, Stack.Wait.deletion.Undecided stack e) ∧ stack.Confirms confirming ∧
        created.call.operation = "create-stack") ∧
    (∀ id, ((operator.create o).run backend s).outcome = .done id →
      ∃ earlier body parameters created during complete,
        es = earlier ++ ⟨stack.creationCall body parameters, created⟩ :: during ++
          [⟨stack.statusCall, complete⟩] ∧
        Stack.Handle.AnswersId created id ∧ stack.statusIn complete = .ok "CREATE_COMPLETE") := by
  intro operator stack es told
  have play : (operator.create o).Plays es _ := Program.plays_run backend (operator.create o) s
  rcases operator.plays_create play with ⟨shape, undone⟩ | ⟨described, rest, shape, h⟩
  · have none : changes es = [] := by
      rw [shape]
      rfl
    rw [none]
    exact ⟨List.nil_prefix, fun _ => nofun, fun id done => absurd done (undone id)⟩
  · have tells : told = some (stack.presenceIn described) := by
      change (es.find? _).map _ = _
      rw [shape]
      rfl
    have made : changes es = changes rest := by
      rw [shape]
      exact changes_cons_of_reading stack.statusCall_reads rest
    rcases h with ⟨none, undone⟩ |
      ⟨replacing, parameters, looked, founded, others, rfl, presence, forced, none, h⟩
    · rw [made, none]
      exact ⟨List.nil_prefix, fun _ => nofun, fun id done => absurd done (undone id)⟩
    · replace made : changes es = "create-cluster" :: changes others := by
        rw [made, changes_append, none,
          changes_cons_of_change (Service.creationCall_changes _ _)]
        rfl
      obtain ⟨before, whole⟩ : ∃ before, es = before ++ others := by
        refine ⟨⟨stack.statusCall, described⟩ :: (looked ++
          [⟨Service.creationCall operator.access operator.config.cluster, founded⟩]), ?_⟩
        rw [shape, List.cons_append, List.append_assoc]
        rfl
      have allowed : creationChanges o.force told = "create-cluster" :: stackChanges replacing := by
        rw [tells, presence]
        cases replacing with
        | false => rfl
        | true =>
            rw [forced rfl]
            rfl
      rw [made, allowed]
      rcases h with ⟨rfl, undone⟩ | h
      · exact ⟨⟨stackChanges replacing, rfl⟩, fun _ made => absurd made (by decide),
          fun id done => absurd done (undone id)⟩
      · obtain ⟨upTo, confirmed, completed⟩ := operator.plays_stack rfl h
        refine ⟨List.cons_prefix_cons.mpr ⟨rfl, upTo⟩, fun existing made => ?_, fun id done => ?_⟩
        · have old : replacing = true := by
            rw [tells, presence] at existing
            cases replacing with
            | false => exact nomatch existing
            | true => rfl
          rcases List.mem_cons.mp made with same | made
          · exact absurd same (by decide)
          · obtain ⟨deletion, during, confirming, created, rest, after, confirmation⟩ :=
              confirmed old made
            refine ⟨before, deletion, during, confirming, created, rest, ?_, confirmation⟩
            rw [whole, after]
            simp only [List.append_assoc, List.cons_append]
            rfl
        · obtain ⟨earlier, body, created, during, complete, after, completion⟩ := completed id done
          refine ⟨before ++ earlier, body, parameters, created, during, complete, ?_, completion⟩
          rw [whole, after]
          simp only [List.append_assoc, List.cons_append]
          rfl

end ClusterStack.Cluster.Operator
