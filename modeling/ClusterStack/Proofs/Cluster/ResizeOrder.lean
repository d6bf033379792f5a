import ClusterStack.Proofs.Cluster.SizeUpdate
/-!
# The order of a change of the size

The only change that a resize makes is an update of the stack. The guards stand before it in a fixed
order, first those that ask nothing, and after it the stack is only looked at. It is successful only if
one of the few looks tells so.
-/
namespace ClusterStack.Cluster.Operator

variable (operator : Operator)

/-- The first of the guards that ask nothing and bar a change of the size, by the failure that it ends
with. -/
def resizeBar? (o : ResizeOptions) : Option Failure :=
  if o.acknowledged = false then some (.refused .iamNotAcknowledged)
  else
    match nonempty? o.size with
    | none => some (.refused .sizeNotGiven)
    | some text =>
      match sizeOfText text with
      | .error failure => some failure
      | .ok _ => if operator.config.cluster = "" then some (.refused .clusterNotNamed) else none

/-- The option stands for this number, in ASCII digits with blank characters around them. -/
def GivesSize (o : ResizeOptions) (n : Nat) : Prop :=
  ∃ text, nonempty? o.size = some text ∧
    (∀ c ∈ Text.trim text.toList, Text.isAsciiDigit c = true) ∧
    Text.digitsValue (Text.trim text.toList) = n ∧ 0 < n

/-- All guards are passed, the last two by these exchanges. -/
structure Cleared (o : ResizeOptions) (asked : List Exchange) : Prop where
  acknowledged : o.acknowledged = true
  named : operator.config.cluster ≠ ""
  granted : ∃ active described,
    asked = [⟨Service.activeCall operator.access operator.config.cluster, active⟩,
      ⟨operator.stack.statusCall, described⟩] ∧
    Service.ReportsActive active ∧ operator.stack.presenceIn described = .existing

/-- The update is answered with the identifier of the stack, and one of the looks that follow, within
the number that there may be, tells that the update is complete. No look before it does, and in none of
them a resource has failed. -/
def Completes (updated : Reply) (waited : List Exchange) : Prop :=
  (∃ answer id, Aws.readReply "update-stack" updated = .ok answer ∧
    Json.member? answer "StackId" = some (.str id)) ∧
  ∃ earlier newest described, waited = Stack.Wait.polled operator.stack (earlier ++ [(newest, described)]) ∧
    (earlier ++ [(newest, described)]).length ≤ 5 ∧
    (∀ poll ∈ earlier, Stack.Wait.update.Unfailed poll.1 ∧
      Stack.Wait.update.Pending operator.stack poll.2) ∧
    Stack.Wait.update.Unfailed newest ∧ operator.stack.statusIn described = .ok "UPDATE_COMPLETE"

section

variable {o : ResizeOptions} {es : List Exchange} {outcome : Outcome Unit}

theorem plays_resize_barred (h : (operator.resize o).Plays es outcome) :
    (∃ failure, operator.resizeBar? o = some failure ∧ es = [] ∧ outcome = .failed failure) ∨
      operator.resizeBar? o = none ∧ o.acknowledged = true ∧ operator.config.cluster ≠ "" ∧
        ∃ n, GivesSize o n ∧ (operator.onStanding (operator.adjust n)).Plays es outcome := by
  unfold resizeBar?
  rcases plays_ensure_bind h with ⟨unknown, rfl, rfl⟩ | ⟨acknowledged, h₁⟩
  · rw [if_pos unknown]
    exact .inl ⟨_, rfl, rfl, rfl⟩
  rw [if_neg (by simp [acknowledged])]
  cases given : nonempty? o.size with
  | none =>
      rw [given] at h₁
      obtain ⟨rfl, rfl⟩ := h₁
      exact .inl ⟨_, rfl, rfl, rfl⟩
  | some text =>
      rw [given] at h₁
      dsimp only
      cases read : sizeOfText text with
      | error failure =>
          simp only [read] at h₁
          obtain ⟨rfl, rfl⟩ := h₁
          exact .inl ⟨failure, rfl, rfl, rfl⟩
      | ok n =>
          simp only [read] at h₁
          rcases operator.plays_chosenName_bind h₁ with ⟨unnamed, rfl, rfl⟩ | ⟨named, h₂⟩
          · exact .inl ⟨_, if_pos unnamed, rfl, rfl⟩
          · exact .inr ⟨if_neg named, acknowledged, named, n, ⟨text, given, sizeOfText_ok read⟩, h₂⟩

theorem updateCall_changes (items : List Json) :
    (updateCall operator.stack items).operation ∉ readings := by
  change "update-stack" ∉ readings
  decide

/-- After the update the stack is only looked at, and only a completed update comes to a result. -/
theorem plays_adjust_completes {n : Nat} (h : (operator.adjust n operator.stack).Plays es outcome) :
    ∃ updated waited, es = ⟨updateCall operator.stack (resized n).toRequest, updated⟩ :: waited ∧
      changes waited = [] ∧ (outcome = .done () → operator.Completes updated waited) := by
  have asks := (Stack.Service.asks_submit operator.stack.service "update-stack" "update"
    operator.stack.name ["--use-previous-template"] (resized n)).remotely "UpdateStack"
      operator.stack.name
  obtain ⟨updated, waited, rfl, ⟨id, identified, waits⟩ | ⟨failure, -, rfl, rfl⟩⟩ := asks.bind h
  · have reads := operator.stack.admits_reads.does_awaitUpdate operator.pages
    refine ⟨updated, waited, rfl, reads.changes_eq_nil (Program.plays_note.mp waits), fun done => ?_⟩
    rw [done] at waits
    obtain ⟨earlier, newest, described, shape, room, undecided, unfailed, complete⟩ :=
      Stack.Wait.update.plays_looks_done operator.stack (Program.plays_note.mp waits)
    obtain ⟨answer, answered, found⟩ :=
      Stack.Handle.idIn_eq_ok_iff.mp (mapError_eq_ok_iff.mp identified)
    refine ⟨⟨answer, id, answered, found⟩, earlier, newest, described, shape, ?_, undecided, unfailed,
      complete⟩
    rw [List.length_append]
    exact room
  · exact ⟨updated, [], rfl, rfl, nofun⟩

end

/-- Whatever is replied, a resize makes at most one change, the update of the stack, after all guards in
their order, and only looks at the stack afterwards. It is successful only if the update is accepted and
one of at most five looks tells that it is complete. -/
theorem resizing_order {σ : Type} (o : ResizeOptions) (backend : Backend σ) (s : σ) :
    let es := (operator.resize o).exchanges backend s
    let outcome := ((operator.resize o).run backend s).outcome
    changes es <+: ["update-stack"] ∧
    (∀ before e after, es = before ++ e :: after → e.call.operation ∉ readings →
      operator.Cleared o before ∧ ∃ n, GivesSize o n ∧
        e.call = updateCall operator.stack (resized n).toRequest) ∧
    (match operator.resizeBar? o with
      | some failure => es = [] ∧ outcome = .failed failure
      | none => ∃ active rest,
        es = ⟨Service.activeCall operator.access operator.config.cluster, active⟩ :: rest ∧
        (rest ≠ [] → Service.ReportsActive active ∧ ∃ described others,
          rest = ⟨operator.stack.statusCall, described⟩ :: others ∧
          (others ≠ [] → operator.stack.presenceIn described = .existing))) ∧
    (outcome = .done () → ∃ asked n updated waited, operator.Cleared o asked ∧ GivesSize o n ∧
      es = asked ++ ⟨updateCall operator.stack (resized n).toRequest, updated⟩ :: waited ∧
      operator.Completes updated waited) := by
  intro es outcome
  have play : (operator.resize o).Plays es outcome := Program.plays_run backend (operator.resize o) s
  -- A run that makes no change keeps the first two parts and comes to no result.
  have unmade (none : changes es = []) (before : List Exchange) (e : Exchange) (after : List Exchange)
      (shape : es = before ++ e :: after) (change : e.call.operation ∉ readings) : False := by
    refine not_mem_of_changes_eq_nil none change ?_
    rw [shape]
    exact List.mem_append_right before List.mem_cons_self
  rcases operator.plays_resize_barred play with
    ⟨failure, bar, silent, failed⟩ | ⟨bar, acknowledged, named, n, size, h⟩
  · have none : changes es = [] := by rw [silent]; rfl
    rw [bar, none, failed]
    refine ⟨List.nil_prefix, fun before e after shape change => ?_, ⟨silent, rfl⟩, nofun⟩
    exact (unmade none before e after shape change).elim
  rw [bar]
  obtain ⟨active, rest, shape, course⟩ := operator.plays_onStanding_asked h
  have plain (idle : changes rest = []) : changes es = [] := by
    rw [shape, changes_cons_of_reading (Service.activeCall_reads _ _), idle]
  rcases course with ⟨ended, failure, failed⟩ | ⟨reports, described, others, asked, course⟩
  · have none : changes es = [] := plain (by rw [ended]; rfl)
    rw [none, failed]
    refine ⟨List.nil_prefix, fun before e after split change => ?_, ?_, nofun⟩
    · exact (unmade none before e after split change).elim
    · exact ⟨active, rest, shape, fun more => absurd ended more⟩
  rcases course with ⟨ended, failure, failed⟩ | ⟨existing, adjusts⟩
  · have none : changes es = [] := by
      rw [shape, asked, operator.changes_standing, ended]
      rfl
    rw [none, failed]
    refine ⟨List.nil_prefix, fun before e after split change => ?_, ?_, nofun⟩
    · exact (unmade none before e after split change).elim
    · refine ⟨active, rest, shape, fun _ => ⟨reports, described, others, asked, fun more => ?_⟩⟩
      exact absurd ended more
  -- Both questions have been answered well, and the update is made.
  obtain ⟨updated, waited, submitted, reads, completes⟩ := operator.plays_adjust_completes adjusts
  let guards : List Exchange :=
    [⟨Service.activeCall operator.access operator.config.cluster, active⟩,
      ⟨operator.stack.statusCall, described⟩]
  have whole : es = guards ++ ⟨updateCall operator.stack (resized n).toRequest, updated⟩ :: waited := by
    rw [shape, asked, submitted]
    rfl
  have cleared : operator.Cleared o guards :=
    ⟨acknowledged, named, active, described, rfl, reports, existing⟩
  refine ⟨?_, fun before e after split change => ?_, ?_, fun done => ?_⟩
  · rw [shape, asked, operator.changes_standing, submitted,
      changes_cons_of_change (operator.updateCall_changes _), reads]
    exact List.prefix_rfl
  · have none : changes guards = [] := operator.changes_standing active described []
    obtain ⟨rfl, rfl⟩ := change_unique (whole.symm.trans split) none reads change
    exact ⟨cleared, n, size, rfl⟩
  · exact ⟨active, rest, shape, fun _ => ⟨reports, described, others, asked, fun _ => existing⟩⟩
  · exact ⟨guards, n, updated, waited, cleared, size, whole, completes done⟩

end ClusterStack.Cluster.Operator
