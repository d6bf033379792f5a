import ClusterStack.Proofs.Bounds
import ClusterStack.Proofs.Stack.FailedStatus
import Mathlib.Data.Nat.Find
/-!
# Which waits end

A wait looks at its stack a limited number of times. It can go on for ever all the same: after a
failed status it reads the history to its end, follows every token on the way and counts no pages. So a
wait ends unless it comes to a failed status and to a history without an end.
-/
namespace ClusterStack.Stack

variable {σ : Type}

namespace Handle

variable (stack : Handle) (backend : Backend σ)

/-- From the token on, so many pages of the history can be read, and each points to another one. -/
def GoesOn (s : σ) (token : Option Text) : (pages : Nat) → Prop
  | 0 => True
  | pages + 1 => ∃ page next, pageIn (backend s (stack.pageCall token)).1 = .ok page ∧
      next? page = some next ∧
      GoesOn (backend s (stack.pageCall token)).2 (some next) pages

/-- The history never comes to a last page. -/
def IsEndless (s : σ) : Prop := ∀ pages, stack.GoesOn backend s none pages

theorem outcome_andThen_pure {α β : Type} (r : Run σ α) (g : α → β) :
    (r.andThen fun a s => (pure (g a) : Program β).run backend s).outcome = r.outcome.map g := by
  obtain ⟨outcome, trace, state⟩ := r
  cases outcome <;> rfl

/-- How a reading of the history ends is told by its next page, or else by the rest of it. -/
theorem outcome_eventsFrom (s : σ) (token : Option Text) (pages : Nat) :
    ((stack.eventsFrom token (pages + 1)).run backend s).outcome =
      match pageIn (backend s (stack.pageCall token)).1 with
      | .error cause => .failed (Failure.ofCall "DescribeStackEvents" stack.name cause)
      | .ok page =>
        match next? page with
        | none => .done page.events
        | some next =>
          (((stack.eventsFrom (some next) pages).run backend
            (backend s (stack.pageCall token)).2).outcome).map (page.events ++ ·) := by
  rw [run_eventsFrom_succ]
  cases pageIn (backend s (stack.pageCall token)).1 with
  | error cause => rfl
  | ok page =>
      dsimp only
      cases next? page with
      | none => rfl
      | some next => exact outcome_andThen_pure backend _ _

theorem map_eq_unfinished {α β : Type} {f : α → β} {outcome : Outcome α} :
    outcome.map f = .unfinished ↔ outcome = .unfinished := by
  cases outcome with
  | unfinished => exact iff_of_true rfl rfl
  | _ => exact iff_of_false nofun nofun

theorem eventsFrom_unfinished_iff (s : σ) (token : Option Text) (pages : Nat) :
    ((stack.eventsFrom token pages).run backend s).outcome = .unfinished ↔
      stack.GoesOn backend s token pages := by
  induction pages generalizing s token with
  | zero => exact ⟨fun _ => trivial, fun _ => rfl⟩
  | succ pages ih =>
      rw [outcome_eventsFrom, GoesOn]
      cases pageIn (backend s (stack.pageCall token)).1 with
      | error cause =>
          refine iff_of_false nofun ?_
          rintro ⟨page, next, read, -⟩
          cases read
      | ok page =>
          dsimp only
          cases hn : next? page with
          | none =>
              refine iff_of_false nofun ?_
              rintro ⟨_, next, ⟨rfl⟩, points, -⟩
              rw [hn] at points
              cases points
          | some next =>
              rw [map_eq_unfinished, ih]
              constructor
              · intro others
                exact ⟨page, next, rfl, hn, others⟩
              · rintro ⟨_, other, ⟨rfl⟩, points, others⟩
                rw [hn] at points
                cases points
                exact others

theorem firstFailure_unfinished_iff (s : σ) (pages : Nat) (statuses : List String) :
    ((stack.firstFailure pages statuses).run backend s).outcome = .unfinished ↔
      stack.GoesOn backend s none pages := by
  rw [← eventsFrom_unfinished_iff, firstFailure, Program.run_bind]
  generalize (stack.eventsFrom none pages).run backend s = reading
  obtain ⟨outcome, trace, state⟩ := reading
  cases outcome with
  | done events =>
      refine iff_of_false (fun cut => ?_) nofun
      obtain ⟨-, aside⟩ := stack.plays_firstWith (Program.plays_run backend
        (stack.firstWith statuses events.reverse) state)
      change ((stack.firstWith statuses events.reverse).run backend state).outcome = _ at cut
      rw [cut] at aside
      exact aside
  | failed failure => exact iff_of_false nofun nofun
  | unfinished => exact iff_of_true rfl rfl

theorem remainder_unfinished_iff {outcome : Outcome Event} :
    remainder outcome = .unfinished ↔ outcome = .unfinished := by
  cases outcome with
  | failed failure =>
      refine iff_of_false (fun same => ?_) nofun
      cases failure <;> cases same
  | unfinished => exact iff_of_true rfl rfl
  | done event => exact iff_of_false nofun nofun

end Handle

theorem Operation.settled_unfinished_iff (operation : Operation) (outcome : Outcome Unit) :
    operation.settled outcome = .unfinished ↔ outcome = .unfinished := by
  cases operation with
  | deletion =>
      cases outcome with
      | failed failure =>
          refine iff_of_false (fun same => ?_) nofun
          cases failure with
          | remote call resource cause =>
              rw [Operation.settled_remote] at same
              split at same
              · cases same
              · cases same
          | _ => cases same
      | _ => exact Iff.rfl
  | _ => exact Iff.rfl

theorem Finding.not_isPending_of_failed {finding : Finding} {status : Text}
    (h : finding = .failedStatus status) : ¬ finding.IsPending := by
  rw [h]
  exact id

section

variable (operation : Operation) (stack : Handle) (backend : Backend σ) (s : σ)

/-- The look with this number is the first one that is not pending. -/
def IsDecisive (i : Nat) : Prop :=
  i < operation.wait.attempts ∧ (∀ j < i, (operation.wait.foundAt stack backend s j).IsPending) ∧
    ¬ (operation.wait.foundAt stack backend s i).IsPending

theorem IsDecisive.unique {operation : Operation} {stack : Handle} {backend : Backend σ} {s : σ}
    {i j : Nat} (hi : IsDecisive operation stack backend s i)
    (hj : IsDecisive operation stack backend s j) : i = j := by
  rcases Nat.lt_trichotomy i j with less | same | more
  · exact absurd (hj.2.1 i less) hi.2.2
  · exact same
  · exact absurd (hi.2.1 j more) hj.2.2

theorem pending_or_decisive :
    (∀ i < operation.wait.attempts, (operation.wait.foundAt stack backend s i).IsPending) ∨
      ∃ i, IsDecisive operation stack backend s i := by
  classical
  by_cases some : ∃ i, i < operation.wait.attempts ∧
    ¬ (operation.wait.foundAt stack backend s i).IsPending
  · obtain ⟨below, decided⟩ := Nat.find_spec some
    refine .inr ⟨Nat.find some, below, fun j less => ?_, decided⟩
    by_contra other
    exact Nat.find_min some less ⟨Nat.lt_trans less below, other⟩
  · refine .inl fun i below => ?_
    by_contra other
    exact some ⟨i, below, other⟩

/-- The wait is left in a history: its decisive look has a failed status, and so many pages after it
point to another one. -/
def IsLeft (pages : Nat) : Prop :=
  ∃ i, IsDecisive operation stack backend s i ∧
    (∃ status, operation.wait.foundAt stack backend s i = .failedStatus status) ∧
    stack.GoesOn backend (Wait.beforeLook stack backend s (i + 1)) none pages

theorem await_unfinished_iff (pages : Nat) :
    ((operation.await stack pages).run backend s).outcome = .unfinished ↔
      IsLeft operation stack backend s pages := by
  have settled : ((operation.await stack pages).run backend s).outcome =
      operation.settled ((operation.wait.run stack pages).run backend s).outcome :=
    congrArg Run.outcome (bare_run_await operation stack pages backend s)
  rw [settled, operation.settled_unfinished_iff]
  change ((operation.wait.run stack pages).run backend s).bare.outcome = _ ↔ _
  rcases pending_or_decisive operation stack backend s with pending | ⟨i, decisive⟩
  · have timedOut := operation.wait.bare_run_pending stack pages backend operation.wait.attempts 0 0 s
      pending
    change ((operation.wait.run stack pages).run backend s).bare = _ at timedOut
    rw [timedOut]
    refine iff_of_false nofun ?_
    rintro ⟨i, ⟨below, -, decided⟩, -⟩
    exact decided (pending i below)
  · have ⟨below, earlier, decided⟩ := decisive
    have only : IsLeft operation stack backend s pages ↔
        (∃ status, operation.wait.foundAt stack backend s i = .failedStatus status) ∧
          stack.GoesOn backend (Wait.beforeLook stack backend s (i + 1)) none pages := by
      constructor
      · rintro ⟨j, decisive', left⟩
        rwa [decisive.unique decisive']
      · intro left
        exact ⟨i, decisive, left⟩
    rw [only]
    cases found : operation.wait.foundAt stack backend s i with
    | failedStatus status =>
        rw [operation.wait.bare_run_failedStatus stack pages backend s i below earlier status found,
          ← stack.firstFailure_unfinished_iff backend _ pages operation.wait.failures,
          ← Handle.remainder_unfinished_iff]
        change (Run.andThen ⟨Handle.remainder (Wait.searchAfter _ _ _ _ _ _).outcome, _, _⟩ _).outcome =
          _ ↔ _ ∧ Handle.remainder (Wait.searchAfter _ _ _ _ _ _).outcome = _
        generalize Handle.remainder (Wait.searchAfter _ _ _ _ _ _).outcome = left
        cases left with
        | unfinished => exact iff_of_true rfl ⟨⟨status, rfl⟩, rfl⟩
        | _ => exact iff_of_false nofun nofun
    | pending status =>
        rw [found] at decided
        exact absurd trivial decided
    | _ =>
        obtain ⟨attempt, left, hrun⟩ :=
          operation.wait.bare_run_from stack pages backend s i below earlier
        change operation.wait.found stack backend (Wait.beforeLook stack backend s i) = _ at found
        rw [hrun, Wait.bare_run_looks, found]
        refine iff_of_false nofun ?_
        rintro ⟨⟨status, same⟩, -⟩
        cases same

end

section

variable (stack : Handle)

theorem Handle.cutOf_eventsFrom (token : Option Text) (pages more : Nat) :
    (stack.eventsFrom token pages).CutOf (stack.eventsFrom token (pages + more)) := by
  induction pages generalizing token with
  | zero => trivial
  | succ pages ih =>
      rw [Nat.succ_add]
      refine (Program.CutOf.refl _).bind fun page => ?_
      split
      · exact .refl _
      · split
        · exact .refl _
        · exact (ih _).bind fun older => .refl _

theorem Handle.cutOf_noteFirstFailure (pages more : Nat) (statuses : List String) :
    (stack.noteFirstFailure pages statuses).CutOf (stack.noteFirstFailure (pages + more) statuses) :=
  Program.CutOf.recover (((stack.cutOf_eventsFrom none pages more).bind fun _ => .refl _).bind
    fun _ => .refl _) _

theorem Wait.cutOf_looks (wait : Wait) (pages more attempt left : Nat) :
    (wait.looks stack pages attempt left).CutOf (wait.looks stack (pages + more) attempt left) := by
  induction left generalizing attempt with
  | zero => exact .refl _
  | succ left ih =>
      refine (Program.CutOf.refl _).bind fun event => (Program.CutOf.refl _).bind fun failed => ?_
      split
      · exact .refl _
      · refine (Program.CutOf.refl _).bind fun status => ?_
        split
        · exact .refl _
        · split
          · refine (Program.CutOf.refl _).bind fun _ => ?_
            exact (stack.cutOf_noteFirstFailure pages more _).bind fun _ => .refl _
          · exact (Program.CutOf.refl _).bind fun _ => (Program.CutOf.refl _).bind fun _ => ih _

theorem cutOf_await (operation : Operation) (pages more : Nat) :
    (operation.await stack pages).CutOf (operation.await stack (pages + more)) := by
  cases operation with
  | creation => exact Wait.creation.cutOf_looks stack pages more 0 _
  | update => exact Wait.update.cutOf_looks stack pages more 0 _
  | deletion => exact (Wait.deletion.cutOf_looks stack pages more 0 _).recover _

theorem Handle.callsAtMost_events (token : Option Text) : (stack.events token).CallsAtMost 1 :=
  Program.callsAtMost_remotely_request _ _ _ _

theorem Handle.callsAtMost_eventsFrom (token : Option Text) (pages : Nat) :
    (stack.eventsFrom token pages).CallsAtMost pages := by
  induction pages generalizing token with
  | zero =>
      rintro es outcome ⟨rfl, -⟩
      exact Nat.le_refl 0
  | succ pages ih =>
      have whole : (stack.eventsFrom token (pages + 1)).CallsAtMost (1 + pages) := by
        refine (stack.callsAtMost_events token).bind fun page => ?_
        have last := (Program.callsAtMost_pure page.events).mono pages.zero_le
        split
        · exact last
        · split
          · exact last
          · exact (ih _).bind fun older => Program.callsAtMost_pure _
      rwa [Nat.add_comm] at whole

theorem Handle.callsAtMost_noteFirstFailure (pages : Nat) (statuses : List String) :
    (stack.noteFirstFailure pages statuses).CallsAtMost pages := by
  have looked (events : List Event) : (stack.firstWith statuses events).CallsAtMost 0 := by
    intro es outcome play
    rw [(stack.plays_firstWith play).1]
    exact Nat.le_refl 0
  have searched : (stack.firstFailure pages statuses).CallsAtMost pages :=
    (stack.callsAtMost_eventsFrom none pages).bind fun events => looked _
  refine (searched.bind fun _ => Program.callsAtMost_note _ _).recover fun failure => ?_
  split
  · exact Program.callsAtMost_note _ _
  · exact Program.callsAtMost_note _ _
  · exact Program.callsAtMost_fail _

theorem Handle.callsAtMost_newestEvent : stack.newestEvent.CallsAtMost 1 := by
  change Program.CallsAtMost (1 + 0) stack.newestEvent
  refine (stack.callsAtMost_events none).bind fun page => ?_
  split
  · exact Program.callsAtMost_pure _
  · exact Program.callsAtMost_fail _

theorem Wait.callsAtMost_examine (wait : Wait) (event : Event) :
    (wait.examine event).CallsAtMost 0 := by
  refine (Program.callsAtMost_note _ _).after fun _ => ?_
  split
  · exact (Program.callsAtMost_note _ _).after fun _ => Program.callsAtMost_pure _
  · exact Program.callsAtMost_pure _

theorem Wait.callsAtMost_looks (wait : Wait) (pages attempt left : Nat) :
    (wait.looks stack pages attempt left).CallsAtMost (2 * left + pages) := by
  induction left generalizing attempt with
  | zero => exact (Program.callsAtMost_fail _).mono (Nat.zero_le _)
  | succ left ih =>
      have ends (failure : Failure) (most : Nat) : (.fail failure : Program Unit).CallsAtMost most :=
        (Program.callsAtMost_fail _).mono most.zero_le
      have status : stack.status.CallsAtMost 1 := Program.callsAtMost_remotely_request _ _ _ _
      have total : 1 + (1 + (2 * left + pages)) = 2 * (left + 1) + pages := by omega
      rw [← total]
      refine stack.callsAtMost_newestEvent.bind fun event => ?_
      refine (wait.callsAtMost_examine event).after fun failed => ?_
      split
      · exact ends _ _
      · refine status.bind fun status => ?_
        split
        · exact (Program.callsAtMost_pure ()).mono (Nat.zero_le _)
        · split
          · refine (Program.callsAtMost_note _ _).after fun _ => ?_
            rw [Nat.add_comm (2 * left)]
            exact (stack.callsAtMost_noteFirstFailure pages _).bind fun _ => ends _ _
          · refine (Program.callsAtMost_note _ _).after fun _ => ?_
            exact (Program.callsAtMost_rest _).after fun _ => ih _

theorem callsAtMost_await (operation : Operation) (pages : Nat) :
    (operation.await stack pages).CallsAtMost (2 * operation.wait.attempts + pages) := by
  cases operation with
  | creation => exact Wait.creation.callsAtMost_looks stack pages 0 _
  | update => exact Wait.update.callsAtMost_looks stack pages 0 _
  | deletion =>
      refine (Wait.deletion.callsAtMost_looks stack pages 0 _).recover fun failure => ?_
      split
      · split
        · exact Program.callsAtMost_note _ _
        · exact Program.callsAtMost_fail _
      · exact Program.callsAtMost_fail _

theorem Handle.callsBeforeCut_events (token : Option Text) (least : Nat) :
    (stack.events token).CallsBeforeCut least := Program.callsBeforeCut_remotely_request _ _ _ _

/-- A reading of the history is cut off only after as many pages as it may read. -/
theorem Handle.callsBeforeCut_eventsFrom (token : Option Text) (pages : Nat) :
    (stack.eventsFrom token pages).CallsBeforeCut pages := by
  induction pages generalizing token with
  | zero => exact fun es _ => es.length.zero_le
  | succ pages ih =>
      intro es play
      obtain ⟨reply, rest, rfl, ⟨page, -, others⟩ | ⟨cause, -, -, same⟩⟩ :=
        stack.plays_events_bind.mp play
      · refine Nat.succ_le_succ ?_
        split at others
        · cases others.2
        · split at others
          · cases others.2
          · exact (ih _).bind (fun older => Program.callsBeforeCut_pure _) _ others
      · cases same

theorem Handle.callsBeforeCut_noteFirstFailure (pages : Nat) (statuses : List String) :
    (stack.noteFirstFailure pages statuses).CallsBeforeCut pages := by
  have looked (events : List Event) : (stack.firstWith statuses events).CallsBeforeCut pages :=
    fun es play => (stack.plays_firstWith play).2.elim
  have searched : (stack.firstFailure pages statuses).CallsBeforeCut pages :=
    (stack.callsBeforeCut_eventsFrom none pages).bind fun events => looked _
  refine (searched.bind fun _ => Program.callsBeforeCut_note _ _).recover fun failure => ?_
  split
  · exact Program.callsBeforeCut_note _ _
  · exact Program.callsBeforeCut_note _ _
  · exact Program.callsBeforeCut_fail _

theorem Wait.callsBeforeCut_looks (wait : Wait) (pages attempt left : Nat) :
    (wait.looks stack pages attempt left).CallsBeforeCut pages := by
  induction left generalizing attempt with
  | zero => exact Program.callsBeforeCut_fail _
  | succ left ih =>
      have newest : stack.newestEvent.CallsBeforeCut pages := by
        refine (stack.callsBeforeCut_events none pages).bind fun page => ?_
        split
        · exact Program.callsBeforeCut_pure _
        · exact Program.callsBeforeCut_fail _
      have status : stack.status.CallsBeforeCut pages :=
        Program.callsBeforeCut_remotely_request _ _ _ _
      refine newest.bind fun event es play => ?_
      rw [wait.plays_examine_bind] at play
      revert es
      split
      · exact Program.callsBeforeCut_fail _
      · refine status.bind fun status => ?_
        split
        · exact Program.callsBeforeCut_pure ()
        · split
          · refine (Program.callsBeforeCut_note _ _).bind fun _ => ?_
            exact (stack.callsBeforeCut_noteFirstFailure pages _).bind fun _ =>
              Program.callsBeforeCut_fail _
          · refine (Program.callsBeforeCut_note _ _).bind fun _ => ?_
            exact (Program.callsBeforeCut_rest _).bind fun _ => ih _

theorem callsBeforeCut_await (operation : Operation) (pages : Nat) :
    (operation.await stack pages).CallsBeforeCut pages := by
  cases operation with
  | creation => exact Wait.creation.callsBeforeCut_looks stack pages 0 _
  | update => exact Wait.update.callsBeforeCut_looks stack pages 0 _
  | deletion =>
      refine (Wait.deletion.callsBeforeCut_looks stack pages 0 _).recover fun failure => ?_
      split
      · split
        · exact Program.callsBeforeCut_note _ _
        · exact Program.callsBeforeCut_fail _
      · exact Program.callsBeforeCut_fail _

end

/-- A wait ends exactly if it does not come to a failed status with a history without an end behind it.
It makes two calls for each look at most, besides the pages of the history, and as soon as it may read
enough pages for its end a larger number makes no difference. A wait that does not end makes more calls
than any number. -/
theorem await_ends_unless_endless (operation : Operation) (stack : Handle) (backend : Backend σ)
    (s : σ) :
    let run := fun pages => (operation.await stack pages).run backend s
    let calls := fun pages => ((operation.await stack pages).exchanges backend s).length
    ((∃ pages, (run pages).outcome ≠ .unfinished) ↔
      ¬ ∃ i, IsDecisive operation stack backend s i ∧
        (∃ status, operation.wait.foundAt stack backend s i = .failedStatus status) ∧
        stack.IsEndless backend (Wait.beforeLook stack backend s (i + 1))) ∧
    (∀ pages more, (run pages).outcome ≠ .unfinished → run (pages + more) = run pages) ∧
    (∀ pages, calls pages ≤ 2 * operation.wait.attempts + pages) ∧
    ∀ pages, (run pages).outcome = .unfinished → pages ≤ calls pages := by
  intro run calls
  have play (pages : Nat) := Program.plays_run backend (operation.await stack pages) s
  refine ⟨⟨?_, fun ends => ?_⟩, fun pages more ended => ?_, fun pages => ?_, fun pages cut => ?_⟩
  · rintro ⟨pages, ended⟩ ⟨i, decisive, failed, endless⟩
    exact ended ((await_unfinished_iff ..).mpr ⟨i, decisive, failed, endless pages⟩)
  · by_contra never
    have left (pages : Nat) : IsLeft operation stack backend s pages := by
      rw [← await_unfinished_iff]
      by_contra ended
      exact never ⟨pages, ended⟩
    -- The decisive look is the same one for every number of pages.
    obtain ⟨i, decisive, failed, -⟩ := left 0
    refine ends ⟨i, decisive, failed, fun pages => ?_⟩
    obtain ⟨j, decisive', -, goesOn⟩ := left pages
    rwa [decisive.unique decisive']
  · exact (cutOf_await stack operation pages more).run_eq backend s ended
  · exact callsAtMost_await stack operation pages _ _ (play pages)
  · have cutPlay := play pages
    change Program.Plays _ _ (run pages).outcome at cutPlay
    rw [cut] at cutPlay
    exact callsBeforeCut_await stack operation pages _ cutPlay

/-- A page without events that points to another one. -/
def pointer : Aws.Cue := .answering (.obj [("StackEvents", .arr []), ("NextToken", .str "t")]) 1

def failedStack : Aws.Cue :=
  .answering (.obj [("Stacks", .arr [.obj [("StackStatus", .str "CREATE_FAILED")]])]) 1

/-- The stack has failed, and every page of its history is a pointer with the same token. -/
def circling : Aws.Script := [("describe-stack-events", [pointer]), ("describe-stacks", [failedStack])]

/-- The newest event is known before the history circles. -/
def repeatedToken : Aws.Script := [
  ("describe-stack-events", [.answering (.obj [("StackEvents", .arr [.obj []])]) 1, pointer]),
  ("describe-stacks", [failedStack])]

theorem pageIn_pointer :
    ∃ page, Handle.pageIn pointer.reply = .ok page ∧ Handle.next? page = some "t" := by
  have points : (Handle.pageIn pointer.reply).toOption.bind Handle.next? = some "t" := by decide +kernel
  cases read : Handle.pageIn pointer.reply with
  | error cause =>
      rw [read] at points
      cases points
  | ok page =>
      rw [read] at points
      exact ⟨page, rfl, points⟩

theorem scripted_circling (token : Option Text) :
    Aws.scripted circling (demo.pageCall token) = (pointer.reply, circling) := rfl

theorem beforeLook_repeatedToken : Wait.beforeLook demo Aws.scripted repeatedToken 1 = circling := rfl

theorem circling_goesOn (token : Option Text) (pages : Nat) :
    demo.GoesOn Aws.scripted circling token pages := by
  induction pages generalizing token with
  | zero => trivial
  | succ pages ih =>
      obtain ⟨page, read, points⟩ := pageIn_pointer
      rw [Handle.GoesOn, scripted_circling]
      exact ⟨page, "t", read, points, ih _⟩

theorem await_repeatedToken (pages : Nat) :
    ((Operation.creation.await demo pages).run Aws.scripted repeatedToken).outcome = .unfinished := by
  have found : Wait.creation.foundAt demo Aws.scripted repeatedToken 0 =
      .failedStatus "CREATE_FAILED" := by decide +kernel
  have decisive : IsDecisive .creation demo Aws.scripted repeatedToken 0 :=
    ⟨by decide, fun j below => absurd below (Nat.not_lt_zero j), Finding.not_isPending_of_failed found⟩
  rw [await_unfinished_iff]
  refine ⟨0, decisive, ⟨_, found⟩, ?_⟩
  rw [beforeLook_repeatedToken]
  exact circling_goesOn none pages

theorem repeatedToken_never_ends :
    (∀ pages, ((Operation.creation.await demo pages).run Aws.scripted repeatedToken).outcome =
      .unfinished) ∧
    ∀ pages, pages ≤ ((Operation.creation.await demo pages).exchanges Aws.scripted
      repeatedToken).length := by
  refine ⟨await_repeatedToken, fun pages => ?_⟩
  have play := Program.plays_run Aws.scripted (Operation.creation.await demo pages) repeatedToken
  rw [await_repeatedToken] at play
  exact callsBeforeCut_await demo .creation pages _ play

end ClusterStack.Stack
