import ClusterStack.Proofs.Stack.Calls
import ClusterStack.Stack.History
/-!
# The search for the first failure

The search reads the history of a stack page by page, and stops at the first page that it cannot read.
Whether the stack operation as a whole still ends as a failed one depends on why that page is
unreadable: failures of the call and a history without a failed event are put aside, and a failure
that nothing is prepared for is not.
-/
namespace ClusterStack.Stack.Handle

variable {σ α : Type} (stack : Handle)

/-- The search is over, with an event or with a failure that is put aside. -/
def PutAside : Outcome α → Prop
  | .done _ | .failed (.remote _ _ _) | .failed (.stack _ _) => True
  | _ => False

/-- What is left of the ending of a search: nothing, unless it is not put aside. -/
def remainder : Outcome α → Outcome Unit
  | .done _ | .failed (.remote _ _ _) | .failed (.stack _ _) => .done ()
  | .failed failure => .failed failure
  | .unfinished => .unfinished

theorem PutAside.remainder {outcome : Outcome α} (h : PutAside outcome) :
    remainder outcome = .done () := by
  cases outcome with
  | done a => rfl
  | failed failure =>
      cases failure with
      | remote operation resource cause => rfl
      | stack name fault => rfl
      | _ => exact h.elim
  | unfinished => exact h.elim

theorem not_putAside {failure : Failure} (h : failure.Unprepared) :
    ¬ PutAside (.failed failure : Outcome α) := by
  cases h <;> exact id

theorem remainder_failed {failure : Failure} (kept : ¬ PutAside (.failed failure : Outcome α)) :
    remainder (.failed failure : Outcome α) = .failed failure := by
  cases failure with
  | remote operation resource cause => exact (kept trivial).elim
  | stack name fault => exact (kept trivial).elim
  | _ => rfl

theorem bare_run_noteFirstFailure (backend : Backend σ) (pages : Nat) (statuses : List String)
    (s : σ) :
    ((stack.noteFirstFailure pages statuses).run backend s).bare =
      { ((stack.firstFailure pages statuses).run backend s).bare with
        outcome := remainder ((stack.firstFailure pages statuses).run backend s).outcome } := by
  unfold noteFirstFailure
  rw [Program.run_recover, Program.run_bind]
  generalize (stack.firstFailure pages statuses).run backend s = search
  obtain ⟨outcome, trace, state⟩ := search
  cases outcome with
  | done event =>
      simp [Run.andThen, Run.orElse, Program.note, Program.run, Run.after, Run.afterAll, Run.bare,
        Action.isNote, remainder]
  | failed failure =>
      cases failure <;> simp [Run.andThen, Run.orElse, Program.note, Program.run, Run.after,
        Run.afterAll, Run.bare, Action.isNote, remainder]
  | unfinished => rfl

def next? (page : EventPage) : Option Text := page.nextToken.filter fun token => !token.isEmpty

/-- A history is read from the next page on, and then from the one that it points to. -/
theorem run_eventsFrom_succ (backend : Backend σ) (s : σ) (token : Option Text) (bound : Nat) :
    (stack.eventsFrom token (bound + 1)).run backend s =
      match pageIn (backend s (stack.pageCall token)).1 with
      | .error cause => ⟨.failed (Failure.ofCall "DescribeStackEvents" stack.name cause),
          [.invoked (stack.pageCall token)], (backend s (stack.pageCall token)).2⟩
      | .ok page =>
        match next? page with
        | none => ⟨.done page.events, [.invoked (stack.pageCall token)],
            (backend s (stack.pageCall token)).2⟩
        | some next =>
          ((((stack.eventsFrom (some next) bound).run backend
            (backend s (stack.pageCall token)).2)).andThen fun older s' =>
              ⟨.done (page.events ++ older), [], s'⟩).after (.invoked (stack.pageCall token)) := by
  rw [eventsFrom, Program.run_bind, run_events]
  cases pageIn (backend s (stack.pageCall token)).1 with
  | error cause => rfl
  | ok page =>
      simp only [Outcome.ofExcept, Outcome.mapFailure, Run.andThen]
      unfold next?
      cases page.nextToken with
      | none => rfl
      | some next =>
          cases he : next.isEmpty with
          | true =>
              simp only [Option.filter, he, Bool.not_true, Bool.false_eq_true, if_true, if_false]
              rfl
          | false =>
              simp only [Option.filter, he, Bool.not_false, Bool.false_eq_true, if_true, if_false]
              rw [Program.run_bind]
              rfl

/-- The reading of a history from a token on, page by page: it is cut off, comes to the last page, goes
on to the page that the one before it points to, or ends at a page that it cannot read. -/
inductive Reading : Option Text → List Exchange → Outcome (List Event) → Prop
  | cutOff (token : Option Text) : Reading token [] .unfinished
  | last {token : Option Text} {reply : Reply} {page : EventPage} :
      pageIn reply = .ok page → next? page = none →
      Reading token [⟨stack.pageCall token, reply⟩] (.done page.events)
  | further {token : Option Text} {reply : Reply} {page : EventPage} {next : Text}
      {es : List Exchange} {outcome : Outcome (List Event)} :
      pageIn reply = .ok page → next? page = some next → Reading (some next) es outcome →
      Reading token (⟨stack.pageCall token, reply⟩ :: es) (outcome.map (page.events ++ ·))
  | unreadable {token : Option Text} {reply : Reply} {cause : Failure} :
      pageIn reply = .error cause →
      Reading token [⟨stack.pageCall token, reply⟩]
        (.failed (Failure.ofCall "DescribeStackEvents" stack.name cause))

theorem reading_of_plays {token : Option Text} {pages : Nat} {es : List Exchange}
    {outcome : Outcome (List Event)} (h : (stack.eventsFrom token pages).Plays es outcome) :
    stack.Reading token es outcome := by
  induction pages generalizing token es outcome with
  | zero =>
      obtain ⟨rfl, rfl⟩ := h
      exact .cutOff token
  | succ pages ih =>
      obtain ⟨reply, rest, rfl, ⟨page, hr, hrest⟩ | ⟨cause, hr, rfl, rfl⟩⟩ :=
        stack.plays_events_bind.mp h
      · cases ht : page.nextToken with
        | none =>
            rw [ht] at hrest
            obtain ⟨rfl, rfl⟩ := hrest
            exact .last hr (by rw [next?, ht]; rfl)
        | some token =>
            cases he : token.isEmpty with
            | true =>
                rw [ht] at hrest
                simp only [he, if_true] at hrest
                obtain ⟨rfl, rfl⟩ := hrest
                exact .last hr (by rw [next?, ht, Option.filter, he]; rfl)
            | false =>
                rw [ht] at hrest
                simp only [he, Bool.false_eq_true, if_false] at hrest
                obtain ⟨inner, hinner, rfl⟩ := Program.plays_map.mp hrest
                exact .further hr (by rw [next?, ht, Option.filter, he]; rfl) (ih hinner)
      · exact .unreadable hr

theorem Reading.pages {stack : Handle} {token : Option Text} {es : List Exchange}
    {outcome : Outcome (List Event)} (h : stack.Reading token es outcome) :
    ∀ e ∈ es, ∃ token reply, e = ⟨stack.pageCall token, reply⟩ := by
  induction h with
  | cutOff token => exact nofun
  | last hr hn => exact List.forall_mem_singleton.mpr ⟨_, _, rfl⟩
  | further hr hn hrest ih => exact List.forall_mem_cons.mpr ⟨⟨_, _, rfl⟩, ih⟩
  | unreadable hr => exact List.forall_mem_singleton.mpr ⟨_, _, rfl⟩

/-- A reading fails at its last page and for the reason of that page, or reads every page. -/
theorem Reading.readable_or_last {token : Option Text} {es : List Exchange}
    {outcome : Outcome (List Event)} (h : stack.Reading token es outcome) :
    ((∀ failure, outcome ≠ .failed failure) ∧ ∀ e ∈ es, ∃ page, pageIn e.reply = .ok page) ∨
    ∃ earlier last cause, es = earlier ++ [last] ∧ (∀ e ∈ earlier, ∃ page, pageIn e.reply = .ok page) ∧
      pageIn last.reply = .error cause ∧
      outcome = .failed (Failure.ofCall "DescribeStackEvents" stack.name cause) := by
  induction h with
  | cutOff token => exact .inl ⟨nofun, nofun⟩
  | last hr hn =>
      refine .inl ⟨nofun, ?_⟩
      intro e he
      rw [List.mem_singleton.mp he]
      exact ⟨_, hr⟩
  | @further token reply page next es outcome hr hn hrest ih =>
      rcases ih with ⟨hne, hall⟩ | ⟨earlier, last, cause, rfl, hall, hlast, rfl⟩
      · refine .inl ⟨?_, ?_⟩
        · cases outcome with
          | failed failure => exact absurd rfl (hne failure)
          | done events => exact nofun
          | unfinished => exact nofun
        · intro e he
          rcases List.mem_cons.mp he with rfl | he
          · exact ⟨_, hr⟩
          · exact hall e he
      · refine .inr ⟨⟨stack.pageCall token, reply⟩ :: earlier, last, cause, rfl, ?_, hlast, rfl⟩
        intro e he
        rcases List.mem_cons.mp he with rfl | he
        · exact ⟨_, hr⟩
        · exact hall e he
  | @unreadable token reply cause hr =>
      exact .inr ⟨[], ⟨stack.pageCall token, reply⟩, cause, rfl, nofun, hr, rfl⟩

theorem plays_firstWith {statuses : List String} {events : List Event} {es : List Exchange}
    {outcome : Outcome Event} (h : (stack.firstWith statuses events).Plays es outcome) :
    es = [] ∧ PutAside outcome := by
  induction events with
  | nil =>
      obtain ⟨rfl, rfl⟩ := h
      exact ⟨rfl, trivial⟩
  | cons event rest ih =>
      rw [firstWith, Program.plays_note] at h
      split at h
      · obtain ⟨rfl, rfl⟩ := h
        exact ⟨rfl, trivial⟩
      · exact ih h

/-- A page that cannot be read for a reason that nothing is prepared for. -/
def Unreadable (reply : Reply) : Prop := ∃ cause, pageIn reply = .error cause ∧ cause.Unprepared

theorem not_unreadable {reply : Reply} {page : EventPage} (h : pageIn reply = .ok page) :
    ¬ Unreadable reply := by
  rintro ⟨cause, hc, -⟩
  rw [h] at hc
  cases hc

theorem not_unreadable_ofCall {reply : Reply} {cause : Failure} (h : pageIn reply = .error cause)
    (call : cause.isOfCall = true) : ¬ Unreadable reply := by
  rintro ⟨other, hc, unprepared⟩
  rw [h] at hc
  cases hc
  rw [unprepared.not_isOfCall] at call
  cases call

/-- The search looks through what it has read, and ends as the reading of the history ended if that did
not come to an end. -/
theorem plays_firstFailure_reading {pages : Nat} {statuses : List String} {es : List Exchange}
    {outcome : Outcome Event} (h : (stack.firstFailure pages statuses).Plays es outcome) :
    ∃ reading, stack.Reading none es reading ∧
      ((PutAside outcome ∧ ∃ events, reading = .done events) ∨
        (∃ failure, reading = .failed failure ∧ outcome = .failed failure) ∨
        (reading = .unfinished ∧ outcome = .unfinished)) := by
  rcases Program.plays_bind.mp h with
    ⟨events, first, rest, rfl, hevents, hrest⟩ | ⟨failure, hevents, rfl⟩ | ⟨hevents, rfl⟩
  · obtain ⟨rfl, aside⟩ := stack.plays_firstWith hrest
    rw [List.append_nil]
    exact ⟨_, stack.reading_of_plays hevents, .inl ⟨aside, events, rfl⟩⟩
  · exact ⟨_, stack.reading_of_plays hevents, .inr (.inl ⟨failure, rfl, rfl⟩)⟩
  · exact ⟨_, stack.reading_of_plays hevents, .inr (.inr ⟨rfl, rfl⟩)⟩

/-- A search that is over is put aside if something is prepared for every page of it, and fails for the
reason of a page otherwise. -/
theorem plays_firstFailure {pages : Nat} {statuses : List String} {es : List Exchange}
    {outcome : Outcome Event} (h : (stack.firstFailure pages statuses).Plays es outcome) :
    outcome = .unfinished ∨ (PutAside outcome ∧ ∀ e ∈ es, ¬ Unreadable e.reply) ∨
      ∃ e ∈ es, ∃ cause, pageIn e.reply = .error cause ∧ cause.Unprepared ∧
        outcome = .failed cause := by
  obtain ⟨reading, reads, ⟨aside, events, rfl⟩ | ⟨failure, rfl, rfl⟩ | ⟨-, rfl⟩⟩ :=
    stack.plays_firstFailure_reading h
  · refine .inr (.inl ⟨aside, fun e he => ?_⟩)
    rcases reads.readable_or_last with ⟨-, readable⟩ | ⟨_, _, _, -, -, -, hf⟩
    · obtain ⟨page, hp⟩ := readable e he
      exact not_unreadable hp
    · cases hf
  · rcases reads.readable_or_last with ⟨hne, -⟩ | ⟨earlier, last, cause, rfl, readable, hl, hf⟩
    · exact absurd rfl (hne failure)
    · cases hf
      rcases pageIn_error hl with call | unprepared
      · rw [Failure.ofCall_eq_remote _ _ call]
        refine .inr (.inl ⟨trivial, fun e he => ?_⟩)
        rcases List.mem_append.mp he with he | he
        · obtain ⟨page, hp⟩ := readable e he
          exact not_unreadable hp
        · rw [List.mem_singleton.mp he]
          exact not_unreadable_ofCall hl call
      · rw [unprepared.ofCall_eq]
        exact .inr (.inr ⟨last, List.mem_append_right earlier (List.mem_singleton_self last), cause,
          hl, unprepared, rfl⟩)
  · exact .inl rfl

/-- What is left of a search is what the reading of the history leaves. -/
theorem remainder_firstFailure {pages : Nat} {statuses : List String} {es : List Exchange}
    {outcome : Outcome Event} (h : (stack.firstFailure pages statuses).Plays es outcome) :
    ∃ reading, stack.Reading none es reading ∧ remainder outcome = remainder reading := by
  obtain ⟨reading, reads, ⟨aside, events, rfl⟩ | ⟨failure, rfl, rfl⟩ | ⟨rfl, rfl⟩⟩ :=
    stack.plays_firstFailure_reading h
  · exact ⟨_, reads, aside.remainder⟩
  · refine ⟨_, reads, ?_⟩
    cases failure <;> rfl
  · exact ⟨_, reads, rfl⟩

theorem plays_noteFirstFailure {pages : Nat} {statuses : List String} {es : List Exchange}
    {outcome : Outcome Unit} (h : (stack.noteFirstFailure pages statuses).Plays es outcome) :
    ∃ reading, stack.Reading none es reading ∧ outcome = remainder reading := by
  rcases Program.plays_recover.mp h with
    ⟨searched, hne⟩ | ⟨cause, first, rest, rfl, searched, instead⟩
  · rcases Program.plays_bind.mp searched with
      ⟨event, first, rest, rfl, hsearch, rfl, rfl⟩ | ⟨failure, -, rfl⟩ | ⟨hsearch, rfl⟩
    · rw [List.append_nil]
      exact stack.remainder_firstFailure hsearch
    · exact absurd rfl (hne failure)
    · exact stack.remainder_firstFailure hsearch
  · rcases Program.plays_bind.mp searched with
      ⟨event, _, _, -, -, -, hd⟩ | ⟨failure, hsearch, same⟩ | ⟨-, hd⟩
    · cases hd
    · cases same
      obtain ⟨reading, reads, left⟩ := stack.remainder_firstFailure hsearch
      have ended : rest = [] ∧ outcome = remainder (.failed cause : Outcome Event) := by
        cases cause <;> exact instead
      obtain ⟨rfl, rfl⟩ := ended
      rw [List.append_nil]
      exact ⟨reading, reads, left⟩
    · cases hd

def ReadsHistory (action : Action) : Prop :=
  action.isNote = true ∨ ∃ token, action = .invoked (stack.pageCall token)

theorem does_eventsFrom (token : Option Text) (pages : Nat) :
    (stack.eventsFrom token pages).Does stack.ReadsHistory := by
  induction pages generalizing token with
  | zero => trivial
  | succ pages ih =>
      refine Program.Does.bind ?_ fun page => ?_
      · exact (Program.does_request (.inr ⟨token, rfl⟩)).remotely _ _
      · split
        · trivial
        · split
          · trivial
          · exact (ih _).bind fun _ => trivial

theorem does_firstWith (statuses : List String) (events : List Event) :
    (stack.firstWith statuses events).Does stack.ReadsHistory := by
  induction events with
  | nil => trivial
  | cons event rest ih =>
      refine ⟨.inl rfl, ?_⟩
      change Program.Does _ (ite _ _ _)
      split
      · trivial
      · exact ih

theorem does_firstFailure (pages : Nat) (statuses : List String) :
    (stack.firstFailure pages statuses).Does stack.ReadsHistory :=
  (stack.does_eventsFrom none pages).bind fun _ => stack.does_firstWith statuses _

theorem does_noteFirstFailure (pages : Nat) (statuses : List String) :
    (stack.noteFirstFailure pages statuses).Does stack.ReadsHistory := by
  refine Program.Does.recover ?_ fun failure => ?_
  · exact (stack.does_firstFailure pages statuses).bind fun _ => ⟨.inl rfl, trivial⟩
  · split
    · exact ⟨.inl rfl, trivial⟩
    · exact ⟨.inl rfl, trivial⟩
    · trivial

end ClusterStack.Stack.Handle
