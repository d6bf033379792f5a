import ClusterStack.Proofs.CommandLine.Answers
import ClusterStack.Proofs.CommandLine.Forcing
import ClusterStack.Proofs.CommandLine.Reports
/-!
# Deletion by agreement

A deletion without `--force` is the same as with it if the owner of the cluster agrees. Without a yes it
ends before the first call.
-/
namespace ClusterStack.CommandLine

variable {request forced : Request} {config : Cluster.Config} {input : String} {pages : Nat}

/-- The request is for the same deletion as the other one, and leaves no question. -/
structure Request.Forces (forced request : Request) : Prop where
  choice : forced.choice = request.choice
  verbose : forced.verbose = request.verbose
  deletes : forced.command = .down
  force : forced.options.has "--force" = true

/-- The options of a deletion are never unfit. -/
theorem Request.order_down (deletes : request.command = .down) :
    request.order = .ok (.down ⟨request.options.has "--force"⟩) := by
  unfold Request.order
  rw [deletes]
  have data : request.options.data Command.down.flags = .obj [
      ("help", .bool (request.options.has "--help")),
      ("force", .bool (request.options.has "--force"))] := rfl
  rw [data]
  cases request.options.has "--force" <;> rfl

/-- Forced, a deletion does not depend on what is typed. -/
theorem Request.program_forced (deletes : request.command = .down)
    (force : request.options.has "--force" = true) :
    request.program config input pages = (Order.down ⟨true⟩).program config pages := by
  unfold Request.program
  rw [Request.order_down deletes, force]
  rfl

theorem Request.program_unforced (deletes : request.command = .down)
    (unforced : request.options.has "--force" = false) :
    request.program config input pages =
      deletionAgreed config.cluster input >>= fun agreed =>
        (Order.down ⟨agreed⟩).program config pages := by
  unfold Request.program
  rw [Request.order_down deletes, unforced]
  change (deletionAgreed config.cluster input >>= fun agreed =>
    (pure (.down ⟨agreed⟩) : Program Order)) >>= (fun order => order.program config pages) = _
  rw [Program.bind_assoc]
  rfl

theorem Request.program_agreed (deletes : request.command = .down)
    (unforced : request.options.has "--force" = false) (agrees : Agrees input) :
    request.program config input pages = (Order.down ⟨true⟩).program config pages := by
  have yes := (agrees_iff input).mpr agrees
  rw [Request.program_unforced deletes unforced, deletionAgreed]
  cases line : firstLine? input with
  | none =>
      rw [line] at yes
      cases yes
  | some answer =>
      rw [line] at yes
      change (Order.down ⟨isYes answer⟩).program config pages = _
      rw [show isYes answer = true from yes]

/-- Without a yes a deletion fails, and has done no more than to note that there was no answer. -/
theorem Request.run_declined {σ : Type} (backend : Backend σ) (s : σ) (config : Cluster.Config)
    (pages : Nat) (deletes : request.command = .down) (unforced : request.options.has "--force" = false)
    (declines : ¬ Agrees input) :
    ∃ notes, (∀ action ∈ notes, Action.call? action = none) ∧
      (request.program config input pages).run backend s =
        ⟨.failed (.refused .deletionNotConfirmed), notes, s⟩ := by
  have no : ¬ (firstLine? input).any isYes = true := fun yes => declines ((agrees_iff input).mp yes)
  rw [Request.program_unforced deletes unforced, deletionAgreed]
  cases line : firstLine? input with
  | none => exact ⟨[_], List.forall_mem_singleton.mpr rfl, rfl⟩
  | some answer =>
      rw [line] at no
      refine ⟨[], nofun, ?_⟩
      change ((Order.down ⟨isYes answer⟩).program config pages).run backend s = _
      rw [show isYes answer = false from Bool.eq_false_iff.mpr no]
      rfl

def conclude : Outcome String → Conclusion
  | .done _ => .exited 0
  | .failed failure => concludeFailure failure
  | .unfinished => .unfinished

section

variable {σ : Type} (backend : Backend σ) (terminal : Terminal) (s : σ)

/-- What a session does and how it ends is what its program does and how it ends. -/
theorem carryOut_run (request : Request) (config : Cluster.Config) :
    let run := (request.program config terminal.input terminal.pages).run backend s
    let ended := carryOut backend terminal request config s
    ended.trace = run.trace ∧ ended.conclusion = conclude run.outcome ∧ ended.state = run.state := by
  dsimp only
  unfold carryOut
  dsimp only
  cases ((request.program config terminal.input terminal.pages).run backend s).outcome <;>
    exact ⟨rfl, rfl, rfl⟩

variable {backend terminal s}

theorem session_unfit {failure : Failure} (asked : readRequest terminal.arguments = .ok request)
    (unfit : request.config terminal.environment = .error failure) :
    session backend terminal s =
      ⟨.exited 1, "", failureText request.command failure, [], s⟩ := by
  unfold session
  rw [asked]
  dsimp only
  rw [unfit]
  dsimp only
  rw [concludeFailure, Request.config_error unfit, if_pos rfl]

theorem session_fit (asked : readRequest terminal.arguments = .ok request)
    (fit : request.config terminal.environment = .ok config) :
    session backend terminal s = carryOut backend terminal request config s := by
  unfold session
  rw [asked]
  dsimp only
  rw [fit]

theorem session_declined (asked : readRequest terminal.arguments = .ok request)
    (deletes : request.command = .down) (unforced : request.options.has "--force" = false)
    (declines : ¬ Agrees terminal.input) :
    let ended := session backend terminal s
    ended.trace.filterMap Action.call? = [] ∧ ended.conclusion = .exited 1 ∧ ended.state = s := by
  intro ended
  unfold ended
  cases configured : request.config terminal.environment with
  | error failure =>
      rw [session_unfit asked configured]
      exact ⟨rfl, rfl, rfl⟩
  | ok config =>
      obtain ⟨trace, conclusion, state⟩ := carryOut_run backend terminal s request config
      obtain ⟨notes, silent, declined⟩ :=
        Request.run_declined backend s config terminal.pages deletes unforced declines
      rw [session_fit asked configured, trace, conclusion, state, declined]
      exact ⟨List.filterMap_eq_nil_iff.mpr silent, rfl, rfl⟩

section

variable {other : Terminal} (around : other.environment = terminal.environment)
  (bounded : other.pages = terminal.pages)

include around bounded

/-- With the agreement of the owner a deletion does what the forced one does. -/
theorem session_agreed (asked : readRequest terminal.arguments = .ok request)
    (asked' : readRequest other.arguments = .ok forced) (deletes : request.command = .down)
    (unforced : request.options.has "--force" = false) (forces : forced.Forces request)
    (agrees : Agrees terminal.input) :
    let agreed := session backend terminal s
    let ended := session backend other s
    ended.trace = agreed.trace ∧ ended.conclusion = agreed.conclusion ∧ ended.state = agreed.state := by
  intro agreed ended
  have same : forced.config other.environment = request.config terminal.environment := by
    rw [Request.config, forces.choice, around]
    rfl
  unfold ended agreed
  cases configured : request.config terminal.environment with
  | error failure =>
      rw [session_unfit asked configured, session_unfit asked' (same.trans configured)]
      exact ⟨rfl, rfl, rfl⟩
  | ok config =>
      obtain ⟨trace, conclusion, state⟩ := carryOut_run backend terminal s request config
      obtain ⟨trace', conclusion', state'⟩ := carryOut_run backend other s forced config
      rw [session_fit asked configured, session_fit asked' (same.trans configured), trace, conclusion,
        state, trace', conclusion', state', Request.program_agreed deletes unforced agrees,
        Request.program_forced forces.deletes forces.force, bounded]
      exact ⟨rfl, rfl, rfl⟩

/-- What is typed makes no difference to a forced deletion. -/
theorem session_forced (arguments : other.arguments = terminal.arguments)
    (asked : readRequest terminal.arguments = .ok forced) (deletes : forced.command = .down)
    (force : forced.options.has "--force" = true) :
    session backend other s = session backend terminal s := by
  have asked' := asked
  rw [← arguments] at asked'
  cases configured : forced.config terminal.environment with
  | error failure =>
      rw [session_unfit asked configured, session_unfit asked' (around ▸ configured)]
  | ok config =>
      rw [session_fit asked configured, session_fit asked' (around ▸ configured), carryOut, carryOut,
        Request.program_forced deletes force, Request.program_forced deletes force, bounded]

end

end

/-- A deletion without `--force` waits for a yes: unless the first line that is typed is one, the session
ends with the exit code 1 and makes no call. With a yes it does and ends as the same command with
`--force` does, which may stand right after the command, and which does not depend on what is typed. -/
theorem deletion_waits_for_agreement {σ : Type} (backend : Backend σ) (terminal : Terminal)
    (request : Request) (s : σ) (asked : readRequest terminal.arguments = .ok request)
    (deletes : request.command = .down) (unforced : request.options.has "--force" = false) :
    let ended := session backend terminal s
    (¬ Agrees terminal.input →
      ended.trace.filterMap Action.call? = [] ∧ ended.conclusion = .exited 1 ∧ ended.state = s) ∧
    (∃ front rest, terminal.arguments = front ++ "down" :: rest ∧
      ∃ forced, readRequest (front ++ "down" :: "--force" :: rest) = .ok forced ∧
        forced.Forces request) ∧
    ∀ arguments forced, readRequest arguments = .ok forced → forced.Forces request →
      ∀ input, let ended' := session backend { terminal with arguments := arguments, input := input } s
        (Agrees terminal.input → ended'.trace = ended.trace ∧ ended'.conclusion = ended.conclusion ∧
          ended'.state = ended.state) ∧
        ∀ input', session backend { terminal with arguments := arguments, input := input' } s =
          ended' := by
  refine ⟨session_declined asked deletes unforced, ?_, fun arguments forced asked' forces input => ?_⟩
  · obtain ⟨front, rest, shape, read⟩ := readRequest_forced asked deletes
    exact ⟨front, rest, shape, _, read, rfl, rfl, deletes, rfl⟩
  · exact ⟨session_agreed rfl rfl asked asked' deletes unforced forces,
      fun input' => session_forced rfl rfl rfl asked' forces.deletes forces.force⟩

def deletionOfDemo (input : String) : Terminal := ⟨["--cluster", "demo", "down"], [], input, 1⟩

theorem deletionOfDemo_waits :
    let request : Request := ⟨⟨some "demo", none, none⟩, false, .down, ⟨[], [], [], none⟩⟩
    let outside := Aws.standing "CREATE_COMPLETE"
    let declined := session Aws.scripted (deletionOfDemo "y es\n") outside
    let agreed := session Aws.scripted (deletionOfDemo " Yes\n") outside
    let forced := session Aws.scripted
      { deletionOfDemo "" with arguments := ["--cluster", "demo", "down", "--force"] } outside
    readRequest (deletionOfDemo "").arguments = .ok request ∧ request.command = .down ∧
    request.options.has "--force" = false ∧
    declined.trace.filterMap Action.call? = [] ∧ declined.conclusion = .exited 1 ∧
    forced.trace = agreed.trace ∧ forced.conclusion = agreed.conclusion := by
  intro request outside declined agreed forced
  have asked : readRequest ["--cluster", "demo", "down"] = .ok request := by decide +kernel
  have declines : ¬ Agrees "y es\n" := by
    rw [← agrees_iff]
    decide +kernel
  have agrees : Agrees " Yes\n" := by
    rw [← agrees_iff]
    decide +kernel
  obtain ⟨silent, refused, -⟩ := (deletion_waits_for_agreement Aws.scripted (deletionOfDemo "y es\n")
    request outside asked rfl rfl).1 declines
  obtain ⟨-, -, same⟩ := deletion_waits_for_agreement Aws.scripted (deletionOfDemo " Yes\n") request
    outside asked rfl rfl
  obtain ⟨trace, conclusion, -⟩ := (same ["--cluster", "demo", "down", "--force"] request.forced
    (by decide +kernel) ⟨rfl, rfl, rfl, rfl⟩ "").1 agrees
  exact ⟨asked, rfl, rfl, silent, refused, trace, conclusion⟩

end ClusterStack.CommandLine
