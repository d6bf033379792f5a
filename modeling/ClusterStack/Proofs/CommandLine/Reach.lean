import ClusterStack.Proofs.Cluster.Reach
import ClusterStack.Proofs.CommandLine.Reports
/-!
# What a session can reach

A session acts on one cluster, which the command line or else the environment names. Whatever the
services answer, none of its calls is about another cluster.
-/
namespace ClusterStack.CommandLine

section

variable {σ : Type} (backend : Backend σ) (terminal : Terminal) (s : σ)

/-- The exchanges of a session, of which there are none without a request or a configuration. -/
def exchanges : List Exchange :=
  match readRequest terminal.arguments with
  | .error _ => []
  | .ok request =>
    match request.config terminal.environment with
    | .error _ => []
    | .ok config => (request.program config terminal.input terminal.pages).exchanges backend s

theorem calls_session : (exchanges backend terminal s).map Exchange.call =
    (session backend terminal s).trace.filterMap Action.call? := by
  unfold exchanges session
  cases readRequest terminal.arguments with
  | error reason =>
      dsimp only
      unfold decline
      cases reason.reason <;> rfl
  | ok request =>
      dsimp only
      cases request.config terminal.environment with
      | error failure => rfl
      | ok config =>
          dsimp only
          rw [Program.calls_exchanges]
          unfold carryOut
          dsimp only
          cases ((request.program config terminal.input terminal.pages).run backend s).outcome <;> rfl

end

theorem Order.operator_settled (config : Cluster.Config) (pages : Nat) (order : Order) :
    (order.operator config pages).Settled := by
  refine ⟨fun instanceType profile recommended => ?_, _, order.operator_template config pages⟩
  cases order with
  | _ =>
      cases recommended
      rfl

theorem Order.operator_config (config : Cluster.Config) (pages : Nat) (order : Order) :
    (order.operator config pages).config = config := by
  cases order <;> rfl

/-- Carrying out a request keeps to the cluster of the configuration. -/
theorem Request.keeps_program {request : Request} {config : Cluster.Config} {input : String}
    {pages : Nat} {es : List Exchange} {outcome : Outcome String}
    (h : (request.program config input pages).Plays es outcome) : config.Keeps es := by
  rcases Request.plays_program h with ⟨failure, -, rfl, -⟩ | ⟨order, inner, -, performed, -⟩
  · exact Cluster.Config.keeps_of_own nofun
  · have keeps := Cluster.Operator.keeps_perform (Order.operator_settled config pages _) performed
    rwa [Order.operator_config] at keeps

/-- What the command line and the environment say about the cluster. What is given on the command line
and is not empty takes precedence. -/
def Request.chosen (request : Request) (environment : List (String × String)) : Cluster.Config :=
  let settings := Cluster.Settings.ofEnvironment environment
  { cluster := (Cluster.nonempty? request.choice.cluster).getD settings.cluster
    region := (Cluster.nonempty? request.choice.region).or settings.region
    profile := (Cluster.nonempty? request.choice.profile).or settings.profile
    stackPrefix := settings.stackPrefix }

/-- The name of a cluster that is acted on holds no blank character and no slash. -/
theorem Request.config_ok {request : Request} {environment : List (String × String)}
    {config : Cluster.Config} (h : request.config environment = .ok config) :
    config = request.chosen environment ∧
      ∀ c ∈ config.cluster.toList, Text.isBlank c = false ∧ c ≠ '/' := by
  unfold Request.config Cluster.Settings.config Cluster.Config.checked at h
  split at h
  · rename_i fits
    cases h
    refine ⟨rfl, fun c member => ?_⟩
    unfold Cluster.Config.nameRule at fits
    split at fits
    · cases fits
    · rename_i plain
      simp only [List.any_eq_true, not_exists, not_and, Bool.or_eq_true, beq_iff_eq, not_or,
        Bool.not_eq_true] at plain
      exact plain c member
  · cases h

/-- Every call of a session is about the cluster that the command line names, or else the environment,
and names no instances but those that earlier replies have told of. -/
theorem session_keeps_to_cluster {σ : Type} (backend : Backend σ) (terminal : Terminal) (s : σ) :
    let es := exchanges backend terminal s
    es.map Exchange.call = (session backend terminal s).trace.filterMap Action.call? ∧
    (es = [] ∨ ∃ request, readRequest terminal.arguments = .ok request ∧
      let config := request.chosen terminal.environment
      (∀ c ∈ config.cluster.toList, Text.isBlank c = false ∧ c ≠ '/') ∧
      ∀ before e after, es = before ++ e :: after →
        config.Reaches (config.Tells before) e.call ∧ config.Names (config.Tells before) e.call) := by
  intro es
  refine ⟨calls_session backend terminal s, ?_⟩
  change exchanges backend terminal s = [] ∨ _
  unfold es exchanges
  cases read : readRequest terminal.arguments with
  | error reason => exact .inl rfl
  | ok request =>
      dsimp only
      cases configured : request.config terminal.environment with
      | error failure => exact .inl rfl
      | ok config =>
          obtain ⟨rfl, plain⟩ := Request.config_ok configured
          let config := request.chosen terminal.environment
          have keeps := Request.keeps_program (Program.plays_run backend
            (request.program config terminal.input terminal.pages) s)
          refine .inr ⟨request, rfl, plain, fun before e after shape => ?_⟩
          have reaches := keeps before e after shape
          exact ⟨reaches, reaches.names⟩

end ClusterStack.CommandLine
