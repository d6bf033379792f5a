import ClusterStack.CommandLine.Request
/-!
# Arguments after the command

How an argument is marked depends on its spelling and on whether two dashes stand before it. An argument
that is added right after the command is left to the command with the others after it, and what stands
before the command is read as it was. So `--force` can be added to the command line of any deletion, and
makes it the same deletion without a question.
-/
namespace ClusterStack.CommandLine

variable {flags : List Flag} {argument name : String} {front rest : List String}
  {marked : List (String × Mark)} {scan result : Scan}

theorem markAll_cons (plain : argument ≠ "--") :
    markAll flags (argument :: rest) = (mark flags argument).bind fun first =>
      (markAll flags rest).bind fun others => .ok ((argument, first) :: others) := by
  rw [markAll, if_neg (by simpa using plain)]
  rfl

theorem markAll_separated : markAll flags ("--" :: rest) =
    .ok (("--", .separator) :: rest.map (·, .plain)) := by
  rw [markAll]
  rfl

theorem markAll_cons_ok (plain : argument ≠ "--") (read : markAll flags (argument :: rest) = .ok marked) :
    ∃ m others, mark flags argument = .ok m ∧ markAll flags rest = .ok others ∧
      marked = (argument, m) :: others := by
  rw [markAll_cons plain] at read
  cases known : mark flags argument with
  | error misuse =>
      rw [known] at read
      cases read
  | ok m =>
      cases follow : markAll flags rest with
      | error misuse =>
          rw [known, follow] at read
          cases read
      | ok others =>
          rw [known, follow] at read
          cases read
          exact ⟨m, others, rfl, rfl, rfl⟩

theorem map_fst_plain (arguments : List String) :
    (arguments.map (·, Mark.plain)).map Prod.fst = arguments := by
  rw [List.map_map]
  exact List.map_id arguments

/-- The arguments are marked in their order. -/
theorem map_fst_of_markAll {arguments : List String} (read : markAll flags arguments = .ok marked) :
    marked.map Prod.fst = arguments := by
  induction arguments generalizing marked with
  | nil =>
      cases read
      rfl
  | cons argument rest ih =>
      by_cases separated : argument = "--"
      · subst separated
        cases markAll_separated.symm.trans read
        rw [List.map_cons, map_fst_plain]
      · obtain ⟨m, others, -, follow, rfl⟩ := markAll_cons_ok separated read
        rw [List.map_cons, ih follow]

/-- An argument that can be marked by itself can be added anywhere, and the others keep their marks. -/
theorem markAll_insert (plain : argument ≠ "--") {m : Mark} (known : mark flags argument = .ok m)
    (read : markAll flags (front ++ rest) = .ok marked) :
    ∃ first later m', marked = first ++ later ∧ first.map Prod.fst = front ∧
      later.map Prod.fst = rest ∧
      markAll flags (front ++ argument :: rest) = .ok (first ++ (argument, m') :: later) := by
  induction front generalizing marked with
  | nil =>
      refine ⟨[], marked, m, rfl, rfl, map_fst_of_markAll read, ?_⟩
      rw [List.nil_append] at read ⊢
      rw [markAll_cons plain, known, read]
      rfl
  | cons earlier front ih =>
      by_cases separated : earlier = "--"
      · subst separated
        cases markAll_separated.symm.trans read
        -- After two dashes every argument is plain, and the added one is too.
        refine ⟨("--", .separator) :: front.map (·, .plain), rest.map (·, .plain), .plain, ?_, ?_,
          map_fst_plain rest, ?_⟩
        · exact congrArg (("--", Mark.separator) :: ·) List.map_append
        · rw [List.map_cons, map_fst_plain]
        · rw [List.cons_append, markAll_separated, List.map_append]
          rfl
      · obtain ⟨m₀, others, known₀, follow, rfl⟩ := markAll_cons_ok separated read
        obtain ⟨first, later, m', rfl, same, same', inserted⟩ := ih follow
        refine ⟨(earlier, m₀) :: first, later, m', rfl, congrArg (earlier :: ·) same, same', ?_⟩
        rw [List.cons_append, markAll_cons separated, known₀, inserted]
        rfl

theorem take_switch {flag : Flag} {attached : Option String} {expects : Bool}
    {marks : List (String × Mark)} (switch : ¬ flag.takesValue = true) :
    take expects scan ((argument, .flag flag name attached) :: marks) =
      match takeSwitch scan flag name attached with
      | .ok scan => take expects scan marks
      | .error interruption => .error interruption := by
  rw [take.eq_def]
  exact if_neg switch

theorem command_of_takeSwitch {flag : Flag} {attached : Option String}
    (taken : takeSwitch scan flag name attached = .ok result) : result.command = scan.command := by
  unfold takeSwitch at taken
  split at taken
  · split at taken <;> cases taken
  · split at taken
    · cases taken
    · cases taken
      rfl

/-- Taking the arguments leaves these to the command, and what else it comes to does not depend on what
is left. -/
def Leaves (scan : Scan) (marked : List (String × Mark)) (name : String) (left : List String)
    (result : Scan) : Prop :=
  ∃ before mark after, marked = before ++ (name, mark) :: after ∧ after.map Prod.fst = left ∧
    ∀ other, other ≠ [] → take true scan (before ++ (name, mark) :: other) =
      .ok { result with command := some (name, other.map Prod.fst) }

theorem Leaves.after {scan' : Scan} {left : List String} (first : List (String × Mark))
    (step : ∀ other, take true scan (first ++ other) = take true scan' other)
    (leaves : Leaves scan' marked name left result) : Leaves scan (first ++ marked) name left result := by
  obtain ⟨before, mark, after, rfl, same, again⟩ := leaves
  refine ⟨first ++ before, mark, after, (List.append_assoc _ _ _).symm, same, fun other some => ?_⟩
  rw [List.append_assoc, step]
  exact again other some

theorem leaves_of_take {left : List String} (read : take true scan marked = .ok result)
    (unnamed : scan.command = none) (found : result.command = some (name, left)) :
    Leaves scan marked name left result := by
  -- Without a command the arguments cannot have come to an end.
  have ends {scan : Scan} (read : Except.ok (ε := Interruption) scan = .ok result)
      (unnamed : scan.command = none) : False := by
    cases read
    rw [unnamed] at found
    cases found
  fun_induction take true scan marked with
  | case1 scan => exact (ends read unnamed).elim
  | case2 scan argument rest expects =>
      cases read
      cases found
      refine ⟨[], .plain, rest, rfl, rfl, fun other _ => ?_⟩
      rw [List.nil_append, take, if_pos rfl]
      rfl
  | case3 scan argument rest waits => exact absurd rfl waits
  | case4 scan argument rest expects =>
      cases read
      cases found
      refine ⟨[], .separator, rest, rfl, rfl, fun other some => ?_⟩
      rw [List.nil_append, take, if_pos (by simpa using some)]
      rfl
  | case5 scan argument rest last =>
      obtain rfl : rest = [] := by simpa using last
      exact (ends read unnamed).elim
  | case6 scan argument rest ih =>
      refine .after [(argument, .unknownFlag)] (fun other => ?_) (ih read unnamed)
      rw [List.singleton_append, take]
  | case7 scan argument flag name' valued attached rest ih =>
      refine .after [(argument, .flag flag name' (some attached))] (fun other => ?_) (ih read unnamed)
      rw [List.singleton_append, take, if_pos valued]
  | case8 scan argument flag name' valued value rest ih =>
      -- The value is taken away with its option, so that it cannot be mistaken for the command.
      refine .after [(argument, .flag flag name' none), (value, .plain)] (fun other => ?_)
        (ih read unnamed)
      rw [List.cons_append, List.singleton_append, take, if_pos valued]
  | case9 => cases read
  | case10 scan argument flag name' attached rest switch scan' taken ih =>
      have unnamed' := (command_of_takeSwitch taken).trans unnamed
      refine .after [(argument, .flag flag name' attached)] (fun other => ?_) (ih read unnamed')
      rw [List.singleton_append, take_switch switch, taken]
  | case11 => cases read

/-- The same with one more switch before the others. -/
def Scan.switched (key : String) (scan : Scan) : Scan := { scan with switches := key :: scan.switches }

theorem takeSwitch_switched (key : String) (flag : Flag) (attached : Option String) :
    takeSwitch (scan.switched key) flag name attached =
      (takeSwitch scan flag name attached).map (Scan.switched key) := by
  unfold takeSwitch
  cases attached with
  | some attached =>
      dsimp only
      split <;> rfl
  | none =>
      dsimp only
      split <;> rfl

theorem take_switched (key : String) (expects : Bool) :
    take expects (scan.switched key) marked = (take expects scan marked).map (Scan.switched key) := by
  fun_induction take expects scan marked with
  | case1 scan => rfl
  | case2 scan argument rest expects =>
      rw [take, if_pos expects]
      rfl
  | case3 scan argument rest waits ih =>
      rw [take, if_neg waits]
      exact ih
  | case4 scan argument rest expects =>
      rw [take, if_pos expects]
      rfl
  | case5 scan argument rest last ih =>
      rw [take, if_neg last]
      exact ih
  | case6 scan argument rest ih => exact ih
  | case7 scan argument flag name valued attached rest ih =>
      rw [take, if_pos valued]
      exact ih
  | case8 scan argument flag name valued value rest ih =>
      rw [take, if_pos valued]
      exact ih
  | case9 scan argument flag name rest valued bare =>
      rw [take, if_pos valued]
      · rfl
      · exact bare
  | case10 scan argument flag name attached rest switch scan' taken ih =>
      rw [take_switch switch, takeSwitch_switched, taken]
      exact ih
  | case11 scan argument flag name attached rest switch interruption stopped =>
      rw [take_switch switch, takeSwitch_switched, stopped]
      rfl

theorem scanArguments_ok {expects : Bool} {arguments : List String}
    (read : scanArguments flags expects arguments = .ok scan) :
    ∃ marked, markAll flags arguments = .ok marked ∧ take expects .empty marked = .ok scan := by
  unfold scanArguments at read
  cases marks : markAll flags arguments with
  | error misuse =>
      rw [marks] at read
      cases read
  | ok marked =>
      rw [marks] at read
      exact ⟨marked, rfl, read⟩

/-- An argument that is added after the command is left to it, and changes nothing else. -/
theorem scanArguments_insert {arguments : List String} {m : Mark}
    (read : scanArguments flags true arguments = .ok scan) (found : scan.command = some (name, rest))
    (plain : argument ≠ "--") (known : mark flags argument = .ok m) :
    ∃ front, arguments = front ++ name :: rest ∧
      scanArguments flags true (front ++ name :: argument :: rest) =
        .ok { scan with command := some (name, argument :: rest) } := by
  obtain ⟨marked, marks, taken⟩ := scanArguments_ok read
  obtain ⟨before, mark, after, rfl, left, again⟩ := leaves_of_take taken rfl found
  have shape : before.map Prod.fst ++ [name] ++ rest = arguments := by
    rw [← map_fst_of_markAll marks, ← left]
    simp
  rw [← shape] at marks
  obtain ⟨first, later, m', split, same, same', inserted⟩ := markAll_insert plain known marks
  obtain ⟨rfl, rfl⟩ : before ++ [(name, mark)] = first ∧ after = later := by
    refine List.append_inj ?_ ?_
    · rw [← split, List.append_assoc, List.singleton_append]
    · simpa using (congrArg List.length same).symm
  refine ⟨before.map Prod.fst, by rw [← shape, List.append_assoc, List.singleton_append], ?_⟩
  rw [List.append_assoc, List.singleton_append] at inserted
  unfold scanArguments
  rw [inserted]
  have retaken := again ((argument, m') :: after) (List.cons_ne_nil _ _)
  rw [List.append_assoc, List.singleton_append]
  rw [List.map_cons, left] at retaken
  exact retaken

theorem scanArguments_forced (read : scanArguments Command.down.flags false rest = .ok scan) :
    scanArguments Command.down.flags false ("--force" :: rest) = .ok (scan.switched "--force") := by
  obtain ⟨marked, marks, taken⟩ := scanArguments_ok read
  let force : Flag := .switch "--force" "Delete without asking for confirmation."
  have known : mark Command.down.flags "--force" = .ok (.flag force "--force" none) := rfl
  have forced : Scan.empty.withSwitch force = Scan.empty.switched "--force" := rfl
  unfold scanArguments
  rw [markAll_cons (by decide), known, marks]
  change take false .empty ((_, .flag force "--force" none) :: marked) = _
  rw [take_switch (by decide)]
  change take false (Scan.empty.withSwitch force) marked = _
  rw [forced, take_switched, taken]
  rfl

/-- A step that follows another one under a change of its errors gives a result exactly if both do. -/
theorem mapError_bind_ok {ε ε' α β : Type} {first : Except ε α} {blame : ε → ε'}
    {next : α → Except ε' β} {b : β} :
    (first.mapError blame >>= next) = .ok b ↔ ∃ a, first = .ok a ∧ next a = .ok b := by
  constructor
  · intro read
    cases first with
    | error failure => cases read
    | ok a => exact ⟨a, rfl, read⟩
  · rintro ⟨a, rfl, read⟩
    exact read

theorem readCommand_ok {general : Scan} {command : Command} {request : Request} :
    readCommand general command rest = .ok request ↔
      ∃ options, scanArguments command.flags false rest = .ok options ∧
        general.unrecognized ++ options.unrecognized = [] ∧
        request = ⟨⟨(general.value? "--cluster").join, (general.value? "--region").join,
          (general.value? "--profile").join⟩, general.has "--verbose", command, options⟩ := by
  unfold readCommand
  rw [mapError_bind_ok]
  refine exists_congr fun options => and_congr_right fun _ => ?_
  constructor
  · intro read
    cases misplaced : general.unrecognized ++ options.unrecognized with
    | nil =>
        rw [misplaced] at read
        cases read
        exact ⟨rfl, rfl⟩
    | cons argument arguments =>
        rw [misplaced] at read
        cases read
  · rintro ⟨placed, rfl⟩
    rw [placed]
    rfl

theorem readRequest_ok {arguments : List String} {request : Request} :
    readRequest arguments = .ok request ↔
      ∃ general name rest command, scanArguments generalFlags true arguments = .ok general ∧
        general.command = some (name, rest) ∧ Command.ofName? name = some command ∧
        readCommand general command rest = .ok request := by
  unfold readRequest
  rw [mapError_bind_ok]
  constructor
  · rintro ⟨general, scanned, read⟩
    cases found : general.command with
    | none =>
        rw [found] at read
        cases read
    | some left =>
        obtain ⟨name, rest⟩ := left
        simp only [found] at read
        cases named : Command.ofName? name with
        | none =>
            rw [named] at read
            cases read
        | some command =>
            rw [named] at read
            exact ⟨general, name, rest, command, scanned, found, named, read⟩
  · rintro ⟨general, name, rest, command, scanned, found, named, asked⟩
    refine ⟨general, scanned, ?_⟩
    simp only [found, named]
    exact asked

theorem ofName?_eq_down (found : Command.ofName? name = some .down) : name = "down" := by
  have named := List.find?_some found
  exact (beq_iff_eq.mp named).symm

/-- The request with a leave to delete without a question. -/
def Request.forced (request : Request) : Request :=
  { request with options := request.options.switched "--force" }

theorem readCommand_forced {general : Scan} {request : Request}
    (read : readCommand general .down rest = .ok request) :
    readCommand general .down ("--force" :: rest) = .ok request.forced := by
  obtain ⟨options, scanned, placed, rfl⟩ := readCommand_ok.mp read
  exact readCommand_ok.mpr ⟨_, scanArguments_forced scanned, placed, rfl⟩

/-- The command line of a deletion with `--force` right after the command asks for the same deletion,
without a question. -/
theorem readRequest_forced {arguments : List String} {request : Request}
    (read : readRequest arguments = .ok request) (deletes : request.command = .down) :
    ∃ front rest, arguments = front ++ "down" :: rest ∧
      readRequest (front ++ "down" :: "--force" :: rest) = .ok request.forced := by
  obtain ⟨general, name, rest, command, scanned, found, named, asked⟩ := readRequest_ok.mp read
  obtain rfl : command = .down := by
    obtain ⟨options, -, -, rfl⟩ := readCommand_ok.mp asked
    exact deletes
  obtain rfl := ofName?_eq_down named
  have known : mark generalFlags "--force" = .ok .unknownFlag := rfl
  obtain ⟨front, shape, inserted⟩ := scanArguments_insert scanned found (by decide) known
  exact ⟨front, rest, shape,
    readRequest_ok.mpr ⟨_, _, _, _, inserted, rfl, named, readCommand_forced asked⟩⟩

end ClusterStack.CommandLine
