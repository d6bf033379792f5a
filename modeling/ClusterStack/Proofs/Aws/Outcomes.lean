import ClusterStack.Proofs.Aws.ErrorText
import ClusterStack.Proofs.Faults
import ClusterStack.Proofs.Json.RoundTrip
import ClusterStack.Proofs.Rehearsals
import ClusterStack.Proofs.Runs
/-!
# Outcomes of a call

A call that was made ends in one of few ways, whatever the `aws` program printed. If it failed, it is a
service error with the code and the detail that was printed. Otherwise the answer is the object that was
printed, or the empty one if nothing was, and any other output is one that cannot be used. Only integers
that are too long, and arrays and objects that are nested too deeply, are no matter of the service.
-/
namespace ClusterStack.Aws

open Json (Denotes Document MeetsLongInteger MeetsNesting nestingLimit coded)

/-- The code and the detail in what a failed call printed. -/
inductive TellsError (printed : String) : String → String → Prop
  | line {before : String} {line : ErrorLine} : line.IsFirstIn printed before →
      TellsError printed line.code (Text.strip line.detail)
  | unknown : (¬∃ before, ∃ line : ErrorLine, printed = before ++ line.text) →
      TellsError printed "Unknown" (Text.strip printed)

/-- The members of the object that was printed, with nothing but blank characters around it. -/
inductive Prints (output : List UInt8) : List (Text × Json) → Prop
  | nothing : (∀ c ∈ Text.decodeLossy output, Text.isBlank c = true) → Prints output []
  | object {before object after : List Char} {members : List (Text × Json)} :
      Text.decodeLossy output = before ++ object ++ after →
      (∀ c ∈ before, Text.isBlank c = true) → (∀ c ∈ after, Text.isBlank c = true) →
      Denotes nestingLimit (coded object) (.value (.obj members)) → Prints output members

theorem tellsError_iff {printed code detail : String} :
    TellsError printed code detail ↔ readErrorText printed = (code, detail) := by
  constructor
  · rintro (first | nowhere)
    · exact readErrorText_of_isFirstIn first
    · exact (readErrorText_unknown_iff printed).mpr nowhere
  · intro read
    obtain ⟨before, line, first, read'⟩ | ⟨nowhere, read'⟩ := readErrorText_cases printed
    · cases read'.symm.trans read
      exact .line first
    · cases read'.symm.trans read
      exact .unknown nowhere

theorem codes_printed (output : List UInt8) :
    (Text.ofString (printed output)).codes = coded (Text.trim (Text.decodeLossy output)) := by
  rw [Text.ofString, printed, String.toList_ofList]

theorem isBlank_of_isSpace {c : Char} (space : Json.isSpace (.char c) = true) :
    Text.isBlank c = true := by
  simp only [Json.isSpace, Bool.or_eq_true, beq_iff_eq, Text.Code.char.injEq] at space
  rcases space with ((rfl | rfl) | rfl) | rfl <;> decide

theorem blank_of_space {cs : List Char} (space : Json.Space (coded cs)) :
    ∀ c ∈ cs, Text.isBlank c = true :=
  fun _ member => isBlank_of_isSpace (space _ (List.mem_map_of_mem member))

/-- Trimming takes nothing off an object. -/
theorem bounded_object {object : List Char} {members : List (Text × Json)} {room : Nat}
    (denotes : Denotes room (coded object) (.value (.obj members))) : Text.Bounded object := by
  obtain ⟨rest, front, first, last⟩ := denotes.object_marks
  have opening : (coded object).head? = some (.char '\x7b') := first ▸ rfl
  have closing : (coded object).getLast? = some (.char '\x7d') := last ▸ List.getLast?_concat
  rw [List.head?_map, Option.map_eq_some_iff] at opening
  rw [List.getLast?_map, Option.map_eq_some_iff] at closing
  obtain ⟨_, opening, ⟨rfl⟩⟩ := opening
  obtain ⟨_, closing, ⟨rfl⟩⟩ := closing
  refine ⟨fun c begins => ?_, fun c ends => ?_⟩
  · cases opening.symm.trans begins
    decide
  · cases closing.symm.trans ends
    decide

theorem trim_eq_nil_iff {cs : List Char} :
    Text.trim cs = [] ↔ ∀ c ∈ cs, Text.isBlank c = true := by
  have empty : Text.Bounded [] := ⟨nofun, nofun⟩
  rw [empty.trim_eq_iff]
  constructor
  · rintro ⟨before, after, rfl, blank, blank'⟩
    rw [List.append_nil]
    exact List.forall_mem_append.mpr ⟨blank, blank'⟩
  · intro blank
    exact ⟨cs, [], by rw [List.append_nil, List.append_nil], blank, List.forall_mem_nil _⟩

theorem document_trim_iff {limit : Nat} {cs : List Char} {members : List (Text × Json)} :
    Document limit (coded (Text.trim cs)) (.obj members) ↔ ∃ before object after,
      cs = before ++ object ++ after ∧ (∀ c ∈ before, Text.isBlank c = true) ∧
      (∀ c ∈ after, Text.isBlank c = true) ∧ Denotes limit (coded object) (.value (.obj members)) := by
  constructor
  · intro document
    generalize shape : coded (Text.trim cs) = codes at document
    cases document with
    | around blank inside blank' =>
        rw [List.append_assoc] at shape
        obtain ⟨first, others, split, rfl, inner⟩ := List.map_eq_append_iff.mp shape
        obtain ⟨object, last, rfl, rfl, rfl⟩ := List.map_eq_append_iff.mp inner
        obtain ⟨before, after, whole, around, around'⟩ := Text.exists_eq_append_trim cs
        refine ⟨before ++ first, object, last ++ after, ?_, ?_, ?_, inside⟩
        · rw [split] at whole
          simpa only [List.append_assoc] using whole
        · exact List.forall_mem_append.mpr ⟨around, blank_of_space blank⟩
        · exact List.forall_mem_append.mpr ⟨blank_of_space blank', around'⟩
  · rintro ⟨before, object, after, shape, blank, blank', inside⟩
    have trimmed := (bounded_object inside).trim_eq_iff.mpr ⟨before, after, shape, blank, blank'⟩
    have document : Document limit ([] ++ coded object ++ []) (.obj members) :=
      .around (List.forall_mem_nil _) inside (List.forall_mem_nil _)
    rw [trimmed]
    rwa [List.append_nil] at document

theorem printed_eq_empty_iff {output : List UInt8} :
    printed output = "" ↔ ∀ c ∈ Text.decodeLossy output, Text.isBlank c = true := by
  rw [← trim_eq_nil_iff]
  unfold printed
  exact String.ofList_eq_empty_iff

section

variable {operation : String} {output : List UInt8}

theorem readReply_failed {code : Int} {errors : List UInt8} (failed : code ≠ 0) :
    readReply operation (.exited code output errors) = .error (.service
      ⟨(readErrorText (printed errors)).1, (readErrorText (printed errors)).2, operation, some code⟩) :=
  if_neg (by simpa using failed)

/-- What is printed is read as an object if it is one, and as the empty one if nothing is printed. -/
theorem readOutput_eq_ok_iff {output : String} {members : List (Text × Json)} :
    readOutput operation output = .ok members ↔
      (output = "" ∧ members = []) ∨ Json.read output = .ok (.obj members) := by
  unfold readOutput
  by_cases silent : output = ""
  · subst silent
    have unread : Json.read "" ≠ .ok (.obj members) := nofun
    simp [unread, eq_comm]
  · rw [if_neg (by simpa using silent)]
    cases read : Json.read output with
    | ok v => cases v <;> simp [silent, eq_comm]
    | error e => cases e <;> simp [silent]

/-- A text that is not merely out of order is a failure of its own. -/
theorem readOutput_eq_error_iff {output : String} (e : Json.ReadError)
    (kept : ∀ what line column index, e ≠ .unexpected what line column index) :
    readOutput operation output = .error (.ofReadError e) ↔ Json.read output = .error e := by
  cases e with
  | unexpected what line column index => exact absurd rfl (kept what line column index)
  | _ =>
      unfold readOutput
      by_cases silent : output = ""
      · subst silent
        exact iff_of_false nofun nofun
      · rw [if_neg (by simpa using silent)]
        cases read : Json.read output with
        | ok v => cases v <;> simp [Failure.ofReadError]
        | error e => cases e <;> simp [Failure.ofReadError]

theorem readOutput_overNested_iff {output : String} :
    readOutput operation output = .error .overNested ↔ Json.read output = .error .overNested :=
  readOutput_eq_error_iff .overNested (by simp)

theorem readOutput_longNumeral_iff {output : String} {digits : Nat} :
    readOutput operation output = .error (.value (.longNumeral digits)) ↔
      Json.read output = .error (.longInteger digits) :=
  readOutput_eq_error_iff (.longInteger digits) (by simp)

theorem readOutput_error_cases {output : String} {failure : Failure}
    (unread : readOutput operation output = .error failure) :
    (∃ detail, failure = .service ⟨"InvalidResponse", detail, operation, none⟩) ∨
      (∃ digits, failure = .value (.longNumeral digits)) ∨ failure = .overNested := by
  unfold readOutput at unread
  split at unread
  · cases unread
  · split at unread
    · cases unread
    · cases unread
      exact .inl ⟨_, rfl⟩
    · cases unread
      exact .inr (.inl ⟨_, rfl⟩)
    · cases unread
      exact .inr (.inr rfl)
    · cases unread
      exact .inl ⟨_, rfl⟩

theorem prints_iff {members : List (Text × Json)} :
    Prints output members ↔ readOutput operation (printed output) = .ok members := by
  rw [readOutput_eq_ok_iff, printed_eq_empty_iff]
  unfold Json.read
  rw [Json.readWithin_eq_ok_iff, codes_printed, document_trim_iff]
  constructor
  · rintro (silent | ⟨shape, blank, blank', inside⟩)
    · exact .inl ⟨silent, rfl⟩
    · exact .inr ⟨_, _, _, shape, blank, blank', inside⟩
  · rintro (⟨silent, rfl⟩ | ⟨before, object, after, shape, blank, blank', inside⟩)
    · exact .nothing silent
    · exact .object shape blank blank' inside

theorem readReply_eq_ok_iff {reply : Reply} {members : List (Text × Json)} :
    readReply operation reply = .ok members ↔
      ∃ output errors, reply = .exited 0 output errors ∧ Prints output members := by
  constructor
  · intro read
    cases reply with
    | notStarted fault => cases read
    | exited code output errors =>
        by_cases succeeded : code = 0
        · subst succeeded
          exact ⟨output, errors, rfl, prints_iff.mpr read⟩
        · rw [readReply_failed succeeded] at read
          cases read
  · rintro ⟨output, errors, rfl, prints⟩
    exact prints_iff.mp prints

end

theorem decodeLossy_of_ascii {cs : List Char} (ascii : Json.Ascii cs) :
    Text.decodeLossy (cs.map fun c => UInt8.ofNat c.toNat) = cs := by
  unfold Text.decodeLossy
  induction cs with
  | nil => rfl
  | cons c cs ih =>
      obtain ⟨first, others⟩ := Json.ascii_cons.mp ascii
      have byte : (UInt8.ofNat c.toNat).toNat = c.toNat := Nat.mod_eq_of_lt (by omega)
      have whole : Text.lead (UInt8.ofNat c.toNat).toNat = .whole c := by
        rw [byte, Text.lead, if_pos first, Char.ofNat_toNat]
      rw [List.map_cons, Text.decodeFrom, whole]
      exact congrArg (c :: ·) (ih others)

/-- An object that can be read back is printed by its own text. -/
theorem prints_toText {members : List (Text × Json)}
    (legible : Json.Legible nestingLimit (.obj members)) :
    Prints (Stack.bytes (Json.obj members).toText) members := by
  have decoded : Text.decodeLossy (Stack.bytes (Json.obj members).toText) =
      [] ++ (Json.obj members).write ++ [] := by
    rw [Stack.bytes, Json.toText, String.toList_ofList, decodeLossy_of_ascii legible.ascii,
      List.append_nil, List.nil_append]
  exact .object decoded (List.forall_mem_nil _) (List.forall_mem_nil _) legible.denotes

theorem readOutput_printed_longNumeral_iff {operation : String} {output : List UInt8} {digits : Nat} :
    readOutput operation (printed output) = .error (.value (.longNumeral digits)) ↔
      MeetsLongInteger nestingLimit (coded (Text.trim (Text.decodeLossy output))) digits := by
  rw [readOutput_longNumeral_iff, ← codes_printed]
  exact Json.readWithin_longInteger_iff

theorem readOutput_printed_overNested_iff {operation : String} {output : List UInt8} :
    readOutput operation (printed output) = .error .overNested ↔
      MeetsNesting nestingLimit (coded (Text.trim (Text.decodeLossy output))) := by
  rw [readOutput_overNested_iff, ← codes_printed]
  exact Json.readWithin_overNested_iff

theorem run_answer {σ : Type} (call : Invocation) (backend : Backend σ) (s : σ) :
    (answer call).run backend s = ⟨.ofExcept (readReply call.operation (backend s call).1),
      [.invoked call], (backend s call).2⟩ := by
  unfold answer request
  rw [Program.run_request]
  cases readReply call.operation (backend s call).1 <;> rfl

theorem commandLine_eq {call other : Invocation} (service : other.service = call.service)
    (operation : other.operation = call.operation) (arguments : other.arguments = call.arguments)
    (region : other.region.getD "" = call.region.getD "")
    (profile : other.profile.getD "" = call.profile.getD "") :
    other.commandLine = call.commandLine := by
  have flags (flag : String) {a b : Option String} (same : a.getD "" = b.getD "") :
      givenFlag flag a = givenFlag flag b := by
    have shown (value : Option String) : givenFlag flag value =
        if value.getD "" = "" then [] else [.str flag, .str (value.getD "")] := by
      cases value with
      | none => rfl
      | some value => simp [givenFlag]
    rw [shown, shown, same]
  unfold Invocation.commandLine
  rw [service, operation, arguments, flags _ region, flags _ profile]

/-- Whatever a call printed, it has one of these outcomes. A failed call is an error with the code and
the detail that it printed to the error output, and nothing that it printed otherwise matters. A call
that succeeded is answered with the object that it printed, whatever it printed to the error output. An
integer that is too long, or one nesting too many, is told of if the text is in order up to there, and
every other output is one that cannot be used. What the program is run with is told by the call alone,
where an empty region or profile is the same as none. -/
theorem answer_outcomes {σ : Type} (call : Invocation) (code : Int) (output errors : List UInt8)
    (step : σ → Invocation → σ) (s : σ) :
    let finish := fun errors =>
      (answer call).run (fun s call => (.exited code output errors, step s call)) s
    let run := finish errors
    let codes := coded (Text.trim (Text.decodeLossy output))
    run.trace = [.invoked call] ∧
    (code ≠ 0 → ∃ errorCode detail, TellsError (printed errors) errorCode detail ∧
      run.outcome = .failed (.service ⟨errorCode, detail, call.operation, some code⟩)) ∧
    (code = 0 →
      (∀ unread, (finish unread).outcome = run.outcome) ∧
      (∀ members, run.outcome = .done members ↔ Prints output members) ∧
      (∀ digits, run.outcome = .failed (.value (.longNumeral digits)) ↔
        MeetsLongInteger nestingLimit codes digits) ∧
      (run.outcome = .failed .overNested ↔ MeetsNesting nestingLimit codes) ∧
      ((¬∃ members, Prints output members) → (¬∃ digits, MeetsLongInteger nestingLimit codes digits) →
        ¬MeetsNesting nestingLimit codes → ∃ detail,
          run.outcome = .failed (.service ⟨"InvalidResponse", detail, call.operation, none⟩))) ∧
    ∀ other : Invocation, other.service = call.service → other.operation = call.operation →
      other.arguments = call.arguments → other.region.getD "" = call.region.getD "" →
      other.profile.getD "" = call.profile.getD "" → other.commandLine = call.commandLine := by
  intro finish run codes
  have finished (errors : List UInt8) : finish errors =
      ⟨.ofExcept (readReply call.operation (.exited code output errors)), [.invoked call], step s call⟩ :=
    run_answer call _ s
  have came : run.outcome = .ofExcept (readReply call.operation (.exited code output errors)) :=
    congrArg Run.outcome (finished errors)
  refine ⟨congrArg Run.trace (finished errors), fun failed => ?_, fun succeeded => ?_,
    fun other service operation arguments region profile =>
      commandLine_eq service operation arguments region profile⟩
  · refine ⟨_, _, tellsError_iff.mpr rfl, ?_⟩
    rw [came, readReply_failed failed]
    rfl
  subst succeeded
  change run.outcome = .ofExcept (readOutput call.operation (printed output)) at came
  have alike (unread : List UInt8) : (finish unread).outcome = run.outcome := by
    rw [came, finished]
    rfl
  have failed {failure : Failure} : run.outcome = .failed failure ↔
      readOutput call.operation (printed output) = .error failure := by
    rw [came]
    exact Outcome.ofExcept_eq_failed_iff
  refine ⟨alike, fun members => ?_, fun digits => failed.trans readOutput_printed_longNumeral_iff,
    failed.trans readOutput_printed_overNested_iff, fun noObject short flat => ?_⟩
  · rw [@prints_iff call.operation, came]
    exact Outcome.ofExcept_eq_done_iff
  · cases read : readOutput call.operation (printed output) with
    | ok members => exact absurd ⟨members, prints_iff.mpr read⟩ noObject
    | error failure =>
        rcases readOutput_error_cases read with ⟨detail, rfl⟩ | ⟨digits, rfl⟩ | rfl
        · exact ⟨detail, failed.mpr read⟩
        · exact absurd ⟨digits, readOutput_printed_longNumeral_iff.mp read⟩ short
        · exact absurd (readOutput_printed_overNested_iff.mp read) flat

end ClusterStack.Aws
