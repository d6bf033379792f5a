import ClusterStack.Proofs.Aws.Outcomes
import ClusterStack.Proofs.Executions
import ClusterStack.Proofs.Stack.Calls
/-!
# Whether a stack exists

A stack exists if the one reply about it tells a status, and is missing if the reply is the error that
says so. Every other reply fails the call for the stack, except one that is nested too deeply: that
failure comes out as it is.
-/
namespace ClusterStack

section Texts

variable {needle first rest cs : List Char} {c : Char}

theorem Failure.holds_iff : Failure.holds needle cs = true ↔ needle <:+: cs := by
  induction cs with
  | nil => rw [Failure.holds, List.isEmpty_iff, List.infix_nil]
  | cons c cs ih =>
    rw [Failure.holds, Bool.or_eq_true, List.isPrefixOf_iff_prefix, ih, List.infix_cons_iff]

theorem prefix_of_absent (absent : c ∉ needle) (starts : needle <+: first ++ c :: rest) :
    needle <+: first := by
  have split : first ++ c :: rest = first ++ [c] ++ rest := List.append_cons ..
  rcases Nat.lt_or_ge first.length needle.length with longer | shorter
  · rw [split] at starts
    have inside : first ++ [c] <+: needle :=
      List.prefix_of_prefix_length_le (List.prefix_append ..) starts (by rwa [List.length_append])
    exact absurd (inside.subset (List.mem_append_right _ (List.mem_singleton_self c))) absent
  · exact List.prefix_of_prefix_length_le starts (List.prefix_append ..) shorter

/-- A text does not reach over a character that is not in it. -/
theorem infix_append_cons_iff (absent : c ∉ needle) :
    needle <:+: first ++ c :: rest ↔ needle <:+: first ∨ needle <:+: rest := by
  constructor
  · intro within
    induction first with
    | nil =>
      rcases List.infix_cons_iff.mp within with starts | within
      · exact .inl (prefix_of_absent absent starts).isInfix
      · exact .inr within
    | cons d first ih =>
      rcases List.infix_cons_iff.mp within with starts | within
      · exact .inl (prefix_of_absent absent starts).isInfix
      · exact (ih within).imp_left fun inner => List.infix_cons_iff.mpr (.inr inner)
  · rintro (within | within)
    · exact within.trans (List.prefix_append ..).isInfix
    · exact within.trans ((List.suffix_cons ..).trans (List.suffix_append ..)).isInfix

end Texts

namespace Json

theorem leadsTo_openings {limit room count : Nat} (inside : room + count = limit) :
    LeadsTo limit .value room (List.replicate count (.char '[')) := by
  induction count generalizing room with
  | zero =>
    cases inside
    exact .start nofun
  | succ count ih =>
    rw [List.replicate_succ']
    exact .item (.array (ih (by omega)) (.before nofun))

theorem read_openings {count : Nat} (beyond : nestingLimit < count) :
    read (Text.ofString (String.ofList (List.replicate count '['))) = .error .overNested := by
  have codes : (Text.ofString (String.ofList (List.replicate count '['))).codes =
      List.replicate nestingLimit (.char '[') ++
        .char '[' :: List.replicate (count - (nestingLimit + 1)) (.char '[') := by
    have length : nestingLimit + (count - (nestingLimit + 1) + 1) = count := by omega
    rw [Text.ofString, String.toList_ofList, List.map_replicate, ← List.replicate_succ,
      List.replicate_append_replicate, length]
  refine readWithin_overNested_iff.mpr ?_
  rw [codes]
  exact .at (leadsTo_openings (Nat.zero_add _)) (.inl rfl)

end Json

theorem Aws.printed_openings (count : Nat) :
    Aws.printed (List.replicate count 91) = String.ofList (List.replicate count '[') := by
  have decoded : Text.decodeLossy (List.replicate count 91) = List.replicate count '[' := by
    unfold Text.decodeLossy
    induction count with
    | zero => rfl
    | succ count ih => exact congrArg ('[' :: ·) ih
  have visible : ¬Text.isBlank '[' = true := by decide
  unfold Aws.printed Text.trim Text.dropTrailingBlanks Text.dropBlanks
  rw [decoded, List.dropWhile_replicate, if_neg visible, List.reverse_replicate,
    List.dropWhile_replicate, if_neg visible, List.reverse_replicate]

namespace Stack.Handle

/-- What a service says of a stack that does not exist. -/
def absence : List Char := "does not exist".toList

/-- The call succeeded and printed a JSON object whose first stack has a status. -/
def TellsStatus (reply : Reply) : Prop :=
  ∃ output errors members first others status, reply = .exited 0 output errors ∧
    Json.read (Aws.printed output) = .ok (.obj members) ∧
    Json.member? members "Stacks" = some (.arr (.obj first :: others)) ∧
    Json.member? first "StackStatus" = some (.str status)

/-- The call failed with the error that says that the stack does not exist. -/
def TellsAbsence (reply : Reply) : Prop :=
  ∃ code output errors detail, reply = .exited code output errors ∧ code ≠ 0 ∧
    Aws.readErrorText (Aws.printed errors) = ("ValidationError", detail) ∧ absence <:+: detail.toList

/-- The call succeeded and what it printed is nested too deeply to be read. -/
def OverNested (reply : Reply) : Prop :=
  ∃ output errors, reply = .exited 0 output errors ∧ Json.read (Aws.printed output) = .error .overNested

variable {stack : Handle} {reply : Reply}

theorem readStatus_eq_ok {members : List (Text × Json)} {status : Text}
    (told : Service.readStatus stack.name members = .ok status) :
    ∃ first others, Json.member? members "Stacks" = some (.arr (.obj first :: others)) ∧
      Json.member? first "StackStatus" = some (.str status) := by
  obtain ⟨described, listed, told⟩ := ok_of_bind told
  obtain ⟨part, found, shape⟩ := Aws.responseMember_ok listed
  cases part with
  | arr items =>
    cases shape
    cases described with
    | nil => cases told
    | cons first others =>
      cases first with
      | obj first =>
        obtain ⟨part, named, shape⟩ := Aws.responseMember_ok told
        cases part with
        | str text =>
          cases shape
          exact ⟨first, others, found, named⟩
        | _ => cases shape
      | _ => cases told
  | _ => cases shape

theorem responseMember_of {α : Type} {members : List (Text × Json)} {key operation : String}
    {read : Json → Except Failure α} {part : Json} {a : α}
    (found : Json.member? members key = some part) (fit : read part = .ok a) :
    Aws.responseMember (.obj members) key read operation = .ok a := by
  unfold Aws.responseMember
  simp only [found, fit]

theorem readStatus_eq_ok_iff {members : List (Text × Json)} {status : Text} :
    Service.readStatus stack.name members = .ok status ↔
      ∃ first others, Json.member? members "Stacks" = some (.arr (.obj first :: others)) ∧
        Json.member? first "StackStatus" = some (.str status) := by
  refine ⟨readStatus_eq_ok, ?_⟩
  rintro ⟨first, others, found, named⟩
  have listed : Aws.responseMember (.obj members) "Stacks" (readAs "list[any]" Validation.anyList)
      "describe-stacks" = .ok (.obj first :: others) := responseMember_of found rfl
  change (Aws.responseMember (.obj members) "Stacks" _ "describe-stacks").bind _ = _
  rw [listed]
  exact responseMember_of named rfl

theorem exists_statusIn_iff : (∃ status, stack.statusIn reply = .ok status) ↔ TellsStatus reply := by
  constructor
  · rintro ⟨status, told⟩
    obtain ⟨members, read, told⟩ := ok_of_bind told
    obtain ⟨first, others, found, named⟩ := readStatus_eq_ok told
    cases reply with
    | notStarted fault => cases read
    | exited code output errors =>
      by_cases succeeded : code = 0
      · subst succeeded
        rcases Aws.readOutput_eq_ok_iff.mp read with ⟨-, rfl⟩ | parsed
        · cases found
        · exact ⟨output, errors, members, first, others, status, rfl, parsed, found, named⟩
      · rw [Aws.readReply_failed succeeded] at read
        cases read
  · rintro ⟨output, errors, members, first, others, status, rfl, parsed, found, named⟩
    have read : Aws.readReply "describe-stacks" (.exited 0 output errors) = .ok members :=
      Aws.readOutput_eq_ok_iff.mpr (.inr parsed)
    refine ⟨status, ?_⟩
    unfold statusIn
    rw [read]
    exact readStatus_eq_ok_iff.mpr ⟨first, others, found, named⟩

theorem isAbsenceOfStack_iff {error : ServiceError} :
    (Failure.service error).isAbsenceOfStack = true ↔
      error.code = "ValidationError" ∧ absence <:+: error.detail.toList := by
  unfold Failure.isAbsenceOfStack
  rw [Bool.and_eq_true, beq_iff_eq, Failure.holds_iff]
  rfl

theorem responseMember_invalid {α : Type} {answer : Json} {key title operation : String}
    {check : Validation.Check α} {cause : Failure}
    (unfit : Aws.responseMember answer key (readAs title check) operation = .error cause) :
    ∃ detail, cause = .service (.invalidResponse operation detail) := by
  unfold Aws.responseMember at unfit
  split at unfit
  · split at unfit
    · cases unfit
      exact ⟨_, rfl⟩
    · split at unfit
      · cases unfit
        exact ⟨_, rfl⟩
      · rename_i other
        obtain ⟨report, rfl⟩ := readAs_error unfit
        exact absurd unfit (other (.invalid report))
  · cases unfit
    exact ⟨_, rfl⟩

theorem invalidResponse_not_absence (operation detail : String) :
    (Failure.service (.invalidResponse operation detail)).isAbsenceOfStack = false := by
  refine Bool.eq_false_iff.mpr fun absent => ?_
  have same : "InvalidResponse" = "ValidationError" := (isAbsenceOfStack_iff.mp absent).1
  exact absurd same (by decide)

/-- The message about an empty list speaks of an absent stack only if the name of the stack does. -/
theorem undescribed_not_absence (plain : ¬absence <:+: stack.name.toList) :
    ¬absence <:+: (s!"Could not describe stack '{stack.name}'").toList := by
  have unquoted : '\'' ∉ absence := by decide +kernel
  have shape : (s!"Could not describe stack '{stack.name}'").toList =
      "Could not describe stack ".toList ++ '\'' :: (stack.name.toList ++ '\'' :: []) := by
    have opening : "Could not describe stack '".toList = "Could not describe stack ".toList ++ ['\''] := by
      decide +kernel
    have closing : "'".toList = ['\''] := by decide +kernel
    change ("Could not describe stack '" ++ stack.name ++ "'").toList = _
    rw [String.toList_append, String.toList_append, opening, closing, List.append_assoc,
      List.append_assoc]
    rfl
  rw [shape, infix_append_cons_iff unquoted, infix_append_cons_iff unquoted]
  rintro (before | within | after)
  · exact absurd before (by rw [← Failure.holds_iff]; decide +kernel)
  · exact plain within
  · exact absurd after (by rw [← Failure.holds_iff]; decide +kernel)

/-- An answer is never the error that says that the stack is missing. -/
theorem readStatus_not_absence (plain : ¬absence <:+: stack.name.toList)
    {members : List (Text × Json)} {cause : Failure}
    (told : Service.readStatus stack.name members = .error cause) :
    cause.isAbsenceOfStack = false := by
  rcases error_of_bind told with unlisted | ⟨described, -, told⟩
  · obtain ⟨detail, rfl⟩ := responseMember_invalid unlisted
    exact invalidResponse_not_absence _ detail
  · cases described with
    | nil =>
      cases told
      refine Bool.eq_false_iff.mpr fun absent => ?_
      exact undescribed_not_absence plain (isAbsenceOfStack_iff.mp absent).2
    | cons first others =>
      obtain ⟨detail, rfl⟩ := responseMember_invalid told
      exact invalidResponse_not_absence _ detail

theorem readOutput_not_absence {operation output : String} {cause : Failure}
    (unread : Aws.readOutput operation output = .error cause) : cause.isAbsenceOfStack = false := by
  unfold Aws.readOutput at unread
  split at unread
  · cases unread
  · split at unread
    · cases unread
    · cases unread
      exact invalidResponse_not_absence _ _
    · cases unread
      rfl
    · cases unread
      rfl
    · cases unread
      exact invalidResponse_not_absence _ _

theorem absence_iff (plain : ¬absence <:+: stack.name.toList) :
    (∃ cause, stack.statusIn reply = .error cause ∧ cause.isAbsenceOfStack = true) ↔
      TellsAbsence reply := by
  constructor
  · rintro ⟨cause, unknown, absent⟩
    rcases error_of_bind unknown with unread | ⟨members, -, told⟩
    · cases reply with
      | notStarted fault =>
        cases unread
        cases fault <;> cases absent
      | exited code output errors =>
        by_cases succeeded : code = 0
        · subst succeeded
          rw [readOutput_not_absence unread] at absent
          cases absent
        · rw [Aws.readReply_failed succeeded] at unread
          cases unread
          obtain ⟨named, within⟩ := isAbsenceOfStack_iff.mp absent
          exact ⟨code, output, errors, _, rfl, succeeded, Prod.ext named rfl, within⟩
    · rw [readStatus_not_absence plain told] at absent
      cases absent
  · rintro ⟨code, output, errors, detail, rfl, failed, read, within⟩
    have unknown : stack.statusIn (.exited code output errors) =
        .error (.service ⟨"ValidationError", detail, "describe-stacks", some code⟩) := by
      unfold statusIn
      rw [Aws.readReply_failed failed, read]
      rfl
    exact ⟨_, unknown, isAbsenceOfStack_iff.mpr ⟨rfl, within⟩⟩

/-- Only two failures to learn the status are not failures of a call: to start the program for an
unknown reason, and to read what is nested too deeply. -/
theorem statusIn_error_cases {cause : Failure} (unknown : stack.statusIn reply = .error cause) :
    cause.isOfCall = true ∨ (cause = .overNested ∧ OverNested reply) ∨
      ∃ reason, reply = .notStarted (.crash reason) := by
  rcases error_of_bind unknown with unread | ⟨members, -, told⟩
  · cases reply with
    | notStarted fault =>
      cases unread
      cases fault with
      | system fault => exact .inl rfl
      | value reason => exact .inl rfl
      | crash reason => exact .inr (.inr ⟨reason, rfl⟩)
    | exited code output errors =>
      by_cases succeeded : code = 0
      · subst succeeded
        rcases Aws.readOutput_error unread with call | rfl
        · exact .inl call
        · exact .inr (.inl ⟨rfl, output, errors, rfl, Aws.readOutput_overNested_iff.mp unread⟩)
      · rw [Aws.readReply_failed succeeded] at unread
        cases unread
        exact .inl rfl
  · exact .inl (Service.readStatus_error told)

theorem statusIn_overNested (nested : OverNested reply) :
    stack.statusIn reply = .error .overNested := by
  obtain ⟨output, errors, rfl, unread⟩ := nested
  have unread : Aws.readReply "describe-stacks" (.exited 0 output errors) = .error .overNested :=
    Aws.readOutput_overNested_iff.mpr unread
  unfold statusIn
  rw [unread]
  rfl

theorem existsIn_overNested (nested : OverNested reply) :
    stack.existsIn reply = .error .overNested := by
  unfold existsIn
  rw [statusIn_overNested nested]
  rfl

theorem existsIn_true_iff : stack.existsIn reply = .ok true ↔ TellsStatus reply := by
  rw [← @exists_statusIn_iff stack, existsIn]
  cases stack.statusIn reply with
  | ok status => exact iff_of_true rfl ⟨status, rfl⟩
  | error cause =>
    refine iff_of_false ?_ nofun
    dsimp only
    split <;> nofun

theorem existsIn_false_iff (plain : ¬absence <:+: stack.name.toList) :
    stack.existsIn reply = .ok false ↔ TellsAbsence reply := by
  rw [← absence_iff plain, existsIn]
  cases stack.statusIn reply with
  | ok status =>
    refine iff_of_false nofun ?_
    rintro ⟨cause, unknown, -⟩
    cases unknown
  | error cause =>
    dsimp only
    split
    · rename_i absent
      exact iff_of_true rfl ⟨cause, rfl, absent⟩
    · rename_i present
      refine iff_of_false nofun ?_
      rintro ⟨_, ⟨rfl⟩, absent⟩
      exact present absent

theorem existsIn_of_neither (plain : ¬absence <:+: stack.name.toList)
    (noStatus : ¬TellsStatus reply) (noAbsence : ¬TellsAbsence reply) :
    ∃ cause, stack.statusIn reply = .error cause ∧
      stack.existsIn reply = .error (Failure.ofCall "DescribeStacks" stack.name cause) := by
  cases unknown : stack.statusIn reply with
  | ok status => exact absurd (exists_statusIn_iff.mp ⟨status, unknown⟩) noStatus
  | error cause =>
    refine ⟨cause, rfl, ?_⟩
    have present : ¬cause.isAbsenceOfStack = true := fun absent =>
      noAbsence ((absence_iff plain).mp ⟨cause, unknown, absent⟩)
    unfold existsIn
    rw [unknown]
    exact if_neg present

/-- A stack exists if the one reply tells its status, and is missing if the reply is the error that
says so. Where the reply is neither, the call for the stack fails, unless what was printed is nested too
deeply: that failure is not reported as one of the call. -/
theorem exists_verdict (stack : Handle) (plain : ¬absence <:+: stack.name.toList) {σ : Type}
    (backend : Backend σ) (s : σ)
    (started : ∀ reason, (backend s stack.statusCall).1 ≠ .notStarted (.crash reason)) :
    let reply := (backend s stack.statusCall).1
    let outcome := (stack.exists?.run backend s).outcome
    stack.exists?.exchanges backend s = [⟨stack.statusCall, reply⟩] ∧
    (outcome = .done true ↔ TellsStatus reply) ∧
    (outcome = .done false ↔ TellsAbsence reply) ∧
    ((∃ cause, outcome = .failed (.remote "DescribeStacks" stack.name cause)) ↔
      ¬TellsStatus reply ∧ ¬TellsAbsence reply ∧ ¬OverNested reply) ∧
    (OverNested reply → outcome = .failed .overNested) := by
  intro reply outcome
  obtain ⟨through, ending, -⟩ := stack.asks_exists.leads backend s
  change outcome = .ofExcept (stack.existsIn reply) at ending
  have yes : outcome = .done true ↔ TellsStatus reply := by
    rw [ending, ← @existsIn_true_iff stack]
    exact ⟨Outcome.ofExcept_eq_done, fun told => told ▸ rfl⟩
  have no : outcome = .done false ↔ TellsAbsence reply := by
    rw [ending, ← existsIn_false_iff plain]
    exact ⟨Outcome.ofExcept_eq_done, fun told => told ▸ rfl⟩
  have deep (nested : OverNested reply) : outcome = .failed .overNested := by
    rw [ending, existsIn_overNested nested]
    rfl
  refine ⟨through, yes, no, ⟨?_, ?_⟩, deep⟩
  · rintro ⟨cause, failed⟩
    rw [← yes, ← no, failed]
    exact ⟨nofun, nofun, fun nested => by rw [deep nested] at failed; cases failed⟩
  · rintro ⟨noStatus, noAbsence, flat⟩
    obtain ⟨cause, unknown, told⟩ := existsIn_of_neither plain noStatus noAbsence
    rcases statusIn_error_cases unknown with call | ⟨-, nested⟩ | ⟨reason, crashed⟩
    · exact ⟨cause, by rw [ending, told, Failure.ofCall_eq_remote _ _ call]; rfl⟩
    · exact absurd nested flat
    · exact absurd crashed (started reason)

theorem exists_verdict_missing :
    let stack : Handle := ⟨.usual ⟨none, none⟩, "demo"⟩
    let message := "An error occurred (ValidationError) when calling the DescribeStacks operation: " ++
      "Stack with id demo does not exist"
    let reply : Reply := .exited 254 [] (message.toList.map fun c => UInt8.ofNat c.toNat)
    ¬absence <:+: stack.name.toList ∧ (∀ reason, reply ≠ .notStarted (.crash reason)) ∧
      (stack.exists?.run (fun s _ => (reply, s)) ()).outcome = .done false := by
  intro stack message reply
  have plain : ¬absence <:+: stack.name.toList := by
    rw [← Failure.holds_iff]
    decide +kernel
  refine ⟨plain, nofun, (exists_verdict stack plain (fun s _ => (reply, s)) () nofun).2.2.1.mpr ?_⟩
  refine ⟨254, [], _, "Stack with id demo does not exist", rfl, by decide, by decide +kernel, ?_⟩
  rw [← Failure.holds_iff]
  decide +kernel

/-- Five thousand opening brackets tell neither a status nor that a stack is missing, and yet the call
for the stack does not fail. -/
theorem exists_not_remote_overNested :
    let stack : Handle := ⟨.usual ⟨none, none⟩, "amazon-ecs-cli-setup-demo"⟩
    let reply : Reply := .exited 0 (List.replicate 5000 91) []
    ¬absence <:+: stack.name.toList ∧ ¬TellsStatus reply ∧ ¬TellsAbsence reply ∧
      ∀ cause, (stack.exists?.run (fun s _ => (reply, s)) ()).outcome ≠
        .failed (.remote "DescribeStacks" stack.name cause) := by
  intro stack reply
  have unread : Json.read (Aws.printed (List.replicate 5000 91)) = .error .overNested := by
    rw [Aws.printed_openings]
    exact Json.read_openings (by decide)
  have ending := (stack.asks_exists.leads (fun s _ => (reply, s)) ()).ending
  rw [existsIn_overNested ⟨_, [], rfl, unread⟩] at ending
  refine ⟨by rw [← Failure.holds_iff]; decide +kernel, ?_, ?_, fun cause => by rw [ending]; nofun⟩
  · rintro ⟨output, errors, members, first, others, status, same, parsed, -, -⟩
    obtain ⟨-, rfl, -⟩ := Reply.exited.inj same
    rw [unread] at parsed
    cases parsed
  · rintro ⟨code, output, errors, detail, same, failed, -, -⟩
    exact failed (Reply.exited.inj same).1.symm

end Stack.Handle

end ClusterStack
