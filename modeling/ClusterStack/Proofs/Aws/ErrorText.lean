import ClusterStack.Aws.ErrorText
import ClusterStack.Proofs.Text.Trimming
import Mathlib.Data.List.Count
/-!
# Which error line is read

A line of the form is a code, a call and a number of retries that may each be missing, and a detail. It
is read from the first place where some line of the form starts, and one text is such a line in one way
only: the part about the call, the part about the retries and the colon differ by their second character.
-/
namespace ClusterStack.Aws

/-- At least one character, and each of a kind. -/
def IsRunOf (kind : Char → Bool) (run : String) : Prop :=
  run ≠ "" ∧ ∀ c ∈ run.toList, kind c = true

/-- What the form of an error line leaves open. -/
@[ext]
structure ErrorLine where
  code : String
  operation : Option String
  retries : Option String
  detail : String
  code_run : IsRunOf (· != ')') code
  operation_run : ∀ name ∈ operation, IsRunOf Text.isWordCharacter name
  retries_run : ∀ count ∈ retries, IsRunOf Text.isDecimalDigit count

namespace ErrorLine

def text (line : ErrorLine) : String :=
  "An error occurred (" ++ line.code ++ ")" ++
    (line.operation.elim "" fun name => " when calling the " ++ name ++ " operation") ++
    (line.retries.elim "" fun count => " (reached max retries: " ++ count ++ ")") ++
    ": " ++ line.detail

/-- The line stands at the end of what was printed, and no line starts before it. -/
structure IsFirstIn (line : ErrorLine) (printed before : String) : Prop where
  stands : printed = before ++ line.text
  first : ∀ before' line', printed = before' ++ text line' → before.length ≤ before'.length

end ErrorLine

section Parts

variable {opening closing cs rest : List Char} {kind : Char → Bool} {run : String}

/-- The text starts with a character that is not of the kind, so that a run ends where it starts. -/
def Ends (kind : Char → Bool) (closing : List Char) : Prop :=
  ∃ c cs, closing = c :: cs ∧ kind c = false

theorem takeWhile_run (ends : Ends kind closing) (all : ∀ c ∈ run.toList, kind c = true) :
    (run.toList ++ (closing ++ rest)).takeWhile kind = run.toList := by
  obtain ⟨c, closing, rfl, stop⟩ := ends
  rw [List.takeWhile_append_of_pos all, List.cons_append, List.takeWhile_cons, stop]
  exact List.append_nil _

theorem dropWhile_run (ends : Ends kind closing) (all : ∀ c ∈ run.toList, kind c = true) :
    (run.toList ++ (closing ++ rest)).dropWhile kind = closing ++ rest := by
  obtain ⟨c, closing, rfl, stop⟩ := ends
  rw [List.dropWhile_append_of_pos all, List.cons_append, List.dropWhile_cons, stop]
  rfl

theorem IsRunOf.toList_ne_nil (isRun : IsRunOf kind run) : run.toList ≠ [] :=
  fun empty => isRun.1 (String.toList_eq_nil_iff.mp empty)

theorem isRunOf_takeWhile (some : cs.takeWhile kind ≠ []) :
    IsRunOf kind (String.ofList (cs.takeWhile kind)) :=
  ⟨fun empty => some (by rw [← String.toList_ofList (l := cs.takeWhile kind), empty]; rfl),
    fun c member => List.mem_takeWhile_imp (by rwa [String.toList_ofList] at member)⟩

/-- What is skipped is a run between the two texts. -/
theorem afterRun?_eq_some_iff (ends : Ends kind closing) :
    afterRun? opening kind closing cs = some rest ↔
      ∃ run, IsRunOf kind run ∧ cs = opening ++ run.toList ++ closing ++ rest := by
  unfold afterRun?
  constructor
  · intro skipped
    obtain ⟨cs', opened, skipped⟩ := Option.bind_eq_some_iff.mp skipped
    rw [List.isPrefixOf?_eq_some_iff_append_eq] at opened
    split at skipped
    · cases skipped
    · rename_i some
      rw [List.isEmpty_iff] at some
      rw [List.isPrefixOf?_eq_some_iff_append_eq] at skipped
      refine ⟨_, isRunOf_takeWhile some, ?_⟩
      rw [String.toList_ofList, List.append_assoc, skipped, List.append_assoc,
        List.takeWhile_append_dropWhile, opened]
  · rintro ⟨run, isRun, rfl⟩
    have opened : opening.isPrefixOf? (opening ++ run.toList ++ closing ++ rest) =
        some (run.toList ++ (closing ++ rest)) := by
      rw [List.isPrefixOf?_eq_some_iff_append_eq, List.append_assoc, List.append_assoc]
    rw [opened, Option.bind_eq_bind, Option.bind_some, takeWhile_run ends isRun.2,
      dropWhile_run ends isRun.2, if_neg (by rw [List.isEmpty_iff]; exact isRun.toList_ne_nil),
      List.isPrefixOf?_eq_some_iff_append_eq]

/-- The characters of a part that may be missing. -/
def part (opening closing : List Char) (run? : Option String) : List Char :=
  run?.elim [] fun run => opening ++ run.toList ++ closing

theorem toList_part (before after : String) (run? : Option String) :
    (run?.elim "" fun run => before ++ run ++ after).toList =
      part before.toList after.toList run? := by
  cases run? with
  | none => rfl
  | some run => exact (String.toList_append ..).trans (congrArg (· ++ _) (String.toList_append ..))

variable (opening) in
/-- Whatever is skipped is a part. -/
theorem exists_part (ends : Ends kind closing) (cs : List Char) :
    ∃ run?, (∀ run ∈ run?, IsRunOf kind run) ∧
      cs = part opening closing run? ++ (afterRun? opening kind closing cs).getD cs := by
  cases skipped : afterRun? opening kind closing cs with
  | none => exact ⟨none, by simp, rfl⟩
  | some rest =>
    obtain ⟨run, isRun, shape⟩ := (afterRun?_eq_some_iff ends).mp skipped
    exact ⟨some run, by simpa using isRun, shape⟩

/-- A part is skipped if what follows it does not open such a part as well. -/
theorem getD_afterRun?_part (ends : Ends kind closing) {run? : Option String}
    (isRun : ∀ run ∈ run?, IsRunOf kind run) (unlike : ¬opening <+: rest) :
    (afterRun? opening kind closing (part opening closing run? ++ rest)).getD
      (part opening closing run? ++ rest) = rest := by
  cases run? with
  | none =>
    change (afterRun? opening kind closing rest).getD rest = rest
    cases skipped : afterRun? opening kind closing rest with
    | none => rfl
    | some rest' =>
      obtain ⟨run, -, rfl⟩ := (afterRun?_eq_some_iff ends).mp skipped
      rw [List.append_assoc, List.append_assoc] at unlike
      exact absurd (List.prefix_append _ _) unlike
  | some run =>
    have skipped : afterRun? opening kind closing (part opening closing (some run) ++ rest) =
        some rest := (afterRun?_eq_some_iff ends).mpr ⟨run, isRun run rfl, rfl⟩
    rw [skipped, Option.getD_some]

theorem part_injective (some : opening ≠ []) : Function.Injective (part opening closing) := by
  intro run? run?' same
  cases run? <;> cases run?' <;> simp only [part, Option.elim] at same
  · rfl
  · rw [List.append_assoc] at same
    exact absurd (List.append_eq_nil_iff.mp same.symm).1 some
  · rw [List.append_assoc] at same
    exact absurd (List.append_eq_nil_iff.mp same).1 some
  · rw [List.append_cancel_right_eq, List.append_cancel_left_eq, String.toList_inj] at same
    rw [same]

end Parts

theorem callOpening_cons : callOpening = ' ' :: 'w' :: "hen calling the ".toList := by
  unfold callOpening
  simp only [String.reduceToList]

theorem callClosing_cons : callClosing = ' ' :: "operation".toList := by
  unfold callClosing
  simp only [String.reduceToList]

theorem retriesOpening_cons : retriesOpening = ' ' :: '(' :: "reached max retries: ".toList := by
  unfold retriesOpening
  simp only [String.reduceToList]

theorem ends_code : Ends (· != ')') [')'] := ⟨')', [], rfl, rfl⟩

theorem ends_operation : Ends Text.isWordCharacter callClosing :=
  ⟨' ', _, callClosing_cons, by decide +kernel⟩

theorem ends_retries : Ends Text.isDecimalDigit [')'] := ⟨')', [], rfl, by decide +kernel⟩

namespace ErrorLine

def fromRetries (line : ErrorLine) : List Char :=
  part retriesOpening [')'] line.retries ++ ([':', ' '] ++ line.detail.toList)

def fromCall (line : ErrorLine) : List Char :=
  part callOpening callClosing line.operation ++ line.fromRetries

theorem toList_text (line : ErrorLine) :
    line.text.toList = errorOpening ++ (line.code.toList ++ ([')'] ++ line.fromCall)) := by
  have shape : line.text.toList = "An error occurred (".toList ++ line.code.toList ++ ")".toList ++
      part " when calling the ".toList " operation".toList line.operation ++
      part " (reached max retries: ".toList ")".toList line.retries ++ ": ".toList ++
      line.detail.toList := by
    unfold text
    simp only [String.toList_append, toList_part]
  rw [shape]
  simp only [List.append_assoc]
  rfl

theorem skipRetries_fromRetries (line : ErrorLine) :
    skipRetries line.fromRetries = [':', ' '] ++ line.detail.toList := by
  refine getD_afterRun?_part ends_retries line.retries_run ?_
  rw [retriesOpening_cons]
  simp only [List.cons_append, List.cons_prefix_cons, Char.reduceEq, false_and, not_false_eq_true]

theorem skipCall_fromCall (line : ErrorLine) : skipCall line.fromCall = line.fromRetries := by
  refine getD_afterRun?_part ends_operation line.operation_run ?_
  unfold fromRetries part
  rw [callOpening_cons, retriesOpening_cons]
  cases line.retries <;>
    simp only [Option.elim, List.nil_append, List.cons_append, List.cons_prefix_cons, Char.reduceEq,
      false_and, and_false, not_false_eq_true]

theorem errorAt?_text (line : ErrorLine) :
    errorAt? line.text.toList = some (line.code.toList, line.detail.toList) := by
  have opened : errorOpening.isPrefixOf? line.text.toList =
      some (line.code.toList ++ ([')'] ++ line.fromCall)) := by
    rw [List.isPrefixOf?_eq_some_iff_append_eq, toList_text]
  have closed : [')'].isPrefixOf? ([')'] ++ line.fromCall) = some line.fromCall := by
    rw [List.isPrefixOf?_eq_some_iff_append_eq]
  have colon : [':', ' '].isPrefixOf? ([':', ' '] ++ line.detail.toList) =
      some line.detail.toList := by
    rw [List.isPrefixOf?_eq_some_iff_append_eq]
  unfold errorAt?
  rw [opened, Option.bind_eq_bind, Option.bind_some]
  simp only [takeWhile_run ends_code line.code_run.2, dropWhile_run ends_code line.code_run.2]
  rw [if_neg (by rw [List.isEmpty_iff]; exact line.code_run.toList_ne_nil), closed,
    Option.bind_some, skipCall_fromCall, skipRetries_fromRetries, colon, Option.bind_some]

/-- One text is an error line in one way only. -/
theorem text_injective : Function.Injective text := by
  intro line line' same
  have read := errorAt?_text line
  rw [same, errorAt?_text, Option.some_inj, Prod.mk.injEq, String.toList_inj,
    String.toList_inj] at read
  obtain ⟨code, detail⟩ := read
  have texts := toList_text line
  rw [same, toList_text, code, List.append_cancel_left_eq, List.append_cancel_left_eq,
    List.append_cancel_left_eq] at texts
  have retried : line'.fromRetries = line.fromRetries := by
    rw [← skipCall_fromCall, texts, skipCall_fromCall]
  have call : part callOpening callClosing line.operation =
      part callOpening callClosing line'.operation := by
    unfold fromCall at texts
    rw [retried, List.append_cancel_right_eq] at texts
    exact texts.symm
  have retries : part retriesOpening [')'] line.retries =
      part retriesOpening [')'] line'.retries := by
    unfold fromRetries at retried
    rw [detail, List.append_cancel_right_eq] at retried
    exact retried.symm
  exact ErrorLine.ext code.symm (part_injective (by simp [callOpening_cons]) call)
    (part_injective (by simp [retriesOpening_cons]) retries) detail.symm

/-- What is read at a place is the code and the detail of a line that starts there. -/
theorem errorAt?_eq_some_iff {cs code detail : List Char} :
    errorAt? cs = some (code, detail) ↔
      ∃ line : ErrorLine, cs = line.text.toList ∧ line.code.toList = code ∧
        line.detail.toList = detail := by
  constructor
  · intro read
    unfold errorAt? at read
    obtain ⟨cs', opened, read⟩ := Option.bind_eq_some_iff.mp read
    rw [List.isPrefixOf?_eq_some_iff_append_eq] at opened
    simp only [List.isEmpty_iff] at read
    split at read
    · cases read
    · rename_i some
      obtain ⟨called, closed, read⟩ := Option.bind_eq_some_iff.mp read
      obtain ⟨detail', colon, read⟩ := Option.bind_eq_some_iff.mp read
      cases read
      rw [List.isPrefixOf?_eq_some_iff_append_eq] at closed colon
      obtain ⟨operation, operationRun, call⟩ :=
        exists_part callOpening ends_operation called
      obtain ⟨retries, retriesRun, retried⟩ :=
        exists_part retriesOpening ends_retries (skipCall called)
      refine ⟨⟨_, operation, retries, String.ofList detail, isRunOf_takeWhile some, operationRun,
        retriesRun⟩, ?_, String.toList_ofList, String.toList_ofList⟩
      rw [toList_text, fromCall, fromRetries, String.toList_ofList, String.toList_ofList, colon]
      change cs = errorOpening ++ (cs'.takeWhile (· != ')') ++ ([')'] ++
        (part callOpening callClosing operation ++
          (part retriesOpening [')'] retries ++
            (afterRun? retriesOpening Text.isDecimalDigit [')'] (skipCall called)).getD
              (skipCall called)))))
      rw [← retried]
      change cs = errorOpening ++ (cs'.takeWhile (· != ')') ++ ([')'] ++
        (part callOpening callClosing operation ++
          (afterRun? callOpening Text.isWordCharacter callClosing called).getD called)))
      rw [← call, closed, List.takeWhile_append_dropWhile, opened]
  · rintro ⟨line, rfl, rfl, rfl⟩
    exact errorAt?_text line

end ErrorLine

section Places

variable {cs : List Char} {read : List Char × List Char}

/-- What is found is read at the first place where anything can be read. -/
theorem findError?_eq_some (found : findError? cs = some read) :
    ∃ before after, cs = before ++ after ∧ errorAt? after = some read ∧
      ∀ before' after', cs = before' ++ after' → errorAt? after' ≠ none →
        before.length ≤ before'.length := by
  induction cs with
  | nil => cases found
  | cons c cs ih =>
    unfold findError? at found
    cases here : errorAt? (c :: cs) with
    | some read' =>
      rw [here, Option.some_or] at found
      exact ⟨[], c :: cs, rfl, here.trans found, fun before' after' _ _ => Nat.zero_le _⟩
    | none =>
      rw [here, Option.none_or] at found
      obtain ⟨before, after, shape, reads, first⟩ := ih found
      refine ⟨c :: before, after, congrArg (c :: ·) shape, reads, fun before' after' split some => ?_⟩
      cases before' with
      | nil => exact absurd (List.nil_append after' ▸ split ▸ here) some
      | cons c' before' =>
        exact Nat.succ_le_succ (first before' after' (List.cons.inj split).2 some)

theorem findError?_eq_none (unfound : findError? cs = none) (before : List Char)
    {after : List Char} (split : cs = before ++ after) : errorAt? after = none := by
  induction cs generalizing before with
  | nil =>
    obtain ⟨-, rfl⟩ := List.append_eq_nil_iff.mp split.symm
    rfl
  | cons c cs ih =>
    unfold findError? at unfound
    rw [Option.or_eq_none_iff] at unfound
    cases before with
    | nil => exact (List.nil_append after ▸ split) ▸ unfound.1
    | cons c' before => exact ih unfound.2 before (List.cons.inj split).2

end Places

theorem toList_split {printed before after : String} :
    printed = before ++ after ↔ printed.toList = before.toList ++ after.toList := by
  rw [← String.toList_append, String.toList_inj]

/-- A printed text either holds a line, and the first one is read, or it holds none. -/
theorem readErrorText_cases (printed : String) :
    (∃ before, ∃ line : ErrorLine, line.IsFirstIn printed before ∧
      readErrorText printed = (line.code, Text.strip line.detail)) ∨
    (¬∃ before, ∃ line : ErrorLine, printed = before ++ line.text) ∧
      readErrorText printed = ("Unknown", Text.strip printed) := by
  cases found : findError? printed.toList with
  | some read =>
    obtain ⟨code, detail⟩ := read
    obtain ⟨before, after, split, reads, first⟩ := findError?_eq_some found
    obtain ⟨line, rfl, rfl, rfl⟩ := ErrorLine.errorAt?_eq_some_iff.mp reads
    refine .inl ⟨String.ofList before, line, ⟨?_, fun before' line' shape => ?_⟩, ?_⟩
    · rw [toList_split, String.toList_ofList, split]
    · have further := first before'.toList line'.text.toList (toList_split.mp shape)
        (by rw [ErrorLine.errorAt?_text]; exact Option.some_ne_none _)
      rwa [String.length_toList, ← String.length_ofList] at further
    · unfold readErrorText
      rw [found]
      simp only [String.ofList_toList, Text.strip]
  | none =>
    refine .inr ⟨?_, ?_⟩
    · rintro ⟨before, line, shape⟩
      have unread := findError?_eq_none found before.toList (toList_split.mp shape)
      rw [ErrorLine.errorAt?_text] at unread
      cases unread
    · unfold readErrorText
      rw [found]

/-- The opening cannot start inside of itself, so another one before it is wholly before it. -/
theorem starts_with_opening {between after after' : List Char} (some : between ≠ [])
    (same : errorOpening ++ after = between ++ (errorOpening ++ after')) :
    errorOpening <+: between := by
  obtain ⟨more, rfl, -⟩ | ⟨more, shape, follows⟩ := List.append_eq_append_iff.mp same
  · exact List.prefix_append ..
  · cases more with
    | nil =>
      rw [List.append_nil] at shape
      exact shape ▸ List.prefix_rfl
    | cons c more =>
      have once : 'A' ∉ errorOpening.tail := by decide +kernel
      obtain ⟨d, between, rfl⟩ := List.exists_cons_of_ne_nil some
      have head : c = 'A' := (List.cons.inj follows).1.symm
      rw [shape, head] at once
      exact absurd (List.mem_append_right between List.mem_cons_self) once

/-- A line after a text without the opening is the first line. -/
theorem ErrorLine.isFirstIn {line : ErrorLine} {before : String}
    (free : ¬"An error occurred (".toList <:+: before.toList) :
    line.IsFirstIn (before ++ line.text) before := by
  refine ⟨rfl, fun before' line' shape => ?_⟩
  rw [toList_split, String.toList_append] at shape
  rw [← String.length_toList, ← String.length_toList]
  obtain ⟨between, split, -⟩ | ⟨between, split, rest⟩ := List.append_eq_append_iff.mp shape
  · rw [split, List.length_append]
    exact Nat.le_add_right ..
  · by_cases none : between = []
    · rw [split, none, List.append_nil]
    · rw [toList_text, toList_text] at rest
      rw [split] at free
      exact absurd ((starts_with_opening none rest).isInfix.trans (List.suffix_append ..).isInfix) free

/-- Trimming takes no character away that is not blank. -/
theorem countP_trim (cs : List Char) :
    (Text.trim cs).countP (!Text.isBlank ·) = cs.countP (!Text.isBlank ·) := by
  obtain ⟨before, after, shape, blank, blank'⟩ := Text.exists_eq_append_trim cs
  have none {ends : List Char} (blank : ∀ c ∈ ends, Text.isBlank c = true) :
      ends.countP (!Text.isBlank ·) = 0 :=
    List.countP_eq_zero.mpr fun c member => by rw [blank c member]; decide
  calc (Text.trim cs).countP (!Text.isBlank ·)
      = (before ++ Text.trim cs ++ after).countP (!Text.isBlank ·) := by
        rw [List.countP_append, List.countP_append, none blank, none blank', Nat.zero_add,
          Nat.add_zero]
    _ = cs.countP (!Text.isBlank ·) := by rw [← shape]

/-- The detail of a line is not all that was printed, blank characters apart. -/
theorem ErrorLine.strip_detail_ne {line : ErrorLine} {printed before : String}
    (shape : printed = before ++ line.text) : Text.strip line.detail ≠ Text.strip printed := by
  intro same
  have trimmed : Text.trim line.detail.toList = Text.trim printed.toList :=
    String.ofList_injective same
  have counts := congrArg (List.countP (!Text.isBlank ·)) trimmed
  have opening : 0 < errorOpening.countP (!Text.isBlank ·) := by decide +kernel
  rw [countP_trim, countP_trim, toList_split.mp shape, toList_text, fromCall, fromRetries] at counts
  simp only [List.countP_append] at counts
  omega

theorem ErrorLine.IsFirstIn.unique {line line' : ErrorLine} {printed before before' : String}
    (first : line.IsFirstIn printed before) (first' : line'.IsFirstIn printed before') :
    line = line' := by
  have same := first.stands.symm.trans first'.stands
  have length : before.length = before'.length :=
    Nat.le_antisymm (first.first _ _ first'.stands) (first'.first _ _ first.stands)
  rw [toList_split, String.toList_append] at same
  rw [← String.length_toList, ← String.length_toList] at length
  exact text_injective (String.toList_inj.mp (List.append_inj same length).2)

theorem readErrorText_of_isFirstIn {line : ErrorLine} {printed before : String}
    (first : line.IsFirstIn printed before) :
    readErrorText printed = (line.code, Text.strip line.detail) := by
  obtain ⟨before', line', first', read⟩ | ⟨nowhere, -⟩ := readErrorText_cases printed
  · rw [read, first.unique first']
  · exact absurd ⟨before, line, first.stands⟩ nowhere

theorem readErrorText_unknown_iff (printed : String) :
    readErrorText printed = ("Unknown", Text.strip printed) ↔
      ¬∃ before, ∃ line : ErrorLine, printed = before ++ line.text := by
  obtain ⟨before, line, first, read⟩ | ⟨nowhere, read⟩ := readErrorText_cases printed
  · refine iff_of_false (fun unknown => ?_) (not_not_intro ⟨before, line, first.stands⟩)
    exact ErrorLine.strip_detail_ne first.stands (congrArg Prod.snd (read.symm.trans unknown))
  · exact iff_of_true read nowhere

/-- What is read of a printed text is the code and the detail of the line that stands first in it,
and only one line stands at a place. `Unknown` and the whole text are read where no line stands, and
only there. A line is read back after any text that does not hold its opening. -/
theorem readErrorText_first_line (printed : String) :
    (∀ code detail, readErrorText printed = (code, detail) ↔
      (∃ before, ∃ line : ErrorLine, line.IsFirstIn printed before ∧ code = line.code ∧
        detail = Text.strip line.detail) ∨
      (¬∃ before, ∃ line : ErrorLine, printed = before ++ line.text) ∧ code = "Unknown" ∧
        detail = Text.strip printed) ∧
    (∀ before, ∀ line line' : ErrorLine, printed = before ++ line.text →
      printed = before ++ line'.text → line = line') ∧
    (readErrorText printed = ("Unknown", Text.strip printed) ↔
      ¬∃ before, ∃ line : ErrorLine, printed = before ++ line.text) ∧
    ∀ before, ∀ line : ErrorLine, ¬"An error occurred (".toList <:+: before.toList →
      printed = before ++ line.text →
      readErrorText printed = (line.code, Text.strip line.detail) := by
  refine ⟨fun code detail => ⟨fun read => ?_, ?_⟩, fun before line line' shape shape' => ?_,
    readErrorText_unknown_iff printed, fun before line free shape => ?_⟩
  · obtain ⟨before, line, first, read'⟩ | ⟨nowhere, read'⟩ := readErrorText_cases printed
    · cases read'.symm.trans read
      exact .inl ⟨before, line, first, rfl, rfl⟩
    · cases read'.symm.trans read
      exact .inr ⟨nowhere, rfl, rfl⟩
  · rintro (⟨before, line, first, rfl, rfl⟩ | ⟨nowhere, rfl, rfl⟩)
    · exact readErrorText_of_isFirstIn first
    · exact (readErrorText_unknown_iff printed).mpr nowhere
  · rw [toList_split] at shape shape'
    rw [shape, List.append_cancel_left_eq, String.toList_inj] at shape'
    exact ErrorLine.text_injective shape'
  · subst shape
    exact readErrorText_of_isFirstIn (ErrorLine.isFirstIn free)

example :
    readErrorText "An error\nAn error occurred (A b) when calling the C operation: d:\n e\n" =
      ("A b", "d:\n e") := by
  decide +kernel

end ClusterStack.Aws
