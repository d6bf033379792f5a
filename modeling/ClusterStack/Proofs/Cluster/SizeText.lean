import ClusterStack.Proofs.Number.Numerals
import ClusterStack.Proofs.Text.Trimming
/-!
# What counts as a size

A size is a run of ASCII digits for a positive number, with blank characters around it. A run that is
too long to be read as a number is neither accepted nor rejected as a size. The numeral of an accepted
size is its digits without leading zeros, and is accepted for the same number.
-/
namespace ClusterStack.Cluster

open Number (digitLimit)

/-- The size is written in these digits, with nothing but blank characters around them. -/
structure WrittenIn (size : String) (digits : List Char) : Prop where
  around : ∃ before after, size.toList = before ++ digits ++ after ∧
    (∀ c ∈ before, Text.isBlank c = true) ∧ ∀ c ∈ after, Text.isBlank c = true
  some : digits ≠ []
  digit : ∀ c ∈ digits, Text.isAsciiDigit c = true

variable {size : String} {digits : List Char}

theorem isBlank_of_isAsciiDigit {c : Char} (digit : Text.isAsciiDigit c = true) :
    Text.isBlank c = false := by
  have range : 48 ≤ c.toNat ∧ c.toNat ≤ 57 := by
    simp only [Text.isAsciiDigit, Bool.and_eq_true, decide_eq_true_eq] at digit
    exact digit
  rw [← Bool.not_eq_true]
  simp only [Text.isBlank, Bool.or_eq_true, Bool.and_eq_true, decide_eq_true_eq, beq_iff_eq]
  omega

theorem writtenIn_iff : WrittenIn size digits ↔
    Text.trim size.toList = digits ∧ digits ≠ [] ∧ ∀ c ∈ digits, Text.isAsciiDigit c = true := by
  have bounded (all : ∀ c ∈ digits, Text.isAsciiDigit c = true) : Text.Bounded digits :=
    Text.bounded_of_all fun c member => isBlank_of_isAsciiDigit (all c member)
  constructor
  · rintro ⟨around, some, digit⟩
    exact ⟨(bounded digit).trim_eq_iff.mpr around, some, digit⟩
  · rintro ⟨trimmed, some, digit⟩
    exact ⟨(bounded digit).trim_eq_iff.mp trimmed, some, digit⟩

theorem WrittenIn.unique {digits' : List Char} (written : WrittenIn size digits)
    (written' : WrittenIn size digits') : digits = digits' :=
  (writtenIn_iff.mp written).1.symm.trans (writtenIn_iff.mp written').1

/-- How a size in digits is read, by how many there are. -/
theorem WrittenIn.sizeOfText_eq (written : WrittenIn size digits) : sizeOfText size =
    if digitLimit < digits.length then .error (.value (.longNumeral digits.length))
    else if Text.digitsValue digits = 0 then
      .error (.parameter Stack.ParameterKey.size.name (.malformedSize size))
    else .ok (Text.digitsValue digits) := by
  obtain ⟨rfl, some, digit⟩ := writtenIn_iff.mp written
  exact sizeOfText_of_digits some digit

theorem sizeOfText_of_not_writtenIn (unwritten : ¬∃ digits, WrittenIn size digits) : sizeOfText size =
    .error (.parameter Stack.ParameterKey.size.name (.malformedSize size)) :=
  sizeOfText_of_other fun both => unwritten ⟨_, writtenIn_iff.mpr ⟨rfl, both⟩⟩

theorem sizeOfText_eq_ok_iff {n : Nat} : sizeOfText size = .ok n ↔
    ∃ digits, WrittenIn size digits ∧ digits.length ≤ digitLimit ∧ Text.digitsValue digits = n ∧
      0 < n := by
  constructor
  · intro read
    rcases sizeOfText_cases size with ⟨some, digit, short, pos, accepted⟩ | ⟨_, -, unread⟩ | rejected
    · cases read.symm.trans accepted
      exact ⟨_, writtenIn_iff.mpr ⟨rfl, some, digit⟩, short, rfl, pos⟩
    · cases read.symm.trans unread
    · cases read.symm.trans rejected
  · rintro ⟨digits, written, short, rfl, positive⟩
    rw [written.sizeOfText_eq, if_neg (Nat.not_lt.mpr short), if_neg (Nat.ne_of_gt positive)]

theorem sizeOfText_malformed_iff :
    sizeOfText size = .error (.parameter Stack.ParameterKey.size.name (.malformedSize size)) ↔
      ∀ digits, WrittenIn size digits → digits.length ≤ digitLimit ∧ ∀ c ∈ digits, c = '0' := by
  constructor
  · intro rejected digits written
    rw [← Number.digitsValue_eq_zero_iff written.digit]
    rw [written.sizeOfText_eq] at rejected
    split at rejected
    · cases rejected
    · rename_i short
      split at rejected
      · rename_i zero
        exact ⟨Nat.not_lt.mp short, zero⟩
      · cases rejected
  · intro void
    by_cases written : ∃ digits, WrittenIn size digits
    · obtain ⟨digits, written⟩ := written
      obtain ⟨short, zeros⟩ := void digits written
      rw [written.sizeOfText_eq, if_neg (Nat.not_lt.mpr short),
        if_pos ((Number.digitsValue_eq_zero_iff written.digit).mpr zeros)]
    · exact sizeOfText_of_not_writtenIn written

theorem sizeOfText_long_iff {count : Nat} : sizeOfText size = .error (.value (.longNumeral count)) ↔
    ∃ digits, WrittenIn size digits ∧ digitLimit < digits.length ∧ digits.length = count := by
  constructor
  · intro unread
    rcases sizeOfText_cases size with ⟨-, -, -, -, accepted⟩ | ⟨_, long, told⟩ | rejected
    · cases unread.symm.trans accepted
    · cases unread.symm.trans told
      obtain ⟨digit, counted, tooMany⟩ := long
      have some := List.ne_nil_of_length_pos (counted ▸ Nat.zero_lt_of_lt tooMany)
      exact ⟨_, writtenIn_iff.mpr ⟨rfl, some, digit⟩, counted ▸ tooMany, counted⟩
    · cases unread.symm.trans rejected
  · rintro ⟨digits, written, long, rfl⟩
    rw [written.sizeOfText_eq, if_pos long]

theorem sizeOfText_error_cases {failure : Failure} (failed : sizeOfText size = .error failure) :
    failure = .parameter Stack.ParameterKey.size.name (.malformedSize size) ∨
      ∃ count, failure = .value (.longNumeral count) := by
  rcases sizeOfText_cases size with ⟨-, -, -, -, accepted⟩ | ⟨count, -, unread⟩ | rejected
  · cases failed.symm.trans accepted
  · cases failed.symm.trans unread
    exact .inr ⟨count, rfl⟩
  · cases failed.symm.trans rejected
    exact .inl rfl

theorem writtenIn_toString (n : Nat) : WrittenIn (toString n) (toString n).toList := by
  have numeral : (toString n).toList = Nat.toDigits 10 n := by
    rw [Nat.toString_eq_ofList_toDigits, String.toList_ofList]
  rw [numeral]
  refine ⟨⟨[], [], by rw [numeral, List.nil_append, List.append_nil], nofun, nofun⟩,
    Nat.toDigits_ne_nil, fun c member => ?_⟩
  exact Number.isAsciiDigit_of_isDigit (Nat.isDigit_of_mem_toDigits (by decide) (by decide) member)

/-- The numeral of a size is what its digits are without leading zeros. -/
theorem WrittenIn.toList_toString (written : WrittenIn size digits)
    (positive : 0 < Text.digitsValue digits) :
    (toString (Text.digitsValue digits)).toList = digits.dropWhile (· == '0') := by
  rw [Nat.toString_eq_ofList_toDigits, String.toList_ofList,
    Number.toDigits_digitsValue written.digit positive]

/-- A text is accepted as a size for the positive number that its digits denote, rejected as one if it
has no such digits, and neither if it has more digits than a numeral may have: then it is no number
that can be read. The numeral of an accepted size is the digits without their leading zeros, so that it
is the same for all texts of one size, and stands for that size again. -/
theorem size_of_digits (size : String) :
    (∀ n, sizeOfText size = .ok n ↔ ∃ digits, WrittenIn size digits ∧ digits.length ≤ digitLimit ∧
      Nat.ofDigits 10 (digits.reverse.map Text.digitValue) = n ∧ 0 < n) ∧
    (sizeOfText size = .error (.parameter "AsgMaxSize" (.malformedSize size)) ↔
      ∀ digits, WrittenIn size digits → digits.length ≤ digitLimit ∧ ∀ c ∈ digits, c = '0') ∧
    (∀ count, sizeOfText size = .error (.value (.longNumeral count)) ↔
      ∃ digits, WrittenIn size digits ∧ digitLimit < digits.length ∧ digits.length = count) ∧
    (∀ failure, sizeOfText size = .error failure →
      failure = .parameter "AsgMaxSize" (.malformedSize size) ∨
      ∃ count, failure = .value (.longNumeral count)) ∧
    ∀ n, sizeOfText size = .ok n → sizeOfText (toString n) = .ok n ∧
      ∀ digits, WrittenIn size digits → (toString n).toList = digits.dropWhile (· == '0') := by
  refine ⟨fun n => ?_, sizeOfText_malformed_iff, fun count => sizeOfText_long_iff,
    fun failure => sizeOfText_error_cases, fun n read => ?_⟩
  · simp only [← Number.digitsValue_eq_ofDigits]
    exact sizeOfText_eq_ok_iff
  · obtain ⟨digits, written, short, rfl, positive⟩ := sizeOfText_eq_ok_iff.mp read
    have numeral := written.toList_toString positive
    refine ⟨sizeOfText_eq_ok_iff.mpr ⟨_, writtenIn_toString _, ?_, ?_, positive⟩, ?_⟩
    · rw [numeral]
      exact (List.dropWhile_sublist _).length_le.trans short
    · rw [Nat.toString_eq_ofList_toDigits, String.toList_ofList, Number.digitsValue_toDigits]
    · intro digits' written'
      rw [← written.unique written']
      exact numeral

/-- A seven with more zeros in front of it than a numeral may have digits is a positive number in
digits, and is neither accepted nor rejected as a size. -/
theorem sevenBehindZeros_unread :
    let digits := List.replicate digitLimit '0' ++ ['7']
    let size := String.ofList digits
    WrittenIn size digits ∧ Nat.ofDigits 10 (digits.reverse.map Text.digitValue) = 7 ∧
      ¬(∃ n, sizeOfText size = .ok n) ∧ ¬∃ key fault, sizeOfText size = .error (.parameter key fault) := by
  intro digits size
  have all : ∀ c ∈ digits, Text.isAsciiDigit c = true := by
    rw [List.forall_mem_append, List.forall_mem_singleton]
    exact ⟨fun c member => List.eq_of_mem_replicate member ▸ rfl, rfl⟩
  have written : WrittenIn size digits := by
    refine ⟨⟨[], [], ?_, nofun, nofun⟩, List.append_ne_nil_of_right_ne_nil _ (List.cons_ne_nil _ _), all⟩
    rw [String.toList_ofList, List.nil_append, List.append_nil]
  have long : digitLimit < digits.length := by
    rw [List.length_append, List.length_replicate]
    exact Nat.lt_succ_self _
  have zeros : Text.digitsValue (List.replicate digitLimit '0') = 0 :=
    (Number.digitsValue_eq_zero_iff fun c member => List.eq_of_mem_replicate member ▸ rfl).mpr
      fun c => List.eq_of_mem_replicate
  have unread := sizeOfText_long_iff.mpr ⟨digits, written, long, rfl⟩
  refine ⟨written, ?_, ?_, ?_⟩
  · rw [← Number.digitsValue_eq_ofDigits]
    unfold Text.digitsValue at zeros ⊢
    rw [List.foldl_append, zeros]
    rfl
  · rintro ⟨n, accepted⟩
    cases unread.symm.trans accepted
  · rintro ⟨key, fault, rejected⟩
    cases unread.symm.trans rejected

end ClusterStack.Cluster
