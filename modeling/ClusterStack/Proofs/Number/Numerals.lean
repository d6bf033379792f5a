import ClusterStack.Cluster.Size
import Mathlib.Data.List.Basic
import Mathlib.Data.List.Induction
import Mathlib.Data.Nat.Digits.Defs
/-!
# Numerals

The size of a cluster is read from a text with blank characters and leading zeros, and submitted as a
numeral without either.
-/
namespace ClusterStack

namespace Number

/-- The characters are the canonical numeral of a positive number: ASCII digits alone, and no leading
zero. -/
structure IsNumeral (digits : List Char) (n : Nat) : Prop where
  digit : ∀ c ∈ digits, Text.isAsciiDigit c = true
  leading : digits.head? ≠ some '0'
  value : Text.digitsValue digits = n

theorem isAsciiDigit_of_isDigit {c : Char} (h : c.isDigit = true) : Text.isAsciiDigit c = true := by
  simp only [Char.isDigit, Bool.and_eq_true, decide_eq_true_eq] at h
  simp only [Text.isAsciiDigit, Bool.and_eq_true, decide_eq_true_eq]
  exact h

theorem digitsValue_toDigits (n : Nat) : Text.digitsValue (Nat.toDigits 10 n) = n := by
  have value := @Nat.ofDigitChars_ten_toDigits n
  rw [Nat.ofDigitChars_eq_foldl] at value
  exact value

theorem head_toDigits {n : Nat} (pos : 0 < n) : (Nat.toDigits 10 n).head? ≠ some '0' := by
  induction n using Nat.strongRecOn with
  | _ n ih =>
      by_cases small : n < 10
      · rw [Nat.toDigits_of_lt_base small, List.head?_cons]
        intro zero
        have digit := Nat.toNat_digitChar_of_lt_ten small
        rw [Option.some.inj zero] at digit
        change 48 = 48 + n at digit
        omega
      · -- The first digit is that of the number without its last digit.
        have shorter : 0 < n / 10 := Nat.div_pos (Nat.not_lt.mp small) (by decide)
        rw [Nat.toDigits_of_base_le (by decide) (Nat.not_lt.mp small),
          List.head?_append_of_ne_nil _ Nat.toDigits_ne_nil]
        exact ih (n / 10) (Nat.div_lt_self pos (by decide)) shorter

theorem digitChar_digitValue {c : Char} (digit : Text.isAsciiDigit c = true) :
    Text.digitValue c < 10 ∧ Nat.digitChar (Text.digitValue c) = c := by
  have range : 48 ≤ c.toNat ∧ c.toNat ≤ 57 := by
    simp only [Text.isAsciiDigit, Bool.and_eq_true, decide_eq_true_eq] at digit
    exact digit
  have value : Text.digitValue c = c.toNat - 48 := rfl
  refine ⟨by omega, Char.toNat_inj.mp ?_⟩
  rw [Nat.toNat_digitChar_of_lt_ten (by omega)]
  omega

/-- Reading on from a positive number appends to its numeral. -/
theorem toDigits_foldl {digits : List Char} (all : ∀ c ∈ digits, Text.isAsciiDigit c = true) {n : Nat}
    (pos : 0 < n) : Nat.toDigits 10 (digits.foldl (fun n c => 10 * n + Text.digitValue c) n) =
      Nat.toDigits 10 n ++ digits := by
  induction digits generalizing n with
  | nil => exact (List.append_nil _).symm
  | cons c digits ih =>
      obtain ⟨small, same⟩ := digitChar_digitValue (all c List.mem_cons_self)
      have one : Nat.toDigits 10 n ++ [c] = Nat.toDigits 10 (10 * n + Text.digitValue c) := by
        rw [← Nat.toDigits_append_toDigits (by decide) pos small, Nat.toDigits_of_lt_base small, same]
      rw [List.foldl_cons, ih (fun d member => all d (List.mem_cons_of_mem c member)) (by omega),
        ← one, List.append_assoc]
      rfl

/-- The numeral of what digits denote is the digits without their leading zeros. -/
theorem toDigits_digitsValue {digits : List Char} (all : ∀ c ∈ digits, Text.isAsciiDigit c = true)
    (pos : 0 < Text.digitsValue digits) :
    Nat.toDigits 10 (Text.digitsValue digits) = digits.dropWhile (· == '0') := by
  induction digits with
  | nil => exact absurd pos (Nat.lt_irrefl 0)
  | cons c digits ih =>
      have others : ∀ d ∈ digits, Text.isAsciiDigit d = true :=
        fun d member => all d (List.mem_cons_of_mem c member)
      by_cases zero : c = '0'
      · subst zero
        exact ih others pos
      · obtain ⟨small, same⟩ := digitChar_digitValue (all c List.mem_cons_self)
        have some : 0 < Text.digitValue c := by
          rw [Nat.pos_iff_ne_zero]
          intro none
          rw [none] at same
          exact zero same.symm
        have start : Text.digitsValue (c :: digits) =
            digits.foldl (fun n d => 10 * n + Text.digitValue d) (Text.digitValue c) := by
          unfold Text.digitsValue
          rw [List.foldl_cons, Nat.mul_zero, Nat.zero_add]
        rw [start, toDigits_foldl others some, Nat.toDigits_of_lt_base small, same,
          List.dropWhile_cons, if_neg (by simpa using zero)]
        rfl

theorem digitsValue_eq_ofDigits (digits : List Char) :
    Text.digitsValue digits = Nat.ofDigits 10 (digits.reverse.map Text.digitValue) := by
  induction digits using List.reverseRecOn with
  | nil => rfl
  | append_singleton digits c ih =>
      rw [List.reverse_append, List.reverse_singleton, List.singleton_append, List.map_cons,
        Nat.ofDigits_cons, ← ih]
      unfold Text.digitsValue
      rw [List.foldl_append, List.foldl_cons, List.foldl_nil, Nat.add_comm]

/-- Digits denote zero only if each of them does. -/
theorem digitsValue_eq_zero_iff {digits : List Char}
    (all : ∀ c ∈ digits, Text.isAsciiDigit c = true) :
    Text.digitsValue digits = 0 ↔ ∀ c ∈ digits, c = '0' := by
  induction digits using List.reverseRecOn with
  | nil => exact iff_of_true rfl nofun
  | append_singleton digits c ih =>
      obtain ⟨-, same⟩ := digitChar_digitValue (all c (List.mem_append_right _ (List.mem_singleton_self c)))
      have last : Text.digitValue c = 0 ↔ c = '0' := by
        refine ⟨fun zero => ?_, fun zero => zero ▸ rfl⟩
        rw [← same, zero]
        rfl
      have step : Text.digitsValue (digits ++ [c]) = 10 * Text.digitsValue digits + Text.digitValue c := by
        unfold Text.digitsValue
        rw [List.foldl_append, List.foldl_cons, List.foldl_nil]
      rw [step, List.forall_mem_append, List.forall_mem_singleton, ← last,
        ← ih fun d member => all d (List.mem_append_left _ member)]
      omega

theorem isNumeral_toString {n : Nat} (pos : 0 < n) : IsNumeral (toString n).toList n := by
  rw [Nat.toString_eq_ofList_toDigits, String.toList_ofList]
  refine ⟨fun c member => ?_, head_toDigits pos, digitsValue_toDigits n⟩
  exact isAsciiDigit_of_isDigit (Nat.isDigit_of_mem_toDigits (by decide) (by decide) member)

end Number

namespace Cluster

open Number (digitLimit)

variable {size : String}

/-- How a size in digits alone is read, by how many there are and whether they denote zero. -/
theorem sizeOfText_of_digits (some : Text.trim size.toList ≠ [])
    (digit : ∀ c ∈ Text.trim size.toList, Text.isAsciiDigit c = true) : sizeOfText size =
    if digitLimit < (Text.trim size.toList).length then
      .error (.value (.longNumeral (Text.trim size.toList).length))
    else if Text.digitsValue (Text.trim size.toList) = 0 then
      .error (.parameter Stack.ParameterKey.size.name (.malformedSize size))
    else .ok (Text.digitsValue (Text.trim size.toList)) := by
  have fits : ¬((Text.trim size.toList).isEmpty || !(Text.trim size.toList).all Text.isAsciiDigit) =
      true := by
    rw [List.isEmpty_eq_false_iff.mpr some, List.all_eq_true.mpr digit]
    decide
  unfold sizeOfText Number.natOfDigits
  dsimp only
  rw [if_neg fits]
  by_cases long : digitLimit < (Text.trim size.toList).length
  · rw [if_pos long, if_pos long]
  · rw [if_neg long, if_neg long]
    by_cases zero : Text.digitsValue (Text.trim size.toList) = 0
    · rw [if_pos zero]
      simp only [zero]
      rfl
    · rw [if_neg zero]
      exact if_neg (by simpa using zero)

theorem sizeOfText_of_other (other : ¬(Text.trim size.toList ≠ [] ∧
    ∀ c ∈ Text.trim size.toList, Text.isAsciiDigit c = true)) :
    sizeOfText size = .error (.parameter Stack.ParameterKey.size.name (.malformedSize size)) := by
  unfold sizeOfText
  refine if_pos ?_
  rw [Bool.or_eq_true, Bool.not_eq_true', List.isEmpty_iff]
  refine Classical.byContradiction fun both => other ?_
  rw [not_or, Bool.not_eq_false, List.all_eq_true] at both
  exact both

/-- The size is written in digits alone, and there are more of them than a number may have. -/
structure IsOverlong (size : String) (count : Nat) : Prop where
  digit : ∀ c ∈ Text.trim size.toList, Text.isAsciiDigit c = true
  counted : (Text.trim size.toList).length = count
  tooMany : Number.digitLimit < count

theorem IsOverlong.sizeOfText_eq {count : Nat} (long : IsOverlong size count) :
    sizeOfText size = .error (.value (.longNumeral count)) := by
  obtain ⟨digit, rfl, tooMany⟩ := long
  have some : Text.trim size.toList ≠ [] :=
    List.ne_nil_of_length_pos (Nat.zero_lt_of_lt tooMany)
  rw [sizeOfText_of_digits some digit, if_pos tooMany]

/-- A size is accepted for the positive number that its digits denote, fails if there are too many of
them, and is rejected as a parameter if they denote zero or there are none. -/
theorem sizeOfText_cases (size : String) :
    (Text.trim size.toList ≠ [] ∧ (∀ c ∈ Text.trim size.toList, Text.isAsciiDigit c = true) ∧
      (Text.trim size.toList).length ≤ digitLimit ∧ 0 < Text.digitsValue (Text.trim size.toList) ∧
      sizeOfText size = .ok (Text.digitsValue (Text.trim size.toList))) ∨
    (∃ count, IsOverlong size count ∧ sizeOfText size = .error (.value (.longNumeral count))) ∨
    sizeOfText size = .error (.parameter Stack.ParameterKey.size.name (.malformedSize size)) := by
  by_cases digits : Text.trim size.toList ≠ [] ∧
      ∀ c ∈ Text.trim size.toList, Text.isAsciiDigit c = true
  · obtain ⟨some, digit⟩ := digits
    by_cases long : digitLimit < (Text.trim size.toList).length
    · have overlong : IsOverlong size (Text.trim size.toList).length := ⟨digit, rfl, long⟩
      exact .inr (.inl ⟨_, overlong, overlong.sizeOfText_eq⟩)
    · rw [sizeOfText_of_digits some digit, if_neg long]
      by_cases zero : Text.digitsValue (Text.trim size.toList) = 0
      · exact .inr (.inr (if_pos zero))
      · exact .inl ⟨some, digit, Nat.not_lt.mp long, Nat.pos_of_ne_zero zero, if_neg zero⟩
  · exact .inr (.inr (sizeOfText_of_other digits))

/-- An accepted size is the value of the digits that are left after trimming, and positive. -/
theorem sizeOfText_ok {n : Nat} (h : sizeOfText size = .ok n) :
    (∀ c ∈ Text.trim size.toList, Text.isAsciiDigit c = true) ∧
      Text.digitsValue (Text.trim size.toList) = n ∧ 0 < n := by
  rcases sizeOfText_cases size with ⟨-, digit, -, pos, accepted⟩ | ⟨_, -, unread⟩ | rejected
  · cases h.symm.trans accepted
    exact ⟨digit, rfl, pos⟩
  · cases h.symm.trans unread
  · cases h.symm.trans rejected

/-- A size that is not accepted is rejected as a parameter, unless it has too many digits. -/
theorem sizeOfText_error {failure : Failure} (h : sizeOfText size = .error failure) :
    (∃ key fault, failure = .parameter key fault) ∨
      ∃ count, IsOverlong size count ∧ failure = .value (.longNumeral count) := by
  rcases sizeOfText_cases size with ⟨-, -, -, -, accepted⟩ | ⟨count, long, unread⟩ | rejected
  · cases h.symm.trans accepted
  · cases h.symm.trans unread
    exact .inr ⟨count, long, rfl⟩
  · cases h.symm.trans rejected
    exact .inl ⟨_, _, rfl⟩

end Cluster

end ClusterStack
