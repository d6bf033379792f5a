import ClusterStack.CommandLine.Confirmation
import ClusterStack.Proofs.Text.Trimming
/-!
# What counts as a yes

The answer to a question is the first line of what is typed. It is a yes if it holds the word or its
first letter, with any of the letters as a capital, and apart from that only blank characters before and
after it. No other character has one of these letters as its lower case.
-/
namespace ClusterStack.CommandLine

/-- The words that are a yes. -/
def yeses : List String := ["y", "Y", "yes", "yeS", "yEs", "yES", "Yes", "YeS", "YEs", "YES"]

/-- The first line that is typed is a yes, blank characters around it apart. -/
def Agrees (input : String) : Prop :=
  ∃ before, ∃ yes ∈ yeses, ∃ after,
    input.toList.takeWhile (· != '\n') = before ++ yes.toList ++ after ∧
    (∀ c ∈ before, Text.isBlank c = true) ∧ ∀ c ∈ after, Text.isBlank c = true

theorem toNat_toLower (c : Char) :
    c.toLower.toNat = if 65 ≤ c.toNat ∧ c.toNat ≤ 90 then c.toNat + 32 else c.toNat := by
  have range : c.val ≥ 'A'.val ∧ c.val ≤ 'Z'.val ↔ 65 ≤ c.toNat ∧ c.toNat ≤ 90 := Iff.rfl
  unfold Char.toLower
  by_cases capital : 65 ≤ c.toNat ∧ c.toNat ≤ 90
  · rw [dif_pos (range.mpr capital), if_pos capital]
    change (c.val + 32).toNat = c.val.toNat + 32
    have small : c.val.toNat ≤ 90 := capital.2
    rw [UInt32.toNat_add, show (32 : UInt32).toNat = 32 from rfl]
    omega
  · rw [dif_neg (mt range.mp capital), if_neg capital]

/-- Two characters have a small letter as their lower case: itself and its capital. -/
theorem toLower_eq_iff {c small capital : Char} (pair : small.toNat = capital.toNat + 32)
    (letter : 65 ≤ capital.toNat ∧ capital.toNat ≤ 90) :
    c.toLower = small ↔ c = small ∨ c = capital := by
  rw [← Char.toNat_inj, ← Char.toNat_inj, ← Char.toNat_inj, toNat_toLower]
  split <;> omega

theorem toLower_mem_iff (word : String) : word.toLower ∈ ["y", "yes"] ↔ word ∈ yeses := by
  have y (c : Char) : c.toLower = 'y' ↔ c = 'y' ∨ c = 'Y' := toLower_eq_iff rfl (by decide)
  have e (c : Char) : c.toLower = 'e' ↔ c = 'e' ∨ c = 'E' := toLower_eq_iff rfl (by decide)
  have s (c : Char) : c.toLower = 's' ↔ c = 's' ∨ c = 'S' := toLower_eq_iff rfl (by decide)
  have lowered : word.toLower.toList = word.toList.map Char.toLower := String.toList_map
  simp only [yeses, List.mem_cons, List.not_mem_nil, or_false, ← String.toList_inj, lowered]
  generalize word.toList = cs
  -- The words are of one letter and of three, so texts of any other length are neither.
  obtain _ | ⟨a, _ | ⟨b, _ | ⟨c, _ | ⟨d, rest⟩⟩⟩⟩ := cs
  · simp
  · simp [y]
  · simp
  · simp only [List.map_cons, List.map_nil, String.reduceToList, List.cons.injEq, y, e, s]
    grind
  · simp

theorem isYes_iff (answer : String) :
    isYes answer = true ↔ String.ofList (Text.trim answer.toList) ∈ yeses := by
  unfold isYes Text.strip
  rw [List.contains_iff_mem, toLower_mem_iff]

theorem trim_of_mem_yeses : ∀ yes ∈ yeses, Text.trim yes.toList = yes.toList := by
  decide +kernel

theorem any_isYes_iff (input : String) :
    (firstLine? input).any isYes = true ↔
      isYes (String.ofList (input.toList.takeWhile (· != '\n'))) = true := by
  unfold firstLine?
  by_cases empty : input = ""
  · subst empty
    decide +kernel
  · rw [if_neg (by simpa using empty)]
    rfl

theorem agrees_iff (input : String) : (firstLine? input).any isYes = true ↔ Agrees input := by
  rw [any_isYes_iff, isYes_iff, String.toList_ofList]
  constructor
  · intro yes
    obtain ⟨before, after, shape, blank, blank'⟩ :=
      Text.exists_eq_append_trim (input.toList.takeWhile (· != '\n'))
    exact ⟨before, _, yes, after, by rw [String.toList_ofList]; exact shape, blank, blank'⟩
  · rintro ⟨before, yes, member, after, shape, blank, blank'⟩
    rw [shape, Text.trim_between blank blank', trim_of_mem_yeses yes member, String.ofList_toList]
    exact member

example : isYes "\t YeS\r" = true ∧ isYes "yeah" = false ∧ isYes "\u00FD" = false := by
  decide +kernel

end ClusterStack.CommandLine
