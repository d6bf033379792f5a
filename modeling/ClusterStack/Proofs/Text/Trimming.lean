import ClusterStack.Text.Blank
import Mathlib.Data.List.TakeWhile
/-!
# What trimming leaves

A text is what trimming leaves of it, with blank characters before and after. A part of the text that
begins and ends with characters that are not blank is left if there is nothing but blank characters
around it.
-/
namespace ClusterStack.Text

section

variable {α : Type} {kind : α → Bool} {cs : List α}

theorem not_kind_first (first : ∀ c ∈ cs.head?, kind c = false) (inside : 0 < cs.length) :
    ¬kind cs[0] = true := by
  refine Bool.eq_false_iff.mp (first cs[0] ?_)
  rw [List.head?_eq_getElem?, List.getElem?_eq_getElem inside]
  exact Option.mem_some_self _

end

variable {before word after : List Char}

theorem dropBlanks_append (blank : ∀ c ∈ before, isBlank c = true) :
    dropBlanks (before ++ word) = dropBlanks word :=
  List.dropWhile_append_of_pos blank

theorem dropTrailingBlanks_append (blank : ∀ c ∈ after, isBlank c = true) :
    dropTrailingBlanks (word ++ after) = dropTrailingBlanks word := by
  unfold dropTrailingBlanks
  rw [List.reverse_append,
    List.dropWhile_append_of_pos fun c member => blank c (List.mem_reverse.mp member)]

/-- Blank characters around a text make no difference to what trimming leaves of it. -/
theorem trim_between (blank : ∀ c ∈ before, isBlank c = true)
    (blank' : ∀ c ∈ after, isBlank c = true) : trim (before ++ word ++ after) = trim word := by
  unfold trim
  rw [List.append_assoc, dropBlanks_append blank]
  unfold dropBlanks
  rw [List.dropWhile_append]
  split
  · rename_i allBlank
    rw [List.isEmpty_iff.mp allBlank, List.dropWhile_eq_nil_iff.mpr blank']
  · exact dropTrailingBlanks_append blank'

theorem exists_eq_dropTrailingBlanks_append (cs : List Char) :
    ∃ after, cs = dropTrailingBlanks cs ++ after ∧ ∀ c ∈ after, isBlank c = true := by
  refine ⟨(cs.reverse.takeWhile isBlank).reverse, ?_, fun c member =>
    List.mem_takeWhile_imp (List.mem_reverse.mp member)⟩
  unfold dropTrailingBlanks
  rw [← List.reverse_append, List.takeWhile_append_dropWhile, List.reverse_reverse]

theorem isBlank_last_dropTrailingBlanks (cs : List Char) :
    ∀ c ∈ (dropTrailingBlanks cs).getLast?, isBlank c = false := by
  intro c last
  unfold dropTrailingBlanks at last
  rw [List.getLast?_reverse] at last
  have kept := List.head?_dropWhile_not isBlank cs.reverse
  rw [Option.mem_def.mp last] at kept
  exact kept

/-- What trimming takes away is blank. -/
theorem exists_eq_append_trim (cs : List Char) :
    ∃ before after, cs = before ++ trim cs ++ after ∧ (∀ c ∈ before, isBlank c = true) ∧
      ∀ c ∈ after, isBlank c = true := by
  obtain ⟨after, trimmed, blank⟩ := exists_eq_dropTrailingBlanks_append (dropBlanks cs)
  refine ⟨cs.takeWhile isBlank, after, ?_, fun c => List.mem_takeWhile_imp, blank⟩
  rw [List.append_assoc, trim, ← trimmed]
  exact List.takeWhile_append_dropWhile.symm

/-- The text neither begins nor ends with a blank character. -/
structure Bounded (word : List Char) : Prop where
  first : ∀ c ∈ word.head?, isBlank c = false
  last : ∀ c ∈ word.getLast?, isBlank c = false

theorem Bounded.trim_eq {word : List Char} (bounded : Bounded word) : trim word = word := by
  have last : ∀ c ∈ word.reverse.head?, isBlank c = false := by
    rw [List.head?_reverse]
    exact bounded.last
  unfold trim dropTrailingBlanks dropBlanks
  rw [List.dropWhile_eq_self_iff.mpr (not_kind_first bounded.first),
    List.dropWhile_eq_self_iff.mpr (not_kind_first last), List.reverse_reverse]

theorem bounded_of_all {word : List Char} (visible : ∀ c ∈ word, isBlank c = false) : Bounded word :=
  ⟨fun c first => visible c (List.mem_of_mem_head? first),
    fun c last => visible c (List.mem_of_mem_getLast? last)⟩

/-- A part with nothing but blank characters around it is what trimming leaves. -/
theorem Bounded.trim_eq_iff {word cs : List Char} (bounded : Bounded word) :
    trim cs = word ↔ ∃ before after, cs = before ++ word ++ after ∧
      (∀ c ∈ before, isBlank c = true) ∧ ∀ c ∈ after, isBlank c = true := by
  constructor
  · rintro rfl
    exact exists_eq_append_trim cs
  · rintro ⟨before, after, rfl, blank, blank'⟩
    rw [trim_between blank blank', bounded.trim_eq]

end ClusterStack.Text
