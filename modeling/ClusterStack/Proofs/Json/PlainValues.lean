import ClusterStack.Proofs.Json.NumberTexts
import Mathlib.Data.List.Basic
/-!
# Values without marks

A value that does not begin with a mark is a word or a number. A word is recognized by its letters
alone, and a number is looked for in the longest run of characters that may be part of one.
-/
namespace ClusterStack.Json

open Text (Code isAsciiDigit)

/-- The text does not go on with a character that may be part of a number. -/
def NoNumeral (cs : List Code) : Prop := ∀ c, .char c ∈ cs.head? → isNumeral c = false

variable {cs rest : List Code}

theorem takeNumerals_append {numerals : List Char} (all : ∀ c ∈ numerals, isNumeral c = true) :
    takeNumerals (coded numerals ++ rest) =
      (numerals ++ (takeNumerals rest).1, (takeNumerals rest).2) := by
  induction numerals with
  | nil => rfl
  | cons c others ih =>
      obtain ⟨numeral, all⟩ := List.forall_mem_cons.mp all
      rw [coded, List.map_cons, List.cons_append, takeNumerals, if_pos numeral, ih all]
      rfl

theorem takeNumerals_eq_nil (ends : NoNumeral rest) : takeNumerals rest = ([], rest) := by
  cases rest with
  | nil => rfl
  | cons code others =>
      cases code with
      | char c => rw [takeNumerals, ends c rfl, if_neg Bool.false_ne_true]
      | high bits => rfl
      | low bits => rfl

theorem takeNumerals_parts (cs : List Code) :
    cs = coded (takeNumerals cs).1 ++ (takeNumerals cs).2 ∧
      (∀ c ∈ (takeNumerals cs).1, isNumeral c = true) ∧ NoNumeral (takeNumerals cs).2 := by
  fun_induction takeNumerals cs with
  | case1 c rest numeral ns others taken ih =>
      rw [taken] at ih
      obtain ⟨shape, all, ends⟩ := ih
      exact ⟨congrArg (Code.char c :: ·) shape, List.forall_mem_cons.mpr ⟨numeral, all⟩, ends⟩
  | case2 c rest other =>
      refine ⟨rfl, nofun, fun d first => ?_⟩
      cases first
      exact Bool.not_eq_true _ ▸ other
  | case3 rest other =>
      refine ⟨rfl, nofun, fun d first => ?_⟩
      obtain ⟨others, rfl⟩ := List.head?_eq_some_iff.mp first
      exact absurd rfl (other d others)

/-- Of two runs in front of a text, the one that cannot go on is the longer one. -/
theorem prefix_of_coded {more numerals : List Char} (all : ∀ c ∈ more, isNumeral c = true)
    (all' : ∀ c ∈ numerals, isNumeral c = true) (ends : NoNumeral rest)
    (front : coded more <+: coded numerals ++ rest) : more <+: numerals := by
  obtain ⟨others, shape⟩ := front
  have taken := congrArg (fun cs => (takeNumerals cs).1) shape
  rw [takeNumerals_append all, takeNumerals_append all', takeNumerals_eq_nil ends, List.append_nil]
    at taken
  exact ⟨_, taken⟩

theorem isNumeral_of_digit {c : Char} (digit : isAsciiDigit c = true) : isNumeral c = true := by
  unfold isNumeral
  rw [digit]
  rfl

theorem Digits.isNumeral {ds : List Char} (digits : Digits ds) : ∀ c ∈ ds, isNumeral c = true :=
  fun c member => isNumeral_of_digit (digits.each c member)

theorem Whole.isNumeral {whole : List Char} (positive : Whole whole) :
    ∀ c ∈ whole, isNumeral c = true := by
  cases positive with
  | zero => exact List.forall_mem_singleton.mpr rfl
  | positive _ digits => exact digits.isNumeral

theorem Fraction.isNumeral {text digits : List Char} (fraction : Fraction text digits) :
    ∀ c ∈ text, isNumeral c = true := by
  cases fraction with
  | none => exact List.forall_mem_nil _
  | digits ds => exact List.forall_mem_cons.mpr ⟨by decide, ds.isNumeral⟩

theorem exponentSigns_isNumeral {sign : List Char} {negative : Bool}
    (known : (sign, negative) ∈ exponentSigns) : ∀ c ∈ sign, isNumeral c = true := by
  simp only [exponentSigns, List.mem_cons, Prod.mk.injEq, List.not_mem_nil, or_false] at known
  rcases known with ⟨rfl, -⟩ | ⟨rfl, -⟩ | ⟨rfl, -⟩
  · exact List.forall_mem_nil _
  · exact List.forall_mem_singleton.mpr rfl
  · exact List.forall_mem_singleton.mpr rfl

theorem exponentMark_isNumeral {mark : Char} (marked : mark = 'e' ∨ mark = 'E') :
    isNumeral mark = true := by
  rcases marked with rfl | rfl <;> decide

theorem Exponent.isNumeral {text : List Char} {power : Option Int} (exponent : Exponent text power) :
    ∀ c ∈ text, isNumeral c = true := by
  cases exponent with
  | none => exact List.forall_mem_nil _
  | digits marked known digits =>
      refine List.forall_mem_cons.mpr ⟨exponentMark_isNumeral marked, ?_⟩
      exact List.forall_mem_append.mpr ⟨exponentSigns_isNumeral known, digits.isNumeral⟩

theorem minus_isNumeral (negative : Bool) : ∀ c ∈ minus negative, isNumeral c = true := by
  cases negative with
  | true => exact List.forall_mem_singleton.mpr rfl
  | false => exact List.forall_mem_nil _

theorem Numeral.isNumeral {text : List Char} {v : Json} (numeral : Numeral text v) :
    ∀ c ∈ text, isNumeral c = true := by
  cases numeral with
  | integer negative positive =>
      exact List.forall_mem_append.mpr ⟨minus_isNumeral negative, positive.isNumeral⟩
  | float negative positive fraction exponent =>
      simp only [List.forall_mem_append]
      exact ⟨⟨⟨minus_isNumeral negative, positive.isNumeral⟩, fraction.isNumeral⟩, exponent.isNumeral⟩

theorem Continuation.isNumeral {more : List Char} (continuation : Continuation more) :
    ∀ c ∈ more, isNumeral c = true := by
  cases continuation with
  | digit digit => exact List.forall_mem_singleton.mpr (isNumeral_of_digit digit)
  | fraction digit =>
      exact List.forall_mem_cons.mpr
        ⟨by decide, List.forall_mem_singleton.mpr (isNumeral_of_digit digit)⟩
  | exponent marked known digit =>
      refine List.forall_mem_cons.mpr ⟨exponentMark_isNumeral marked, List.forall_mem_append.mpr ?_⟩
      exact ⟨exponentSigns_isNumeral known, List.forall_mem_singleton.mpr (isNumeral_of_digit digit)⟩

theorem word_eq_some {v : Json} (read : word? cs = some (v, rest)) :
    ∃ word, (word, v) ∈ words ∧ cs = coded word.toList ++ rest := by
  obtain ⟨⟨word, w⟩, listed, front⟩ := List.exists_of_findSome?_eq_some read
  obtain ⟨left, found, same⟩ := Option.map_eq_some_iff.mp front
  cases same
  exact ⟨word, listed, (List.isPrefixOf?_eq_some_iff_append_eq.mp found).symm⟩

theorem word_append {word : String} {v : Json} (listed : (word, v) ∈ words) :
    word? (coded word.toList ++ rest) = some (v, rest) := by
  simp only [words, List.mem_cons, Prod.mk.injEq, List.not_mem_nil, or_false] at listed
  rcases listed with ⟨rfl, rfl⟩ | ⟨rfl, rfl⟩ | ⟨rfl, rfl⟩ | ⟨rfl, rfl⟩ | ⟨rfl, rfl⟩ | ⟨rfl, rfl⟩ <;> rfl

/-- Behind its sign, a word begins with a letter that no number has. -/
theorem words_front : ∀ entry ∈ words, ∃ negative c more,
    entry.1.toList = minus negative ++ c :: more ∧ isNumeral c = false := by
  simp only [words, List.forall_mem_cons]
  refine ⟨⟨false, 'n', _, rfl, ?_⟩, ⟨false, 't', _, rfl, ?_⟩, ⟨false, 'f', _, rfl, ?_⟩,
    ⟨false, 'N', _, rfl, ?_⟩, ⟨false, 'I', _, rfl, ?_⟩, ⟨true, 'I', _, rfl, ?_⟩, nofun⟩ <;> decide

/-- A text that begins as a number does is no word. -/
theorem word_minus {negative : Bool} {whole : List Char} (positive : Whole whole) :
    word? (coded (minus negative ++ whole) ++ rest) = none := by
  refine Option.eq_none_iff_forall_ne_some.mpr fun (v, left) read => ?_
  obtain ⟨word, listed, shape⟩ := word_eq_some read
  obtain ⟨negative', c, more, letters, letter⟩ := words_front _ listed
  obtain ⟨d, others, rfl, digit⟩ := positive.front
  have other : d ≠ c := by
    rintro rfl
    rw [isNumeral_of_digit digit] at letter
    cases letter
  have noDigit : ¬isAsciiDigit '-' = true := by decide
  have noLetter : ¬isNumeral '-' = false := by decide
  rw [letters] at shape
  -- A word may have the sign of a number, but then a letter stands where the number has a digit.
  cases negative <;> cases negative' <;> simp [minus] at shape
  · exact other shape.1
  · exact noDigit (shape.1 ▸ digit)
  · exact noLetter (shape.1 ▸ letter)
  · exact other shape.1

theorem plainValue_word {word : String} {v : Json} (listed : (word, v) ∈ words) :
    plainValue (coded word.toList ++ rest) = .ok (v, rest) := by
  unfold plainValue
  rw [word_append listed]

theorem Numeral.begins {text : List Char} {v : Json} (numeral : Numeral text v) :
    ∃ negative whole more, text = minus negative ++ whole ++ more ∧ Whole whole := by
  cases numeral with
  | @integer whole negative positive => exact ⟨negative, whole, [], (List.append_nil _).symm, positive⟩
  | @float whole _ _ _ _ negative positive => exact ⟨negative, whole, _, List.append_assoc .., positive⟩

theorem plainValue_numeral {text : List Char} {v : Json} (numeral : Numeral text v)
    (ends : NoNumeral rest) : plainValue (coded text ++ rest) = .ok (v, rest) := by
  have noWord : word? (coded text ++ rest) = none := by
    obtain ⟨negative, whole, more, rfl, positive⟩ := numeral.begins
    rw [coded, List.map_append, List.append_assoc]
    exact word_minus positive
  unfold plainValue
  rw [noWord]
  dsimp only
  rw [takeNumerals_append numeral.isNumeral, takeNumerals_eq_nil ends, List.append_nil]
  dsimp only
  rw [numeral.number_eq]
  rfl

theorem plainValue_long {negative : Bool} {whole : List Char} (positive : Whole whole)
    (long : Number.digitLimit < whole.length)
    (ends : ∀ more, Continuation more → ¬coded more <+: rest) :
    plainValue (coded (minus negative ++ whole) ++ rest) = .error (.longInteger whole.length) := by
  have all := List.forall_mem_append.mpr ⟨minus_isNumeral negative, positive.isNumeral⟩
  obtain ⟨shape, -, -⟩ := takeNumerals_parts rest
  have ends' : ∀ more, Continuation more → ¬more <+: (takeNumerals rest).1 := by
    intro more continuation front
    refine ends more continuation ?_
    rw [shape]
    exact (front.map Code.char).trans (List.prefix_append ..)
  unfold plainValue
  rw [word_minus positive]
  dsimp only
  rw [takeNumerals_append all]
  dsimp only
  rw [List.append_assoc, number_long positive long ends']
  rfl

/-- What comes of reading a value without marks. -/
inductive PlainReading (cs : List Code) : Reading Json → Prop
  | word {word : String} {v : Json} {rest : List Code} : (word, v) ∈ words →
      cs = coded word.toList ++ rest → PlainReading cs (.ok (v, rest))
  | numeral {text : List Char} {v : Json} {rest : List Code} : Numeral text v →
      cs = coded text ++ rest → PlainReading cs (.ok (v, rest))
  | long {negative : Bool} {whole : List Char} {rest : List Code} : Whole whole →
      Number.digitLimit < whole.length → (∀ more, Continuation more → ¬coded more <+: rest) →
      cs = coded (minus negative ++ whole) ++ rest →
      PlainReading cs (.error (.longInteger whole.length))
  | unexpected (what : Expectation) (left : Nat) : PlainReading cs (.error (.unexpected what left))

theorem plainReading (cs : List Code) : PlainReading cs (plainValue cs) := by
  unfold plainValue
  cases read : word? cs with
  | some r =>
      obtain ⟨v, rest⟩ := r
      obtain ⟨word, listed, shape⟩ := word_eq_some read
      exact .word listed shape
  | none =>
      obtain ⟨shape, all, ends⟩ := takeNumerals_parts cs
      dsimp only
      cases number : number? (takeNumerals cs).1 with
      | none => exact .unexpected _ _
      | some r =>
          rcases number_cases number with
            ⟨text, v, left, split, numeral, rfl⟩ | ⟨negative, whole, left, split, positive, long, more, rfl⟩
          · refine .numeral numeral ?_
            rw [split, coded, List.map_append, List.append_assoc] at shape
            exact shape
          · refine @PlainReading.long cs negative whole (coded left ++ (takeNumerals cs).2) positive long
              ?_ ?_
            · intro next continuation front
              refine more next continuation (prefix_of_coded continuation.isNumeral ?_ ends front)
              rw [split] at all
              exact fun c member => all c (List.mem_append_right _ (List.mem_append_right _ member))
            · rw [split, coded, List.map_append, List.map_append] at shape
              rw [coded, List.map_append]
              simpa only [List.append_assoc] using shape

end ClusterStack.Json
