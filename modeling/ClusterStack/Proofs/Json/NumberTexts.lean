import ClusterStack.Proofs.Json.Grammar
import ClusterStack.Proofs.Text.Trimming
import Mathlib.Data.List.TakeWhile
/-!
# Numbers in digits

A number is read as far as it goes. Nothing is read of it but a numeral of the grammar, and a numeral by
itself is read as a whole. A whole number that is too long stops the reader unless something makes more
of it.
-/
namespace ClusterStack.Json

open Number (takeDigits exponentDigits? exponentPart?)
open Text (isAsciiDigit)

def NoDigit (cs : List Char) : Prop := ∀ c ∈ cs.head?, isAsciiDigit c = false

def NoFraction (cs : List Char) : Prop := ∀ d, isAsciiDigit d = true → ¬['.', d] <+: cs

def NoExponent (cs : List Char) : Prop :=
  ∀ mark sign negative d, mark = 'e' ∨ mark = 'E' → (sign, negative) ∈ exponentSigns →
    isAsciiDigit d = true → ¬mark :: (sign ++ [d]) <+: cs

variable {cs rest : List Char}

theorem noDigit_cons {c : Char} : NoDigit (c :: cs) ↔ isAsciiDigit c = false := by
  simp [NoDigit]

theorem noDigit_nil : NoDigit [] := nofun

theorem noDigit_dropWhile (cs : List Char) : NoDigit (cs.dropWhile isAsciiDigit) := by
  intro c first
  have ended := List.head?_dropWhile_not isAsciiDigit cs
  rw [first] at ended
  exact ended

theorem takeDigits_eq_iff {ds : List Char} : takeDigits cs = (ds, rest) ↔
    cs = ds ++ rest ∧ (∀ d ∈ ds, isAsciiDigit d = true) ∧ NoDigit rest := by
  constructor
  · rintro ⟨rfl⟩
    exact ⟨List.takeWhile_append_dropWhile.symm, fun d => List.mem_takeWhile_imp, noDigit_dropWhile cs⟩
  · rintro ⟨rfl, each, ends⟩
    unfold takeDigits
    rw [List.takeWhile_append_of_pos each, List.dropWhile_append_of_pos each,
      List.takeWhile_eq_nil_iff.mpr (Text.not_kind_first ends),
      List.dropWhile_eq_self_iff.mpr (Text.not_kind_first ends), List.append_nil]

theorem takeDigits_parts (cs : List Char) : cs = (takeDigits cs).1 ++ (takeDigits cs).2 ∧
    (∀ d ∈ (takeDigits cs).1, isAsciiDigit d = true) ∧ NoDigit (takeDigits cs).2 :=
  takeDigits_eq_iff.mp rfl

theorem takeDigits_eq_nil (ends : NoDigit cs) : takeDigits cs = ([], cs) :=
  takeDigits_eq_iff.mpr ⟨rfl, nofun, ends⟩

theorem wholePart_of_not_zero (notZero : ∀ others, cs ≠ '0' :: others) :
    wholePart? cs = if (takeDigits cs).1 = [] then none else some (takeDigits cs) := by
  rw [wholePart?]
  · generalize takeDigits cs = taken
    obtain ⟨_ | ⟨d, ds⟩, rest⟩ := taken <;> rfl
  · exact fun others same => notZero others same

theorem wholePart_eq_some_iff {whole : List Char} : wholePart? cs = some (whole, rest) ↔
    cs = whole ++ rest ∧ Whole whole ∧ (whole = ['0'] ∨ NoDigit rest) := by
  constructor
  · intro read
    by_cases zero : ∃ others, cs = '0' :: others
    · obtain ⟨others, rfl⟩ := zero
      cases read
      exact ⟨rfl, .zero, .inl rfl⟩
    · have notZero : ∀ others, cs ≠ '0' :: others := fun others same => zero ⟨others, same⟩
      rw [wholePart_of_not_zero notZero] at read
      split at read
      · cases read
      · rename_i present
        have taken : takeDigits cs = (whole, rest) := Option.some.inj read
        rw [taken] at present
        obtain ⟨rfl, each, ends⟩ := takeDigits_eq_iff.mp taken
        refine ⟨rfl, ?_, .inr ends⟩
        cases whole with
        | nil => exact absurd rfl present
        | cons first others =>
            refine .positive ?_ ⟨present, each⟩
            rintro rfl
            exact notZero _ rfl
  · rintro ⟨rfl, whole, ends⟩
    cases whole with
    | zero => rfl
    | @positive first others positive digits =>
        have ends : NoDigit rest := ends.resolve_left fun same => positive (List.cons.inj same).1
        have taken := takeDigits_eq_iff.mpr ⟨rfl, digits.each, ends⟩
        rw [wholePart_of_not_zero, taken]
        · rfl
        · exact fun others same => positive (List.cons.inj same).1

theorem takeDigits_eq_nil_iff : (takeDigits cs).1 = [] ↔ NoDigit cs := by
  constructor
  · intro absent
    obtain ⟨shape, -, ends⟩ := takeDigits_parts cs
    rw [absent, List.nil_append] at shape
    exact shape ▸ ends
  · intro ends
    rw [takeDigits_eq_nil ends]

theorem fractionPart_point : fractionPart ('.' :: cs) =
    if (takeDigits cs).1 = [] then ([], '.' :: cs) else takeDigits cs := by
  rw [fractionPart]
  generalize takeDigits cs = taken
  obtain ⟨_ | ⟨d, ds⟩, rest⟩ := taken <;> rfl

theorem fractionPart_of_no_point (plain : ∀ others, cs ≠ '.' :: others) :
    fractionPart cs = ([], cs) := by
  rw [fractionPart]
  exact fun others same => plain others same

theorem noFraction_point : NoFraction ('.' :: cs) ↔ NoDigit cs := by
  constructor
  · intro none c first
    rw [← Bool.not_eq_true]
    intro digit
    obtain ⟨others, rfl⟩ := List.head?_eq_some_iff.mp first
    exact none c digit (List.prefix_append ['.', c] others)
  · rintro ends d digit ⟨others, shape⟩
    obtain ⟨-, rfl⟩ := List.cons.inj shape
    rw [noDigit_cons.mp ends] at digit
    cases digit

theorem fractionPart_eq_iff {digits : List Char} : fractionPart cs = (digits, rest) ↔
    ∃ text, cs = text ++ rest ∧ Fraction text digits ∧
      (text = [] → NoFraction rest) ∧ (text ≠ [] → NoDigit rest) := by
  by_cases pointed : ∃ others, cs = '.' :: others
  · obtain ⟨others, rfl⟩ := pointed
    rw [fractionPart_point]
    constructor
    · intro read
      split at read
      · rename_i absent
        cases read
        exact ⟨[], rfl, .none, fun _ => noFraction_point.mpr (takeDigits_eq_nil_iff.mp absent),
          fun present => absurd rfl present⟩
      · rename_i present
        rw [read] at present
        obtain ⟨rfl, each, ends⟩ := takeDigits_eq_iff.mp read
        exact ⟨'.' :: digits, rfl, .digits ⟨present, each⟩, nofun, fun _ => ends⟩
    · rintro ⟨text, shape, fraction, absent, present⟩
      cases fraction with
      | none =>
          cases shape
          exact if_pos (takeDigits_eq_nil_iff.mpr (noFraction_point.mp (absent rfl)))
      | digits ds =>
          have taken : takeDigits others = (digits, rest) :=
            takeDigits_eq_iff.mpr ⟨(List.cons.inj shape).2, ds.each, present (List.cons_ne_nil _ _)⟩
          rw [taken]
          exact if_neg ds.some
  · have plain : ∀ others, cs ≠ '.' :: others := fun others same => pointed ⟨others, same⟩
    rw [fractionPart_of_no_point plain]
    constructor
    · rintro ⟨rfl⟩
      refine ⟨[], rfl, .none, ?_, fun present => absurd rfl present⟩
      rintro - d - ⟨others, shape⟩
      exact plain _ shape.symm
    · rintro ⟨text, rfl, fraction, -⟩
      cases fraction with
      | none => rfl
      | digits ds => exact absurd rfl (plain _)

theorem exponentDigits_eq {negative : Bool} : exponentDigits? negative cs =
    if (takeDigits cs).1 = [] then none
    else some (signed negative (Text.digitsValue (takeDigits cs).1), (takeDigits cs).2) := by
  unfold exponentDigits?
  generalize takeDigits cs = taken
  obtain ⟨_ | ⟨d, ds⟩, rest⟩ := taken <;> rfl

theorem exponentDigits_eq_some_iff {negative : Bool} {power : Int} :
    exponentDigits? negative cs = some (power, rest) ↔ ∃ ds, cs = ds ++ rest ∧ Digits ds ∧
      NoDigit rest ∧ power = signed negative (Text.digitsValue ds) := by
  rw [exponentDigits_eq]
  constructor
  · intro read
    split at read
    · cases read
    · rename_i present
      cases read
      obtain ⟨shape, each, ends⟩ := takeDigits_parts cs
      exact ⟨_, shape, ⟨present, each⟩, ends, rfl⟩
  · rintro ⟨ds, rfl, digits, ends, rfl⟩
    rw [takeDigits_eq_iff.mpr ⟨rfl, digits.each, ends⟩]
    exact if_neg digits.some

theorem exponentPart_eq {mark : Char} (marked : mark = 'e' ∨ mark = 'E') :
    exponentPart? (mark :: cs) = match cs with
      | '-' :: others => exponentDigits? true others
      | '+' :: others => exponentDigits? false others
      | others => exponentDigits? false others := by
  have known : (mark == 'e' || mark == 'E') = true := by simpa using marked
  exact if_pos known

theorem exponentPart_eq_some_iff {power : Int} : exponentPart? cs = some (power, rest) ↔
    ∃ text, cs = text ++ rest ∧ Exponent text (some power) ∧ NoDigit rest := by
  constructor
  · intro read
    cases cs with
    | nil => cases read
    | cons mark others =>
        have marked : mark = 'e' ∨ mark = 'E' := by
          change (if (mark == 'e' || mark == 'E') = true then _ else none) = _ at read
          split at read
          · simpa using ‹(mark == 'e' || mark == 'E') = true›
          · cases read
        have digits {sign others : List Char} {negative : Bool}
            (known : (sign, negative) ∈ exponentSigns)
            (read : exponentDigits? negative others = some (power, rest)) :
            ∃ text, mark :: (sign ++ others) = text ++ rest ∧ Exponent text (some power) ∧
              NoDigit rest := by
          obtain ⟨ds, rfl, digits, ends, rfl⟩ := exponentDigits_eq_some_iff.mp read
          refine ⟨mark :: (sign ++ ds), ?_, .digits marked known digits, ends⟩
          rw [List.cons_append, List.append_assoc]
        rw [exponentPart_eq marked] at read
        split at read
        · exact @digits ['-'] _ true (by decide) read
        · exact @digits ['+'] _ false (by decide) read
        · exact @digits [] _ false (by decide) read
  · rintro ⟨text, rfl, exponent, ends⟩
    cases exponent with
    | @digits mark sign ds negative marked known digits =>
        have read : exponentDigits? negative (ds ++ rest) = some (_, rest) :=
          exponentDigits_eq_some_iff.mpr ⟨ds, rfl, digits, ends, rfl⟩
        rw [List.cons_append, exponentPart_eq marked, ← read]
        simp only [exponentSigns, List.mem_cons, Prod.mk.injEq, List.not_mem_nil, or_false] at known
        rcases known with ⟨rfl, rfl⟩ | ⟨rfl, rfl⟩ | ⟨rfl, rfl⟩
        · cases ds with
          | nil => exact absurd rfl digits.some
          | cons d ds =>
              have digit := digits.each d List.mem_cons_self
              rw [List.nil_append, List.cons_append]
              split
              · rename_i same
                rw [(List.cons.inj same).1] at digit
                cases digit
              · rename_i same
                rw [(List.cons.inj same).1] at digit
                cases digit
              · rfl
        · rfl
        · rfl

theorem exponentPart_eq_none_iff : exponentPart? cs = none ↔ NoExponent cs := by
  constructor
  · rintro absent mark sign negative d marked known digit ⟨others, rfl⟩
    obtain ⟨shape, each, ends⟩ := takeDigits_parts (d :: others)
    have present : (takeDigits (d :: others)).1 ≠ [] := by
      rw [ne_eq, takeDigits_eq_nil_iff, noDigit_cons, digit]
      exact nofun
    have read := exponentPart_eq_some_iff.mpr
      ⟨_, rfl, .digits marked known ⟨present, each⟩, ends⟩
    rw [List.cons_append, List.append_assoc, ← shape] at read
    rw [List.cons_append, List.append_assoc, List.singleton_append, read] at absent
    cases absent
  · intro ends
    cases read : exponentPart? cs with
    | none => rfl
    | some r =>
        obtain ⟨power, rest⟩ := r
        obtain ⟨text, rfl, exponent, -⟩ := exponentPart_eq_some_iff.mp read
        cases exponent with
        | @digits mark sign ds negative marked known digits =>
            cases ds with
            | nil => exact absurd rfl digits.some
            | cons d ds =>
                refine absurd ⟨ds ++ rest, ?_⟩ (ends mark sign negative d marked known
                  (digits.each d List.mem_cons_self))
                simp only [List.cons_append, List.append_assoc, List.nil_append]

theorem continues_iff : (∀ more, Continuation more → ¬more <+: cs) ↔
    NoDigit cs ∧ NoFraction cs ∧ NoExponent cs := by
  constructor
  · intro ends
    refine ⟨fun c first => ?_, fun d digit => ends _ (.fraction digit),
      fun mark sign negative d marked known digit => ends _ (.exponent marked known digit)⟩
    rw [← Bool.not_eq_true]
    intro digit
    obtain ⟨others, rfl⟩ := List.head?_eq_some_iff.mp first
    exact ends _ (.digit digit) (List.prefix_append [c] others)
  · rintro ⟨noDigit, noFraction, noExponent⟩ more continuation
    cases continuation with
    | @digit d digit =>
        rintro ⟨others, rfl⟩
        rw [List.singleton_append, noDigit_cons, digit] at noDigit
        cases noDigit
    | fraction digit => exact noFraction _ digit
    | exponent marked known digit => exact noExponent _ _ _ _ marked known digit

section

variable {negative : Bool} {whole digits : List Char}

/-- What a number is read as, by its parts. -/
theorem unsignedNumber_eq {rest' : List Char} (first : wholePart? cs = some (whole, rest))
    (second : fractionPart rest = (digits, rest')) : unsignedNumber? negative cs = some (
      if digits = [] ∧ exponentPart? rest' = none then
        if Number.digitLimit < whole.length then .error (.longInteger whole.length)
        else .ok (.int (signed negative (Text.digitsValue whole)), rest')
      else .ok (.float (.ofDecimal negative (Text.digitsValue (whole ++ digits))
          (((exponentPart? rest').map Prod.fst).getD 0 - digits.length)),
        ((exponentPart? rest').map Prod.snd).getD rest')) := by
  unfold unsignedNumber? Number.natOfDigits
  rw [first, Option.map_some]
  dsimp only
  rw [second]
  cases exponentPart? rest' with
  | none =>
      cases digits with
      | nil => by_cases long : Number.digitLimit < whole.length <;> simp [long, signed]
      | cons d ds => simp
  | some r => cases digits <;> simp

theorem Fraction.noDigit {text : List Char} (fraction : Fraction text digits) (ends : NoDigit rest) :
    NoDigit (text ++ rest) := by
  cases fraction with
  | none => exact ends
  | digits => exact noDigit_cons.mpr (by decide)

theorem Exponent.front {text : List Char} {power : Option Int} (exponent : Exponent text power) :
    NoDigit text ∧ ∀ others, text ≠ '.' :: others := by
  cases exponent with
  | none => exact ⟨noDigit_nil, nofun⟩
  | @digits mark _ _ _ marked =>
      refine ⟨noDigit_cons.mpr ?_, fun others same => ?_⟩
      · rcases marked with rfl | rfl <;> decide
      · rw [(List.cons.inj same).1] at marked
        rcases marked with same | same <;> cases same

theorem Exponent.exponentPart_eq {text : List Char} {power : Option Int}
    (exponent : Exponent text power) : exponentPart? text = power.map fun p => (p, []) := by
  cases power with
  | none =>
      cases exponent
      rfl
  | some power =>
      have read : exponentPart? (text ++ []) = some (power, []) :=
        exponentPart_eq_some_iff.mpr ⟨text, rfl, exponent, noDigit_nil⟩
      rw [List.append_nil] at read
      exact read

/-- The unsigned part of a numeral is read as a whole. -/
theorem unsignedNumber_float {fraction exponent : List Char} {power : Option Int} (positive : Whole whole)
    (fractional : Fraction fraction digits) (exponential : Exponent exponent power)
    (more : fraction ≠ [] ∨ exponent ≠ []) :
    unsignedNumber? negative (whole ++ (fraction ++ exponent)) = some (.ok (.float (.ofDecimal negative
      (Text.digitsValue (whole ++ digits)) (power.getD 0 - digits.length)), [])) := by
  have first := wholePart_eq_some_iff.mpr
    ⟨rfl, positive, .inr (fractional.noDigit exponential.front.1)⟩
  have noFraction : NoFraction exponent := by
    rintro d - ⟨others, shape⟩
    exact exponential.front.2 _ shape.symm
  have second := fractionPart_eq_iff.mpr
    ⟨fraction, rfl, fractional, fun _ => noFraction, fun _ => exponential.front.1⟩
  rw [unsignedNumber_eq first second, exponential.exponentPart_eq, if_neg]
  · cases exponential <;> rfl
  · rintro ⟨rfl, absent⟩
    cases exponential with
    | none =>
        cases fractional with
        | none => exact more.elim (absurd rfl) (absurd rfl)
        | digits ds => exact ds.some rfl
    | digits => cases absent

theorem unsignedNumber_whole {rest : List Char} (positive : Whole whole)
    (ends : NoDigit rest ∧ NoFraction rest ∧ NoExponent rest) :
    unsignedNumber? negative (whole ++ rest) = some (
      if Number.digitLimit < whole.length then .error (.longInteger whole.length)
      else .ok (.int (signed negative (Text.digitsValue whole)), rest)) := by
  obtain ⟨noDigit, noFraction, noExponent⟩ := ends
  have first := wholePart_eq_some_iff.mpr ⟨rfl, positive, .inr noDigit⟩
  have second := fractionPart_eq_iff.mpr ⟨[], rfl, .none, fun _ => noFraction, fun more => absurd rfl more⟩
  rw [unsignedNumber_eq first second, if_pos ⟨rfl, exponentPart_eq_none_iff.mpr noExponent⟩]

/-- An exponent that may be missing stands in front of what is left. -/
theorem exists_exponent (cs : List Char) : ∃ text left, cs = text ++ left ∧
    Exponent text ((exponentPart? cs).map Prod.fst) ∧
    ((exponentPart? cs).map Prod.snd).getD cs = left ∧ (text = [] → exponentPart? cs = none) := by
  cases read : exponentPart? cs with
  | none => exact ⟨[], cs, rfl, .none, rfl, fun _ => rfl⟩
  | some r =>
      obtain ⟨power, left⟩ := r
      obtain ⟨text, shape, exponent, -⟩ := exponentPart_eq_some_iff.mp read
      refine ⟨text, left, shape, exponent, rfl, ?_⟩
      rintro rfl
      cases exponent

/-- What is read of a number is a numeral, or a whole number that is too long and that nothing makes
more of. -/
theorem unsignedNumber_cases {r : Except Stop (Json × List Char)}
    (read : unsignedNumber? negative cs = some r) :
    (∃ text v rest, cs = text ++ rest ∧ Numeral (minus negative ++ text) v ∧ r = .ok (v, rest)) ∨
      ∃ whole rest, cs = whole ++ rest ∧ Whole whole ∧ Number.digitLimit < whole.length ∧
        (∀ more, Continuation more → ¬more <+: rest) ∧ r = .error (.longInteger whole.length) := by
  cases first : wholePart? cs with
  | none =>
      unfold unsignedNumber? at read
      rw [first] at read
      cases read
  | some parts =>
      obtain ⟨whole, rest⟩ := parts
      cases second : fractionPart rest with
      | mk digits rest' =>
          rw [unsignedNumber_eq first second, Option.some_inj] at read
          subst read
          obtain ⟨rfl, positive, ends⟩ := wholePart_eq_some_iff.mp first
          obtain ⟨fraction, rfl, fractional, absent, -⟩ := fractionPart_eq_iff.mp second
          split
          · rename_i plain
            obtain ⟨rfl, noExponent⟩ := plain
            cases fractional with
            | digits ds => exact absurd rfl ds.some
            | none =>
                split
                · rename_i long
                  refine .inr ⟨whole, rest', rfl, positive, long, continues_iff.mpr ⟨?_, absent rfl,
                    exponentPart_eq_none_iff.mp noExponent⟩, rfl⟩
                  refine ends.resolve_left fun zero => ?_
                  rw [zero] at long
                  exact absurd long (by decide)
                · rename_i short
                  exact .inl ⟨whole, _, rest', rfl, .integer negative positive (Nat.not_lt.mp short), rfl⟩
          -- A float may have any number of digits, so that it is never too long.
          · rename_i more
            obtain ⟨exponent, left, shape, exponential, same, absent'⟩ := exists_exponent rest'
            have present : fraction ≠ [] ∨ exponent ≠ [] := by
              refine Classical.byContradiction fun neither => ?_
              rw [not_or, not_not, not_not] at neither
              obtain ⟨rfl, rfl⟩ := neither
              cases fractional
              exact more ⟨rfl, absent' rfl⟩
            have numeral := Numeral.float negative positive fractional exponential present
            refine .inl ⟨whole ++ (fraction ++ exponent), _, left, ?_, ?_, by rw [same]⟩
            · rw [shape]
              simp only [List.append_assoc]
            · rwa [List.append_assoc, List.append_assoc] at numeral

end

theorem Whole.front {whole : List Char} (positive : Whole whole) :
    ∃ d others, whole = d :: others ∧ isAsciiDigit d = true := by
  cases positive with
  | zero => exact ⟨'0', [], rfl, by decide⟩
  | positive _ digits => exact ⟨_, _, rfl, digits.each _ List.mem_cons_self⟩

theorem number_minus {negative : Bool} {whole rest : List Char} (positive : Whole whole) :
    number? (minus negative ++ (whole ++ rest)) = unsignedNumber? negative (whole ++ rest) := by
  obtain ⟨d, others, rfl, digit⟩ := positive.front
  cases negative with
  | true => rfl
  | false =>
      change number? (d :: (others ++ rest)) = _
      rw [number?]
      · rfl
      · intro more same
        rw [(List.cons.inj same).1] at digit
        exact absurd digit (by decide)

theorem exists_number_eq (cs : List Char) :
    ∃ negative others, cs = minus negative ++ others ∧ number? cs = unsignedNumber? negative others := by
  by_cases signed : ∃ others, cs = '-' :: others
  · obtain ⟨others, rfl⟩ := signed
    exact ⟨true, others, rfl, rfl⟩
  · refine ⟨false, cs, rfl, ?_⟩
    rw [number?]
    exact fun others same => signed ⟨others, same⟩

theorem Numeral.number_eq {v : Json} (numeral : Numeral cs v) : number? cs = some (.ok (v, [])) := by
  cases numeral with
  | @integer whole negative positive short =>
      have ends : NoDigit [] ∧ NoFraction [] ∧ NoExponent [] := by
        refine ⟨noDigit_nil, fun d _ => ?_, fun mark sign negative d _ _ _ => ?_⟩
        · exact fun more => nomatch List.prefix_nil.mp more
        · exact fun more => nomatch List.prefix_nil.mp more
      have read := @unsignedNumber_whole negative _ _ positive ends
      rw [if_neg (Nat.not_lt.mpr short), ← number_minus positive, List.append_nil] at read
      exact read
  | float negative positive fractional exponential more =>
      rw [List.append_assoc, List.append_assoc, number_minus positive]
      exact unsignedNumber_float positive fractional exponential more

theorem number_cases {r : Except Stop (Json × List Char)} (read : number? cs = some r) :
    (∃ text v rest, cs = text ++ rest ∧ Numeral text v ∧ r = .ok (v, rest)) ∨
      ∃ negative whole rest, cs = minus negative ++ (whole ++ rest) ∧ Whole whole ∧
        Number.digitLimit < whole.length ∧ (∀ more, Continuation more → ¬more <+: rest) ∧
        r = .error (.longInteger whole.length) := by
  obtain ⟨negative, others, rfl, unsigned⟩ := exists_number_eq cs
  rw [unsigned] at read
  rcases unsignedNumber_cases read with ⟨text, v, rest, rfl, numeral, rfl⟩ | ⟨whole, rest, rfl, long⟩
  · exact .inl ⟨_, v, rest, (List.append_assoc ..).symm, numeral, rfl⟩
  · exact .inr ⟨negative, whole, rest, rfl, long⟩

theorem number_long {negative : Bool} {whole : List Char} (positive : Whole whole)
    (long : Number.digitLimit < whole.length) (ends : ∀ more, Continuation more → ¬more <+: rest) :
    number? (minus negative ++ (whole ++ rest)) = some (.error (.longInteger whole.length)) := by
  rw [number_minus positive, unsignedNumber_whole positive (continues_iff.mp ends), if_pos long]

end ClusterStack.Json
