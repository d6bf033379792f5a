import ClusterStack.Proofs.Json.Reading
/-!
# What the reader accepts

A text that denotes a value is read as the value, whatever comes after it that does not make a longer
number of its end. A bound of twice its length is enough. Reading that stops behind a text which is in
order up to there stops the reading of the whole.
-/
namespace ClusterStack.Json

open Text (Code)

/-- The text does not begin with white space, a mark that closes something or a byte order mark. -/
def Leads (cs : List Code) : Prop :=
  ∃ c rest, cs = c :: rest ∧ isSpace c = false ∧ c ≠ .char ']' ∧ c ≠ .char '\x7d' ∧ c ≠ .char '\uFEFF'

theorem Leads.append {cs : List Code} (leads : Leads cs) (others : List Code) :
    Leads (cs ++ others) := by
  obtain ⟨c, rest, rfl, front⟩ := leads
  exact ⟨c, rest ++ others, rfl, front⟩

theorem skipSpace_append {before rest : List Code} (blank : Space before)
    (visible : ∀ c ∈ rest.head?, isSpace c = false) : skipSpace (before ++ rest) = rest := by
  unfold skipSpace
  rw [List.dropWhile_append_of_pos blank, List.dropWhile_eq_self_iff.mpr (Text.not_kind_first visible)]

theorem Leads.skipSpace_eq {before rest : List Code} (leads : Leads rest) (blank : Space before) :
    skipSpace (before ++ rest) = rest := by
  obtain ⟨c, others, rfl, visible, -⟩ := leads
  refine skipSpace_append blank fun d first => ?_
  cases first
  exact visible

/-- A word or a number may begin with the character. -/
def beginsPlain (c : Char) : Bool := isNumeral c || "ntfNI".toList.contains c

theorem leads_of_beginsPlain {c : Char} {rest : List Code} (begins : beginsPlain c = true) :
    Leads (.char c :: rest) := by
  have other {d : Char} (no : beginsPlain d = false) : Code.char c ≠ .char d := by
    rintro ⟨rfl⟩
    rw [no] at begins
    cases begins
  refine ⟨_, rest, rfl, ?_, other (by decide), other (by decide), other (by decide)⟩
  simp only [isSpace, Bool.or_eq_false_iff, beq_eq_false_iff_ne]
  exact ⟨⟨⟨other (by decide), other (by decide)⟩, other (by decide)⟩, other (by decide)⟩

theorem value_of_beginsPlain {c : Char} {rest : List Code} (begins : beginsPlain c = true)
    (room bound : Nat) : value room (bound + 1) (.char c :: rest) = plainValue (.char c :: rest) := by
  have other {d : Char} (no : beginsPlain d = false) : ¬Code.char c = .char d := by
    rintro ⟨rfl⟩
    rw [no] at begins
    cases begins
  rw [value]
  · exact fun more same => other (by decide) (List.cons.inj same).1
  · exact fun more same => other (by decide) (List.cons.inj same).1
  · exact fun more same => other (by decide) (List.cons.inj same).1

theorem words_beginPlain {word : String} {v : Json} (listed : (word, v) ∈ words) :
    ∃ c more, word.toList = c :: more ∧ beginsPlain c = true := by
  simp only [words, List.mem_cons, Prod.mk.injEq, List.not_mem_nil, or_false] at listed
  rcases listed with ⟨rfl, -⟩ | ⟨rfl, -⟩ | ⟨rfl, -⟩ | ⟨rfl, -⟩ | ⟨rfl, -⟩ | ⟨rfl, -⟩ <;>
    exact ⟨_, _, rfl, by decide⟩

theorem Whole.beginPlain {negative : Bool} {whole more : List Char} (positive : Whole whole) :
    ∃ c rest, minus negative ++ whole ++ more = c :: rest ∧ beginsPlain c = true := by
  obtain ⟨d, others, rfl, digit⟩ := positive.front
  cases negative with
  | true => exact ⟨'-', _, rfl, by decide⟩
  | false =>
      refine ⟨d, others ++ more, rfl, ?_⟩
      unfold beginsPlain
      rw [isNumeral_of_digit digit]
      rfl

theorem Quoted.front {quoted : List Code} {t : Text} (named : Quoted quoted t) :
    ∃ rest, quoted = .char '"' :: rest := by
  cases named
  exact ⟨_, rfl⟩

theorem Opening.front {mark : Char} {opening : List Code} (opened : Opening mark opening) :
    ∃ rest, opening = .char mark :: rest := by
  cases opened
  exact ⟨_, rfl⟩

theorem leads_of_mark {mark : Char} {rest : List Code} (opens : mark ∈ ['"', '[', '\x7b']) :
    Leads (.char mark :: rest) := by
  simp only [List.mem_cons, List.not_mem_nil, or_false] at opens
  rcases opens with rfl | rfl | rfl <;> exact ⟨_, rest, rfl, by decide⟩

theorem Denotes.leads {room : Nat} {cs : List Code} {content : Content}
    (denotes : Denotes room cs content) : Leads cs := by
  induction denotes with
  | word listed =>
      obtain ⟨c, more, letters, begins⟩ := words_beginPlain listed
      rw [letters]
      exact leads_of_beginsPlain begins
  | number numeral =>
      obtain ⟨negative, whole, more, rfl, positive⟩ := numeral.begins
      obtain ⟨c, rest, letters, begins⟩ := @Whole.beginPlain negative whole more positive
      rw [letters]
      exact leads_of_beginsPlain begins
  | text named =>
      obtain ⟨rest, rfl⟩ := named.front
      exact leads_of_mark (by decide)
  | noItems opened | array opened | noMembers opened | object opened =>
      obtain ⟨rest, rfl⟩ := opened.front
      exact leads_of_mark (by decide)
  | lastItem _ _ first => exact first.append _
  | nextItem _ _ _ first => exact (first.append _).append _
  | lastMember named | nextMember named =>
      obtain ⟨rest, rfl⟩ := named.front
      exact leads_of_mark (by decide)

/-- The reader takes the text for the content. A value may end with a number, which must not go on. -/
def Content.ReadBack (room : Nat) (cs : List Code) : Content → Prop
  | .value v => ∀ bound rest, 2 * cs.length < bound → NoNumeral rest →
      Json.value room bound (cs ++ rest) = .ok (v, rest)
  | .items vs => ∀ bound rest, 2 * cs.length + 1 < bound →
      Json.items room bound (cs ++ rest) = .ok (vs, rest)
  | .members ms => ∀ bound rest, 2 * cs.length + 1 < bound →
      Json.members room bound (cs ++ rest) = .ok (ms, rest)

theorem noNumeral_append {before rest : List Code} (blank : Space before) (ends : NoNumeral rest) :
    NoNumeral (before ++ rest) := by
  cases before with
  | nil => exact ends
  | cons c others =>
      intro d first
      cases first
      have space := blank _ List.mem_cons_self
      simp only [isSpace, Bool.or_eq_true, beq_iff_eq, Code.char.injEq] at space
      rcases space with ((rfl | rfl) | rfl) | rfl <;> decide

theorem noNumeral_mark {mark : Char} {rest : List Code} (plain : isNumeral mark = false) :
    NoNumeral (.char mark :: rest) := by
  intro d first
  cases first
  exact plain

theorem skipSpace_mark {mark : Char} {before rest : List Code} (blank : Space before)
    (plain : isSpace (.char mark) = false) :
    skipSpace (before ++ .char mark :: rest) = .char mark :: rest :=
  skipSpace_append blank fun c first => by
    cases first
    exact plain

section

variable {room bound : Nat} {rest after : List Code}

theorem value_quoted {quoted : List Code} {t : Text} (named : Quoted quoted t) :
    value room (bound + 1) (quoted ++ rest) = .ok (.str t, rest) := by
  obtain ⟨inner, rfl⟩ := named.front
  have read : textAfterMark (inner ++ rest) = .ok (t, rest) :=
    textAfterMark_eq_ok_iff.mpr ⟨_, named, rfl⟩
  rw [List.cons_append, value, read]
  rfl

theorem value_items {opening : List Code} (opened : Opening '[' opening) (leads : Leads rest) :
    value (room + 1) (bound + 1) (opening ++ rest) =
      (items room bound rest).map fun (vs, rest) => (.arr vs, rest) := by
  cases opened with
  | before blank =>
      rw [List.cons_append, value, if_neg (by simp), leads.skipSpace_eq blank]
      obtain ⟨c, others, rfl, -, other, -⟩ := leads
      split
      · rename_i same
        exact absurd (List.cons.inj same).1 other
      · rfl

theorem value_noItems {opening : List Code} (opened : Opening '[' opening) :
    value (room + 1) (bound + 1) (opening ++ [.char ']'] ++ rest) = .ok (.arr [], rest) := by
  cases opened with
  | before blank =>
      rw [List.cons_append, List.cons_append, List.append_assoc, value, if_neg (by simp),
        List.singleton_append, skipSpace_mark blank (by decide)]
      rfl

theorem value_noMembers {opening : List Code} (opened : Opening '\x7b' opening) :
    value (room + 1) (bound + 1) (opening ++ [.char '\x7d'] ++ rest) = .ok (.obj [], rest) := by
  cases opened with
  | before blank =>
      rw [List.cons_append, List.cons_append, List.append_assoc, value, if_neg (by simp),
        List.singleton_append, skipSpace_mark blank (by decide)]
      rfl

theorem value_members {opening : List Code} (opened : Opening '\x7b' opening) (leads : Leads rest) :
    value (room + 1) (bound + 1) (opening ++ rest) =
      (members room bound rest).map fun (ms, rest) => (.obj (Association.ofList ms), rest) := by
  cases opened with
  | before blank =>
      rw [List.cons_append, value, if_neg (by simp), leads.skipSpace_eq blank]
      obtain ⟨c, others, rfl, -, -, other, -⟩ := leads
      split
      · rename_i same
        exact absurd (List.cons.inj same).1 other
      · rfl

theorem items_last {cs closing : List Code} {v : Json} (closed : Closing ']' closing)
    (first : value room bound cs = .ok (v, closing ++ rest)) :
    items room (bound + 1) cs = .ok ([v], rest) := by
  cases closed with
  | after blank =>
      rw [List.append_assoc] at first
      rw [items, first]
      dsimp only [bind, Except.bind]
      rw [List.singleton_append, skipSpace_mark blank (by decide)]
      rfl

theorem items_next {cs comma : List Code} {v : Json} (marked : Marked ',' comma) (leads : Leads rest)
    (first : value room bound cs = .ok (v, comma ++ rest)) :
    items room (bound + 1) cs = (items room bound rest).bind fun (vs, rest) => .ok (v :: vs, rest) := by
  cases marked with
  | between blank blank' =>
      rw [List.append_assoc, List.cons_append] at first
      rw [items, first]
      dsimp only [bind, Except.bind]
      rw [skipSpace_mark blank (by decide)]
      change (items room bound (skipSpace _)).bind _ = _
      rw [leads.skipSpace_eq blank']
      rfl

/-- Where a member stands, reading goes on with its value. -/
theorem members_named {quoted colon : List Code} {name : Text} (named : Quoted quoted name)
    (marked : Marked ':' colon) (leads : Leads rest) :
    members room (bound + 1) (quoted ++ colon ++ rest) =
      (value room bound rest).bind fun (v, rest) => match skipSpace rest with
        | .char '\x7d' :: rest => .ok ([(name, v)], rest)
        | .char ',' :: rest => do
          let (ms, rest) ← members room bound (skipSpace rest)
          .ok ((name, v) :: ms, rest)
        | rest => .error (.unexpected .comma rest.length) := by
  cases marked with
  | @between before after' blank blank' =>
      obtain ⟨inner, rfl⟩ := named.front
      have read : textAfterMark (inner ++ (before ++ .char ':' :: after') ++ rest) =
          .ok (name, before ++ .char ':' :: (after' ++ rest)) := by
        refine textAfterMark_eq_ok_iff.mpr ⟨_, named, ?_⟩
        simp only [List.append_assoc, List.cons_append]
      rw [List.cons_append, List.cons_append, members, read]
      dsimp only [bind, Except.bind]
      rw [skipSpace_mark blank (by decide)]
      change (value room bound (skipSpace _)).bind _ = _
      rw [leads.skipSpace_eq blank']
      rfl

theorem members_last {quoted colon cs closing : List Code} {name : Text} {v : Json}
    (named : Quoted quoted name) (marked : Marked ':' colon) (leads : Leads cs)
    (closed : Closing '\x7d' closing) (first : value room bound cs = .ok (v, closing ++ rest)) :
    members room (bound + 1) (quoted ++ colon ++ cs) = .ok ([(name, v)], rest) := by
  cases closed with
  | after blank =>
      rw [List.append_assoc] at first
      rw [members_named named marked leads, first]
      dsimp only [Except.bind]
      rw [List.singleton_append, skipSpace_mark blank (by decide)]
      rfl

theorem members_next {quoted colon cs comma : List Code} {name : Text} {v : Json}
    (named : Quoted quoted name) (marked : Marked ':' colon) (leads : Leads cs)
    (marked' : Marked ',' comma) (leads' : Leads rest)
    (first : value room bound cs = .ok (v, comma ++ rest)) :
    members room (bound + 1) (quoted ++ colon ++ cs) =
      (members room bound rest).bind fun (ms, rest) => .ok ((name, v) :: ms, rest) := by
  cases marked' with
  | between blank blank' =>
      rw [List.append_assoc, List.cons_append] at first
      rw [members_named named marked leads, first]
      dsimp only [bind, Except.bind]
      rw [skipSpace_mark blank (by decide)]
      change (members room bound (skipSpace _)).bind _ = _
      rw [leads'.skipSpace_eq blank']
      rfl

end

theorem Closing.noNumeral {mark : Char} {closing rest : List Code} (closed : Closing mark closing)
    (plain : isNumeral mark = false) : NoNumeral (closing ++ rest) := by
  cases closed with
  | after blank =>
      rw [List.append_assoc]
      exact noNumeral_append blank (noNumeral_mark plain)

theorem Marked.noNumeral {mark : Char} {marked rest : List Code} (between : Marked mark marked)
    (plain : isNumeral mark = false) : NoNumeral (marked ++ rest) := by
  cases between with
  | between blank =>
      rw [List.append_assoc]
      exact noNumeral_append blank (noNumeral_mark plain)

theorem Marked.length_pos {mark : Char} {marked : List Code} (between : Marked mark marked) :
    0 < marked.length := by
  cases between
  rw [List.length_append, List.length_cons]
  omega

theorem exists_succ {n bound : Nat} (enough : n < bound) : ∃ k, bound = k + 1 ∧ n ≤ k :=
  ⟨bound - 1, by omega, by omega⟩

theorem Denotes.readBack {room : Nat} {cs : List Code} {content : Content}
    (denotes : Denotes room cs content) : content.ReadBack room cs := by
  -- The reader goes down twice for an item, once to the items and once to the value, and each has a
  -- mark of its own: this is why twice the length is enough.
  induction denotes with
  | word listed =>
      intro bound rest enough _
      obtain ⟨bound, rfl, -⟩ := exists_succ enough
      obtain ⟨c, more, letters, begins⟩ := words_beginPlain listed
      have read := @plainValue_word rest _ _ listed
      rw [letters] at read ⊢
      exact (value_of_beginsPlain begins _ bound).trans read
  | number numeral =>
      intro bound rest enough ends
      obtain ⟨bound, rfl, -⟩ := exists_succ enough
      have read := plainValue_numeral numeral ends
      obtain ⟨negative, whole, more, rfl, positive⟩ := numeral.begins
      obtain ⟨c, others, letters, begins⟩ := @Whole.beginPlain negative whole more positive
      rw [letters] at read ⊢
      exact (value_of_beginsPlain begins _ bound).trans read
  | text named =>
      intro bound rest enough _
      obtain ⟨bound, rfl, -⟩ := exists_succ enough
      exact value_quoted named
  | noItems opened =>
      intro bound rest enough _
      obtain ⟨bound, rfl, -⟩ := exists_succ enough
      exact value_noItems opened
  | array opened inside ih =>
      intro bound rest enough _
      obtain ⟨bound, rfl, -⟩ := exists_succ enough
      obtain ⟨after, rfl⟩ := opened.front
      rw [List.append_assoc, value_items opened (inside.leads.append rest), ih bound rest]
      · rfl
      · simp only [List.length_append, List.length_cons] at enough
        omega
  | noMembers opened =>
      intro bound rest enough _
      obtain ⟨bound, rfl, -⟩ := exists_succ enough
      exact value_noMembers opened
  | object opened inside ih =>
      intro bound rest enough _
      obtain ⟨bound, rfl, -⟩ := exists_succ enough
      obtain ⟨after, rfl⟩ := opened.front
      rw [List.append_assoc, value_members opened (inside.leads.append rest), ih bound rest]
      · rfl
      · simp only [List.length_append, List.length_cons] at enough
        omega
  | lastItem _ closed ih =>
      intro bound rest enough
      obtain ⟨bound, rfl, -⟩ := exists_succ enough
      rw [List.length_append] at enough
      rw [List.append_assoc]
      exact items_last closed (ih bound _ (by omega) (closed.noNumeral (by decide)))
  | nextItem _ marked others ih ih' =>
      intro bound rest enough
      obtain ⟨bound, rfl, -⟩ := exists_succ enough
      have comma := marked.length_pos
      simp only [List.length_append] at enough
      rw [List.append_assoc, List.append_assoc]
      rw [items_next marked (others.leads.append rest)
        (ih bound _ (by omega) (marked.noNumeral (by decide))), ih' bound rest (by omega)]
      rfl
  | lastMember named marked inside closed ih =>
      intro bound rest enough
      obtain ⟨bound, rfl, -⟩ := exists_succ enough
      simp only [List.length_append] at enough
      rw [List.append_assoc, List.append_assoc]
      exact members_last named marked (inside.leads.append _) closed
        (ih bound _ (by omega) (closed.noNumeral (by decide)))
  | nextMember named marked inside marked' others ih ih' =>
      intro bound rest enough
      obtain ⟨bound, rfl, -⟩ := exists_succ enough
      have comma := marked'.length_pos
      simp only [List.length_append] at enough
      rw [List.append_assoc, List.append_assoc, List.append_assoc]
      rw [members_next named marked (inside.leads.append _) marked' (others.leads.append rest)
        (ih bound _ (by omega) (marked'.noNumeral (by decide))), ih' bound rest (by omega)]
      rfl

end ClusterStack.Json
