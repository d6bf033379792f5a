import ClusterStack.Proofs.Json.Completeness
/-!
# Whole texts

A text is read as the value that it denotes, with white space around it. It stops the reader with an
integer that is too long, or with one nesting too many, if it is in order up to there. Every other text
is out of order somewhere.
-/
namespace ClusterStack.Json

open Text (Code)

/-- Reading at the place stops so. -/
def Place.Stops (place : Place) (room : Nat) (cs : List Code) (stop : Stop) : Prop :=
  match place with
  | .value => ∀ bound, 2 * cs.length < bound → Json.value room bound cs = .error stop
  | .items => ∀ bound, 2 * cs.length + 1 < bound → Json.items room bound cs = .error stop
  | .members => ∀ bound, 2 * cs.length + 1 < bound → Json.members room bound cs = .error stop

variable {limit room : Nat} {cs : List Code} {stop : Stop}

theorem document_eq (front : ∀ rest, cs ≠ .char '\uFEFF' :: rest) : document limit cs =
    (value limit (2 * cs.length + 2) (skipSpace cs)).bind fun (v, rest) =>
      match skipSpace rest with
      | [] => .ok v
      | rest => .error (.unexpected .endOfText rest.length) := by
  rw [document]
  · rfl
  · exact fun rest same => front rest same

/-- A text that begins with white space, or with what a value may begin with, has no byte order mark. -/
theorem Leads.unmarked {before : List Code} (leads : Leads cs) (blank : Space before) :
    ∀ rest, before ++ cs ≠ .char '\uFEFF' :: rest := by
  intro rest same
  cases before with
  | nil =>
      obtain ⟨c, others, rfl, -, -, -, other⟩ := leads
      exact other (List.cons.inj same).1
  | cons c others =>
      have space := blank c List.mem_cons_self
      rw [(List.cons.inj same).1] at space
      exact absurd space (by decide)

theorem LeadsTo.document_error {place : Place} {before : List Code}
    (lead : LeadsTo limit place room before) (leads : Leads cs) (stops : place.Stops room cs stop) :
    document limit (before ++ cs) = .error stop := by
  -- Each step that leads there is undone: what stops behind it stops the reading in front of it.
  induction lead generalizing cs with
  | start blank =>
      rw [document_eq (leads.unmarked blank), leads.skipSpace_eq blank, stops]
      · rfl
      · rw [List.length_append]
        omega
  | array lead opened ih =>
      obtain ⟨after, rfl⟩ := opened.front
      rw [List.append_assoc]
      refine ih (leads_of_mark (by decide)) fun bound enough => ?_
      obtain ⟨bound, rfl, -⟩ := exists_succ enough
      rw [value_items opened leads, stops bound]
      · rfl
      · simp only [List.length_append, List.length_cons] at enough
        omega
  | item lead ih =>
      refine ih leads fun bound enough => ?_
      obtain ⟨bound, rfl, -⟩ := exists_succ enough
      rw [items, stops bound (by omega)]
      rfl
  | @nextItem room before text comma v lead item marked ih =>
      rw [List.append_assoc, List.append_assoc]
      refine ih (item.leads.append _) fun bound enough => ?_
      obtain ⟨bound, rfl, -⟩ := exists_succ enough
      have some := marked.length_pos
      simp only [List.length_append] at enough
      have first : value room bound (text ++ (comma ++ cs)) = .ok (v, comma ++ cs) :=
        item.readBack bound _ (by omega) (marked.noNumeral (by decide))
      rw [items_next marked leads first, stops bound (by omega)]
      rfl
  | object lead opened ih =>
      obtain ⟨after, rfl⟩ := opened.front
      rw [List.append_assoc]
      refine ih (leads_of_mark (by decide)) fun bound enough => ?_
      obtain ⟨bound, rfl, -⟩ := exists_succ enough
      rw [value_members opened leads, stops bound]
      · rfl
      · simp only [List.length_append, List.length_cons] at enough
        omega
  | member lead named marked ih =>
      obtain ⟨inner, rfl⟩ := named.front
      rw [List.append_assoc]
      refine ih (leads_of_mark (by decide)) fun bound enough => ?_
      obtain ⟨bound, rfl, -⟩ := exists_succ enough
      simp only [List.length_append, List.length_cons] at enough
      rw [members_named named marked leads, stops bound (by omega)]
      rfl
  | @nextMember room before quoted colon text comma name v lead named marked item marked' ih =>
      obtain ⟨inner, rfl⟩ := named.front
      rw [List.append_assoc, List.append_assoc, List.append_assoc, List.append_assoc]
      refine ih (leads_of_mark (by decide)) fun bound enough => ?_
      obtain ⟨bound, rfl, -⟩ := exists_succ enough
      have some := marked'.length_pos
      simp only [List.length_append, List.length_cons] at enough
      have first : value room bound (text ++ (comma ++ cs)) = .ok (v, comma ++ cs) :=
        item.readBack bound _ (by omega) (marked'.noNumeral (by decide))
      rw [← List.append_assoc, members_next named marked (item.leads.append _) marked' leads first,
        stops bound (by omega)]
      rfl

theorem document_sound : match document limit cs with
    | .ok v => Document limit cs v
    | .error stop => Meets limit cs stop := by
  -- With a byte order mark in front, the text is out of order and nothing is told of it.
  by_cases marked : ∃ rest, cs = .char '\uFEFF' :: rest
  · obtain ⟨rest, rfl⟩ := marked
    exact trivial
  rw [document_eq fun rest same => marked ⟨rest, same⟩]
  obtain ⟨before, shape, blank⟩ := exists_skipSpace cs
  have told := (sound_bound (2 * cs.length + 2)).value limit (skipSpace cs)
  generalize value limit _ (skipSpace cs) = r at told ⊢
  cases told with
  | stopped meets =>
      rw [shape]
      exact meets limit before (.start blank)
  | @ok v text rest inside split =>
      obtain ⟨after, shape', blank'⟩ := exists_skipSpace rest
      dsimp only [Except.bind]
      cases left : skipSpace rest with
      | nil =>
          rw [left, List.append_nil] at shape'
          rw [shape, split, ← List.append_assoc, shape']
          exact .around blank inside blank'
      | cons c others => trivial

theorem document_eq_ok_iff {v : Json} : document limit cs = .ok v ↔ Document limit cs v := by
  constructor
  · intro read
    have told := @document_sound limit cs
    rwa [read] at told
  · rintro ⟨blank, inside, blank'⟩
    rename_i before text after
    have ends : NoNumeral after := by
      have none := noNumeral_append blank' (show NoNumeral [] from nofun)
      rwa [List.append_nil] at none
    have blankEnd : skipSpace after = [] := by
      have none := skipSpace_append blank' (show ∀ c ∈ [].head?, isSpace c = false from nofun)
      rwa [List.append_nil] at none
    rw [List.append_assoc, document_eq ((inside.leads.append after).unmarked blank),
      (inside.leads.append after).skipSpace_eq blank, inside.readBack _ _ _ ends]
    · dsimp only [Except.bind]
      rw [blankEnd]
    · simp only [List.length_append]
      omega

theorem document_longInteger_iff {digits : Nat} :
    document limit cs = .error (.longInteger digits) ↔ MeetsLongInteger limit cs digits := by
  constructor
  · intro read
    have told := @document_sound limit cs
    rwa [read] at told
  · rintro ⟨negative, lead, positive, long, ends⟩
    rename_i room before after whole
    obtain ⟨c, others, letters, begins⟩ := @Whole.beginPlain negative whole [] positive
    rw [List.append_nil] at letters
    rw [List.append_assoc]
    refine lead.document_error ?_ fun bound enough => ?_
    · rw [letters]
      exact leads_of_beginsPlain begins
    · obtain ⟨bound, rfl, -⟩ := exists_succ enough
      have read := @plainValue_long after negative whole positive long ends
      rw [letters] at read ⊢
      exact (value_of_beginsPlain begins room bound).trans read

theorem document_overNested_iff :
    document limit cs = .error .overNested ↔ MeetsNesting limit cs := by
  constructor
  · intro read
    have told := @document_sound limit cs
    rwa [read] at told
  · rintro ⟨lead, opens⟩
    refine lead.document_error (leads_of_mark ?_) fun bound enough => ?_
    · rcases opens with rfl | rfl <;> decide
    · obtain ⟨bound, rfl, -⟩ := exists_succ enough
      rcases opens with rfl | rfl <;> rfl

section

variable {t : Text}

theorem readWithin_eq_ok_iff {v : Json} : readWithin limit t = .ok v ↔ Document limit t.codes v := by
  rw [← document_eq_ok_iff]
  unfold readWithin
  cases document limit t.codes with
  | ok w => simp [Except.mapError]
  | error stop => exact ⟨nofun, nofun⟩

theorem readWithin_longInteger_iff {digits : Nat} :
    readWithin limit t = .error (.longInteger digits) ↔ MeetsLongInteger limit t.codes digits := by
  rw [← document_longInteger_iff]
  unfold readWithin
  cases document limit t.codes with
  | ok w => exact ⟨nofun, nofun⟩
  | error stop => cases stop <;> simp [Except.mapError, Stop.located]

theorem readWithin_overNested_iff :
    readWithin limit t = .error .overNested ↔ MeetsNesting limit t.codes := by
  rw [← document_overNested_iff]
  unfold readWithin
  cases document limit t.codes with
  | ok w => exact ⟨nofun, nofun⟩
  | error stop => cases stop <;> simp [Except.mapError, Stop.located]

end

theorem Denotes.members_close {ms : List (Text × Json)} (denotes : Denotes room cs (.members ms)) :
    ∃ front, cs = front ++ [.char '\x7d'] := by
  generalize same : Content.members ms = content at denotes
  induction denotes generalizing ms with
  | lastMember _ _ _ closed =>
      cases closed
      exact ⟨_, (List.append_assoc ..).symm⟩
  | nextMember _ _ _ _ _ _ ih =>
      obtain ⟨front, rfl⟩ := ih rfl
      exact ⟨_, (List.append_assoc ..).symm⟩
  | _ => cases same

/-- An object stands between its marks. -/
theorem Denotes.object_marks {ms : List (Text × Json)} (denotes : Denotes room cs (.value (.obj ms))) :
    ∃ rest front, cs = .char '\x7b' :: rest ∧ cs = front ++ [.char '\x7d'] := by
  generalize same : Json.obj ms = v at denotes
  cases denotes with
  | word listed =>
      subst same
      simp [words] at listed
  | number numeral =>
      subst same
      cases numeral
  | noMembers opened =>
      obtain ⟨rest, rfl⟩ := opened.front
      exact ⟨_, _, rfl, rfl⟩
  | object opened inside =>
      obtain ⟨rest, rfl⟩ := opened.front
      obtain ⟨front, rfl⟩ := inside.members_close
      exact ⟨_, _, rfl, (List.append_assoc ..).symm⟩
  | _ => cases same

end ClusterStack.Json
