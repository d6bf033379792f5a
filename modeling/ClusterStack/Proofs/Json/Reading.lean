import ClusterStack.Proofs.Json.Parts
import ClusterStack.Proofs.Json.PlainValues
/-!
# What the reader tells

Whatever the reader takes off a text denotes what it answers. Where it stops for an integer that is too
long or for one nesting too many, the text is in order up to there.
-/
namespace ClusterStack.Json

open Text (Code)

/-- What the text meets, where reading stops so. A text that is out of order is left open. -/
def Meets (limit : Nat) (cs : List Code) : Stop → Prop
  | .unexpected _ _ => True
  | .longInteger digits => MeetsLongInteger limit cs digits
  | .overNested => MeetsNesting limit cs

/-- What comes of reading at a place with so much room. -/
inductive Reads {α : Type} (place : Place) (content : α → Content) (room : Nat) (cs : List Code) :
    Except Stop (α × List Code) → Prop
  | ok {a : α} {text rest : List Code} : Denotes room text (content a) → cs = text ++ rest →
      Reads place content room cs (.ok (a, rest))
  | stopped {stop : Stop} : (∀ limit before, LeadsTo limit place room before →
      Meets limit (before ++ cs) stop) → Reads place content room cs (.error stop)

section

variable {α : Type} {place : Place} {content : α → Content} {room : Nat} {cs : List Code}

theorem Reads.unexpected {what : Expectation} {left : Nat} :
    Reads place content room cs (.error (.unexpected what left)) := .stopped fun _ _ _ => trivial

/-- Reading goes on from one place to another one, behind some text. -/
theorem Reads.bind {β : Type} {place' : Place} {content' : β → Content} {room' : Nat}
    {r : Except Stop (β × List Code)} {next : β × List Code → Except Stop (α × List Code)}
    (inner : Reads place' content' room' cs r) (front : List Code)
    (leads : ∀ limit before, LeadsTo limit place room before →
      LeadsTo limit place' room' (before ++ front))
    (further : ∀ b text rest, Denotes room' text (content' b) → cs = text ++ rest →
      Reads place content room (front ++ cs) (next (b, rest))) :
    Reads place content room (front ++ cs) (r.bind next) := by
  cases inner with
  | ok inner shape => exact further _ _ _ inner shape
  | stopped meets =>
      refine .stopped fun limit before lead => ?_
      rw [← List.append_assoc]
      exact meets limit _ (leads limit before lead)

/-- Reading goes on to another place, and what is read there is a part of the answer. -/
theorem Reads.map {β : Type} {place' : Place} {content' : β → Content} {room' : Nat}
    {r : Except Stop (β × List Code)} {f : β → α} (inner : Reads place' content' room' cs r)
    (front : List Code)
    (leads : ∀ limit before, LeadsTo limit place room before →
      LeadsTo limit place' room' (before ++ front))
    (denotes : ∀ text b, Denotes room' text (content' b) → Denotes room (front ++ text) (content (f b))) :
    Reads place content room (front ++ cs) (r.map fun (b, rest) => (f b, rest)) := by
  have bound : (r.map fun (b, rest) => (f b, rest)) = r.bind fun (b, rest) => .ok (f b, rest) := by
    cases r <;> rfl
  rw [bound]
  refine inner.bind front leads fun b text rest inside shape => .ok (denotes text b inside) ?_
  rw [shape, List.append_assoc]

end

theorem exists_skipSpace (cs : List Code) : ∃ before, cs = before ++ skipSpace cs ∧ Space before :=
  ⟨cs.takeWhile isSpace, List.takeWhile_append_dropWhile.symm, fun _ => List.mem_takeWhile_imp⟩

theorem reads_plainValue (room : Nat) (cs : List Code) :
    Reads .value .value room cs (plainValue cs) := by
  have told := plainReading cs
  generalize plainValue cs = r at told ⊢
  cases told with
  | word listed shape => exact .ok (.word listed) shape
  | numeral numeral shape => exact .ok (.number numeral) shape
  | long positive long ends shape =>
      refine .stopped fun limit before lead => ?_
      rw [shape, ← List.append_assoc]
      exact .at _ lead positive long ends
  | unexpected => exact .unexpected

/-- With so much of the bound left, the reader tells no more than what stands there. -/
structure Sound (bound : Nat) : Prop where
  value : ∀ room cs, Reads .value .value room cs (value room bound cs)
  items : ∀ room cs, Reads .items .items room cs (items room bound cs)
  members : ∀ room cs, Reads .members .members room cs (members room bound cs)

theorem sound_zero : Sound 0 where
  value _ _ := .unexpected
  items _ _ := .unexpected
  members _ cs := by
    unfold Json.members
    exact .unexpected

section

variable {bound : Nat}

theorem Sound.value_succ (sound : Sound bound) (room : Nat) (cs : List Code) :
    Reads .value .value room cs (Json.value room (bound + 1) cs) := by
  unfold Json.value
  split
  · exact .unexpected
  · rename_i rest _
    cases read : textAfterMark rest with
    | ok r =>
        obtain ⟨t, left⟩ := r
        obtain ⟨quoted, named, shape⟩ := textAfterMark_eq_ok_iff.mp read
        exact .ok (.text named) shape
    | error stop =>
        obtain ⟨what, left, rfl⟩ := textAfterMark_error read
        exact .unexpected
  · rename_i rest same
    cases same
    cases room with
    | zero => exact .stopped fun limit before lead => .at lead (.inl rfl)
    | succ room =>
        obtain ⟨space, shape, blank⟩ := exists_skipSpace rest
        rw [if_neg (by simp)]
        generalize skipSpace rest = left at shape ⊢
        subst shape
        split
        · refine .ok (.noItems (.before blank)) ?_
          simp only [List.cons_append, List.append_assoc, List.nil_append]
        · exact (sound.items room left).map (.char '[' :: space)
            (fun limit before lead => .array lead (.before blank))
            fun text vs inside => .array (.before blank) inside
  · rename_i rest same
    cases same
    cases room with
    | zero => exact .stopped fun limit before lead => .at lead (.inr rfl)
    | succ room =>
        obtain ⟨space, shape, blank⟩ := exists_skipSpace rest
        rw [if_neg (by simp)]
        generalize skipSpace rest = left at shape ⊢
        subst shape
        split
        · refine .ok (.noMembers (.before blank)) ?_
          simp only [List.cons_append, List.append_assoc, List.nil_append]
        · exact (sound.members room left).map (.char '\x7b' :: space)
            (fun limit before lead => .object lead (.before blank))
            fun text ms inside => .object (.before blank) inside
  · exact reads_plainValue room _

theorem Sound.items_succ (sound : Sound bound) (room : Nat) (cs : List Code) :
    Reads .items .items room cs (Json.items room (bound + 1) cs) := by
  unfold Json.items
  refine (sound.value room cs).bind [] (fun limit before lead => ?_) fun v text rest inside shape => ?_
  · rw [List.append_nil]
    exact lead.item
  obtain ⟨space, split, blank⟩ := exists_skipSpace rest
  dsimp only
  generalize skipSpace rest = left at split ⊢
  subst split shape
  split
  · rename_i rest'
    refine .ok (.lastItem inside (.after blank)) ?_
    simp only [List.nil_append, List.append_assoc, List.singleton_append]
  · rename_i rest'
    obtain ⟨space', split, blank'⟩ := exists_skipSpace rest'
    generalize skipSpace rest' = left' at split ⊢
    subst split
    have comma : Marked ',' (space ++ .char ',' :: space') := .between blank blank'
    have shape : [] ++ (text ++ (space ++ .char ',' :: (space' ++ left'))) =
        text ++ (space ++ .char ',' :: space') ++ left' := by
      simp only [List.nil_append, List.append_assoc, List.cons_append]
    rw [shape]
    refine (sound.items room left').bind _ (fun limit before lead => .nextItem lead inside comma)
      fun vs text' rest more shape => .ok (.nextItem inside comma more) ?_
    rw [shape, ← List.append_assoc]
  · exact .unexpected

/-- Behind the value of a member, the object ends or goes on with another one. -/
theorem Sound.afterMember (sound : Sound bound) {room : Nat} {quoted colon text cs rest : List Code}
    {name : Text} {v : Json} (named : Quoted quoted name) (marked : Marked ':' colon)
    (inside : Denotes room text (.value v)) (shape : cs = text ++ rest) :
    Reads .members .members room (quoted ++ colon ++ cs) (match skipSpace rest with
      | .char '\x7d' :: rest => .ok ([(name, v)], rest)
      | .char ',' :: rest => do
        let (ms, rest) ← Json.members room bound (skipSpace rest)
        .ok ((name, v) :: ms, rest)
      | rest => .error (.unexpected .comma rest.length)) := by
  obtain ⟨space, split, blank⟩ := exists_skipSpace rest
  generalize skipSpace rest = left at split ⊢
  subst split shape
  split
  · rename_i rest'
    refine .ok (.lastMember named marked inside (.after blank)) ?_
    simp only [List.append_assoc, List.singleton_append]
  · rename_i rest'
    obtain ⟨space', split, blank'⟩ := exists_skipSpace rest'
    generalize skipSpace rest' = left' at split ⊢
    subst split
    have comma : Marked ',' (space ++ .char ',' :: space') := .between blank blank'
    have shape : quoted ++ colon ++ (text ++ (space ++ .char ',' :: (space' ++ left'))) =
        quoted ++ colon ++ text ++ (space ++ .char ',' :: space') ++ left' := by
      simp only [List.append_assoc, List.cons_append]
    rw [shape]
    refine (sound.members room left').bind _
      (fun limit before lead => .nextMember lead named marked inside comma)
      fun ms text' rest more shape => .ok (.nextMember named marked inside comma more) ?_
    rw [shape, ← List.append_assoc]
  · exact .unexpected

theorem Sound.members_succ (sound : Sound bound) (room : Nat) (cs : List Code) :
    Reads .members .members room cs (Json.members room (bound + 1) cs) := by
  unfold Json.members
  split
  · exact .unexpected
  · rename_i rest same
    cases same
    cases read : textAfterMark rest with
    | error stop =>
        obtain ⟨what, left, rfl⟩ := textAfterMark_error read
        exact .unexpected
    | ok r =>
        obtain ⟨name, rest'⟩ := r
        obtain ⟨quoted, named, shape⟩ := textAfterMark_eq_ok_iff.mp read
        rw [shape]
        dsimp only [bind, Except.bind]
        obtain ⟨space, split, blank⟩ := exists_skipSpace rest'
        generalize skipSpace rest' = left at split ⊢
        subst split
        split
        · rename_i rest''
          obtain ⟨space', split, blank'⟩ := exists_skipSpace rest''
          generalize skipSpace rest'' = inner at split ⊢
          subst split
          have colon : Marked ':' (space ++ .char ':' :: space') := .between blank blank'
          have shape : quoted ++ (space ++ .char ':' :: (space' ++ inner)) =
              quoted ++ (space ++ .char ':' :: space') ++ inner := by
            simp only [List.append_assoc, List.cons_append]
          rw [shape]
          refine (sound.value room inner).bind _ (fun limit before lead => .member lead named colon)
            fun v text rest inside split => ?_
          exact sound.afterMember named colon inside split
        · exact .unexpected
  · exact .unexpected

end

theorem sound_bound (bound : Nat) : Sound bound := by
  induction bound with
  | zero => exact sound_zero
  | succ bound ih => exact ⟨ih.value_succ, ih.items_succ, ih.members_succ⟩

end ClusterStack.Json
