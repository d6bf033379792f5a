import ClusterStack.Proofs.Aws.Outcomes
import ClusterStack.Proofs.Image.InstanceFamilies
/-!
# What is known of the recommended image

The answer holds a text, and the text holds an object with the image under its name. Whatever value is
there is taken for the image, in the words that it is shown with. Where any of this is missing or of
another kind, the recommendation is an unexpected one.
-/
namespace ClusterStack.Image

open Json (Document Legible MeetsNesting nestingLimit member? withNames)

/-- The answer holds this text as the value of the parameter. -/
def HoldsText (answer : List (Text × Json)) (text : Text) : Prop :=
  ∃ parameter, member? answer "Parameter" = some (.obj parameter) ∧
    member? parameter "Value" = some (.str text)

/-- The text that the answer holds is that of an object with this image. -/
def HoldsImage (answer : List (Text × Json)) (id : Json) : Prop :=
  ∃ text object, HoldsText answer text ∧ Document nestingLimit text.codes (.obj object) ∧
    member? object "image_id" = some id

/-- The text that the answer holds is nested too deeply, and in order up to there. -/
def HoldsNesting (answer : List (Text × Json)) : Prop :=
  ∃ text, HoldsText answer text ∧ MeetsNesting nestingLimit text.codes

theorem required_eq_ok_iff {v part : Json} {name : String} : Aws.Answer.required v name = .ok part ↔
    ∃ members, v = .obj members ∧ member? members name = some part := by
  unfold Aws.Answer.required
  constructor
  · intro read
    split at read
    · rename_i members
      cases found : member? members name with
      | none =>
          rw [found] at read
          cases read
      | some other =>
          rw [found] at read
          cases read
          exact ⟨members, rfl, found⟩
    all_goals cases read
  · rintro ⟨members, rfl, found⟩
    simp only [found]

theorem required_error {v : Json} {name : String} {failure : Failure}
    (unread : Aws.Answer.required v name = .error failure) : ∃ fault, failure = .data fault := by
  unfold Aws.Answer.required at unread
  split at unread
  · split at unread
    · cases unread
    · cases unread
      exact ⟨_, rfl⟩
  all_goals
    cases unread
    exact ⟨_, rfl⟩

section

variable {answer : List (Text × Json)}

theorem readMetadata_of_holdsText {text : Text} (held : HoldsText answer text) :
    readMetadata answer = (Json.read text).mapError .ofReadError := by
  obtain ⟨parameter, found, held⟩ := held
  have first := required_eq_ok_iff.mpr ⟨answer, rfl, found⟩
  have second := required_eq_ok_iff.mpr ⟨parameter, rfl, held⟩
  unfold readMetadata
  rw [first]
  change (Aws.Answer.required (.obj parameter) "Value").bind _ = _
  rw [second]
  rfl

theorem readMetadata_cases (answer : List (Text × Json)) :
    (∃ text, HoldsText answer text ∧ readMetadata answer = (Json.read text).mapError .ofReadError) ∨
      ∃ fault, readMetadata answer = .error (.data fault) := by
  unfold readMetadata
  cases first : Aws.Answer.required (.obj answer) "Parameter" with
  | error failure =>
      obtain ⟨fault, rfl⟩ := required_error first
      exact .inr ⟨fault, rfl⟩
  | ok parameter =>
      obtain ⟨_, ⟨rfl⟩, found⟩ := required_eq_ok_iff.mp first
      change (∃ text, _ ∧ (Aws.Answer.required parameter "Value").bind _ = _) ∨
        ∃ fault, (Aws.Answer.required parameter "Value").bind _ = _
      cases second : Aws.Answer.required parameter "Value" with
      | error failure =>
          obtain ⟨fault, rfl⟩ := required_error second
          exact .inr ⟨fault, rfl⟩
      | ok value =>
          obtain ⟨members, rfl, held⟩ := required_eq_ok_iff.mp second
          cases value with
          | str text => exact .inl ⟨text, ⟨members, found, held⟩, rfl⟩
          | _ => exact .inr ⟨_, rfl⟩

theorem readMetadata_eq_ok_iff {metadata : Json} : readMetadata answer = .ok metadata ↔
    ∃ text, HoldsText answer text ∧ Document nestingLimit text.codes metadata := by
  constructor
  · intro read
    rcases readMetadata_cases answer with ⟨text, held, told⟩ | ⟨fault, unread⟩
    · rw [told] at read
      cases parsed : Json.read text with
      | error e =>
          rw [parsed] at read
          cases read
      | ok v =>
          rw [parsed] at read
          cases read
          exact ⟨text, held, Json.readWithin_eq_ok_iff.mp parsed⟩
    · cases read.symm.trans unread
  · rintro ⟨text, held, document⟩
    have parsed : Json.read text = .ok metadata := Json.readWithin_eq_ok_iff.mpr document
    rw [readMetadata_of_holdsText held, parsed]
    rfl

theorem readMetadata_overNested_iff :
    readMetadata answer = .error .overNested ↔ HoldsNesting answer := by
  constructor
  · intro read
    rcases readMetadata_cases answer with ⟨text, held, told⟩ | ⟨fault, unread⟩
    · rw [told] at read
      cases parsed : Json.read text with
      | ok v =>
          rw [parsed] at read
          cases read
      | error e =>
          rw [parsed] at read
          cases e <;> cases read
          exact ⟨text, held, Json.readWithin_overNested_iff.mp parsed⟩
    · cases read.symm.trans unread
  · rintro ⟨text, held, nesting⟩
    have parsed : Json.read text = .error .overNested := Json.readWithin_overNested_iff.mpr nesting
    rw [readMetadata_of_holdsText held, parsed]
    rfl

theorem holdsImage_iff {image : Json} : HoldsImage answer image ↔ ∃ object,
    readMetadata answer = .ok (.obj object) ∧ member? object "image_id" = some image := by
  constructor
  · rintro ⟨text, object, held, document, found⟩
    exact ⟨object, readMetadata_eq_ok_iff.mpr ⟨text, held, document⟩, found⟩
  · rintro ⟨object, known, found⟩
    obtain ⟨text, held, document⟩ := readMetadata_eq_ok_iff.mp known
    exact ⟨text, object, held, document, found⟩

theorem readIdentifier_eq_ok_iff {id : Text} :
    readIdentifier answer = .ok id ↔ ∃ image, HoldsImage answer image ∧ id = image.asText := by
  constructor
  · intro read
    obtain ⟨metadata, known, read⟩ := ok_of_bind read
    obtain ⟨image, named, ⟨rfl⟩⟩ := ok_of_bind read
    obtain ⟨object, rfl, found⟩ := required_eq_ok_iff.mp named
    exact ⟨image, holdsImage_iff.mpr ⟨object, known, found⟩, rfl⟩
  · rintro ⟨image, held, rfl⟩
    obtain ⟨object, known, found⟩ := holdsImage_iff.mp held
    have named := required_eq_ok_iff.mpr ⟨object, rfl, found⟩
    unfold readIdentifier
    rw [known]
    change (Aws.Answer.required (.obj object) "image_id").bind _ = _
    rw [named]
    rfl

theorem readIdentifier_overNested_iff :
    readIdentifier answer = .error .overNested ↔ HoldsNesting answer := by
  rw [← readMetadata_overNested_iff]
  unfold readIdentifier
  constructor
  · intro unread
    rcases error_of_bind unread with nested | ⟨metadata, -, unread⟩
    · exact nested
    · rcases error_of_bind unread with missing | ⟨image, -, unread⟩
      · obtain ⟨fault, ⟨⟩⟩ := required_error missing
      · cases unread
  · intro nested
    rw [nested]
    rfl

/-- The answer with the text of an object that has this image. -/
def holding (image : Json) : List (Text × Json) :=
  withNames [("Parameter", .obj (withNames [("Value",
    .str (Text.ofString (Json.obj (withNames [("image_id", image)])).toText))]))]

theorem legible_holding (image : Json) : Legible nestingLimit (.obj (holding image)) := by
  have parameter (name text : String) : Legible 974 (.obj (withNames [(name, .str text)])) :=
    .obj (List.nodup_singleton _) (List.forall_mem_singleton.mpr (.str 973 text))
  exact .obj (List.nodup_singleton _) (List.forall_mem_singleton.mpr (parameter "Value" _))

theorem holdsImage_holding_iff {image other : Json} (legible : Legible 974 image) :
    HoldsImage (holding image) other ↔ other = image := by
  have object : Legible nestingLimit (.obj (withNames [("image_id", image)])) :=
    .obj (List.nodup_singleton _) (List.forall_mem_singleton.mpr legible)
  have known : readMetadata (holding image) = .ok (.obj (withNames [("image_id", image)])) := by
    rw [readMetadata_of_holdsText ⟨_, rfl, rfl⟩, Json.read, Json.readWithin_toText object]
    rfl
  rw [holdsImage_iff]
  constructor
  · rintro ⟨object, known', found⟩
    cases known.symm.trans known'
    exact (Option.some_inj.mp found).symm
  · rintro rfl
    exact ⟨_, known, rfl⟩

end

section

variable {parameter region : String} {output errors : List UInt8} {members : List (Text × Json)}

theorem readRecommended_of_prints (prints : Aws.Prints output members) :
    readRecommended parameter region (.exited 0 output errors) =
      (readIdentifier members).mapError fun failure =>
        match failure with
        | .overNested => .overNested
        | _ => .image (.unexpectedRecommendation parameter failure.message) := by
  have read : Aws.readReply "get-parameter" (.exited 0 output errors) = .ok members :=
    Aws.prints_iff.mp prints
  unfold readRecommended
  rewrite [read]
  rfl

/-- The image is told of in the words of the value that is held, whatever kind of value that is. Except
with one nesting too many, the recommendation is an unexpected one where no value is held. -/
theorem readRecommended_cases (prints : Aws.Prints output members) :
    (∀ id, readRecommended parameter region (.exited 0 output errors) = .ok id ↔
      ∃ image, HoldsImage members image ∧ id = image.asText) ∧
    (readRecommended parameter region (.exited 0 output errors) = .error .overNested ↔
      HoldsNesting members) ∧
    ((¬∃ image, HoldsImage members image) → ¬HoldsNesting members → ∃ problem,
      readRecommended parameter region (.exited 0 output errors) =
        .error (.image (.unexpectedRecommendation parameter problem))) := by
  rw [readRecommended_of_prints prints, ← readIdentifier_overNested_iff]
  have known (id : Text) := @readIdentifier_eq_ok_iff members id
  cases read : readIdentifier members with
  | ok id =>
      rw [read] at known
      refine ⟨fun other => known other, iff_of_false nofun nofun, fun unheld => ?_⟩
      obtain ⟨image, held, -⟩ := (known id).mp rfl
      exact absurd ⟨image, held⟩ unheld
  | error failure =>
      rw [read] at known
      have unheld (id : Text) : ¬∃ image, HoldsImage members image ∧ id = image.asText :=
        fun held => nomatch (known id).mpr held
      cases failure with
      | overNested =>
          exact ⟨fun id => iff_of_false nofun (unheld id), iff_of_true rfl rfl,
            fun _ flat => absurd rfl flat⟩
      | _ => exact ⟨fun id => iff_of_false nofun (unheld id), iff_of_false nofun nofun,
          fun _ _ => ⟨_, rfl⟩⟩

theorem exists_of_readRecommended {reply : Reply} {id : Text}
    (read : readRecommended parameter region reply = .ok id) :
    ∃ output errors members image, reply = .exited 0 output errors ∧ Aws.Prints output members ∧
      HoldsImage members image ∧ id = image.asText := by
  cases told : Aws.readReply "get-parameter" reply with
  | error failure =>
      unfold readRecommended at read
      rw [told] at read
      cases failure with
      | service e =>
          dsimp only at read
          split at read <;> cases read
      | _ => cases read
  | ok members =>
      obtain ⟨output, errors, rfl, prints⟩ := Aws.readReply_eq_ok_iff.mp told
      obtain ⟨image, held, same⟩ := ((readRecommended_cases prints).1 id).mp read
      exact ⟨output, errors, members, image, rfl, prints, held, same⟩

theorem run_recommended {σ : Type} (backend : Backend σ) (instanceType profile : Option String)
    (region : String) (s : σ) :
    (((Source.recommended instanceType profile).find region).run backend s).outcome =
      .ofExcept (readRecommended (Variant.ofInstanceType (instanceType.getD "")).parameter region
        (backend s (recommendationCall instanceType profile region)).1) := by
  unfold Source.find
  dsimp only
  rw [Program.run_bind, run_chooseParameter]
  dsimp only [Run.andThen]
  rw [Program.run_request]
  rfl

end

end ClusterStack.Image
