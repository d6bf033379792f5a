import ClusterStack.Proofs.Cluster.Network
import ClusterStack.Proofs.Image.Metadata
/-!
# The image that a creation chooses

A creation that is given no image submits the one that is recommended for the type of instance that it
submits. It is submitted in the words that the answer shows it with, which is more than the texts of
images: a void image is one with the name `None`.
-/
namespace ClusterStack.Cluster

open Image (HoldsImage HoldsNesting NamesArm OfFamily OfGraphicsFamily Variant recommendationCall)
open Stack (ParameterKey)

namespace CreationOptions

theorem instanceType_mem {o : CreationOptions} {size : Option Nat} {cluster : String}
    {image : Option Text} {given : Text} :
    (.instanceType, given) ∈ o.values cluster size image ↔
      given = Text.ofString (o.instanceType.getD "") ∧ o.instanceType.getD "" ≠ "" := by
  have stated : (.instanceType, given) ∈ o.values cluster size image ↔
      (nonempty? o.instanceType).map Text.ofString = some given := by
    simp [values, CreationOptions.stated]
  have absent : none ≠ some given := (Option.some_ne_none given).symm
  rw [stated]
  cases o.instanceType with
  | none => exact iff_of_false absent fun both => both.2 rfl
  | some type =>
      by_cases empty : type = ""
      · subst empty
        exact iff_of_false absent fun both => both.2 rfl
      · have kept : nonempty? (some type) = some type := Option.filter_some_pos (bne_iff_ne.mpr empty)
        rw [kept, Option.map_some, Option.some_inj, Option.getD_some]
        exact ⟨fun same => ⟨same.symm, empty⟩, fun both => both.1.symm⟩

end CreationOptions

namespace Operator

variable {operator : Operator}

/-- The image of a creation is given, or has been recommended for the type of the options. -/
theorem plays_create_recommended {template : Except Failure String}
    (atHand : operator.template = .ofExcept template) {o : CreationOptions} {profile : Option String}
    (images : operator.images = .recommended o.instanceType profile) {es : List Exchange}
    {outcome : Outcome Text} (h : (operator.create o).Plays es outcome) {e : Exchange} (member : e ∈ es)
    (asks : e.call.operation = "create-stack") : ∃ body size image, Sized o size ∧
      e.call = submissionCall operator.stack body (o.values operator.config.cluster size image) ∧
      (image = none ↔ nonempty? o.image ≠ none) ∧ ∀ id, image = some id → ∃ region reply,
        nonempty? operator.config.region = some region ∧
        ⟨recommendationCall o.instanceType profile region, reply⟩ ∈ es ∧
        Image.readRecommended (Variant.ofInstanceType (o.instanceType.getD "")).parameter region reply =
          .ok id := by
  obtain ⟨described, looked, founded, others, body, size, image, shape, -, sized, chosen, call, -⟩ :=
    plays_create_course atHand h member asks
  refine ⟨body, size, image, sized, call, ?_⟩
  cases chosen with
  | given given => exact ⟨iff_of_true rfl given, nofun⟩
  | found absent here asked =>
      refine ⟨iff_of_false nofun (not_not_intro absent), ?_⟩
      intro id same
      cases same
      rw [images] at asked
      obtain ⟨reply, rfl, ended⟩ := Image.plays_recommended asked
      refine ⟨_, reply, here, ?_, ?_⟩
      · rw [shape]
        exact List.mem_cons_of_mem _ List.mem_cons_self
      · cases read : Image.readRecommended _ _ reply with
        | ok id =>
            rw [read] at ended
            cases ended
            rfl
        | error failure =>
            rw [read] at ended
            cases ended

/-- The Arm image is chosen for the types that have its family with a known size somewhere in them, the
image for graphics processors for the other types that begin with one of their families, and the common
one for all others. It fits the family of the type exactly where the search for the Arm family agrees
with the beginning of the type. Whatever is replied, a creation that is given no image submits the one
that it was told of for the type of instance that it submits. -/
theorem creation_chooses_image {σ : Type} (config : Config) (profile : Option String)
    (template : Except Failure String) (pages : Nat) (o : CreationOptions) (backend : Backend σ)
    (s : σ) :
    let type := o.instanceType.getD ""
    let variant := Variant.ofInstanceType type
    let operator : Operator :=
      ⟨config, .recommended o.instanceType profile, .ofExcept template, pages⟩
    let es := (operator.create o).exchanges backend s
    (variant = .arm ↔ NamesArm type) ∧
    (variant = .graphics ↔ ¬NamesArm type ∧ OfGraphicsFamily type) ∧
    (variant = .common ↔ ¬NamesArm type ∧ ¬OfGraphicsFamily type) ∧
    (variant.Fits type ↔ (OfFamily "a1." type ↔ NamesArm type)) ∧
    (Image.chooseParameter o.instanceType).run backend s = ⟨.done variant.parameter,
      variant.name?.toList.map fun name =>
        .logged .info s!"Using {name} ecs-optimized AMI because instance type was {type}", s⟩ ∧
    ∀ e ∈ es, e.call.operation = "create-stack" → ∃ body size image, Sized o size ∧
      e.call = submissionCall operator.stack body (o.values config.cluster size image) ∧
      (∀ given, (.instanceType, given) ∈ o.values config.cluster size image ↔
        given = Text.ofString type ∧ type ≠ "") ∧
      (image = none ↔ nonempty? o.image ≠ none) ∧
      ∀ id, image = some id → ∃ region reply, nonempty? config.region = some region ∧
        ⟨⟨"ssm", "get-parameter", [.str "--name", .str variant.parameter], some region, profile⟩,
          reply⟩ ∈ es ∧
        Image.readRecommended variant.parameter region reply = .ok id := by
  intro type variant operator es
  refine ⟨Variant.ofInstanceType_arm_iff, Variant.ofInstanceType_graphics_iff,
    Variant.ofInstanceType_common_iff, Variant.fits_ofInstanceType_iff,
    Image.run_chooseParameter backend o.instanceType s, fun e member asks => ?_⟩
  obtain ⟨body, size, image, sized, call, chosen⟩ := plays_create_recommended rfl rfl
    (Program.plays_run backend (operator.create o) s) member asks
  exact ⟨body, size, image, sized, call, fun given => CreationOptions.instanceType_mem, chosen⟩

def armInstances : CreationOptions :=
  { threeInstances with size := none, instanceType := some "a1.large" }

def armImage : Aws.Script :=
  freshCluster ++ [("get-parameter", [.answering (.obj (Image.holding (.str "ami-1"))) 1])]

/-- For a large instance of the Arm family, the image for Arm is asked for and submitted. -/
theorem armInstances_submitted :
    let operator : Operator :=
      ⟨demoOperator.config, .recommended armInstances.instanceType none, .ofExcept (.ok ""), 1⟩
    let es := (operator.create armInstances).exchanges Aws.scripted armImage
    ∃ e ∈ es, ∃ body id reply, e.call = submissionCall operator.stack body
        [(.instanceType, "a1.large"), (.keyPair, "key"), (.cluster, "demo"), (.publicAddress, "false"),
          (.image, id)] ∧
      ⟨⟨"ssm", "get-parameter", [.str "--name", .str Variant.arm.parameter], some "us-east-1", none⟩,
        reply⟩ ∈ es ∧
      Image.readRecommended Variant.arm.parameter "us-east-1" reply = .ok id := by
  intro operator es
  have fourth : (es[3]?.map fun e => e.call.operation) = some "create-stack" := by decide +kernel
  obtain ⟨e, found, asks⟩ := Option.map_eq_some_iff.mp fourth
  have member := List.mem_of_getElem? found
  obtain ⟨arm, -, -, -, -, submits⟩ :=
    creation_chooses_image demoOperator.config none (.ok "") 1 armInstances Aws.scripted armImage
  obtain ⟨body, size, image, sized, call, -, absent, asked⟩ := submits e member asks
  have variant : Variant.ofInstanceType "a1.large" = .arm := by decide
  cases sized with
  | given present => cases present
  | notGiven =>
      cases image with
      | none => exact absurd rfl (absent.mp rfl)
      | some id =>
          obtain ⟨region, reply, here, answered, read⟩ := asked id rfl
          cases here
          refine ⟨e, member, body, id, reply, call, ?_, ?_⟩
          · exact variant ▸ answered
          · exact variant ▸ read

/-- Bare metal of the Arm family gets the common image, and a type of another family that contains the
name of the family gets the Arm one. -/
theorem metalArm_common :
    OfFamily "a1." "a1.metal" ∧ Image.chooseParameter (some "a1.metal") = pure Variant.common.parameter ∧
    ¬OfFamily "a1." "xa1.large" ∧ Variant.ofInstanceType "xa1.large" = .arm := by
  exact ⟨by decide, rfl, by decide, by decide⟩

/-- Where a text of an object with an image is held, that is told of in the words of the value, and
otherwise the recommendation is an unexpected one, except with one nesting too many. Whatever is replied,
a creation submits the words of an image that the answer for its type of instance holds. -/
theorem creation_submits_held_image {σ : Type} (config : Config) (profile : Option String)
    (template : Except Failure String) (pages : Nat) (o : CreationOptions) (backend : Backend σ)
    (s : σ) :
    let source : Image.Source := .recommended o.instanceType profile
    let operator : Operator := ⟨config, source, .ofExcept template, pages⟩
    let es := (operator.create o).exchanges backend s
    (∀ region output errors members,
      (backend s (recommendationCall o.instanceType profile region)).1 = .exited 0 output errors →
      Aws.Prints output members →
      let outcome := ((source.find region).run backend s).outcome
      (∀ id, outcome = .done id ↔ ∃ image, HoldsImage members image ∧ id = image.asText) ∧
      (outcome = .failed .overNested ↔ HoldsNesting members) ∧
      ((¬∃ image, HoldsImage members image) → ¬HoldsNesting members → ∃ problem,
        outcome = .failed (.image (.unexpectedRecommendation
          (Variant.ofInstanceType (o.instanceType.getD "")).parameter problem)))) ∧
    ∀ e ∈ es, e.call.operation = "create-stack" → ∃ body size image,
      e.call = submissionCall operator.stack body (o.values config.cluster size image) ∧
      (image = none ↔ nonempty? o.image ≠ none) ∧
      ∀ id, image = some id → ∃ region output errors members held,
        ⟨recommendationCall o.instanceType profile region, .exited 0 output errors⟩ ∈ es ∧
        Aws.Prints output members ∧ HoldsImage members held ∧ id = held.asText := by
  intro source operator es
  refine ⟨fun region output errors members replied prints => ?_, fun e member asks => ?_⟩
  · rw [Image.run_recommended, replied]
    dsimp only
    simp only [Outcome.ofExcept_eq_done_iff, Outcome.ofExcept_eq_failed_iff]
    exact Image.readRecommended_cases prints
  · obtain ⟨body, size, image, -, call, given, chosen⟩ := plays_create_recommended rfl rfl
      (Program.plays_run backend (operator.create o) s) member asks
    refine ⟨body, size, image, call, given, fun id same => ?_⟩
    obtain ⟨region, reply, -, answered, read⟩ := chosen id same
    obtain ⟨output, errors, members, held, rfl, prints, holds, words⟩ :=
      Image.exists_of_readRecommended read
    exact ⟨region, output, errors, members, held, answered, prints, holds, words⟩

/-- Every call is answered so. -/
def alwaysAnswering (answer : List (Text × Json)) : Backend Unit :=
  fun u _ => (.exited 0 (Stack.bytes (Json.obj answer).toText) [], u)

theorem namedImage_found :
    let answer := Image.holding (.str "ami-1")
    HoldsImage answer (.str "ami-1") ∧
    (((Image.Source.recommended none none).find "us-east-1").run (alwaysAnswering answer) ()).outcome =
      .done "ami-1" := by
  intro answer
  have held : HoldsImage answer (.str "ami-1") :=
    (Image.holdsImage_holding_iff (.str 974 "ami-1")).mpr rfl
  have prints := Aws.prints_toText (Image.legible_holding (.str "ami-1"))
  obtain ⟨found, -⟩ := creation_submits_held_image demoOperator.config none (.ok "") 1 threeInstances
    (alwaysAnswering answer) ()
  exact ⟨held, ((found "us-east-1" _ _ _ rfl prints).1 "ami-1").mpr ⟨.str "ami-1", held, rfl⟩⟩

/-- A void image is told of as one with the name `None`. -/
theorem voidImage_named :
    let answer := Image.holding .null
    (∀ name : Text, ¬HoldsImage answer (.str name)) ∧
    (((Image.Source.recommended none none).find "us-east-1").run (alwaysAnswering answer) ()).outcome =
      .done "None" := by
  intro answer
  have held {image : Json} := @Image.holdsImage_holding_iff .null image (.null 974)
  refine ⟨fun name named => ?_, ?_⟩
  · cases held.mp named
  · have prints := Aws.prints_toText (Image.legible_holding .null)
    rw [Image.run_recommended, Outcome.ofExcept_eq_done_iff]
    exact ((Image.readRecommended_cases prints).1 "None").mpr ⟨.null, held.mpr rfl, rfl⟩

end Operator

end ClusterStack.Cluster
