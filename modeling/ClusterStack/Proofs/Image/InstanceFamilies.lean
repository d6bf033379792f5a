import ClusterStack.Image
import ClusterStack.Proofs.Exchanges
import Mathlib.Data.List.Basic
import Mathlib.Data.List.TakeWhile
/-!
# The family of an instance type

The family of an instance type is what stands before its first point. The image for a type is chosen by
the beginning of the type for the families with graphics processors. For the Arm family it is chosen by
the name of the family with one of a few sizes after it, wherever that stands in the type: a type of
the family with another size gets the common image, and a type of another family may get the Arm one.
-/
namespace ClusterStack.Image

/-- A size that the Arm family is recognized by. -/
inductive KnownSize : List Char → Prop
  | medium : KnownSize "medium".toList
  | large {digits : List Char} : (∀ c ∈ digits, Text.isDecimalDigit c = true) →
      KnownSize (digits ++ "large".toList)
  | xlarge {digits : List Char} : (∀ c ∈ digits, Text.isDecimalDigit c = true) →
      KnownSize (digits ++ "xlarge".toList)

/-- Somewhere in the type stands the Arm family with a known size after it. -/
def NamesArm (type : String) : Prop :=
  ∃ before size after, KnownSize size ∧ type.toList = before ++ "a1.".toList ++ size ++ after

def OfFamily (family type : String) : Prop := family.toList <+: type.toList

instance (family type : String) : Decidable (OfFamily family type) :=
  inferInstanceAs (Decidable (_ <+: _))

def OfGraphicsFamily (type : String) : Prop := ∃ family ∈ graphicsFamilies, OfFamily family type

instance (type : String) : Decidable (OfGraphicsFamily type) :=
  inferInstanceAs (Decidable (∃ family ∈ graphicsFamilies, _))

/-- The image is made for the family that the type belongs to. -/
def Variant.Fits : Variant → String → Prop
  | .arm, type => OfFamily "a1." type
  | .graphics, type => OfGraphicsFamily type
  | .common, type => ¬OfFamily "a1." type ∧ ¬OfGraphicsFamily type

/-- A word after a number is found by skipping the number, if the word does not begin with a digit. -/
theorem afterNumber_iff {c : Char} {word cs : List Char} (other : Text.isDecimalDigit c = false) :
    (c :: word).isPrefixOf (cs.dropWhile Text.isDecimalDigit) = true ↔ ∃ digits after,
      (∀ d ∈ digits, Text.isDecimalDigit d = true) ∧ cs = digits ++ (c :: word) ++ after := by
  rw [List.isPrefixOf_iff_prefix]
  constructor
  · rintro ⟨after, shape⟩
    refine ⟨cs.takeWhile Text.isDecimalDigit, after, fun d => List.mem_takeWhile_imp, ?_⟩
    rw [List.append_assoc, shape, List.takeWhile_append_dropWhile]
  · rintro ⟨digits, after, number, rfl⟩
    rw [List.append_assoc, List.dropWhile_append_of_pos number, List.cons_append, List.dropWhile_cons,
      other, if_neg Bool.false_ne_true]
    exact List.prefix_append (c :: word) after

theorem startsWithSize_iff {cs : List Char} :
    startsWithSize cs = true ↔ ∃ size after, KnownSize size ∧ cs = size ++ after := by
  have large := @afterNumber_iff 'l' "arge".toList cs (by decide)
  have xlarge := @afterNumber_iff 'x' "large".toList cs (by decide)
  unfold startsWithSize
  rw [Bool.or_eq_true, Bool.or_eq_true, List.isPrefixOf_iff_prefix]
  constructor
  · rintro (⟨after, rfl⟩ | found | found)
    · exact ⟨_, after, .medium, rfl⟩
    · obtain ⟨digits, after, number, rfl⟩ := large.mp found
      exact ⟨_, after, .large number, rfl⟩
    · obtain ⟨digits, after, number, rfl⟩ := xlarge.mp found
      exact ⟨_, after, .xlarge number, rfl⟩
  · rintro ⟨size, after, known, rfl⟩
    cases known with
    | medium => exact .inl (List.prefix_append _ after)
    | large number => exact .inr (.inl (large.mpr ⟨_, after, number, rfl⟩))
    | xlarge number => exact .inr (.inr (xlarge.mpr ⟨_, after, number, rfl⟩))

theorem mentionsArm_iff {cs : List Char} : mentionsArm cs = true ↔
    ∃ before size after, KnownSize size ∧ cs = before ++ "a1.".toList ++ size ++ after := by
  induction cs with
  | nil =>
      refine ⟨nofun, ?_⟩
      rintro ⟨before, size, after, -, shape⟩
      cases before <;> cases shape
  | cons c rest ih =>
      rw [mentionsArm, Bool.or_eq_true, ih]
      refine (or_congr_left (b := ∃ size after, KnownSize size ∧
        c :: rest = "a1.".toList ++ (size ++ after)) ?_).trans ?_
      · constructor
        · intro found
          split at found
          · rename_i tail front
            obtain ⟨size, after, known, rfl⟩ := startsWithSize_iff.mp found
            exact ⟨size, after, known, (List.isPrefixOf?_eq_some_iff_append_eq.mp front).symm⟩
          · cases found
        · rintro ⟨size, after, known, shape⟩
          rw [List.isPrefixOf?_eq_some_iff_append_eq.mpr shape.symm]
          exact startsWithSize_iff.mpr ⟨size, after, known, rfl⟩
      constructor
      · rintro (⟨size, after, known, shape⟩ | ⟨before, size, after, known, rfl⟩)
        · exact ⟨[], size, after, known, shape⟩
        · exact ⟨c :: before, size, after, known, rfl⟩
      · rintro ⟨before, size, after, known, shape⟩
        cases before with
        | nil => exact .inl ⟨size, after, known, shape⟩
        | cons d before =>
            obtain ⟨-, rfl⟩ := List.cons.inj shape
            exact .inr ⟨before, size, after, known, rfl⟩

theorem ofGraphicsFamily_iff {type : String} :
    (graphicsFamilies.any fun family => family.toList.isPrefixOf type.toList) = true ↔
      OfGraphicsFamily type := by
  simp only [List.any_eq_true, List.isPrefixOf_iff_prefix]
  rfl

/-- The Arm family has no graphics processors. -/
theorem OfGraphicsFamily.not_arm {type : String} (graphics : OfGraphicsFamily type) :
    ¬OfFamily "a1." type := by
  rintro ⟨rest, arm⟩
  obtain ⟨family, listed, rest', shape⟩ := graphics
  rw [← arm] at shape
  simp only [graphicsFamilies, List.mem_cons, List.not_mem_nil, or_false] at listed
  rcases listed with rfl | rfl | rfl <;> cases shape

namespace Variant

variable {type : String}

theorem ofInstanceType_arm_iff : ofInstanceType type = .arm ↔ NamesArm type := by
  unfold NamesArm
  rw [← mentionsArm_iff, ofInstanceType]
  split
  · rename_i named
    exact iff_of_true rfl named
  · rename_i unnamed
    refine iff_of_false ?_ unnamed
    split <;> exact nofun

theorem ofInstanceType_of_not_namesArm (unnamed : ¬NamesArm type) : ofInstanceType type =
    if OfGraphicsFamily type then .graphics else .common := by
  unfold NamesArm at unnamed
  rw [ofInstanceType, if_neg (mt mentionsArm_iff.mp unnamed)]
  exact if_congr ofGraphicsFamily_iff rfl rfl

theorem ofInstanceType_graphics_iff :
    ofInstanceType type = .graphics ↔ ¬NamesArm type ∧ OfGraphicsFamily type := by
  by_cases named : NamesArm type
  · rw [ofInstanceType_arm_iff.mpr named]
    exact iff_of_false nofun fun both => both.1 named
  · rw [ofInstanceType_of_not_namesArm named]
    split
    · rename_i graphics
      exact iff_of_true rfl ⟨named, graphics⟩
    · rename_i plain
      exact iff_of_false nofun fun both => plain both.2

theorem ofInstanceType_common_iff :
    ofInstanceType type = .common ↔ ¬NamesArm type ∧ ¬OfGraphicsFamily type := by
  by_cases named : NamesArm type
  · rw [ofInstanceType_arm_iff.mpr named]
    exact iff_of_false nofun fun both => both.1 named
  · rw [ofInstanceType_of_not_namesArm named]
    split
    · rename_i graphics
      exact iff_of_false nofun fun both => both.2 graphics
    · rename_i plain
      exact iff_of_true rfl ⟨named, plain⟩

/-- The chosen image fits the types for which the search in the text agrees with its beginning. -/
theorem fits_ofInstanceType_iff :
    (ofInstanceType type).Fits type ↔ (OfFamily "a1." type ↔ NamesArm type) := by
  by_cases named : NamesArm type
  · rw [ofInstanceType_arm_iff.mpr named]
    exact (iff_true_right named).symm
  · rw [ofInstanceType_of_not_namesArm named]
    split
    · rename_i graphics
      exact iff_of_true graphics (iff_of_false graphics.not_arm named)
    · rename_i plain
      rw [iff_false_right named]
      exact and_iff_left plain

end Variant

theorem run_chooseParameter {σ : Type} (backend : Backend σ) (instanceType : Option String) (s : σ) :
    let type := instanceType.getD ""
    let variant := Variant.ofInstanceType type
    (chooseParameter instanceType).run backend s = ⟨.done variant.parameter,
      variant.name?.toList.map fun name =>
        .logged .info s!"Using {name} ecs-optimized AMI because instance type was {type}", s⟩ := by
  unfold chooseParameter
  dsimp only
  generalize Variant.ofInstanceType (instanceType.getD "") = variant
  cases variant <;> rfl

/-- The call for the image that is recommended for a type. -/
def recommendationCall (instanceType profile : Option String) (region : String) : Invocation :=
  (Aws.Access.mk (some region) profile).invocation "ssm" "get-parameter"
    [.str "--name", .str (Variant.ofInstanceType (instanceType.getD "")).parameter]

theorem plays_recommended {instanceType profile : Option String} {region : String} {es : List Exchange}
    {outcome : Outcome Text} (h : ((Source.recommended instanceType profile).find region).Plays es outcome) :
    ∃ reply, es = [⟨recommendationCall instanceType profile region, reply⟩] ∧ outcome = .ofExcept
      (readRecommended (Variant.ofInstanceType (instanceType.getD "")).parameter region reply) := by
  unfold Source.find chooseParameter at h
  dsimp only at h
  unfold recommendationCall
  generalize Variant.ofInstanceType (instanceType.getD "") = variant at h ⊢
  cases variant with
  | common => exact Program.plays_request.mp h
  | arm => exact Program.plays_request.mp h
  | graphics => exact Program.plays_request.mp h

end ClusterStack.Image
