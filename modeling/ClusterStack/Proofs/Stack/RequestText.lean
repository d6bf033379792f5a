import ClusterStack.Proofs.Cluster.Methods
import ClusterStack.Proofs.Json.RoundTrip
import ClusterStack.Proofs.Template.Assignment
/-!
# The text of a set of parameters

A creation and an update submit a set as one text. Whoever reads the text gets back the list of the
request, and from the list the whole set: its keys, values and flags in their order. So no two sets
are submitted as the same text.
-/
namespace ClusterStack.Stack

open Template (itemKey? itemMember?)

namespace Parameters

/-- The set is built up by the operations on sets, with strings for its keys and values. -/
inductive Built : Parameters → Prop
  | empty : Built empty
  | add {set set' : Parameters} (built : Built set) (key value : String)
      (h : set.add key (.str value) = .ok set') : Built set'
  | addPrevious {set set' : Parameters} (built : Built set) (key : String) (flag : Bool)
      (h : set.addPrevious key (.bool flag) = .ok set') : Built set'

section

open Validation (nullable text Checked)

variable {set set' : Parameters} {key : String} {value flag : Json}

/-- The shape of a parameter is checked part by part. -/
theorem check_shape : Parameter.check
    (.obj [("key", .str key), ("value", value), ("use_previous_value", flag)]) =
      ((Checked.valid (Parameter.mk key)).both ((nullable text value).under (.member "value"))).both
        ((Validation.boolean flag).under (.member "use_previous_value")) := by
  have named : Validation.string (.str key) = .valid key :=
    congrArg Checked.valid (Text.toString_ofString key)
  change (((Validation.string (.str key)).under (.member "key")).map Parameter.mk
    |>.both ((nullable text value).under (.member "value"))
    |>.both ((Validation.boolean flag).under (.member "use_previous_value"))) = _
  rw [named]
  rfl

/-- A parameter is stored only under a key that is not blank, with a text or nothing for its value and a
truth value for its flag. -/
theorem store_ok (h : set.store key value flag = .ok set') : Text.isAllBlank key = false ∧
    ∃ given kept, nullable text value = .valid given ∧ Validation.boolean flag = .valid kept ∧
      set' = set.overwrite ⟨key, given, kept⟩ := by
  unfold store at h
  split at h
  · cases h
  · rename_i named
    simp only [readAs, check_shape] at h
    refine ⟨Bool.eq_false_iff.mpr named, ?_⟩
    cases read : nullable text value with
    | invalid issues =>
        rw [read] at h
        cases judged : Validation.boolean flag with
        | invalid more =>
            rw [judged] at h
            cases h
        | valid kept =>
            rw [judged] at h
            cases h
    | valid given =>
        rw [read] at h
        cases judged : Validation.boolean flag with
        | invalid more =>
            rw [judged] at h
            cases h
        | valid kept =>
            rw [judged] at h
            cases h
            exact ⟨given, kept, rfl, rfl, rfl⟩

theorem store_shape {given : Option Text} {kept : Bool} (read : nullable text value = .valid given)
    (h : set.store key value (.bool kept) = .ok set') :
    set' = set.overwrite ⟨key, given, kept⟩ := by
  obtain ⟨-, found, judged, read', ⟨⟩, rfl⟩ := store_ok h
  rw [read] at read'
  cases read'
  rfl

theorem built_put (built : set.Built) (key : ParameterKey) (value : String) :
    (set.put key value).Built := by
  refine .add built key.name value ?_
  have named : Text.isAllBlank key.name = false := by cases key <;> decide
  rw [add, store, named, if_neg Bool.false_ne_true]
  simp only [readAs, check_shape]
  rfl

theorem built_keeping {keys : List String} (h : keeping keys = .ok set) : set.Built := by
  have goes (keys : List String) (start : Parameters) (built : start.Built)
      (h : keys.foldlM (fun set key => set.addPrevious key (.bool true)) start = .ok set) :
      set.Built := by
    induction keys generalizing start with
    | nil =>
        cases h
        exact built
    | cons key keys ih =>
        rw [List.foldlM_cons] at h
        obtain ⟨next, first, others⟩ := ok_of_bind h
        exact ih next (.addPrevious built key true first) others
  exact goes keys empty .empty h

theorem built_keepingAll : keepingAll.Built := by
  have kept : keeping (ParameterKey.all.map ParameterKey.name) = .ok keepingAll := rfl
  exact built_keeping kept

end

/-- Every value in the set is a string. -/
def HasStrings (set : Parameters) : Prop :=
  ∀ p ∈ set.toList, ∀ value, p.value = some value → ∃ s : String, value = s

theorem mem_place {p q : Parameter} {items : List Parameter} (h : q ∈ place p items) :
    q = p ∨ q ∈ items := by
  induction items with
  | nil => exact .inl (List.mem_singleton.mp h)
  | cons r rest ih =>
      rw [place] at h
      split at h
      · exact (List.mem_cons.mp h).imp_right (List.mem_cons_of_mem r)
      · rcases List.mem_cons.mp h with rfl | later
        · exact .inr List.mem_cons_self
        · exact (ih later).imp_right (List.mem_cons_of_mem r)

theorem HasStrings.overwrite {set : Parameters} (h : set.HasStrings) {p : Parameter}
    (fits : ∀ value, p.value = some value → ∃ s : String, value = s) :
    (set.overwrite p).HasStrings := by
  intro q member
  rcases mem_place member with rfl | old
  · exact fits
  · exact h q old

theorem Built.hasStrings {set : Parameters} (built : Built set) : set.HasStrings := by
  induction built with
  | empty => exact nofun
  | add built key value h ih =>
      obtain rfl := store_shape rfl h
      refine ih.overwrite ?_
      rintro _ ⟨rfl⟩
      exact ⟨value, rfl⟩
  | addPrevious built key flag h ih =>
      obtain rfl := store_shape rfl h
      exact ih.overwrite nofun

theorem legible_parameter {p : Parameter}
    (fits : ∀ value, p.value = some value → ∃ s : String, value = s) (room : Nat) :
    Json.Legible (room + 1) p.toRequest := by
  have key : Json.Legible room (.str p.key) := .str room p.key
  have flag : Json.Legible room (.bool p.usePrevious) := .bool room p.usePrevious
  unfold Parameter.toRequest
  cases given : p.value with
  | none =>
      have distinct : ["ParameterKey", "UsePreviousValue"].Nodup := by decide
      refine @Json.Legible.obj room [("ParameterKey", _), ("UsePreviousValue", _)] distinct ?_
      simp only [List.forall_mem_cons]
      exact ⟨key, flag, nofun⟩
  | some value =>
      obtain ⟨s, rfl⟩ := fits value given
      have distinct : ["ParameterKey", "ParameterValue", "UsePreviousValue"].Nodup := by decide
      refine @Json.Legible.obj room
        [("ParameterKey", _), ("ParameterValue", _), ("UsePreviousValue", _)] distinct ?_
      simp only [List.forall_mem_cons]
      exact ⟨key, .str room s, flag, nofun⟩

theorem HasStrings.legible {set : Parameters} (h : set.HasStrings) (room : Nat) :
    Json.Legible (room + 2) (.arr set.toRequest) := by
  refine .arr fun item member => ?_
  obtain ⟨p, inside, rfl⟩ := List.mem_map.mp member
  exact legible_parameter (h p inside) room

theorem HasStrings.read_requestText {set : Parameters} (h : set.HasStrings) :
    Json.read set.requestText = .ok (.arr set.toRequest) :=
  Json.readWithin_toText (h.legible (Json.nestingLimit - 2))

theorem HasStrings.ascii_requestText {set : Parameters} (h : set.HasStrings) :
    ∀ c ∈ set.requestText.toList, c.toNat < 0x80 := by
  rw [requestText, Json.toText, String.toList_ofList]
  exact (h.legible 0).ascii

end Parameters

/-- The parameter that an item of a request stands for. -/
def Parameter.ofItem? (item : Json) : Option Parameter := do
  let key ← itemKey? item
  let value ← match itemMember? "ParameterValue" item with
    | none => some none
    | some value => value.text?.map some
  match itemMember? "UsePreviousValue" item with
  | some (.bool flag) => some ⟨key.toString, value, flag⟩
  | _ => none

theorem Parameter.ofItem_toRequest (p : Parameter) : ofItem? p.toRequest = some p := by
  obtain ⟨key, value, flag⟩ := p
  have named : (key : Text).toString = key := Text.toString_ofString key
  cases value with
  | none =>
      change some (Parameter.mk (key : Text).toString none flag) = _
      rw [named]
  | some value =>
      change some (Parameter.mk (key : Text).toString (some value) flag) = _
      rw [named]

/-- The set of these parameters, unless two of them have one key. -/
def Parameters.ofList? (items : List Parameter) : Option Parameters :=
  if distinct : (items.map Parameter.key).Nodup then some ⟨items, distinct⟩ else none

/-- The set that the text of a request stands for. -/
def Parameters.ofText? (text : Text) : Option Parameters :=
  match Json.read text with
  | .ok (.arr items) => (items.mapM Parameter.ofItem?).bind ofList?
  | _ => none

theorem Parameters.ofList_toList (set : Parameters) : ofList? set.toList = some set :=
  dif_pos set.distinct

theorem Parameters.HasStrings.ofText_requestText {set : Parameters} (h : set.HasStrings) :
    ofText? set.requestText = some set := by
  have each : set.toRequest.mapM Parameter.ofItem? = some set.toList := by
    rw [toRequest, List.mapM_map]
    have one : set.toList.mapM (Parameter.ofItem? ∘ Parameter.toRequest) = some (set.toList.map id) :=
      mapM_eq_some fun p _ => Parameter.ofItem_toRequest p
    rwa [List.map_id] at one
  unfold ofText?
  rw [h.read_requestText]
  dsimp only
  rw [each, Option.bind_some, ofList_toList]

/-- In every run the program makes one call, in which the text stands after the flag for parameters. -/
def Submits {α : Type} (p : Program α) (text : Text) : Prop :=
  ∀ (σ : Type) (backend : Backend σ) (s : σ), ∃ call front,
    (p.exchanges backend s).map Exchange.call = [call] ∧
      call.arguments = front ++ [.str "--parameters", .str text]

section

variable (service : Service) (name template : String) (set : Parameters)

theorem submits_submit (operation action : String) (arguments : List Text) :
    Submits (service.submit operation action name arguments set) set.requestText := by
  intro σ backend s
  obtain ⟨reply, single, -⟩ :=
    service.asks_submit operation action name arguments set _ _ (Program.plays_run backend _ s)
  let front : List Json := .str "--stack-name" :: .str name ::
    (arguments.map Json.str ++ [.str "--capabilities", .str rolesAcknowledged])
  refine ⟨_, front, congrArg (List.map Exchange.call) single, ?_⟩
  simp only [front, Service.invocation, Aws.Access.invocation, Service.submission, List.map_append,
    List.map_cons, List.map_nil, List.cons_append, List.append_assoc, List.nil_append]

theorem submits_create : Submits (service.create name template set) set.requestText :=
  submits_submit service name set "create-stack" "create" _

theorem submits_update : Submits (service.update name set) set.requestText :=
  submits_submit service name set "update-stack" "update" _

end

theorem Submits.unique {α : Type} {p : Program α} {text text' : Text} (h : Submits p text)
    (h' : Submits p text') : text = text' := by
  let silent : Backend Unit := fun s _ => (.exited 0 [] [], s)
  obtain ⟨call, front, one, shape⟩ := h Unit silent ()
  obtain ⟨call', front', one', shape'⟩ := h' Unit silent ()
  obtain rfl : call = call' := List.singleton_inj.mp (one.symm.trans one')
  have last := List.append_inj_right' (shape.symm.trans shape') rfl
  simpa using last

/-- A creation and an update submit the set as one ASCII text that reads back as the list of the
request. The whole set is known by the text, and no other set is submitted as the same one. -/
theorem submission_tells_set {set : Parameters} (built : set.Built) :
    ∃ text : String,
      (∀ (service : Service) (name template : String),
        Submits (service.create name template set) text ∧ Submits (service.update name set) text) ∧
      (∀ c ∈ text.toList, c.toNat < 0x80) ∧
      Json.read text = .ok (.arr set.toRequest) ∧
      Parameters.ofText? text = some set ∧
      ∀ other : Parameters, other.Built → ∀ (service : Service) (name template : String),
        Submits (service.create name template other) text ∨
          Submits (service.update name other) text → other = set := by
  have strings := built.hasStrings
  refine ⟨set.requestText, fun service name template => ?_,
    strings.ascii_requestText, strings.read_requestText, strings.ofText_requestText, ?_⟩
  · exact ⟨submits_create service name template set, submits_update service name set⟩
  intro other built' service name template submitted
  have same : (other.requestText : Text) = set.requestText := by
    rcases submitted with created | updated
    · exact (submits_create service name template other).unique created
    · exact (submits_update service name other).unique updated
  have back := built'.hasStrings.ofText_requestText
  rw [same, strings.ofText_requestText] at back
  exact (Option.some.inj back).symm

/-- A set with an escape of each kind, an empty value and a parameter without a value of its own. -/
def varied : Parameters := ⟨[
  ⟨"KeyName", some "caf\u00e9 \"\\\x7f\n🔑", false⟩,
  ⟨"EcsPort", none, true⟩,
  ⟨"VpcId", some "", false⟩], by decide⟩

theorem built_varied : varied.Built := by
  have first := Parameters.Built.add .empty "KeyName" "caf\u00e9 \"\\\x7f\n🔑" rfl
  have second := Parameters.Built.addPrevious first "EcsPort" true rfl
  exact .add second "VpcId" "" rfl

theorem varied_told : varied.Built ∧ ∃ text : String, (∀ c ∈ text.toList, c.toNat < 0x80) ∧
    Json.read text = .ok (.arr varied.toRequest) ∧ Parameters.ofText? text = some varied := by
  obtain ⟨text, -, ascii, listed, told, -⟩ := submission_tells_set built_varied
  exact ⟨built_varied, text, ascii, listed, told⟩

end ClusterStack.Stack
