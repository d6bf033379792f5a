import ClusterStack.Proofs.Cluster.Methods
import ClusterStack.Proofs.Enumeration
/-!
# Where tasks are placed

Which instance a container instance is, and which public address an instance has, is read from the
replies of two services. Here is what their well-formed replies tell, as pairs of texts, and that the
tables which are built from them hold just that, a later pair taking the place of an earlier one with
the same key. The address of a task is found by way of both tables.
-/
namespace ClusterStack.Cluster

theorem toOption_eq_some {α : Type} {e : Except Failure α} {a : α} :
    e.toOption = some a ↔ e = .ok a := by
  cases e with
  | ok b => simp [Except.toOption]
  | error failure => simp [Except.toOption]

theorem mem_of_mapM {ι α : Type} {f : ι → Option α} {items : List ι} {results : List α}
    (h : items.mapM f = some results) : ∀ a ∈ results, ∃ item ∈ items, f item = some a := by
  induction items generalizing results with
  | nil =>
      cases h
      exact nofun
  | cons item rest ih =>
      rw [List.mapM_cons] at h
      obtain ⟨first, here, h⟩ := Option.bind_eq_some_iff.mp h
      obtain ⟨others, later, h⟩ := Option.bind_eq_some_iff.mp h
      cases h
      intro a member
      rcases List.mem_cons.mp member with rfl | inside
      · exact ⟨item, List.mem_cons_self, here⟩
      · obtain ⟨item', among, read⟩ := ih later a inside
        exact ⟨item', List.mem_cons_of_mem item among, read⟩

section Tables

variable {ν ι : Type}

/-- The value that the last pair with this key tells. -/
def lastTold (pairs : List (Text × ν)) (key : Text) : Option ν :=
  (pairs.findRev? (·.1 == key)).map Prod.snd

/-- The table of what all pairs tell, with the values written as JSON. -/
def table (write : ν → Json) (pairs : List (Text × ν)) : List (Json × Json) :=
  (Association.ofList pairs).map fun p => (.str p.1, write p.2)

variable {write : ν → Json}

theorem store_table (key : Text) (value : ν) (pairs : List (Text × ν)) :
    Aws.Answer.store (.str key) (write value) (table write pairs) =
      .ok (table write (pairs ++ [(key, value)])) := by
  have inserted (entries : List (Text × ν)) :
      Association.insertBy Json.sameKey (.str key) (write value)
          (entries.map fun p => (.str p.1, write p.2)) =
        (Association.insert key value entries).map fun p => (.str p.1, write p.2) := by
    induction entries with
    | nil => rfl
    | cons entry rest ih =>
        simp only [List.map_cons, Association.insertBy, Association.insert, Json.sameKey_str]
        split
        · rfl
        · rw [ih]
          rfl
  have added := inserted (Association.ofList pairs)
  rw [← Association.ofList_append pairs (key, value)] at added
  exact congrArg Except.ok added

theorem lookup_table (key : Text) (pairs : List (Text × ν)) :
    Aws.Answer.lookup? (.str key) (table write pairs) = (lastTold pairs key).map write := by
  have found (entries : List (Text × ν)) :
      Aws.Answer.lookup? (.str key) (entries.map fun p => (.str p.1, write p.2)) =
        (Association.find? (· == key) entries).map write := by
    induction entries with
    | nil => rfl
    | cons entry rest ih =>
        simp only [Aws.Answer.lookup?, List.map_cons, Association.find?, Json.sameKey_str] at ih ⊢
        split
        · rfl
        · exact ih
  rw [table, found, Association.find_ofList]
  rfl

/-- The reader adds to a table what an item tells. -/
def Adds (write : ν → Json) (tell? : ι → Option (List (Text × ν)))
    (read : List (Json × Json) → ι → Except Failure (List (Json × Json))) : Prop :=
  ∀ pairs item told, tell? item = some told →
    read (table write pairs) item = .ok (table write (pairs ++ told))

theorem Adds.foldlM {tell? : ι → Option (List (Text × ν))}
    {read : List (Json × Json) → ι → Except Failure (List (Json × Json))}
    (adds : Adds write tell? read) {items : List ι} {told : List (List (Text × ν))}
    (all : items.mapM tell? = some told) (pairs : List (Text × ν)) :
    items.foldlM read (table write pairs) = .ok (table write (pairs ++ told.flatten)) := by
  induction items generalizing pairs told with
  | nil =>
      cases all
      exact congrArg (fun told => Except.ok (table write told)) (List.append_nil pairs).symm
  | cons item rest ih =>
      rw [List.mapM_cons] at all
      obtain ⟨first, here, all⟩ := Option.bind_eq_some_iff.mp all
      obtain ⟨others, later, all⟩ := Option.bind_eq_some_iff.mp all
      cases all
      rw [List.foldlM_cons, adds pairs item first here, List.flatten_cons, ← List.append_assoc]
      exact ih later (pairs ++ first)

end Tables

/-- A member of a description that is a text, null or missing. -/
def optionalText? (members : List (Text × Json)) (name : Text) : Option (Option Text) :=
  match (Json.member? members name).getD .null with
  | .null => some none
  | .str t => some (some t)
  | _ => none

def nonempty (t : Option Text) : Option Text := t.filter fun t => !t.isEmpty

theorem member_of_optionalText {members : List (Text × Json)} {name : Text} {t : Option Text}
    (h : optionalText? members name = some t) :
    Aws.Answer.member (.obj members) name = .ok (Json.ofText? t) := by
  change Except.ok ((Json.member? members name).getD .null) = _
  unfold optionalText? at h
  split at h
  · rename_i absent
    cases h
    rw [absent]
    rfl
  · rename_i t present
    cases h
    rw [present]
    rfl
  · cases h

theorem nonempty_none {t : Option Text} (h : nonempty t = none) : (Json.ofText? t).isVoid = true := by
  cases t with
  | none => rfl
  | some t =>
      have void := Option.filter_eq_none_iff.mp h t rfl
      rw [Bool.not_eq_true, Bool.not_eq_false'] at void
      exact void

theorem nonempty_some {t : Option Text} {s : Text} (h : nonempty t = some s) :
    t = some s ∧ s.isEmpty = false := by
  cases t with
  | none => cases h
  | some t =>
      obtain ⟨same, some⟩ := Option.filter_eq_some_iff.mp h
      cases same
      exact ⟨rfl, by simpa using some⟩

namespace Service

/-- What a description tells about a container instance: which instance it is, if both are named. -/
def placement? : Json → Option (List (Text × Text))
  | .obj members => do
    let arn ← optionalText? members "containerInstanceArn"
    let id ← optionalText? members "ec2InstanceId"
    match nonempty arn, nonempty id with
    | some arn, some id => pure [(arn, id)]
    | _, _ => pure []
  | _ => none

/-- What a well-formed reply tells about container instances. -/
def placementsIn (reply : Reply) : Option (List (Text × Text)) := do
  let answer ← (Aws.readReply "describe-container-instances" reply).toOption
  let descriptions ← (Aws.Answer.elementsOf answer "containerInstances").toOption
  let placements ← descriptions.mapM placement?
  pure placements.flatten

theorem adds_placement : Adds .str placement? readInstance := by
  intro pairs description told h
  cases description with
  | obj members =>
      obtain ⟨arn, named, h⟩ := Option.bind_eq_some_iff.mp h
      obtain ⟨id, placed, h⟩ := Option.bind_eq_some_iff.mp h
      unfold readInstance
      rw [member_of_optionalText named, member_of_optionalText placed]
      cases arnGiven : nonempty arn with
      | none =>
          rw [arnGiven] at h
          cases h
          change (if (Json.ofText? arn).isVoid then _ else _) = _
          rw [if_pos (nonempty_none arnGiven), List.append_nil]
          rfl
      | some name =>
          obtain ⟨rfl, some⟩ := nonempty_some arnGiven
          change (if name.isEmpty then _ else _) = _
          rw [if_neg (Bool.eq_false_iff.mp some)]
          cases idGiven : nonempty id with
          | none =>
              rw [arnGiven, idGiven] at h
              cases h
              change (if (Json.ofText? id).isVoid then _ else _) = _
              rw [if_pos (nonempty_none idGiven), List.append_nil]
              rfl
          | some host =>
              obtain ⟨rfl, some⟩ := nonempty_some idGiven
              rw [arnGiven, idGiven] at h
              cases h
              change (if host.isEmpty then _ else _) = _
              rw [if_neg (Bool.eq_false_iff.mp some)]
              exact store_table name host pairs
  | _ => cases h

/-- No pair has an empty key. -/
theorem key_of_placement {description : Json} {told : List (Text × Text)}
    (h : placement? description = some told) : ∀ p ∈ told, p.1.isEmpty = false := by
  cases description with
  | obj members =>
      obtain ⟨arn, -, h⟩ := Option.bind_eq_some_iff.mp h
      obtain ⟨id, -, h⟩ := Option.bind_eq_some_iff.mp h
      split at h
      · rename_i name host arnGiven _
        cases h
        exact List.forall_mem_singleton.mpr (nonempty_some arnGiven).2
      · cases h
        exact nofun
  | _ => cases h

theorem adds_placements : Adds .str placementsIn instancesIn := by
  intro pairs reply told h
  obtain ⟨answer, answered, h⟩ := Option.bind_eq_some_iff.mp h
  obtain ⟨descriptions, listed, h⟩ := Option.bind_eq_some_iff.mp h
  obtain ⟨placements, all, h⟩ := Option.bind_eq_some_iff.mp h
  cases h
  rw [instancesIn, toOption_eq_some.mp answered]
  change (Aws.Answer.elementsOf answer "containerInstances").bind _ = _
  rw [toOption_eq_some.mp listed]
  exact adds_placement.foldlM all pairs

theorem keys_of_placements {reply : Reply} {told : List (Text × Text)}
    (h : placementsIn reply = some told) : ∀ p ∈ told, p.1.isEmpty = false := by
  obtain ⟨answer, -, h⟩ := Option.bind_eq_some_iff.mp h
  obtain ⟨descriptions, -, h⟩ := Option.bind_eq_some_iff.mp h
  obtain ⟨placements, all, h⟩ := Option.bind_eq_some_iff.mp h
  cases h
  intro p member
  obtain ⟨told, among, inside⟩ := List.mem_flatten.mp member
  obtain ⟨description, -, read⟩ := mem_of_mapM all told among
  exact key_of_placement read p inside

end Service

namespace Instances

/-- What a description tells about an instance that it identifies: its public address, if it has one. -/
def report? : Json → Option (List (Text × Option Text))
  | .obj members => do
    let id ← optionalText? members "InstanceId"
    let address ← optionalText? members "PublicIpAddress"
    match nonempty id with
    | some id => pure [(id, address)]
    | none => pure []
  | _ => none

def reservationReports? : Json → Option (List (Text × Option Text))
  | .obj members => do
    let descriptions ← (Aws.Answer.elementsOf members "Instances").toOption
    let reports ← descriptions.mapM report?
    pure reports.flatten
  | _ => none

/-- What a well-formed reply tells about instances. It has reservations, in which they are described. -/
def reportsIn (reply : Reply) : Option (List (Text × Option Text)) := do
  let answer ← (Aws.readReply "describe-instances" reply).toOption
  let reservations ← (Json.member? answer "Reservations").bind Json.given?
  let reservations ← (Aws.Answer.elements reservations).toOption
  let reports ← reservations.mapM reservationReports?
  pure reports.flatten

theorem adds_report : Adds Json.ofText? report? readAddress := by
  intro pairs description told h
  cases description with
  | obj members =>
      obtain ⟨id, named, h⟩ := Option.bind_eq_some_iff.mp h
      obtain ⟨address, reached, h⟩ := Option.bind_eq_some_iff.mp h
      unfold readAddress
      rw [member_of_optionalText named, member_of_optionalText reached]
      cases given : nonempty id with
      | none =>
          rw [given] at h
          cases h
          change (if (Json.ofText? id).isVoid then _ else _) = _
          rw [if_pos (nonempty_none given), List.append_nil]
          rfl
      | some name =>
          obtain ⟨rfl, some⟩ := nonempty_some given
          rw [given] at h
          cases h
          change (if name.isEmpty then _ else _) = _
          rw [if_neg (Bool.eq_false_iff.mp some)]
          exact store_table name address pairs
  | _ => cases h

theorem adds_reservation : Adds Json.ofText? reservationReports? readReservation := by
  intro pairs reservation told h
  cases reservation with
  | obj members =>
      obtain ⟨descriptions, listed, h⟩ := Option.bind_eq_some_iff.mp h
      obtain ⟨reports, all, h⟩ := Option.bind_eq_some_iff.mp h
      cases h
      change (Aws.Answer.elementsOf members "Instances").bind _ = _
      rw [toOption_eq_some.mp listed]
      exact adds_report.foldlM all pairs
  | _ => cases h

theorem addressesIn_of_reports {reply : Reply} {told : List (Text × Option Text)}
    (h : reportsIn reply = some told) : addressesIn reply = .ok (table Json.ofText? told) := by
  obtain ⟨answer, answered, h⟩ := Option.bind_eq_some_iff.mp h
  obtain ⟨reservations, given, h⟩ := Option.bind_eq_some_iff.mp h
  obtain ⟨listed, listing, h⟩ := Option.bind_eq_some_iff.mp h
  obtain ⟨reports, all, h⟩ := Option.bind_eq_some_iff.mp h
  cases h
  rw [addressesIn, toOption_eq_some.mp answered]
  change readReservations answer = _
  unfold readReservations
  rw [given]
  change (Aws.Answer.elements reservations).bind _ = _
  rw [toOption_eq_some.mp listing]
  exact adds_reservation.foldlM all []

end Instances

/-- The address of the instance that a task is placed on, by what is told of container instances and
of instances. -/
def publicAddress? (placements : List (Text × Text)) (reports : List (Text × Option Text))
    (task : Task) : Option Text :=
  nonempty ((task.containerInstance.bind (lastTold placements)).bind (lastTold reports)).join

theorem nonempty_publicAddress {placements : List (Text × Text)}
    {reports : List (Text × Option Text)} {task : Task} :
    nonempty (publicAddress? placements reports task) = publicAddress? placements reports task := by
  simp only [publicAddress?, nonempty, Option.filter_filter, Bool.and_self]

namespace Operator

/-- The container instances of tasks, each once. -/
theorem enumerates_containerInstances (tasks : List Task) :
    Text.Enumerates (containerInstances tasks) fun arn =>
      arn.isEmpty = false ∧ ∃ task ∈ tasks, task.containerInstance = some arn := by
  simp only [containerInstances, foldl_kept_eq_eraseDups]
  refine (Text.enumerates_sorted _).congr fun arn => ?_
  simp only [List.mem_filterMap, Option.filter_eq_some_iff]
  constructor
  · rintro ⟨task, member, placed, some⟩
    exact ⟨by simpa using some, task, member, placed⟩
  · rintro ⟨some, task, member, placed⟩
    exact ⟨task, member, placed, by simpa using some⟩

theorem containerInstances_perm {tasks tasks' : List Task} (same : tasks.Perm tasks') :
    containerInstances tasks = containerInstances tasks' := by
  refine (enumerates_containerInstances tasks).unique ?_
  refine (enumerates_containerInstances tasks').congr fun arn => ?_
  simp only [same.mem_iff]

/-- The instances that container instances are known to be, each once. -/
theorem distinctValues_table (placements : List (Text × Text)) :
    ∃ ids, distinctValues (table .str placements) = .ok (ids.map .str) ∧
      Text.Enumerates ids fun id => ∃ arn, lastTold placements arn = some id := by
  let ids := (Association.ofList placements).map Prod.snd
  have values : (table .str placements).map Prod.snd = ids.map .str := by
    simp only [table, ids, List.map_map]
    rfl
  have keyed (texts : List Text) : (texts.map Json.str).mapM Aws.Answer.key = .ok (texts.map .str) := by
    induction texts with
    | nil => rfl
    | cons t rest ih =>
        rw [List.map_cons, List.mapM_cons, ih]
        rfl
  refine ⟨ids.eraseDups.mergeSort Text.le, ?_, (Text.enumerates_sorted ids).congr fun id => ?_⟩
  · unfold distinctValues
    rw [values, keyed]
    dsimp only [Bind.bind, Except.bind]
    rw [Json.distinct_texts, Json.sort_texts]
    rfl
  · have distinct : ((Association.ofList placements).map Prod.fst).Nodup := by
      rw [Association.keys_ofList]
      exact Association.nodup_eraseDups _
    have told (arn : Text) : lastTold placements arn = some id ↔
        (arn, id) ∈ Association.ofList placements := by
      rw [Association.mem_iff_find distinct, Association.find_ofList]
      rfl
    simp only [ids, told]
    simp

/-- The tables of what is told of container instances and of instances, joined. -/
def joined (placements : List (Text × Text)) (reports : List (Text × Option Text)) :
    List (Json × Json) :=
  (table .str placements).map fun (arn, id) =>
    (arn, (Aws.Answer.lookup? id (table Json.ofText? reports)).getD .null)

/-- The address that is shown with a task comes from the two tables. -/
theorem addressOf_joined {placements : List (Text × Text)} (reports : List (Text × Option Text))
    (keys : ∀ p ∈ placements, p.1.isEmpty = false) (task : Task) :
    addressOf (joined placements reports) task =
      Text.shownIfGiven (publicAddress? placements reports task) := by
  have looked : joined placements reports =
      table (fun id => Json.ofText? (lastTold reports id).join) placements := by
    simp only [joined, table, List.map_map]
    refine List.map_congr_left fun p _ => ?_
    change (Json.str p.1, (Aws.Answer.lookup? (.str p.2) (table Json.ofText? reports)).getD .null) = _
    rw [lookup_table]
    cases lastTold reports p.2 <;> rfl
  have shown (address : Option Text) : ((Json.ofText? address).given?.map Json.display).getD "" =
      Text.shownIfGiven (nonempty address) := by
    cases address with
    | none => rfl
    | some t =>
        have given : (Json.ofText? (some t)).given? = if t.isEmpty then none else some (.str t) := rfl
        rw [given, nonempty, Option.filter_some]
        cases t.isEmpty <;> rfl
  rw [looked, addressOf, lookup_table, publicAddress?]
  cases task.containerInstance with
  | none =>
      have unplaced : lastTold placements (Text.ofString "") = none := by
        unfold lastTold
        rw [List.findRev?_eq_find?_reverse, Option.map_eq_none_iff, List.find?_eq_none]
        intro p member same
        have some := keys p (List.mem_reverse.mp member)
        rw [beq_iff_eq.mp same] at some
        cases some
      rw [Option.getD_none, unplaced]
      rfl
  | some arn =>
      rw [Option.getD_some, Option.bind_some]
      cases lastTold placements arn with
      | none => rfl
      | some id => exact shown (lastTold reports id).join

end Operator

end ClusterStack.Cluster
