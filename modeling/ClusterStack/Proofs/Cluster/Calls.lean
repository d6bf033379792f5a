import ClusterStack.Cluster.Service
import ClusterStack.Proofs.Changes
import ClusterStack.Proofs.Replies
/-!
# What the cluster service is asked

The calls that create, delete and describe a cluster, and the replies by which they come to a result.
-/
namespace ClusterStack.Cluster.Service

variable (access : Aws.Access) (cluster : String)

def activeCall : Invocation :=
  invocation access "describe-clusters" [.str "--clusters", .str cluster]

def creationCall : Invocation :=
  invocation access "create-cluster" [.str "--cluster-name", .str cluster]

def removalCall : Invocation := invocation access "delete-cluster" [.str "--cluster", .str cluster]

/-- The reply reports no failures, and an active cluster as the first one. -/
def ReportsActive (reply : Reply) : Prop :=
  ∃ answer cluster others, Aws.readReply "describe-clusters" reply = .ok answer ∧
    (Json.member? answer "failures").bind Json.given? = none ∧
    Json.member? answer "clusters" = some (.arr (.obj cluster :: others)) ∧
    Json.member? cluster "status" = some (.str "ACTIVE")

/-- The reply to a call of this operation holds an object about the cluster. -/
def HoldsCluster (operation : String) (reply : Reply) : Prop :=
  ∃ answer members, Aws.readReply operation reply = .ok answer ∧
    Json.member? answer "cluster" = some (.obj members)

theorem activeCall_reads : (activeCall access cluster).operation ∈ readings := by
  change "describe-clusters" ∈ readings
  decide

theorem creationCall_changes : (creationCall access cluster).operation ∉ readings := by
  change "create-cluster" ∉ readings
  decide

theorem removalCall_changes : (removalCall access cluster).operation ∉ readings := by
  change "delete-cluster" ∉ readings
  decide

theorem given_eq {v w : Json} (h : v.given? = some w) : v = w := by
  unfold Json.given? at h
  split at h
  · cases h
  · exact Option.some.inj h

theorem member_ok {v w : Json} {name : Text} (h : Aws.Answer.member v name = .ok w) :
    ∃ members, v = .obj members ∧ w = (Json.member? members name).getD .null := by
  cases v with
  | obj members =>
      cases h
      exact ⟨members, rfl, rfl⟩
  | _ => cases h

theorem first_object {v : Json} {members : List (Text × Json)}
    (h : Aws.Answer.first v = .ok (.obj members)) : ∃ others, v = .arr (.obj members :: others) := by
  cases v with
  | arr items =>
      cases items with
      | nil => cases h
      | cons first others =>
          cases h
          exact ⟨others, rfl⟩
  | str t =>
      unfold Aws.Answer.first at h
      cases codes : t.codes with
      | nil =>
          simp only [codes] at h
          cases h
      | cons code others =>
          simp only [codes] at h
          cases h
  | _ => cases h

theorem readStatus_active {answer : List (Text × Json)} {status : Json}
    (h : readStatus? cluster answer = .ok (some status))
    (active : status.text? = some (active : Text)) :
    (Json.member? answer "failures").bind Json.given? = none ∧
    ∃ first others, Json.member? answer "clusters" = some (.arr (.obj first :: others)) ∧
      Json.member? first "status" = some (.str "ACTIVE") := by
  unfold readStatus? at h
  cases failures : (Json.member? answer "failures").bind Json.given? with
  | some v =>
      rw [failures] at h
      cases h
  | none =>
      rw [failures] at h
      refine ⟨rfl, ?_⟩
      cases given : (Json.member? answer "clusters").bind Json.given? with
      | none =>
          rw [given] at h
          cases h
      | some clusters =>
          rw [given] at h
          obtain ⟨v, listed, hv⟩ := Option.bind_eq_some_iff.mp given
          obtain ⟨first, listing, described⟩ := ok_of_bind h
          obtain ⟨found, read, same⟩ := ok_of_bind described
          cases same
          obtain ⟨members, rfl, rfl⟩ := member_ok read
          obtain ⟨others, rfl⟩ := first_object listing
          rw [given_eq hv] at listed
          refine ⟨members, others, listed, ?_⟩
          cases told : Json.member? members "status" with
          | none =>
              rw [told] at active
              cases active
          | some status =>
              rw [told] at active
              cases status with
              | str t =>
                  cases active
                  rfl
              | _ => cases active

theorem checks_isActive :
    (isActive access cluster).Checks (activeCall access cluster)
      fun reply active => active = true → ReportsActive reply := by
  refine Program.checks_request.andThen fun reply status read es outcome told => ?_
  obtain ⟨answer, answered, read⟩ := ok_of_bind read
  cases status with
  | none =>
      obtain ⟨rfl, rfl⟩ := told
      exact ⟨rfl, .inl ⟨false, nofun, rfl⟩⟩
  | some status =>
      by_cases active : status.text? = some (active : Text)
      · simp only [beq_iff_eq.mpr active, if_true] at told
        obtain ⟨rfl, rfl⟩ := told
        obtain ⟨unfailed, first, others, listed, found⟩ := readStatus_active cluster read active
        exact ⟨rfl, .inl ⟨true, fun _ => ⟨answer, first, others, answered, unfailed, listed, found⟩,
          rfl⟩⟩
      · simp only [beq_eq_false_iff_ne.mpr active, Bool.false_eq_true, if_false] at told
        obtain ⟨rfl, rfl⟩ := told
        exact ⟨rfl, .inl ⟨false, nofun, rfl⟩⟩

theorem holdsCluster {operation asked : String} {reply : Reply} {name : Json}
    (h : (Aws.readReply operation reply).bind (readName operation asked) = .ok name) :
    HoldsCluster operation reply := by
  obtain ⟨answer, answered, named⟩ := ok_of_bind h
  cases read : Aws.responseMember (.obj answer) "cluster"
      (readAs "dict[any,any]" Validation.anyMap) operation with
  | error failure =>
      rw [readName, read] at named
      cases named
  | ok members =>
      obtain ⟨part, found, shape⟩ := Aws.responseMember_ok read
      cases part with
      | obj members => exact ⟨answer, members, answered, found⟩
      | _ => cases shape

theorem checks_create : (create access cluster).Checks (creationCall access cluster)
    fun reply _ => HoldsCluster "create-cluster" reply := by
  refine Program.checks_request.andThen fun reply name read es outcome h => ?_
  obtain ⟨rfl, rfl⟩ := Program.plays_note.mp h
  exact ⟨rfl, .inl ⟨name, holdsCluster read, rfl⟩⟩

theorem checks_delete : (delete access cluster).Checks (removalCall access cluster)
    fun reply _ => HoldsCluster "delete-cluster" reply := by
  refine Program.checks_request.andThen fun reply name read es outcome h => ?_
  obtain ⟨rfl, rfl⟩ := Program.plays_note.mp h
  exact ⟨rfl, .inl ⟨name, holdsCluster read, rfl⟩⟩

end ClusterStack.Cluster.Service
