import ClusterStack.Proofs.Exchanges
/-!
# Changes of the outside

Most calls only read something. Every other call may change the clusters and stacks outside, and counts
as a change whatever it is answered.
-/
namespace ClusterStack

def readings : List String := ["describe-clusters", "describe-container-instances",
  "describe-instances", "describe-stack-events", "describe-stacks", "describe-tasks", "get-parameter",
  "list-tasks"]

/-- The operations in a list of exchanges that do more than read, in order. -/
def changes (es : List Exchange) : List String :=
  (es.map fun e => e.call.operation).filter fun operation => operation ∉ readings

theorem changes_append (first rest : List Exchange) :
    changes (first ++ rest) = changes first ++ changes rest := by
  simp only [changes, List.map_append, List.filter_append]

theorem changes_of_reading {es : List Exchange} (h : ∀ e ∈ es, e.call.operation ∈ readings) :
    changes es = [] := by
  rw [changes, List.filter_eq_nil_iff]
  intro operation member
  obtain ⟨e, he, rfl⟩ := List.mem_map.mp member
  simpa using h e he

theorem changes_cons_of_reading {e : Exchange} (h : e.call.operation ∈ readings)
    (es : List Exchange) : changes (e :: es) = changes es := by
  rw [changes, List.map_cons, List.filter_cons_of_neg (by simpa using h)]
  rfl

theorem changes_cons_of_change {e : Exchange} (h : e.call.operation ∉ readings)
    (es : List Exchange) : changes (e :: es) = e.call.operation :: changes es := by
  rw [changes, List.map_cons, List.filter_cons_of_pos (by simpa using h)]
  rfl

theorem mem_changes {e : Exchange} {es : List Exchange} (member : e ∈ es)
    (h : e.call.operation ∉ readings) : e.call.operation ∈ changes es :=
  List.mem_filter.mpr ⟨List.mem_map_of_mem member, by simpa using h⟩

theorem not_mem_of_changes_eq_nil {es : List Exchange} (unchanged : changes es = []) {e : Exchange}
    (h : e.call.operation ∉ readings) : e ∉ es := by
  intro member
  have made := mem_changes member h
  rw [unchanged] at made
  cases made

theorem mem_of_mem_cons_reading {first e : Exchange} {es : List Exchange} (member : e ∈ first :: es)
    (reads : first.call.operation ∈ readings) (h : e.call.operation ∉ readings) : e ∈ es := by
  rcases List.mem_cons.mp member with rfl | later
  · exact absurd reads h
  · exact later

/-- Between two parts that only read, there is one change at most. -/
theorem change_unique {asked later before after : List Exchange} {u e : Exchange}
    (shape : asked ++ u :: later = before ++ e :: after) (none : changes asked = [])
    (none' : changes later = []) (h : e.call.operation ∉ readings) : before = asked ∧ e = u := by
  rcases List.append_eq_append_iff.mp shape with ⟨more, rfl, tail⟩ | ⟨more, rfl, tail⟩
  · cases more with
    | nil =>
        cases tail
        exact ⟨List.append_nil asked, rfl⟩
    | cons first more =>
        obtain ⟨-, rfl⟩ := List.cons.inj tail
        have member : e ∈ more ++ e :: after := List.mem_append_right more List.mem_cons_self
        exact absurd member (not_mem_of_changes_eq_nil none' h)
  · cases more with
    | nil =>
        cases tail
        exact ⟨(List.append_nil before).symm, rfl⟩
    | cons first more =>
        obtain ⟨rfl, -⟩ := List.cons.inj tail
        have member : e ∈ before ++ e :: more := List.mem_append_right before List.mem_cons_self
        exact absurd member (not_mem_of_changes_eq_nil none h)

namespace Program

variable {α : Type}

def Reads : Action → Prop
  | .invoked call => call.operation ∈ readings
  | _ => True

theorem Does.changes_eq_nil {p : Program α} (h : p.Does Reads) {es : List Exchange}
    {outcome : Outcome α} (play : p.Plays es outcome) : changes es = [] :=
  changes_of_reading (h.plays play)

end Program

end ClusterStack
