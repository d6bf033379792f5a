import ClusterStack.Timestamp.Basic
/-!
# The order of times

A time is no older than another one if the two can be compared and the first does not lie before the
second. Which times can be compared with each other is decided by whether they have an offset, so that
the order passes over the times in between. Among times that can be compared it is the order of the
moments that they stand for.
-/
namespace ClusterStack.Timestamp

/-- The two times can be compared, and the first does not lie before the second. -/
def NotOlder (newer older : Timestamp) : Prop := newer.before? older = some false

/-- The microseconds that a time is compared by, in universal time if its offset is known. -/
def moment (t : Timestamp) : Int := t.instant?.getD t.localMicroseconds

variable {s t u : Timestamp}

theorem before?_of_comparable (same : s.offset.isSome = t.offset.isSome) :
    s.before? t = some (decide (s.moment < t.moment)) := by
  unfold before? moment instant?
  cases hs : s.offset with
  | none =>
      rw [hs] at same
      rw [Option.not_isSome_iff_eq_none.mp (Bool.eq_false_iff.mp same.symm)]
      rfl
  | some i =>
      rw [hs] at same
      obtain ⟨j, ht⟩ := Option.isSome_iff_exists.mp same.symm
      rw [ht]
      rfl

theorem NotOlder.comparable (h : s.NotOlder t) : s.offset.isSome = t.offset.isSome := by
  unfold NotOlder before? instant? at h
  cases hs : s.offset with
  | none =>
      cases ht : t.offset with
      | none => rfl
      | some j =>
          rw [hs, ht] at h
          cases h
  | some i =>
      cases ht : t.offset with
      | none =>
          rw [hs, ht] at h
          cases h
      | some j => rfl

theorem notOlder_iff_moment :
    s.NotOlder t ↔ s.offset.isSome = t.offset.isSome ∧ t.moment ≤ s.moment := by
  refine ⟨fun h => ?_, fun ⟨same, le⟩ => ?_⟩
  · have same := h.comparable
    rw [NotOlder, before?_of_comparable same] at h
    exact ⟨same, Int.not_lt.mp (of_decide_eq_false (Option.some.inj h))⟩
  · rw [NotOlder, before?_of_comparable same]
    exact congrArg some (decide_eq_false (Int.not_lt.mpr le))

theorem NotOlder.refl (t : Timestamp) : t.NotOlder t :=
  notOlder_iff_moment.mpr ⟨rfl, Int.le_refl _⟩

theorem NotOlder.trans (first : s.NotOlder t) (second : t.NotOlder u) : s.NotOlder u := by
  obtain ⟨same, le⟩ := notOlder_iff_moment.mp first
  obtain ⟨same', le'⟩ := notOlder_iff_moment.mp second
  exact notOlder_iff_moment.mpr ⟨same.trans same', Int.le_trans le' le⟩

instance : DecidableRel NotOlder := fun s t => inferInstanceAs (Decidable (s.before? t = some false))

instance : Trans NotOlder NotOlder NotOlder := ⟨NotOlder.trans⟩

end ClusterStack.Timestamp
