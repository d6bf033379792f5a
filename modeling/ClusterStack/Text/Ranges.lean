/-!
# Sets of code points as ranges

A Unicode property is given as its list of inclusive code point ranges, in ascending order.
-/
namespace ClusterStack.Text

/-- The code point lies in one of the inclusive ranges. -/
def inRanges (ranges : List (Nat × Nat)) (n : Nat) : Bool :=
  ranges.any fun r => r.1 ≤ n && n ≤ r.2

end ClusterStack.Text
