/-!
# Sets of code points

A set of code points is an ascending list of closed ranges.  Membership stops at the first range
that lies above the code point, so a look-up never needs the whole table.
-/
namespace EditorBridge.Unicode

/-- Closed ranges of code points, in ascending order and pairwise apart. -/
abbrev Ranges := List (Nat × Nat)

/-- Whether a code point lies in one of the ranges. -/
def Ranges.contains : Ranges → Nat → Bool
  | [], _ => false
  | (lo, hi) :: rest, n =>
      if n < lo then false else if n ≤ hi then true else Ranges.contains rest n

/-- A code point in the first range is found. -/
theorem Ranges.contains_head {lo hi n : Nat} {rest : Ranges} (hlo : lo ≤ n) (hhi : n ≤ hi) :
    Ranges.contains ((lo, hi) :: rest) n = true := by
  simp [Ranges.contains, Nat.not_lt.2 hlo, hhi]

/-- A code point above the first range is looked up in the others. -/
theorem Ranges.contains_tail {lo hi n : Nat} {rest : Ranges} (hhi : hi < n) (hle : lo ≤ hi) :
    Ranges.contains ((lo, hi) :: rest) n = Ranges.contains rest n := by
  have hlo : ¬ n < lo := by omega
  have hnot : ¬ n ≤ hi := by omega
  simp [Ranges.contains, hlo, hnot]

end EditorBridge.Unicode
