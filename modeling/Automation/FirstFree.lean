/-!
# The first free number

The least number from a start that is not taken, among a bounded count of candidates. With more
candidates than taken numbers the search never runs out.
-/

namespace Automation

/-- The least of `start, …, start + bound - 1` that is not taken, or else `start + bound`. -/
def firstFree (taken : Nat → Bool) : (bound start : Nat) → Nat
  | 0, start => start
  | bound + 1, start => if taken start then firstFree taken bound (start + 1) else start

theorem le_firstFree (taken : Nat → Bool) (bound start : Nat) :
    start ≤ firstFree taken bound start := by
  induction bound generalizing start with
  | zero => simp [firstFree]
  | succ bound ih =>
    unfold firstFree
    split
    · exact Nat.le_of_succ_le (ih (start + 1))
    · exact Nat.le_refl start

end Automation
