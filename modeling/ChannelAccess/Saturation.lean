/-!
Sums and products of symbol counts that stay at the largest 32-bit word instead of leaving it.
-/

namespace ChannelAccess

def largestWord : Nat := 4294967295

def saturatingAdd (a b : Nat) : Nat := min (a + b) largestWord

def saturatingMul (a b : Nat) : Nat := min (a * b) largestWord

theorem saturatingAdd_le (a b : Nat) : saturatingAdd a b ≤ largestWord :=
  Nat.min_le_right _ _

theorem saturatingMul_le (a b : Nat) : saturatingMul a b ≤ largestWord :=
  Nat.min_le_right _ _

/-- Saturating in the middle of a sum does not show at its end. -/
theorem saturatingAdd_saturated (a b : Nat) :
    saturatingAdd (min a largestWord) b = min (a + b) largestWord := by
  unfold saturatingAdd
  omega

end ChannelAccess
