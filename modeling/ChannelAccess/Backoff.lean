import ChannelAccess.RandomWords

/-!
Random backoffs: a whole number of periods from zero to `2 ^ exponent - 1`, bounds included.
-/

namespace ChannelAccess.Backoff

/-- The largest number of periods. Exponents above 31 count as 31. -/
def maxPeriods (exponent : Nat) : Nat := (1 <<< min exponent 31) - 1

/-- A number of periods from the next random word. -/
def draw {ρ : Type} [WordSource ρ] (source : ρ) (exponent : Nat) : Nat × ρ :=
  let (word, rest) := WordSource.next source
  (word.toNat % (maxPeriods exponent + 1), rest)

end ChannelAccess.Backoff
