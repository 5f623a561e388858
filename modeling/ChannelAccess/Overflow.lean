/-!
Instants are 64-bit signed counts and symbol counts are machine words. Arithmetic that leaves its
range has no result: the whole operation ends with the kind of arithmetic that failed.
-/

namespace ChannelAccess

inductive Overflow where
  | addition
  | subtraction
  | multiplication
  deriving DecidableEq, Repr

def Overflow.message : Overflow → String
  | .addition => "attempt to add with overflow"
  | .subtraction => "attempt to subtract with overflow"
  | .multiplication => "attempt to multiply with overflow"

/-- Microsecond counts that a clock can show. -/
def InClockRange (us : Int) : Prop :=
  -9223372036854775808 ≤ us ∧ us < 9223372036854775808

instance (us : Int) : Decidable (InClockRange us) :=
  inferInstanceAs (Decidable (_ ∧ _))

/-- `us` itself if a clock can show it. -/
def clockValue (failure : Overflow) (us : Int) : Except Overflow Int :=
  if InClockRange us then .ok us else .error failure

/-- `count` itself if it fits an unsigned word of 32 bits. -/
def wordValue (failure : Overflow) (count : Nat) : Except Overflow Nat :=
  if count < 4294967296 then .ok count else .error failure

/-- `count` itself if it fits an unsigned word of 64 bits. -/
def longWordValue (failure : Overflow) (count : Nat) : Except Overflow Nat :=
  if count < 18446744073709551616 then .ok count else .error failure

theorem clockValue_eq_ok {failure : Overflow} {us value : Int} :
    clockValue failure us = .ok value ↔ InClockRange us ∧ us = value := by
  by_cases inside : InClockRange us <;> simp [clockValue, inside]

theorem clockValue_of_inRange {failure : Overflow} {us : Int} (inRange : InClockRange us) :
    clockValue failure us = .ok us := by
  simp [clockValue, inRange]

theorem wordValue_eq_ok {failure : Overflow} {count value : Nat} :
    wordValue failure count = .ok value ↔ count < 4294967296 ∧ count = value := by
  by_cases inside : count < 4294967296 <;> simp [wordValue, inside]

theorem longWordValue_eq_ok {failure : Overflow} {count value : Nat} :
    longWordValue failure count = .ok value ↔ count < 18446744073709551616 ∧ count = value := by
  by_cases inside : count < 18446744073709551616 <;> simp [longWordValue, inside]

end ChannelAccess
