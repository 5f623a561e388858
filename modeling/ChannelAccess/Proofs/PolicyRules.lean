import ChannelAccess.Policy

/-!
What is asked of a policy: four rules in a fixed order, and a policy is refused for the first of them
that it breaks. Main statement: `Policy.validate_eq`.
-/

namespace ChannelAccess

namespace Policy

inductive Rule where
  | maxExponent
  | exponentOrder
  | maxBackoffs
  | backoffPeriod
  deriving DecidableEq, Repr

namespace Rule

/-- The rules in the order in which they are checked. -/
def all : List Rule := [maxExponent,exponentOrder,maxBackoffs,backoffPeriod]

def Holds (policy : Policy) : Rule → Prop
  | maxExponent => 3 ≤ policy.maxExponent.toNat ∧ policy.maxExponent.toNat ≤ 8
  | exponentOrder => policy.minExponent.toNat ≤ policy.maxExponent.toNat
  | maxBackoffs => policy.maxBackoffs.toNat ≤ 5
  | backoffPeriod => 0 < policy.backoffPeriod.toNat

instance (policy : Policy) : (rule : Rule) → Decidable (rule.Holds policy)
  | maxExponent => inferInstanceAs (Decidable (_ ∧ _))
  | exponentOrder => inferInstanceAs (Decidable (_ ≤ _))
  | maxBackoffs => inferInstanceAs (Decidable (_ ≤ _))
  | backoffPeriod => inferInstanceAs (Decidable (_ < _))

def refusal (policy : Policy) : Rule → AccessError
  | maxExponent => .maxExponentOutOfRange policy.maxExponent
  | exponentOrder => .exponentOrder policy.minExponent policy.maxExponent
  | maxBackoffs => .maxBackoffsOutOfRange policy.maxBackoffs
  | backoffPeriod => .zeroBackoffPeriod

end Rule

def firstBroken (policy : Policy) : Option Rule := Rule.all.find? fun rule => ¬ rule.Holds policy

/-- The refusal for the first rule that the policy breaks, or none. -/
def judgement (policy : Policy) : Except AccessError Unit :=
  match policy.firstBroken with
  | some rule => .error (rule.refusal policy)
  | none => .ok ()

theorem validate_eq (policy : Policy) : policy.validate = policy.judgement := by
  have range : policy.maxExponent < 3 ∨ 8 < policy.maxExponent ↔ ¬ Rule.maxExponent.Holds policy := by
    simp only [Rule.Holds,UInt8.lt_iff_toNat_lt,UInt8.reduceToNat]
    omega
  have order : policy.maxExponent < policy.minExponent ↔ ¬ Rule.exponentOrder.Holds policy := by
    simp only [Rule.Holds,UInt8.lt_iff_toNat_lt,Nat.not_le]
  have few : 5 < policy.maxBackoffs ↔ ¬ Rule.maxBackoffs.Holds policy := by
    simp only [Rule.Holds,UInt8.lt_iff_toNat_lt,UInt8.reduceToNat,Nat.not_le]
  have lasts : policy.backoffPeriod = 0 ↔ ¬ Rule.backoffPeriod.Holds policy := by
    simp only [Rule.Holds,← UInt32.toNat_inj,UInt32.reduceToNat]
    omega
  simp only [validate,range,order,few,lasts,judgement,firstBroken,Rule.all,
    List.find?_cons,List.find?_nil]
  by_cases inRange : Rule.maxExponent.Holds policy
  · by_cases ordered : Rule.exponentOrder.Holds policy
    · by_cases limited : Rule.maxBackoffs.Holds policy
      · by_cases positive : Rule.backoffPeriod.Holds policy <;>
          simp [inRange,ordered,limited,positive,Rule.refusal]
      · simp [inRange,ordered,limited,Rule.refusal]
    · simp [inRange,ordered,Rule.refusal]
  · simp [inRange,Rule.refusal]

theorem validate_ne_attemptActive (policy : Policy) : policy.validate ≠ .error .attemptActive := by
  rw [validate_eq,judgement]
  cases policy.firstBroken with
  | none => simp
  | some rule => cases rule <;> simp [Rule.refusal]

theorem validate_eq_ok {policy : Policy} :
    policy.validate = .ok () ↔
      3 ≤ policy.maxExponent.toNat ∧ policy.maxExponent.toNat ≤ 8 ∧
        policy.minExponent.toNat ≤ policy.maxExponent.toNat ∧ policy.maxBackoffs.toNat ≤ 5 ∧
        policy.backoffPeriod ≠ 0 := by
  have unbroken : policy.validate = .ok () ↔ policy.firstBroken = none := by
    rw [validate_eq,judgement]
    cases policy.firstBroken <;> simp
  have positive : 0 < policy.backoffPeriod.toNat ↔ policy.backoffPeriod ≠ 0 := by
    rw [Nat.pos_iff_ne_zero,ne_eq,ne_eq,← UInt32.toNat_inj]
    rfl
  rw [unbroken,firstBroken,List.find?_eq_none]
  simp [Rule.all,Rule.Holds,positive,and_assoc]

end Policy

end ChannelAccess
