import Mathlib.Algebra.Group.Nat.Defs
import ChannelAccess.Proofs.Engine.Deliveries
import ChannelAccess.Proofs.Engine.Verdicts
import ChannelAccess.Proofs.PolicyRules
import ChannelAccess.Proofs.SymbolTime

/-!
The counters of an engine in every run: the backoff exponent follows from the number of backoffs, no
more periods are left than the largest exponent allows, and none are carried while an attempt runs.
Main statement: `Counted.run`.
-/

namespace ChannelAccess

namespace Policy

theorem initialExponent_le (policy : Policy) :
    policy.initialExponent.toNat ≤ policy.minExponent.toNat := by
  unfold initialExponent
  split
  · change (if policy.minExponent ≤ 2 then policy.minExponent else 2).toNat ≤ _
    split
    · exact Nat.le_refl _
    · rename_i larger
      rw [UInt8.le_iff_toNat_le] at larger
      exact Nat.le_of_lt (Nat.lt_of_not_le larger)
  · exact Nat.le_refl _

theorem exponents_le {policy : Policy} (valid : policy.validate = .ok ()) :
    policy.maxExponent.toNat ≤ 8 ∧ policy.initialExponent.toNat ≤ 8 := by
  obtain ⟨_,low,ordered,_⟩ := validate_eq_ok.mp valid
  have initial := policy.initialExponent_le
  omega

end Policy

namespace Backoff

theorem maxPeriods_eq {exponent : Nat} (low : exponent ≤ 31) :
    maxPeriods exponent = 2 ^ exponent - 1 := by
  rw [maxPeriods,Nat.min_eq_left low,Nat.shiftLeft_eq,Nat.one_mul]

theorem maxPeriods_mono {low high : Nat} (le : low ≤ high) : maxPeriods low ≤ maxPeriods high := by
  unfold maxPeriods
  rw [Nat.shiftLeft_eq,Nat.shiftLeft_eq]
  have power := Nat.pow_le_pow_right Nat.zero_lt_two (by omega : min low 31 ≤ min high 31)
  omega

theorem maxPeriods_le {exponent : Nat} (low : exponent ≤ 8) : maxPeriods exponent ≤ 255 :=
  maxPeriods_mono low

end Backoff

namespace Engine

variable {ρ : Type}

theorem periodsBeyond_le (engine : Engine ρ) (rate : SymbolRate) (left : Span) :
    engine.periodsBeyond rate left ≤ engine.progress.periodsLeft :=
  Nat.sub_le _ _

theorem periodsBeyond_eq {engine : Engine ρ} {rate : SymbolRate} {left : Span}
    (few : engine.progress.periodsLeft < 4294967296)
    (exactly : InClockRange (rate.microseconds
      (engine.progress.periodsLeft * engine.policy.backoffPeriod.toNat)))
    (nonneg : 0 ≤ left.us) (short : left < engine.backoffSpan rate) :
    engine.periodsBeyond rate left =
      engine.progress.periodsLeft - rate.symbolsIn left / engine.policy.backoffPeriod.toNat := by
  have fewer := SymbolRate.symbolsIn_lt exactly nonneg short
  have used : rate.symbolsIn left / engine.policy.backoffPeriod.toNat < 4294967296 :=
    Nat.lt_trans (Nat.div_lt_of_lt_mul (Nat.mul_comm _ _ ▸ fewer)) few
  rw [periodsBeyond,Nat.mod_eq_of_lt used]

section

variable [WordSource ρ] {engine source : Engine ρ} {advice : Option UInt32} {asked : List Call}

theorem takeBackoff_cases (drawn : engine.takeBackoff advice = (source,asked)) :
    (engine.progress.periodsLeft ≠ 0 ∧ engine.policy.isSlotted = true ∧ source = engine ∧ asked = []) ∨
      source.progress.periodsLeft ≤ Backoff.maxPeriods engine.progress.exponent := by
  unfold takeBackoff at drawn
  split at drawn
  · right
    cases advice with
    | some periods =>
      cases drawn
      exact Nat.min_le_right _ _
    | none =>
      cases drawn
      exact Nat.le_of_lt_succ (Nat.mod_lt _ (Nat.succ_pos _))
  · rename_i resumes
    cases drawn
    simp only [not_or,Bool.not_eq_true,Bool.not_eq_false] at resumes
    exact .inl ⟨resumes.1,resumes.2,rfl,rfl⟩

end

/-- What the counters of an engine hold in a stage. -/
structure Counted (engine : Engine ρ) (stage : Stage) : Prop where
  inside : engine.At stage
  valid : engine.policy.validate = .ok ()
  exponent : stage ≠ .concluded → engine.progress.exponent =
    min (engine.policy.initialExponent.toNat + engine.progress.backoffs) engine.policy.maxExponent.toNat
  periods : stage ≠ .concluded →
    engine.progress.periodsLeft ≤ Backoff.maxPeriods engine.policy.maxExponent.toNat
  carried : engine.carriedPeriods ≤ Backoff.maxPeriods engine.policy.maxExponent.toNat
  kept : stage ≠ .concluded → engine.carriedPeriods = 0

namespace Counted

variable {engine : Engine ρ} {stage next : Stage}

theorem exponent_le (counted : engine.Counted stage) (going : stage ≠ .concluded) :
    engine.progress.exponent ≤ engine.policy.maxExponent.toNat := by
  rw [counted.exponent going]
  exact Nat.min_le_right _ _

theorem idle {ended : Engine ρ} (inside : ended.At .concluded) (valid : ended.policy.validate = .ok ())
    (carried : ended.carriedPeriods ≤ Backoff.maxPeriods ended.policy.maxExponent.toNat) :
    ended.Counted .concluded :=
  ⟨inside,valid,absurd rfl,absurd rfl,carried,absurd rfl⟩

theorem reconfigured {policy : Policy} (counted : engine.Counted .concluded)
    (valid : policy.validate = .ok ()) :
    { engine with policy, carriedPeriods := 0 }.Counted .concluded :=
  idle (counted.inside.reconfigured policy) valid (Nat.zero_le _)

theorem cancel (counted : engine.Counted stage) : engine.cancel.Counted .concluded :=
  idle (cancel_at engine) counted.valid (Nat.zero_le _)

theorem start {around : Surroundings} {reaction : Reaction ρ} (counted : engine.Counted stage)
    (started : engine.start around = .ok reaction) (succeeds : reaction.result = .ok ()) :
    reaction.engine.Counted .backoffStart := by
  obtain ⟨_,_,ordered,_⟩ := Policy.validate_eq_ok.mp counted.valid
  have initial := engine.policy.initialExponent_le
  rcases start_cases started with rfl | ⟨_,arrives,policy,backoffs,_⟩
  · cases succeeds
  · obtain ⟨wait,notes,rfl⟩ := start_begun started succeeds
    refine ⟨arrives,counted.valid,?exponent,?periods,Nat.zero_le _,fun _ => rfl⟩
    case exponent =>
      intro _
      change engine.policy.initialExponent.toNat =
        min (engine.policy.initialExponent.toNat + 0) engine.policy.maxExponent.toNat
      omega
    case periods =>
      intro _
      change (if engine.policy.isSlotted then engine.carriedPeriods else 0) ≤ _
      split
      · exact counted.carried
      · exact Nat.zero_le _

/-- The attempt goes on without another backoff. -/
theorem goesOn {later : Engine ρ} (counted : engine.Counted stage) (going : stage ≠ .concluded)
    (arrives : later.At next) (policy : later.policy = engine.policy)
    (progress : later.progress.exponent = engine.progress.exponent ∧
      later.progress.backoffs = engine.progress.backoffs)
    (periods : later.progress.periodsLeft ≤ Backoff.maxPeriods engine.policy.maxExponent.toNat)
    (carried : later.carriedPeriods = engine.carriedPeriods) : later.Counted next := by
  have none := counted.kept going
  refine ⟨arrives,policy ▸ counted.valid,fun _ => ?_,fun _ => policy ▸ periods,?_,fun _ => ?_⟩
  · rw [progress.1,progress.2,policy]
    exact counted.exponent going
  · rw [carried,none]
    exact Nat.zero_le _
  · rw [carried,none]

variable [WordSource ρ]

theorem drawn {source : Engine ρ} {advice : Option UInt32} {asked : List Call}
    (counted : engine.Counted .backoffStart)
    (drawn : (engine.taken .backoffStart).takeBackoff advice = (source,asked)) :
    source.progress.periodsLeft ≤ Backoff.maxPeriods engine.policy.maxExponent.toNat := by
  rcases takeBackoff_cases drawn with ⟨_,_,rfl,_⟩ | fewer
  · exact counted.periods (by simp)
  · exact Nat.le_trans fewer (Backoff.maxPeriods_mono (counted.exponent_le (by simp)))

/-- The backoff has been taken, and the end of the CAP may cut it short. -/
theorem takes {source later : Engine ρ} {advice : Option UInt32} {asked : List Call}
    (counted : engine.Counted .backoffStart)
    (drawn : (engine.taken .backoffStart).takeBackoff advice = (source,asked))
    (arrives : later.At next) (policy : later.policy = source.policy)
    (progress : later.progress.exponent = source.progress.exponent ∧
      later.progress.backoffs = source.progress.backoffs)
    (fewer : later.progress.periodsLeft ≤ source.progress.periodsLeft)
    (carried : later.carriedPeriods = source.carriedPeriods) : later.Counted next := by
  have same := takeBackoff_eq drawn
  have fewer := Nat.le_trans fewer (counted.drawn drawn)
  rw [same] at policy progress carried
  exact counted.goesOn (by simp) arrives policy progress fewer carried

theorem advance {operation : Operation} {action : Action} {reaction : Reaction ρ}
    (counted : engine.Counted stage) (accepted : engine.accepts operation = some action)
    (performed : engine.perform operation = .ok reaction)
    (advances : Advances engine stage action reaction next) : reaction.engine.Counted next := by
  have reacts := advances.reacts counted.inside accepted performed
  have going := advances.follows.going
  have arrives := advances.arrives
  have periods := counted.periods going
  cases reacts with
  | refused awaits unrated => exact counted.goesOn going arrives rfl ⟨rfl,rfl⟩ periods rfl
  | drawn unslotted rated drawn => exact counted.takes drawn arrives rfl ⟨rfl,rfl⟩ (Nat.le_refl _) rfl
  | fits slotted rated drawn => exact counted.takes drawn arrives rfl ⟨rfl,rfl⟩ (Nat.le_refl _) rfl
  | @cutShort number around rate source asked left slotted rated drawn =>
    exact counted.takes drawn arrives rfl ⟨rfl,rfl⟩ (source.periodsBeyond_le rate left) rfl
  | proceeds | tooLong => exact counted.goesOn going arrives rfl ⟨rfl,rfl⟩ (Nat.zero_le _) rfl
  | requested | stillIdle => exact counted.goesOn going arrives rfl ⟨rfl,rfl⟩ periods rfl
  | backsOff busy allowed =>
    refine ⟨arrives,counted.valid,fun _ => ?_,fun _ => periods,counted.carried,fun _ => counted.kept going⟩
    have exponent := counted.exponent going
    change min (engine.progress.exponent + 1) engine.policy.maxExponent.toNat =
      min (engine.policy.initialExponent.toNat + (engine.progress.backoffs + 1))
        engine.policy.maxExponent.toNat
    omega
  | granted | fails => exact idle arrives counted.valid (Nat.zero_le _)
  | capEnds => exact idle arrives counted.valid periods

theorem perform {operation : Operation} {reaction : Reaction ρ} (counted : engine.Counted stage)
    (performed : engine.perform operation = .ok reaction) :
    ∃ next, reaction.engine.Counted next := by
  cases perform_effect counted.inside performed with
  | ignored unheard same silent fruitless unrefused =>
    rw [same]
    exact ⟨stage,counted⟩
  | advanced accepted advances => exact ⟨_,counted.advance accepted performed advances⟩
  | begun starts succeeds arrives policy =>
    subst starts
    exact ⟨.backoffStart,counted.start performed succeeds⟩
  | cancelled cancels abandoned =>
    rw [abandoned]
    exact ⟨.concluded,counted.cancel⟩
  | reconfigured configures idle valid changed =>
    obtain rfl := counted.inside.concluded_of_idle idle
    rw [changed]
    exact ⟨.concluded,counted.reconfigured valid⟩

theorem run {policy : Policy} {words : ρ} {first last : Engine ρ} {deeds : List (Deed ρ)}
    (made : Engine.new policy words = .ok first) (run : Run first deeds last) :
    ∃ stage, last.Counted stage := by
  induction run with
  | start =>
    obtain ⟨inside,valid,policy⟩ := new_at made
    obtain ⟨_,_,same⟩ := except_bind_eq_ok.mp made
    cases same
    exact ⟨.concluded,idle inside valid (Nat.zero_le _)⟩
  | step before performed ih =>
    obtain ⟨stage,counted⟩ := ih
    exact counted.perform performed

end Counted

end Engine

end ChannelAccess
