import ChannelAccess.Proofs.Engine.Stages

/-!
An attempt comes to its end: every accepted delivery leaves fewer to come, and an attempt that has
just begun needs at most six for each round.
-/

namespace ChannelAccess

variable {ρ : Type}

/-- Deliveries that may still come in the round. -/
def Stage.roundLeft : Stage → Nat
  | backoffStart => 6
  | canProceed => 5
  | ccaRequest idles => 4 - 2 * idles
  | assessment idles => 3 - 2 * idles
  | capEnd => 1
  | concluded | stuck => 0

namespace Engine

/-- Deliveries that may still come in the attempt. -/
def deliveriesLeft (engine : Engine ρ) (stage : Stage) : Nat :=
  if stage = .concluded ∨ stage = .stuck then 0
  else 6 * (engine.policy.maxBackoffs.toNat - engine.progress.backoffs) + stage.roundLeft

theorem At.roundLeft_pos {engine : Engine ρ} {stage : Stage} (inside : engine.At stage)
    (going : stage ≠ .concluded) (able : stage ≠ .stuck) : 0 < stage.roundLeft := by
  have allowed := inside.allowed
  cases stage with
  | concluded => exact absurd rfl going
  | stuck => exact absurd rfl able
  | ccaRequest idles | assessment idles =>
    have few : engine.policy.mode.needed ≤ 2 := by cases engine.policy.mode <;> decide
    have less : idles < engine.policy.mode.needed := allowed
    simp only [Stage.roundLeft]
    omega
  | backoffStart | canProceed | capEnd => decide

theorem Advances.fewer {engine : Engine ρ} {stage next : Stage} {action : Action}
    {reaction : Reaction ρ} (inside : engine.At stage)
    (advances : Advances engine stage action reaction next) :
    reaction.engine.deliveriesLeft next < engine.deliveriesLeft stage := by
  have follows := advances.follows
  have going : ¬ (stage = .concluded ∨ stage = .stuck) := by
    cases follows <;> simp
  have positive := inside.roundLeft_pos (fun concluded => going (.inl concluded)) fun stuck => going (.inr stuck)
  have allowed := inside.allowed
  have few : engine.policy.mode.needed ≤ 2 := by cases engine.policy.mode <;> decide
  rw [deliveriesLeft,deliveriesLeft,if_neg going,advances.policy,advances.backoffs]
  by_cases ends : next = .concluded ∨ next = .stuck
  · rw [if_pos ends]
    omega
  · rw [if_neg ends]
    -- Only a busy assessment begins another round, and it uses up a backoff.
    have gaveUp := advances.gaveUp
    cases follows with
    | backsOff idles busy =>
      have kept := (not_congr (gaveUp (by simp [Action.busy,busy]))).mp (by simp)
      simp only [Action.busy,busy,Bool.not_false,if_true,Stage.roundLeft] at positive ⊢
      omega
    | requested idles =>
      have less : idles < engine.policy.mode.needed := allowed
      simp only [Action.busy,Bool.false_eq_true,if_false,Stage.roundLeft]
      omega
    | stillIdle idles idle more =>
      simp only [Action.busy,idle,Bool.not_true,Bool.false_eq_true,if_false,Stage.roundLeft]
      omega
    | granted | fails | capEnds | backoffRefused | checkRefused => simp at ends
    | drawn | fits | cutShort | proceeds | tooLong =>
      simp only [Action.busy,Bool.false_eq_true,if_false,Stage.roundLeft]
      omega

end Engine

end ChannelAccess
