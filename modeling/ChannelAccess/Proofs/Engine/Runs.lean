import ChannelAccess.Proofs.Engine.Stages

/-!
Runs of an engine: any operations in any order, each with its own surroundings. A timer may be
fired whether or not it was ever scheduled. Main statement: `perform_effect`, the five things that
an operation can do to an engine.
-/

namespace ChannelAccess

/-- One operation with all that it finds around it. -/
inductive Operation where
  | start (around : Surroundings)
  | fire (timer : Timer) (around : Surroundings)
  | confirm (status : ChannelStatus)
  | cancel
  | setPolicy (policy : Policy)
  | setMode (mode : Mode)
  deriving DecidableEq, Repr

namespace Engine

variable {ρ : Type}

/-- The reaction to a change that may be refused. -/
def change (engine : Engine ρ) : Except AccessError (Engine ρ) → Reaction ρ
  | .ok changed => { engine := changed }
  | .error error => { engine, result := .error error }

def perform [WordSource ρ] (engine : Engine ρ) : Operation → Except Overflow (Reaction ρ)
  | .start around => engine.start around
  | .fire timer around => engine.fire timer around
  | .confirm status => .ok (engine.confirm status)
  | .cancel => .ok { engine := engine.cancel }
  | .setPolicy policy => .ok (engine.change (engine.setPolicy policy))
  | .setMode mode => .ok (engine.change (engine.setMode mode))

/-- The action of an operation that delivers what the engine waits for. -/
def accepts (engine : Engine ρ) : Operation → Option Action
  | .fire timer _ =>
    if engine.timers.armed timer.kind = some timer.number then some (.expired timer.kind) else none
  | .confirm status => if engine.ccaOutstanding then some (.assessed status) else none
  | .start _ | .cancel | .setPolicy _ | .setMode _ => none

theorem accepts_of_eq_some {engine : Engine ρ} {operation : Operation} {action : Action}
    (accepted : engine.accepts operation = some action) :
    (∃ timer around, operation = .fire timer around ∧ action = .expired timer.kind ∧
        engine.timers.armed timer.kind = some timer.number) ∨
      (∃ status, operation = .confirm status ∧ action = .assessed status ∧
        engine.ccaOutstanding = true) := by
  cases operation with
  | fire timer around =>
    by_cases armed : engine.timers.armed timer.kind = some timer.number
    · rw [accepts,if_pos armed] at accepted
      exact .inl ⟨timer,around,rfl,(Option.some.inj accepted).symm,armed⟩
    · simp [accepts,armed] at accepted
  | confirm status =>
    cases outstanding : engine.ccaOutstanding with
    | true =>
      rw [accepts,if_pos outstanding] at accepted
      exact .inr ⟨status,rfl,(Option.some.inj accepted).symm,rfl⟩
    | false => simp [accepts,outstanding] at accepted
  | start around => simp [accepts] at accepted
  | cancel => simp [accepts] at accepted
  | setPolicy policy => simp [accepts] at accepted
  | setMode mode => simp [accepts] at accepted

theorem accepts_advances [WordSource ρ] {engine : Engine ρ} {stage : Stage} {operation : Operation}
    {action : Action} {reaction : Reaction ρ} (inside : engine.At stage)
    (accepted : engine.accepts operation = some action)
    (performed : engine.perform operation = .ok reaction) :
    ∃ next, Advances engine stage action reaction next := by
  rcases accepts_of_eq_some accepted with
    ⟨timer,around,rfl,rfl,armed⟩ | ⟨status,rfl,rfl,outstanding⟩
  · exact fire_advances inside armed performed
  · cases performed
    exact confirm_advances inside outstanding

end Engine

structure Deed (ρ : Type) where
  before : Engine ρ
  operation : Operation
  reaction : Reaction ρ

namespace Deed

variable {ρ : Type}

def action? (deed : Deed ρ) : Option Action := deed.before.accepts deed.operation

def begins (deed : Deed ρ) : Bool :=
  match deed.operation, deed.reaction.result with
  | .start _, .ok () => true
  | _, _ => false

/-- A fire that returned an error. -/
def timerRefused (deed : Deed ρ) : Bool :=
  match deed.operation, deed.reaction.result with
  | .fire _ _, .error _ => true
  | _, _ => false

end Deed

/-- What was performed one after the other, oldest first, and the engine after it. -/
inductive Run {ρ : Type} [WordSource ρ] (first : Engine ρ) : List (Deed ρ) → Engine ρ → Prop
  | start : Run first [] first
  | step {deeds : List (Deed ρ)} {last : Engine ρ} {operation : Operation} {reaction : Reaction ρ}
      (before : Run first deeds last) (performed : last.perform operation = .ok reaction) :
      Run first (deeds ++ [⟨last,operation,reaction⟩]) reaction.engine

namespace Engine

variable {ρ : Type}

theorem new_at {policy : Policy} {words : ρ} {engine : Engine ρ}
    (made : Engine.new policy words = .ok engine) :
    engine.At .concluded ∧ policy.validate = .ok () ∧ engine.policy = policy := by
  obtain ⟨_,valid,made⟩ := except_bind_eq_ok.mp made
  cases made
  refine ⟨?_,valid,rfl⟩
  exact {
    armed := by intro kind; cases kind <;> simp [TimerTable.armed,Stage.awaited]
    outstanding := rfl
    running := by simp
    allowed := trivial
    window := fun concluded => absurd rfl concluded }

theorem cancel_at (engine : Engine ρ) : engine.cancel.At .concluded where
  armed := by simp [cancel,Stage.awaited]
  outstanding := rfl
  running := by simp [cancel]
  allowed := trivial
  window concluded := absurd rfl concluded

theorem At.reconfigured {engine : Engine ρ} (inside : engine.At .concluded) (policy : Policy) :
    { engine with policy, carriedPeriods := 0 }.At .concluded where
  armed := inside.armed
  outstanding := inside.outstanding
  running := inside.running
  allowed := trivial
  window concluded := absurd rfl concluded

theorem setPolicy_eq_ok {engine changed : Engine ρ} {policy : Policy} :
    engine.setPolicy policy = .ok changed ↔
      engine.running = false ∧ policy.validate = .ok () ∧
        changed = { engine with policy, carriedPeriods := 0 } := by
  cases running : engine.running with
  | true => simp [setPolicy,running]
  | false =>
    cases valid : policy.validate <;>
      simp [setPolicy,running,valid,bind,Except.bind,pure,Except.pure,eq_comm]

/-- What an operation can do to an engine in a stage. -/
inductive Effect (engine : Engine ρ) (stage : Stage) (operation : Operation)
    (reaction : Reaction ρ) : Prop
  /-- A late delivery or a refusal leaves the engine alone. -/
  | ignored (unheard : engine.accepts operation = none) (same : reaction.engine = engine)
      (silent : reaction.calls = [])
      (fruitless : (Deed.mk engine operation reaction).begins = false)
      (unrefused : (Deed.mk engine operation reaction).timerRefused = false)
  | advanced {action : Action} {next : Stage} (accepted : engine.accepts operation = some action)
      (advances : Advances engine stage action reaction next)
  | begun {around : Surroundings} (starts : operation = .start around)
      (succeeds : reaction.result = .ok ()) (arrives : reaction.engine.At .backoffStart)
      (policy : reaction.engine.policy = engine.policy)
  | cancelled (cancels : operation = .cancel) (abandoned : reaction = { engine := engine.cancel })
  | reconfigured {policy : Policy} (configures : operation = .setPolicy policy ∨
        ∃ mode, operation = .setMode mode)
      (idle : engine.running = false) (valid : policy.validate = .ok ())
      (changed : reaction = { engine := { engine with policy, carriedPeriods := 0 } })

theorem change_effect {engine : Engine ρ} {stage : Stage} {operation : Operation} {policy : Policy}
    (configures : operation = .setPolicy policy ∨ ∃ mode, operation = .setMode mode) :
    Effect engine stage operation (engine.change (engine.setPolicy policy)) := by
  cases changed : engine.setPolicy policy with
  | error error =>
    apply Effect.ignored
    · rcases configures with rfl | ⟨mode,rfl⟩ <;> rfl
    · rfl
    · rfl
    · rcases configures with rfl | ⟨mode,rfl⟩ <;> rfl
    · rcases configures with rfl | ⟨mode,rfl⟩ <;> rfl
  | ok result =>
    obtain ⟨idle,valid,rfl⟩ := setPolicy_eq_ok.mp changed
    exact .reconfigured configures idle valid rfl

theorem perform_effect [WordSource ρ] {engine : Engine ρ} {stage : Stage} {operation : Operation}
    {reaction : Reaction ρ} (inside : engine.At stage)
    (performed : engine.perform operation = .ok reaction) :
    Effect engine stage operation reaction := by
  cases operation with
  | start around =>
    rcases start_cases performed with rfl | ⟨succeeds,arrives,policy,_⟩
    · exact .ignored rfl rfl rfl rfl rfl
    · exact .begun rfl succeeds arrives policy
  | fire timer around =>
    by_cases armed : engine.timers.armed timer.kind = some timer.number
    · obtain ⟨next,advances⟩ := fire_advances inside armed performed
      exact .advanced (if_pos armed) advances
    · rw [perform,fire_stale around armed] at performed
      cases performed
      exact .ignored (if_neg armed) rfl rfl rfl rfl
  | confirm status =>
    cases performed
    cases outstanding : engine.ccaOutstanding with
    | true =>
      obtain ⟨next,advances⟩ := confirm_advances inside outstanding
      exact .advanced (if_pos outstanding) advances
    | false =>
      rw [confirm_unexpected status outstanding]
      exact .ignored (if_neg (by simp [outstanding])) rfl rfl rfl rfl
  | cancel =>
    cases performed
    exact .cancelled rfl rfl
  | setPolicy policy =>
    cases performed
    exact change_effect (.inl rfl)
  | setMode mode =>
    cases performed
    exact change_effect (.inr ⟨mode,rfl⟩)

end Engine

end ChannelAccess
