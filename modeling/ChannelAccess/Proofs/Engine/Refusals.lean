import ChannelAccess.Proofs.Engine.Counters
import ChannelAccess.Proofs.Engine.Deliveries

/-!
What a refused operation leaves behind. A start and a change of policy are refused before their first
effect. A timer that comes back is disarmed before the radio is asked for its rate, so a refused one
is lost, and nothing but a cancellation or a new attempt helps. Main statement:
`refusals_change_nothing`.
-/

namespace ChannelAccess

/-- The policy that an operation puts in place of another. -/
inductive Operation.Configures (policy : Policy) : Operation → Policy → Prop
  | policy (replacement : Policy) : Configures policy (.setPolicy replacement) replacement
  | mode (mode : Mode) : Configures policy (.setMode mode) { policy with mode }

/-- Neither a cancellation nor the start of a new attempt. -/
def Deed.bears {ρ : Type} (deed : Deed ρ) : Prop :=
  deed.operation ≠ .cancel ∧ deed.begins = false

namespace Engine

variable {ρ : Type}

theorem change_result (engine : Engine ρ) (policy : Policy) :
    (engine.change (engine.setPolicy policy)).result =
      if engine.running then .error .attemptActive else policy.validate := by
  cases running : engine.running with
  | true => simp [setPolicy,change,running]
  | false =>
    cases valid : policy.validate <;>
      simp [setPolicy,change,running,valid,bind,Except.bind,pure,Except.pure]

theorem change_refused {engine : Engine ρ} {policy : Policy} {error : AccessError}
    (refused : (engine.change (engine.setPolicy policy)).result = .error error) :
    engine.change (engine.setPolicy policy) = { engine, result := .error error } := by
  cases changed : engine.setPolicy policy with
  | error reason =>
    rw [changed] at refused
    cases refused
    rfl
  | ok result =>
    rw [changed] at refused
    cases refused

theorem change_accepted {engine : Engine ρ} {policy : Policy}
    (accepted : (engine.change (engine.setPolicy policy)).result = .ok ()) :
    engine.change (engine.setPolicy policy) =
      { engine := { engine with policy, carriedPeriods := 0 } } := by
  cases changed : engine.setPolicy policy with
  | error reason =>
    rw [changed] at accepted
    cases accepted
  | ok result =>
    obtain ⟨_,_,rfl⟩ := setPolicy_eq_ok.mp changed
    rfl

variable [WordSource ρ]

theorem perform_configures {engine : Engine ρ} {operation : Operation} {policy : Policy}
    (configures : operation.Configures engine.policy policy) :
    engine.perform operation = .ok (engine.change (engine.setPolicy policy)) := by
  cases configures <;> rfl

/-- A fire that is refused loses its timer and nothing else. No later delivery moves the attempt on,
and it runs until it is cancelled or a new one begins. -/
structure Loses (engine : Engine ρ) (timer : Timer) (around : Surroundings) (error : AccessError)
    (reaction : Reaction ρ) : Prop where
  zeroRate : error = .zeroSymbolRate ∧ around.radio.symbolsPerSecond = 0
  armed : engine.timers.armed timer.kind = some timer.number
  kind : timer.kind = .backoffStart ∨ timer.kind = .canProceed
  disarmed : reaction.engine = { engine with timers := engine.timers.put timer.kind none }
  silent : reaction.calls = []
  stays : ∀ deeds later, Run reaction.engine deeds later → (∀ deed ∈ deeds, deed.bears) →
    later = reaction.engine ∧ later.running = true ∧ ∀ deed ∈ deeds, deed.reaction.calls = []

theorem At.perform_stuck {engine : Engine ρ} {operation : Operation} {reaction : Reaction ρ}
    (inside : engine.At .stuck) (performed : engine.perform operation = .ok reaction)
    (bears : (Deed.mk engine operation reaction).bears) :
    reaction.engine = engine ∧ reaction.calls = [] := by
  obtain ⟨kept,continues⟩ := bears
  cases perform_effect inside performed with
  | ignored unheard same silent fruitless unrefused => exact ⟨same,silent⟩
  | advanced accepted advances => cases advances.follows
  | begun starts succeeds arrives policy =>
    simp [Deed.begins,starts,succeeds] at continues
  | cancelled cancels abandoned => exact absurd cancels kept
  | reconfigured configures idle valid changed =>
    have running : engine.running = true := inside.running.mpr (by simp)
    simp [idle] at running

theorem At.run_stuck {engine later : Engine ρ} {deeds : List (Deed ρ)} (inside : engine.At .stuck)
    (run : Run engine deeds later) (bear : ∀ deed ∈ deeds, deed.bears) :
    later = engine ∧ ∀ deed ∈ deeds, deed.reaction.calls = [] := by
  induction run with
  | start => exact ⟨rfl,by simp⟩
  | step before performed ih =>
    obtain ⟨rfl,silent⟩ := ih fun deed member => bear deed (by simp [member])
    obtain ⟨same,quiet⟩ := inside.perform_stuck performed (bear _ (by simp))
    refine ⟨same,fun deed member => ?_⟩
    rcases List.mem_append.mp member with earlier | now
    · exact silent deed earlier
    · obtain rfl := List.mem_singleton.mp now
      exact quiet

theorem At.fire_refused {engine : Engine ρ} {stage : Stage} {timer : Timer} {around : Surroundings}
    {error : AccessError} {reaction : Reaction ρ} (inside : engine.At stage)
    (performed : engine.perform (.fire timer around) = .ok reaction)
    (refused : reaction.result = .error error) : engine.Loses timer around error reaction := by
  by_cases armed : engine.timers.armed timer.kind = some timer.number
  · obtain ⟨next,advances⟩ := fire_advances inside armed performed
    obtain rfl := advances.stuck_of_refused refused
    have kind : timer.kind = .backoffStart ∨ timer.kind = .canProceed := by
      have follows := advances.follows
      generalize timer.kind = kind at follows
      cases follows with
      | backoffRefused => exact .inl rfl
      | checkRefused => exact .inr rfl
    have stuck := advances.arrives
    have accepted : engine.accepts (.fire timer around) = some (.expired timer.kind) := if_pos armed
    cases advances.reacts inside accepted performed with
    | refused awaits unrated =>
      refine ⟨⟨?zero,(SymbolRate.of_eq_error_iff.mp unrated).1⟩,armed,kind,rfl,rfl,?stays⟩
      case zero =>
        cases refused
        rfl
      case stays =>
        intro deeds later run bear
        obtain ⟨same,silent⟩ := stuck.run_stuck run bear
        exact ⟨same,same ▸ stuck.running.mpr (by simp),silent⟩
  · rw [perform,fire_stale around armed] at performed
    cases performed
    cases refused

omit [WordSource ρ] in
theorem start_unchanged {engine : Engine ρ} {around : Surroundings} {error : AccessError}
    {reaction : Reaction ρ} (started : engine.start around = .ok reaction)
    (refused : reaction.result = .error error) : reaction.engine = engine ∧ reaction.calls = [] := by
  rcases start_cases started with rfl | ⟨succeeds,_⟩
  · exact ⟨rfl,rfl⟩
  · rw [succeeds] at refused
    cases refused

omit [WordSource ρ] in
theorem At.confirm_result {engine : Engine ρ} {stage : Stage} (inside : engine.At stage)
    (status : ChannelStatus) : (engine.confirm status).result = .ok () := by
  cases outstanding : engine.ccaOutstanding with
  | true =>
    obtain ⟨next,advances⟩ := confirm_advances inside outstanding
    have able : next ≠ .stuck := by
      have follows := advances.follows
      rintro rfl
      cases follows
    rw [advances.result,if_neg able]
  | false => rw [confirm_unexpected status outstanding]

end Engine

variable {ρ : Type} [WordSource ρ]

/-- In every run, a change of policy is refused exactly while an attempt runs or for the first rule
that the new policy breaks, and changes nothing but the policy and the carried periods. A refused
start or change leaves the engine alone and calls nobody. A fire is refused for want of a symbol rate
alone, and loses the timer of a backoff or of a check. -/
theorem refusals_change_nothing {policy : Policy} {words : ρ} {first last : Engine ρ}
    {deeds : List (Deed ρ)} (made : Engine.new policy words = .ok first)
    (run : Run first deeds last) :
    (∀ operation replacement, operation.Configures last.policy replacement →
      ∃ reaction, last.perform operation = .ok reaction ∧
        (reaction.result = .error .attemptActive ↔ last.running = true) ∧
        (last.running = false → reaction.result = replacement.judgement) ∧
        (reaction.result = .ok () → reaction.calls = [] ∧
          reaction.engine = { last with policy := replacement, carriedPeriods := 0 })) ∧
    ∀ operation reaction error, last.perform operation = .ok reaction →
      reaction.result = .error error →
        match operation with
        | .start _ | .setPolicy _ | .setMode _ => reaction.engine = last ∧ reaction.calls = []
        | .fire timer around => last.Loses timer around error reaction
        | .confirm _ | .cancel => False := by
  obtain ⟨stage,counted⟩ := Engine.Counted.run made run
  have inside := counted.inside
  constructor
  · intro operation replacement configures
    refine ⟨_,Engine.perform_configures configures,?active,?idle,?accepted⟩
    case active =>
      rw [Engine.change_result]
      cases running : last.running with
      | true => simp
      | false => simpa using replacement.validate_ne_attemptActive
    case idle =>
      intro idle
      rw [Engine.change_result,idle,if_neg (by simp),replacement.validate_eq]
    case accepted =>
      intro accepted
      rw [Engine.change_accepted accepted]
      exact ⟨rfl,rfl⟩
  · intro operation reaction error performed refused
    cases operation with
    | start around => exact Engine.start_unchanged performed refused
    | fire timer around => exact inside.fire_refused performed refused
    | setPolicy replacement =>
      cases performed
      rw [Engine.change_refused refused]
      exact ⟨rfl,rfl⟩
    | setMode mode =>
      cases performed
      rw [Engine.setMode,Engine.change_refused refused]
      exact ⟨rfl,rfl⟩
    | confirm status =>
      cases performed
      rw [inside.confirm_result status] at refused
      cases refused
    | cancel =>
      cases performed
      cases refused

/-- A policy that breaks three rules is refused for the first of them, one that breaks none is refused
during an attempt, and a radio without a symbol rate costs the attempt its first timer. -/
theorem refusals_change_nothing_thrice :
    ∃ (first last : Engine WordScript) (deeds : List (Deed WordScript))
      (broken active lost : Reaction WordScript),
      Engine.new { mode := .slotted } ⟨[5]⟩ = .ok first ∧ Run first deeds last ∧
        first.perform (.setPolicy ⟨9,8,6,0,false,.slotted⟩) = .ok broken ∧
        broken.result = .error (.exponentOrder 9 8) ∧ broken.engine = first ∧
        last.running = true ∧ last.perform (.setMode .unslotted) = .ok active ∧
        active.result = .error .attemptActive ∧ active.engine = last ∧
        last.perform (.fire ⟨.backoffStart,0⟩ (.plain 0)) = .ok lost ∧
        last.Loses ⟨.backoffStart,0⟩ (.plain 0) .zeroSymbolRate lost := by
  obtain ⟨first,made⟩ :
    ∃ first, Engine.new { mode := .slotted } (⟨[5]⟩ : WordScript) = .ok first := ⟨_,rfl⟩
  have fresh : first.running = false := by
    cases made
    rfl
  obtain ⟨deeds,last,run,running,lost,performed,refused⟩ : ∃ deeds last, Run first deeds last ∧
      last.running = true ∧ ∃ lost, last.perform (.fire ⟨.backoffStart,0⟩ (.plain 0)) = .ok lost ∧
        lost.result = .error .zeroSymbolRate := by
    cases made
    exact ⟨_,_,.step .start (rfl : Engine.perform _ (.start (.plain 62500)) = _),rfl,_,rfl,rfl⟩
  obtain ⟨configures,unchanged⟩ := refusals_change_nothing made .start
  obtain ⟨configures',unchanged'⟩ := refusals_change_nothing made run
  obtain ⟨broken,performed',_,idle,_⟩ := configures _ _ (.policy ⟨9,8,6,0,false,.slotted⟩)
  have refused' : broken.result = .error (.exponentOrder 9 8) := idle fresh
  obtain ⟨active,performed'',busy,_⟩ := configures' _ _ (.mode .unslotted)
  have refused'' := busy.mpr running
  exact ⟨first,last,deeds,broken,active,lost,made,run,performed',refused',
    (unchanged _ _ _ performed' refused').1,running,performed'',refused'',
    (unchanged' _ _ _ performed'' refused'').1,performed,unchanged' _ _ _ performed refused⟩

end ChannelAccess
