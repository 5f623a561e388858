import ChannelAccess.Proofs.Engine.Runs

/-!
A running engine waits for exactly one delivery, an idle one for none, and the deliveries of an
attempt come in a fixed order. An observer writes down the attempt from the outside; the stage that
its notes lead to is the stage the engine is in.
-/

namespace ChannelAccess

variable {ρ : Type}

/-- What an observer has written down since the last successful start. -/
structure Attempt where
  mode : Mode := .unslotted
  /-- The deliveries that were accepted, oldest first. -/
  actions : List Action := []
  /-- A fire has returned an error. -/
  refused : Bool := false
  deriving DecidableEq, Repr

def Attempt.observe (attempt : Attempt) (deed : Deed ρ) : Attempt :=
  if deed.begins then { mode := deed.before.policy.mode }
  else { attempt with
    actions := attempt.actions ++ deed.action?.toList
    refused := attempt.refused || deed.timerRefused }

/-- The attempt in progress, or the last one. -/
def lastAttempt (deeds : List (Deed ρ)) : Attempt := deeds.foldl Attempt.observe {}

theorem lastAttempt_append (deeds : List (Deed ρ)) (deed : Deed ρ) :
    lastAttempt (deeds ++ [deed]) = (lastAttempt deeds).observe deed := by
  simp [lastAttempt]

namespace Engine

theorem Advances.outcome {engine : Engine ρ} {stage next : Stage} {operation : Operation}
    {action : Action} {reaction : Reaction ρ} (advances : Advances engine stage action reaction next)
    (accepted : engine.accepts operation = some action) :
    (Deed.mk engine operation reaction).begins = false ∧
      ((Deed.mk engine operation reaction).timerRefused = true ↔ next = .stuck) := by
  have result := advances.result
  rcases accepts_of_eq_some accepted with ⟨timer,around,rfl,rfl,_⟩ | ⟨status,rfl,rfl,_⟩
  · refine ⟨rfl,?_⟩
    by_cases stuck : next = .stuck
    · rw [if_pos stuck] at result
      simp [Deed.timerRefused,result,stuck]
    · rw [if_neg stuck] at result
      simp [Deed.timerRefused,result,stuck]
  · refine ⟨rfl,?_⟩
    have moves := advances.follows
    cases moves <;> simp [Deed.timerRefused]

/-- The notes on an attempt agree with the engine. `reached` is the stage that the notes lead to;
the engine is there, unless the attempt is over or abandoned. -/
structure Tracks (engine : Engine ρ) (attempt : Attempt) (reached current : Stage) : Prop where
  path : Path attempt.mode attempt.actions reached
  inside : engine.At current
  going : current ≠ .concluded → current = reached ∧ engine.policy.mode = attempt.mode ∧
    (attempt.refused = true ↔ current = .stuck)

theorem Tracks.idle {engine changed : Engine ρ} {attempt : Attempt} {reached current : Stage}
    (tracks : engine.Tracks attempt reached current) (inside : changed.At .concluded) :
    changed.Tracks attempt reached .concluded :=
  ⟨tracks.path,inside,fun concluded => absurd rfl concluded⟩

theorem Tracks.advance {engine : Engine ρ} {attempt : Attempt} {reached current next : Stage}
    {operation : Operation} {action : Action} {reaction : Reaction ρ}
    (tracks : engine.Tracks attempt reached current)
    (accepted : engine.accepts operation = some action)
    (advances : Advances engine current action reaction next) :
    reaction.engine.Tracks (attempt.observe ⟨engine,operation,reaction⟩) next next := by
  obtain ⟨fruitless,refused⟩ := advances.outcome accepted
  have going : current ≠ .concluded := by
    intro concluded
    have moves := advances.follows
    rw [concluded] at moves
    cases moves
  have waiting : current ≠ .stuck := by
    intro stuck
    have moves := advances.follows
    rw [stuck] at moves
    cases moves
  obtain ⟨same,mode,stuck⟩ := tracks.going going
  have noted : (Deed.mk engine operation reaction).action? = some action := accepted
  have unrefused : attempt.refused = false := by
    rw [← Bool.not_eq_true]
    exact fun refused => waiting (stuck.mp refused)
  simp only [Attempt.observe,fruitless,noted,Bool.false_eq_true,if_false,Option.toList_some,
    unrefused,Bool.false_or]
  refine ⟨?_,advances.arrives,fun _ => ⟨rfl,advances.policy ▸ mode,refused⟩⟩
  have moves := advances.follows
  rw [mode,same] at moves
  exact .step tracks.path moves

/-- One operation keeps the notes and the engine in agreement. -/
theorem Tracks.perform [WordSource ρ] {engine : Engine ρ} {attempt : Attempt}
    {reached current : Stage} {operation : Operation} {reaction : Reaction ρ}
    (tracks : engine.Tracks attempt reached current)
    (performed : engine.perform operation = .ok reaction) :
    ∃ reached current,
      reaction.engine.Tracks (attempt.observe ⟨engine,operation,reaction⟩) reached current := by
  cases perform_effect tracks.inside performed with
  | ignored unheard same silent fruitless unrefused =>
    have unnoted : (Deed.mk engine operation reaction).action? = none := unheard
    have observed : attempt.observe ⟨engine,operation,reaction⟩ = attempt := by
      simp [Attempt.observe,fruitless,unrefused,unnoted]
    rw [observed,same]
    exact ⟨reached,current,tracks⟩
  | advanced accepted advances => exact ⟨_,_,tracks.advance accepted advances⟩
  | begun starts succeeds arrives policy =>
    refine ⟨.backoffStart,.backoffStart,?_⟩
    have begins : (Deed.mk engine operation reaction).begins = true := by
      simp [Deed.begins,starts,succeeds]
    rw [Attempt.observe,if_pos begins]
    exact ⟨.start,arrives,fun _ => ⟨rfl,by rw [policy],by simp⟩⟩
  | cancelled cancels abandoned =>
    subst cancels abandoned
    have observed : attempt.observe ⟨engine,.cancel,{ engine := engine.cancel }⟩ = attempt := by
      simp [Attempt.observe,Deed.begins,Deed.timerRefused,Deed.action?,accepts]
    rw [observed]
    exact ⟨reached,.concluded,tracks.idle (cancel_at engine)⟩
  | @reconfigured policy configures idle valid changed =>
    subst changed
    obtain rfl := tracks.inside.concluded_of_idle idle
    have observed : attempt.observe
        ⟨engine,operation,{ engine := { engine with policy, carriedPeriods := 0 } }⟩ = attempt := by
      rcases configures with rfl | ⟨mode,rfl⟩ <;>
        simp [Attempt.observe,Deed.begins,Deed.timerRefused,Deed.action?,accepts]
    rw [observed]
    exact ⟨reached,.concluded,tracks.idle (tracks.inside.reconfigured policy)⟩

theorem Tracks.run [WordSource ρ] {policy : Policy} {words : ρ} {first last : Engine ρ}
    {deeds : List (Deed ρ)} (made : Engine.new policy words = .ok first)
    (run : Run first deeds last) :
    ∃ reached current, last.Tracks (lastAttempt deeds) reached current := by
  induction run with
  | start => exact ⟨.backoffStart,.concluded,.start,(new_at made).1,fun concluded => absurd rfl concluded⟩
  | step before performed ih =>
    obtain ⟨reached,current,tracks⟩ := ih
    rw [lastAttempt_append]
    exact tracks.perform performed

/-- How many actions an engine waits for: its armed timers, and an outstanding assessment. -/
def pendingActions (engine : Engine ρ) : Nat :=
  engine.timers.armedCount + engine.ccaOutstanding.toNat

theorem Awaits.pendingActions {engine : Engine ρ} {stage : Stage} (awaits : engine.Awaits stage) :
    engine.pendingActions = if stage = .concluded ∨ stage = .stuck then 0 else 1 := by
  rw [Engine.pendingActions,TimerTable.armedCount_of_armed awaits.armed,awaits.outstanding]
  cases stage <;> rfl

end Engine

/-- In every run of a new engine, an idle engine waits for nothing; a running one waits for exactly
one action, or for none once a fire of its attempt has returned an error; and the accepted
deliveries of an attempt lead along the fixed order to the stage that the engine now waits in. -/
theorem one_pending_action [WordSource ρ] {policy : Policy} {words : ρ} {first last : Engine ρ}
    {deeds : List (Deed ρ)} (made : Engine.new policy words = .ok first)
    (run : Run first deeds last) :
    (last.running = false →
      (∀ kind, last.timers.armed kind = none) ∧ last.ccaOutstanding = false) ∧
    (last.running = true →
      last.pendingActions = if (lastAttempt deeds).refused then 0 else 1) ∧
    ∃ stage, Path (lastAttempt deeds).mode (lastAttempt deeds).actions stage ∧
      (last.running = true → last.policy.mode = (lastAttempt deeds).mode ∧ last.Awaits stage) := by
  obtain ⟨reached,current,tracks⟩ := Engine.Tracks.run made run
  have inside := tracks.inside
  refine ⟨?_,?_,reached,tracks.path,?_⟩
  · intro idle
    obtain rfl := inside.concluded_of_idle idle
    exact ⟨inside.armed_none rfl,inside.outstanding⟩
  · intro running
    have going := inside.running.mp running
    obtain ⟨same,mode,refused⟩ := tracks.going going
    rw [inside.toAwaits.pendingActions]
    simp [going,refused]
  · intro running
    obtain ⟨same,mode,refused⟩ := tracks.going (inside.running.mp running)
    exact ⟨mode,same ▸ inside.toAwaits⟩

/-- A radio without a rate refuses the first backoff, and the attempt then waits for nothing. -/
theorem one_pending_action_refused :
    ∃ (first last : Engine WordScript) (deeds : List (Deed WordScript)),
      Engine.new {} ⟨[5]⟩ = .ok first ∧ Run first deeds last ∧ last.running = true ∧
        (lastAttempt deeds).refused = true ∧ last.pendingActions = 0 := by
  obtain ⟨first,made⟩ : ∃ first, Engine.new {} (⟨[5]⟩ : WordScript) = .ok first := ⟨_,rfl⟩
  obtain ⟨deeds,last,run,running,refused⟩ : ∃ deeds last, Run first deeds last ∧
      last.running = true ∧ (lastAttempt deeds).refused = true := by
    cases made
    exact ⟨_,_,.step (.step .start (rfl : Engine.perform _ (.start (.plain 62500)) = _))
      (rfl : Engine.perform _ (.fire ⟨.backoffStart,0⟩ (.plain 0)) = _),rfl,rfl⟩
  have pending := (one_pending_action made run).2.1 running
  rw [refused] at pending
  exact ⟨first,last,deeds,made,run,running,refused,pending⟩

end ChannelAccess
