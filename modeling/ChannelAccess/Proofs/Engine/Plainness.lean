import ChannelAccess.Proofs.Engine.Footprint
import ChannelAccess.Proofs.Engine.Tallies

/-!
An unslotted attempt does without superframes and frames: only the clock, the symbol rate and the
advice count, and nothing else is asked of the layer. Main statement: `attempt_regards`, on what runs
of either mode depend on.
-/

namespace ChannelAccess

variable {ρ : Type}

def Policy.bare (policy : Policy) : Policy := { policy with batteryLifeExtension := false }

/-- A layer of which nothing is known. -/
def LayerFacts.blank : LayerFacts where
  frame := { symbols := 0, ackRequested := false, spacing := 0, toCoordinator := false }
  outgoing := { beacon := .zero, order := 0, finalSlot := 0 }
  incoming := { beacon := .zero, order := 0, finalSlot := 0 }
  ackWait := 0

/-- The clock, the symbol rate and the advice. -/
def Surroundings.bare (around : Surroundings) : Surroundings where
  now := around.now
  radio := { symbolsPerSecond := around.radio.symbolsPerSecond, turnaround := 0 }
  layer := .blank
  advice := around.advice

/-- What counts of an operation while the mode is unslotted. -/
def Operation.bare : Operation → Operation
  | .start around => .start around.bare
  | .fire timer around => .fire timer around.bare
  | .confirm status => .confirm status
  | .cancel => .cancel
  | .setPolicy policy => .setPolicy policy.bare
  | .setMode mode => .setMode mode

/-- All of an engine but its battery life extension and the direction of its attempt. -/
def Engine.bare (engine : Engine ρ) : Engine ρ :=
  { engine with
    policy := engine.policy.bare
    progress := { engine.progress with direction := .outgoing } }

/-- The calls, the notes and the result, and what counts of the engine. -/
def Reaction.bare (reaction : Reaction ρ) : Reaction ρ :=
  { reaction with engine := reaction.engine.bare }

/-- Nothing is asked about a superframe or about the cost of a transaction. -/
structure Reaction.Plain (reaction : Reaction ρ) : Prop where
  superframe : ∀ direction, .askSuperframe direction ∉ reaction.calls
  cost : ∀ symbols, .cost symbols ∉ reaction.calls

@[simp] theorem Policy.isSlotted_bare (policy : Policy) : policy.bare.isSlotted = policy.isSlotted := rfl

namespace Engine

@[simp] theorem policy_bare (engine : Engine ρ) : engine.bare.policy = engine.policy.bare := rfl

theorem waitFor_bare (engine : Engine ρ) (calls : List Call) (kind : TimerKind) (delay : Span)
    (notes : List Note) :
    engine.bare.waitFor calls kind delay notes = (engine.waitFor calls kind delay notes).bare := rfl

theorem waitFor_plain {engine : Engine ρ} {calls : List Call} {kind : TimerKind} {delay : Span}
    {notes : List Note} (plain : ∀ call ∈ calls, (∀ direction, call ≠ .askSuperframe direction) ∧
      ∀ symbols, call ≠ .cost symbols) : (engine.waitFor calls kind delay notes).Plain := by
  refine ⟨fun direction member => ?_,fun symbols member => ?_⟩
  all_goals
    simp only [waitFor,List.mem_append,List.mem_singleton,reduceCtorEq,or_false] at member
  · exact (plain _ member).1 direction rfl
  · exact (plain _ member).2 symbols rfl

variable {engine : Engine ρ}

theorem begun_bare (unslotted : engine.policy.mode = .unslotted) (direction : Direction) :
    engine.bare.begun .outgoing = (engine.begun direction).bare := by
  have plain := Policy.isSlotted_eq_false.mpr unslotted
  have initial : engine.policy.bare.initialExponent = engine.policy.initialExponent := by
    simp [Policy.initialExponent,plain,Policy.bare]
  simp only [begun,policy_bare,initial,Policy.isSlotted_bare,plain]
  rfl

theorem start_bare (unslotted : engine.policy.mode = .unslotted) (around : Surroundings) :
    engine.bare.start around.bare = (engine.start around).map Reaction.bare := by
  have plain := Policy.isSlotted_eq_false.mpr unslotted
  rcases SymbolRate.of_cases around.radio.symbolsPerSecond with refused | ⟨rate,rated⟩
  · have refused' : SymbolRate.of around.bare.radio.symbolsPerSecond = .error .zeroSymbolRate := refused
    rw [start_refused refused,start_refused refused']
    rfl
  · have rated' : SymbolRate.of around.bare.radio.symbolsPerSecond = .ok rate := rated
    rw [start_eq rated,start_eq rated']
    simp only [firstWait,policy_bare,Policy.isSlotted_bare,plain]
    refine congrArg Except.ok ?_
    rw [looks_unslotted (by exact unslotted),← waitFor_bare,← begun_bare unslotted]
    rw [looks_unslotted (by exact unslotted)]
    rfl

theorem confirm_bare {stage : Stage} (inside : engine.At stage)
    (unslotted : engine.policy.mode = .unslotted) (status : ChannelStatus) :
    engine.bare.confirm status = (engine.confirm status).bare := by
  have plain := Policy.isSlotted_eq_false.mpr unslotted
  cases outstanding : engine.ccaOutstanding with
  | false =>
    have outstanding' : engine.bare.ccaOutstanding = false := outstanding
    rw [confirm_unexpected status outstanding,confirm_unexpected status outstanding']
    rfl
  | true =>
    have running : engine.running = true := by
      apply inside.running.mpr
      rintro rfl
      simp [inside.outstanding,Stage.assessing] at outstanding
    have outstanding' : engine.bare.ccaOutstanding = true := outstanding
    have running' : engine.bare.running = true := running
    cases idle : status.isIdle with
    | true =>
      rw [confirm_idle outstanding running idle,confirm_idle outstanding' running' idle]
      simp only [policy_bare,Policy.isSlotted_bare,plain]
      rfl
    | false =>
      rw [confirm_busy outstanding running idle,confirm_busy outstanding' running' idle]
      by_cases spent : engine.policy.maxBackoffs.toNat < engine.progress.backoffs + 1
      · have spent' : engine.bare.policy.maxBackoffs.toNat < engine.bare.progress.backoffs + 1 := spent
        rw [if_pos spent,if_pos spent']
        rfl
      · have allowed : ¬ engine.bare.policy.maxBackoffs.toNat < engine.bare.progress.backoffs + 1 := spent
        rw [if_neg spent,if_neg allowed]
        rfl

variable [WordSource ρ]

theorem takeBackoff_bare {taken : Engine ρ} {advice : Option UInt32} {asked : List Call}
    (drawn : engine.takeBackoff advice = (taken,asked)) :
    engine.bare.takeBackoff advice = (taken.bare,asked) := by
  unfold takeBackoff at drawn ⊢
  by_cases fresh : engine.choosesBackoff
  · have fresh' : engine.bare.choosesBackoff := fresh
    rw [if_pos fresh] at drawn
    rw [if_pos fresh']
    cases advice <;> cases drawn <;> rfl
  · have resumes : ¬ engine.bare.choosesBackoff := fresh
    rw [if_neg fresh] at drawn
    rw [if_neg resumes]
    cases drawn
    rfl

theorem beginBackoff_bare (unslotted : engine.policy.mode = .unslotted) (around : Surroundings) :
    engine.bare.beginBackoff around.bare = (engine.beginBackoff around).map Reaction.bare := by
  have unslotted' : engine.bare.policy.mode = .unslotted := unslotted
  rcases SymbolRate.of_cases around.radio.symbolsPerSecond with refused | ⟨rate,rated⟩
  · have refused' : SymbolRate.of around.bare.radio.symbolsPerSecond = .error .zeroSymbolRate := refused
    rw [beginBackoff_refused refused,beginBackoff_refused refused']
    rfl
  · have rated' : SymbolRate.of around.bare.radio.symbolsPerSecond = .ok rate := rated
    rcases drawn : engine.takeBackoff around.advice with ⟨source,asked⟩
    rw [beginBackoff_unslotted rated unslotted drawn,
      beginBackoff_unslotted rated' unslotted' (takeBackoff_bare drawn)]
    rfl

theorem fire_bare {stage : Stage} (inside : engine.At stage)
    (unslotted : engine.policy.mode = .unslotted) (timer : Timer) (around : Surroundings) :
    engine.bare.fire timer around.bare = (engine.fire timer around).map Reaction.bare := by
  by_cases armed : engine.timers.armed timer.kind = some timer.number
  · have armed' : engine.bare.timers.armed timer.kind = some timer.number := armed
    have awaited := inside.awaited_of_armed armed
    have allowed := inside.allowed
    have running : engine.running = true :=
      inside.running.mpr fun concluded => by simp [concluded,Stage.awaited] at awaited
    have running' : engine.bare.running = true := running
    rw [fire_armed around running armed,fire_armed around.bare running' armed']
    obtain ⟨kind,number⟩ := timer
    cases kind with
    | backoffStart =>
      have unslotted' : (engine.taken .backoffStart).policy.mode = .unslotted := unslotted
      exact beginBackoff_bare unslotted' around
    | ccaRequest => rfl
    | canProceed => cases stage <;> simp_all [Stage.awaited,Stage.Allowed]
    | capEnd => cases stage <;> simp_all [Stage.awaited,Stage.Allowed]
  · have stale : engine.bare.timers.armed timer.kind ≠ some timer.number := armed
    rw [fire_stale around armed,fire_stale around.bare stale]
    rfl

omit [WordSource ρ] in
theorem setPolicy_bare (engine : Engine ρ) (policy : Policy) :
    engine.bare.change (engine.bare.setPolicy policy.bare) =
      (engine.change (engine.setPolicy policy)).bare := by
  have running' : engine.bare.running = engine.running := rfl
  have validity : policy.bare.validate = policy.validate := rfl
  unfold setPolicy
  rw [running',validity]
  cases engine.running with
  | true => rfl
  | false =>
    cases policy.validate with
    | error error => rfl
    | ok valid => rfl

/-- While the mode is unslotted an engine does what the bare one does with the bare operation. -/
theorem perform_bare {stage : Stage} (inside : engine.At stage)
    (unslotted : engine.policy.mode = .unslotted) (operation : Operation) :
    engine.bare.perform operation.bare = (engine.perform operation).map Reaction.bare := by
  cases operation with
  | start around => exact start_bare unslotted around
  | fire timer around => exact fire_bare inside unslotted timer around
  | confirm status => exact congrArg Except.ok (confirm_bare inside unslotted status)
  | cancel => rfl
  | setPolicy policy => exact congrArg Except.ok (engine.setPolicy_bare policy)
  | setMode mode => exact congrArg Except.ok (engine.setPolicy_bare { engine.policy with mode })

omit [WordSource ρ] in
theorem start_unslotted (unslotted : engine.policy.mode = .unslotted) (around : Surroundings) :
    ∃ reaction, engine.start around = .ok reaction := by
  rcases SymbolRate.of_cases around.radio.symbolsPerSecond with refused | ⟨rate,rated⟩
  · exact ⟨_,start_refused refused⟩
  · rw [start_eq rated,firstWait,Policy.isSlotted_eq_false.mpr unslotted,if_neg Bool.false_ne_true]
    exact ⟨_,rfl⟩

theorem At.fire_unslotted {stage : Stage} (inside : engine.At stage)
    (unslotted : engine.policy.mode = .unslotted) (timer : Timer) (around : Surroundings) :
    ∃ reaction, engine.fire timer around = .ok reaction := by
  by_cases armed : engine.timers.armed timer.kind = some timer.number
  · have awaited := inside.awaited_of_armed armed
    have allowed := inside.allowed
    have running : engine.running = true :=
      inside.running.mpr fun concluded => by simp [concluded,Stage.awaited] at awaited
    rw [fire_armed around running armed]
    obtain ⟨kind,number⟩ := timer
    cases kind with
    | backoffStart =>
      rcases SymbolRate.of_cases around.radio.symbolsPerSecond with refused | ⟨rate,rated⟩
      · exact ⟨_,beginBackoff_refused refused⟩
      · rcases drawn : (engine.taken .backoffStart).takeBackoff around.advice with ⟨source,asked⟩
        exact ⟨_,beginBackoff_unslotted rated unslotted drawn⟩
    | ccaRequest => exact ⟨_,rfl⟩
    | canProceed => cases stage <;> simp_all [Stage.awaited,Stage.Allowed]
    | capEnd => cases stage <;> simp_all [Stage.awaited,Stage.Allowed]
  · exact ⟨_,fire_stale around armed⟩

/-- Nothing overflows while the mode is unslotted. -/
theorem At.perform_unslotted {stage : Stage} (inside : engine.At stage)
    (unslotted : engine.policy.mode = .unslotted) (operation : Operation) :
    ∃ reaction, engine.perform operation = .ok reaction := by
  cases operation with
  | start around => exact start_unslotted unslotted around
  | fire timer around => exact inside.fire_unslotted unslotted timer around
  | confirm | cancel | setPolicy | setMode => exact ⟨_,rfl⟩

theorem At.plain {stage : Stage} {operation : Operation} {reaction : Reaction ρ}
    (inside : engine.At stage) (unslotted : engine.policy.mode = .unslotted)
    (performed : engine.perform operation = .ok reaction) : reaction.Plain := by
  cases perform_effect inside performed with
  | ignored unheard same silent => exact ⟨by simp [silent],by simp [silent]⟩
  | advanced accepted advances =>
    have allowed := inside.allowed
    cases advances.reacts inside accepted performed with
    | drawn _ rated drawn =>
      refine waitFor_plain fun call member => ?_
      rw [eq_of_mem_takeBackoff drawn member]
      exact ⟨nofun,nofun⟩
    | fits slotted => simp [unslotted] at slotted
    | cutShort slotted => simp [unslotted] at slotted
    | proceeds => simp [unslotted,Stage.Allowed] at allowed
    | tooLong => simp [unslotted,Stage.Allowed] at allowed
    | stillIdle | backsOff => exact waitFor_plain (by simp)
    | _ => exact ⟨by simp [requestCca],by simp [requestCca]⟩
  | begun starts succeeds =>
    subst starts
    obtain ⟨wait,notes,rfl⟩ := start_begun performed succeeds
    rw [looks_unslotted (by exact unslotted)]
    exact waitFor_plain (by simp)
  | cancelled cancels abandoned => exact ⟨by simp [abandoned],by simp [abandoned]⟩
  | reconfigured configures idle valid changed => exact ⟨by simp [changed],by simp [changed]⟩

/-- Runs that stay unslotted differ in nothing that counts if their operations do not. -/
theorem Counted.record_unslotted {engine other : Engine ρ} {stage stage' : Stage}
    {operations others : List Operation} (counted : engine.Counted stage)
    (counted' : other.Counted stage') (same : other.bare = engine.bare)
    (unslotted : engine.policy.mode = .unslotted)
    (stays : ∀ reaction, .ok reaction ∈ engine.record operations →
      reaction.engine.policy.mode = .unslotted)
    (alike : others.map Operation.bare = operations.map Operation.bare) :
    (other.record others).map (Except.map Reaction.bare) =
        (engine.record operations).map (Except.map Reaction.bare) ∧
      ∀ outcome ∈ engine.record operations, ∃ reaction, outcome = .ok reaction ∧ reaction.Plain := by
  induction operations generalizing engine other stage stage' others with
  | nil =>
    obtain rfl := List.map_eq_nil_iff.mp alike
    exact ⟨rfl,by simp [record]⟩
  | cons operation operations ih =>
    obtain ⟨operation',others,rfl,first,rest⟩ := List.map_eq_cons_iff.mp alike
    have unslotted' : other.policy.mode = .unslotted := by
      have modes : other.bare.policy.mode = engine.bare.policy.mode := by rw [same]
      exact modes.trans unslotted
    obtain ⟨reaction,performed⟩ := counted.inside.perform_unslotted unslotted operation
    obtain ⟨reaction',performed'⟩ := counted'.inside.perform_unslotted unslotted' operation'
    have coupled : (other.perform operation').map Reaction.bare =
        (engine.perform operation).map Reaction.bare := by
      rw [← perform_bare counted.inside unslotted,← perform_bare counted'.inside unslotted',same,first]
    rw [performed,performed'] at coupled
    have likewise : reaction'.bare = reaction.bare := Except.ok.inj coupled
    simp only [record,performed,performed'] at stays ⊢
    obtain ⟨_,next⟩ := counted.perform performed
    obtain ⟨_,next'⟩ := counted'.perform performed'
    obtain ⟨records,plain⟩ := ih next next' (congrArg Reaction.engine likewise)
      (stays reaction (by simp)) (fun later member => stays later (by simp [member])) rest
    refine ⟨by simp [Except.map,likewise,records],?_⟩
    intro outcome member
    rcases List.mem_cons.mp member with rfl | later
    · exact ⟨reaction,rfl,counted.inside.plain unslotted performed⟩
    · exact plain outcome later

end Engine

variable [WordSource ρ]

/-- Two runs of the same new engine go alike if they find the same clock, radio and advice, and if they
agree on the direction that each accepted start takes, and from there to the next one on the superframe
of this direction and on the costs of the frame. Two runs that stay unslotted go alike whatever the
superframes, the frame, the acknowledgment wait, the turnaround and the battery life extension are, and
such a run asks for no superframe and estimates no transaction: each of its operations gives a reaction,
and no call in it does. -/
theorem attempt_regards {policy : Policy} {words : ρ} {first : Engine ρ}
    (made : Engine.new policy words = .ok first) :
    (∀ operations others, Parallel Operation.latches none operations others →
      first.record others = first.record operations) ∧
    (∀ policy' other operations others, Engine.new policy' words = .ok other →
      policy'.bare = policy.bare → others.map Operation.bare = operations.map Operation.bare →
      policy.mode = .unslotted → (∀ reaction, .ok reaction ∈ first.record operations →
        reaction.engine.policy.mode = .unslotted) →
      (other.record others).map (Except.map Reaction.bare) =
          (first.record operations).map (Except.map Reaction.bare) ∧
        ∀ outcome ∈ first.record operations, ∃ reaction, outcome = .ok reaction ∧
          (∀ direction, .askSuperframe direction ∉ reaction.calls) ∧
          ∀ symbols, .cost symbols ∉ reaction.calls) := by
  obtain ⟨stage,counted⟩ := Engine.Counted.run made .start
  have unlatched : first.Latched none := ⟨.concluded,(Engine.new_at made).1,absurd rfl⟩
  refine ⟨fun operations others => unlatched.record_eq,?_⟩
  intro policy' other operations others made' policies alike unslotted stays
  obtain ⟨stage',counted'⟩ := Engine.Counted.run made' .start
  have same : other.bare = first.bare := by
    obtain ⟨_,_,created⟩ := except_bind_eq_ok.mp made
    obtain ⟨_,_,created'⟩ := except_bind_eq_ok.mp made'
    cases created
    cases created'
    have lowest : policy'.bare.minExponent = policy.bare.minExponent := by rw [policies]
    change policy'.minExponent = policy.minExponent at lowest
    simp [Engine.bare,policies,lowest]
  have mode : first.policy.mode = .unslotted := by
    rw [(Engine.new_at made).2.2]
    exact unslotted
  obtain ⟨records,plain⟩ := counted.record_unslotted counted' same mode stays alike
  refine ⟨records,fun outcome member => ?_⟩
  obtain ⟨reaction,given,superframe,cost⟩ := plain outcome member
  exact ⟨reaction,given,superframe,cost⟩

/-- The frame goes to the coordinator, and the superframe for such frames is another one. -/
def Surroundings.redirected (around : Surroundings) : Surroundings :=
  { around with layer := { around.layer with
      frame := { around.layer.frame with toCoordinator := true }
      incoming := .capped .zero 1 3 } }

/-- The CAP for frames to a neighbour is one slot long. -/
def Surroundings.shortened (around : Surroundings) : Surroundings :=
  { around with layer := { around.layer with outgoing := .capped .zero 0 0 } }

/-- The destination of the frame and the superframe for it change after the start of a slotted attempt.
An unslotted attempt shares with another one the clock, the symbol rate and the advice only. -/
theorem attempt_regards_redirected :
    ∃ (first plain other : Engine WordScript) (operations others : List Operation),
      Engine.new { mode := .slotted } ⟨[5]⟩ = .ok first ∧ Engine.new {} ⟨[5]⟩ = .ok plain ∧
        Engine.new { batteryLifeExtension := true } ⟨[5]⟩ = .ok other ∧
        operations = [.start (.plain 62500),.fire ⟨.backoffStart,0⟩ (.plain 62500)] ∧
        others = [.start (.plain 62500),.fire ⟨.backoffStart,0⟩ (Surroundings.plain 62500).redirected] ∧
        first.record others = first.record operations ∧
        (other.record (operations.map Operation.bare)).map (Except.map Reaction.bare) =
          (plain.record operations).map (Except.map Reaction.bare) ∧
        (plain.record operations).length = 2 ∧
        ∀ outcome ∈ plain.record operations, ∃ reaction, outcome = .ok reaction ∧
          (∀ direction, .askSuperframe direction ∉ reaction.calls) ∧
          ∀ symbols, .cost symbols ∉ reaction.calls := by
  obtain ⟨first,made⟩ : ∃ first, Engine.new { mode := .slotted } (⟨[5]⟩ : WordScript) = .ok first :=
    ⟨_,rfl⟩
  obtain ⟨plain,other,made',new,both,stays⟩ : ∃ plain other,
      Engine.new {} (⟨[5]⟩ : WordScript) = .ok plain ∧
        Engine.new { batteryLifeExtension := true } (⟨[5]⟩ : WordScript) = .ok other ∧
        (plain.record [.start (.plain 62500),.fire ⟨.backoffStart,0⟩ (.plain 62500)]).length = 2 ∧
        ∀ reaction, .ok reaction ∈
            plain.record [.start (.plain 62500),.fire ⟨.backoffStart,0⟩ (.plain 62500)] →
          reaction.engine.policy.mode = .unslotted := by
    refine ⟨_,_,rfl,rfl,rfl,fun reaction member => ?_⟩
    rcases List.mem_cons.mp member with this | member
    · cases this
      rfl
    · rcases List.mem_cons.mp member with this | member
      · cases this
        rfl
      · cases member
  have parallel : Parallel Operation.latches none
      [.start (.plain 62500),.fire ⟨.backoffStart,0⟩ (.plain 62500)]
      [.start (.plain 62500),.fire ⟨.backoffStart,0⟩ (Surroundings.plain 62500).redirected] := by
    refine ⟨rfl,.same _,rfl,.fire ⟨rfl,rfl,rfl,?_⟩,trivial⟩
    intro direction latched
    cases latched
    exact ⟨rfl,rfl,rfl,rfl,rfl⟩
  obtain ⟨records,asks⟩ := (attempt_regards made').2 _ other
    [.start (.plain 62500),.fire ⟨.backoffStart,0⟩ (.plain 62500)]
    (List.map Operation.bare [.start (.plain 62500),.fire ⟨.backoffStart,0⟩ (.plain 62500)])
    new rfl rfl rfl stays
  exact ⟨first,plain,other,_,_,made,made',new,rfl,rfl,(attempt_regards made).1 _ _ parallel,records,both,
    asks⟩

/-- A start that is refused does not change the direction of the attempt that goes on. Of two runs that
agree from then on about the direction that it asked for, one finds room for its backoff and the other
does not. -/
theorem attempt_regards_refused_start :
    ∃ (first : Engine WordScript) (operations others : List Operation),
      Engine.new { mode := .slotted } ⟨[5]⟩ = .ok first ∧
        Parallel Operation.asks none operations others ∧
        (first.record others).map (Except.map Reaction.calls) ≠
          (first.record operations).map (Except.map Reaction.calls) := by
  refine ⟨_,[.start (.plain 62500),.start (Surroundings.plain 0).redirected,
      .fire ⟨.backoffStart,0⟩ (.plain 62500)],
    [.start (.plain 62500),.start (Surroundings.plain 0).redirected,
      .fire ⟨.backoffStart,0⟩ (Surroundings.plain 62500).shortened],rfl,?parallel,?differ⟩
  case parallel =>
    refine ⟨rfl,.same _,rfl,.same _,rfl,.fire ⟨rfl,rfl,rfl,?_⟩,trivial⟩
    intro direction latched
    cases latched
    exact ⟨rfl,rfl,rfl,rfl,rfl⟩
  case differ =>
    intro same
    cases same

end ChannelAccess
