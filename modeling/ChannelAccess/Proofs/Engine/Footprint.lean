import ChannelAccess.Proofs.Engine.Deliveries

/-!
What an engine looks at. An attempt chooses its superframe once, as it starts, and from then on only
that superframe and the costs of the frame count. Main statement: `Engine.Latched.record_eq`, about
two runs that find different things around them.
-/

namespace ChannelAccess

variable {ρ : Type}

/-- Attempts in one direction see no difference between two layers. -/
structure LayerFacts.Agrees (direction : Direction) (layer other : LayerFacts) : Prop where
  superframe : other.superframe direction = layer.superframe direction
  symbols : other.frame.symbols = layer.frame.symbols
  ackRequested : other.frame.ackRequested = layer.frame.ackRequested
  spacing : other.frame.spacing = layer.frame.spacing
  ackWait : other.ackWait = layer.ackWait

/-- The clock, the radio and the advice are the same, and so is all that an attempt in the latched
direction, if any, sees of the layer. -/
structure Surroundings.Agrees (latched : Option Direction) (around other : Surroundings) : Prop where
  now : other.now = around.now
  radio : other.radio = around.radio
  advice : other.advice = around.advice
  layer : ∀ direction ∈ latched, around.layer.Agrees direction other.layer

namespace Operation

inductive Agrees (latched : Option Direction) : Operation → Operation → Prop
  | start {around other : Surroundings} (agrees : around.Agrees latched other) :
      Agrees latched (.start around) (.start other)
  | fire {timer : Timer} {around other : Surroundings} (agrees : around.Agrees latched other) :
      Agrees latched (.fire timer around) (.fire timer other)
  | same (operation : Operation) : Agrees latched operation operation

/-- The direction that the frame of the last start asks for. -/
def asks (latched : Option Direction) : Operation → Option Direction
  | .start around => some (.ofDestination around.layer.frame.toCoordinator)
  | .fire _ _ | .confirm _ | .cancel | .setPolicy _ | .setMode _ => latched

/-- The direction that the last start took, when starts without a symbol rate take none. -/
def latches (latched : Option Direction) (operation : Operation) : Option Direction :=
  match operation with
  | .start around =>
    if around.radio.symbolsPerSecond = 0 then latched else operation.asks latched
  | .fire _ _ | .confirm _ | .cancel | .setPolicy _ | .setMode _ => latched

end Operation

/-- The same operations, with surroundings that agree on what the direction chosen last lets an attempt
see. -/
def Parallel (choose : Option Direction → Operation → Option Direction) :
    Option Direction → List Operation → List Operation → Prop
  | _, [], [] => True
  | latched, operation :: operations, other :: others =>
    choose latched other = choose latched operation ∧
      operation.Agrees (choose latched operation) other ∧
      Parallel choose (choose latched operation) operations others
  | _, _, _ => False

namespace Engine

/-- The reactions to the operations, one after the other, up to an overflow. -/
def record [WordSource ρ] (engine : Engine ρ) : List Operation → List (Except Overflow (Reaction ρ))
  | [] => []
  | operation :: operations =>
    match engine.perform operation with
    | .error failure => [.error failure]
    | .ok reaction => .ok reaction :: reaction.engine.record operations

end Engine

theorem SymbolRate.of_rated {perSecond : UInt32} {rate : SymbolRate} (rated : of perSecond = .ok rate) :
    perSecond ≠ 0 := by
  rintro rfl
  cases rated

theorem Cost.estimate_agrees {direction : Direction} {layer other : LayerFacts}
    (agrees : layer.Agrees direction other) (window : Nat) (turnaround : UInt32) :
    Cost.estimate window other.frame other.ackWait turnaround =
      Cost.estimate window layer.frame layer.ackWait turnaround := by
  simp only [estimate,agrees.symbols,agrees.ackRequested,agrees.spacing,agrees.ackWait]

namespace Engine

variable {engine : Engine ρ} {around other : Surroundings}

/-- A start looks at the destination of the frame, and in slotted mode at the superframe for it. -/
theorem start_footprint (now : other.now = around.now) (radio : other.radio = around.radio)
    (chosen : around.radio.symbolsPerSecond ≠ 0 →
      other.layer.frame.toCoordinator = around.layer.frame.toCoordinator)
    (layer : around.radio.symbolsPerSecond ≠ 0 → engine.policy.isSlotted = true →
      around.layer.Agrees (.ofDestination around.layer.frame.toCoordinator) other.layer) :
    engine.start other = engine.start around := by
  rcases SymbolRate.of_cases around.radio.symbolsPerSecond with refused | ⟨rate,rated⟩
  · rw [start_refused refused,start_refused (by rw [radio]; exact refused)]
  · have same := chosen (SymbolRate.of_rated rated)
    have waits : engine.firstWait other rate = engine.firstWait around rate := by
      unfold firstWait
      cases slotted : engine.policy.isSlotted with
      | false => rfl
      | true =>
        have agrees := layer (SymbolRate.of_rated rated) slotted
        rw [same,agrees.superframe,now]
    rw [start_eq rated,start_eq (by rw [radio]; exact rated),waits,same]

theorem checkTransaction_footprint (now : other.now = around.now) (radio : other.radio = around.radio)
    (layer : around.radio.symbolsPerSecond ≠ 0 →
      around.layer.Agrees engine.progress.direction other.layer) :
    engine.checkTransaction other = engine.checkTransaction around := by
  rcases SymbolRate.of_cases around.radio.symbolsPerSecond with refused | ⟨rate,rated⟩
  · rw [checkTransaction_refused refused,checkTransaction_refused (by rw [radio]; exact refused)]
  · have agrees := layer (SymbolRate.of_rated rated)
    rw [checkTransaction_eq rated,checkTransaction_eq (by rw [radio]; exact rated),agrees.superframe,now,
      Cost.estimate_agrees agrees,radio]

variable [WordSource ρ]

theorem beginBackoff_footprint (now : other.now = around.now) (radio : other.radio = around.radio)
    (advice : other.advice = around.advice)
    (layer : around.radio.symbolsPerSecond ≠ 0 → engine.policy.isSlotted = true →
      around.layer.Agrees engine.progress.direction other.layer) :
    engine.beginBackoff other = engine.beginBackoff around := by
  rcases SymbolRate.of_cases around.radio.symbolsPerSecond with refused | ⟨rate,rated⟩
  · rw [beginBackoff_refused refused,beginBackoff_refused (by rw [radio]; exact refused)]
  · have rated' : SymbolRate.of other.radio.symbolsPerSecond = .ok rate := by
      rw [radio]
      exact rated
    rcases drawn : engine.takeBackoff around.advice with ⟨source,asked⟩
    have drawn' : engine.takeBackoff other.advice = (source,asked) := by
      rw [advice]
      exact drawn
    cases mode : engine.policy.mode with
    | unslotted => rw [beginBackoff_unslotted rated mode drawn,beginBackoff_unslotted rated' mode drawn']
    | slotted =>
      have agrees := layer (SymbolRate.of_rated rated) (Policy.isSlotted_eq_true.mpr mode)
      rw [beginBackoff_slotted rated mode drawn,beginBackoff_slotted rated' mode drawn',
        agrees.superframe,now]

/-- An armed timer that comes back looks at the superframe of the attempt and at the costs. -/
theorem fire_footprint {stage : Stage} {timer : Timer} (inside : engine.At stage)
    (now : other.now = around.now) (radio : other.radio = around.radio)
    (advice : other.advice = around.advice)
    (layer : engine.timers.armed timer.kind = some timer.number →
      around.layer.Agrees engine.progress.direction other.layer) :
    engine.fire timer other = engine.fire timer around := by
  by_cases armed : engine.timers.armed timer.kind = some timer.number
  · have awaited := inside.awaited_of_armed armed
    have running : engine.running = true :=
      inside.running.mpr fun concluded => by simp [concluded,Stage.awaited] at awaited
    rw [fire_armed other running armed,fire_armed around running armed]
    obtain ⟨kind,number⟩ := timer
    cases kind with
    | backoffStart => exact beginBackoff_footprint now radio advice (fun _ _ => layer armed)
    | canProceed => exact checkTransaction_footprint now radio (fun _ => layer armed)
    | ccaRequest => rfl
    | capEnd => rfl
  · rw [fire_stale other armed,fire_stale around armed]

/-- An attempt in progress goes in the latched direction. -/
def Latched (engine : Engine ρ) (latched : Option Direction) : Prop :=
  ∃ stage, engine.At stage ∧ (stage ≠ .concluded → latched = some engine.progress.direction)

variable {latched : Option Direction} {operation : Operation}

omit [WordSource ρ] in
/-- Only a radio with a symbol rate starts an attempt. -/
theorem rated_of_start {reaction : Reaction ρ} (started : engine.start around = .ok reaction)
    (succeeds : reaction.result = .ok ()) : around.radio.symbolsPerSecond ≠ 0 := by
  rcases SymbolRate.of_cases around.radio.symbolsPerSecond with refused | ⟨rate,rated⟩
  · rw [start_refused refused] at started
    cases started
    cases succeeds
  · exact SymbolRate.of_rated rated

omit [WordSource ρ] in
theorem Operation.latches_start (rated : around.radio.symbolsPerSecond ≠ 0) :
    (Operation.start around).latches latched =
      some (.ofDestination around.layer.frame.toCoordinator) := by
  rw [Operation.latches,if_neg rated,Operation.asks]

omit [WordSource ρ] in
theorem Latched.armed {timer : Timer} (latching : engine.Latched latched)
    (armed : engine.timers.armed timer.kind = some timer.number) :
    latched = some engine.progress.direction := by
  obtain ⟨stage,inside,going⟩ := latching
  have awaited := inside.awaited_of_armed armed
  exact going fun concluded => by simp [concluded,Stage.awaited] at awaited

theorem Reacts.asked_superframe {stage next : Stage} {reaction : Reaction ρ} {direction : Direction}
    (reacts : engine.Reacts stage operation reaction next)
    (asked : .askSuperframe direction ∈ reaction.calls) : direction = engine.progress.direction := by
  cases reacts with
  | drawn _ _ drawn =>
    simp only [waitFor,List.mem_append,List.mem_singleton,reduceCtorEq,or_false] at asked
    cases eq_of_mem_takeBackoff drawn asked
  | fits _ _ drawn | cutShort _ _ drawn =>
    simp only [waitFor,List.mem_append,List.mem_singleton,reduceCtorEq,or_false] at asked
    rcases asked with advice | same
    · cases eq_of_mem_takeBackoff drawn advice
    · exact Call.askSuperframe.inj same
  | proceeds | tooLong => simpa [waitFor] using asked
  | _ => simp [waitFor,requestCca] at asked

/-- The only superframe that is asked for is that of the latched direction. -/
theorem Latched.asked {reaction : Reaction ρ} {direction : Direction}
    (latching : engine.Latched latched) (performed : engine.perform operation = .ok reaction)
    (asked : .askSuperframe direction ∈ reaction.calls) :
    operation.latches latched = some direction := by
  obtain ⟨stage,inside,going⟩ := latching
  cases perform_effect inside performed with
  | ignored unheard same silent => simp [silent] at asked
  | advanced accepted advances =>
    have still : operation.latches latched = latched := by
      rcases accepts_of_eq_some accepted with ⟨_,_,rfl,_⟩ | ⟨_,rfl,_⟩ <;> rfl
    rw [still,(advances.reacts inside accepted performed).asked_superframe asked]
    exact going advances.follows.going
  | begun starts succeeds =>
    subst starts
    obtain ⟨wait,notes,rfl⟩ := start_begun performed succeeds
    simp only [waitFor,List.mem_append,List.mem_singleton,reduceCtorEq,or_false] at asked
    cases eq_of_mem_looks asked
    exact Operation.latches_start (rated_of_start performed succeeds)
  | cancelled cancels abandoned => simp [abandoned] at asked
  | reconfigured configures idle valid changed => simp [changed] at asked

omit [WordSource ρ] in
theorem Latched.start {reaction : Reaction ρ} (latching : engine.Latched latched)
    (started : engine.start around = .ok reaction) :
    reaction.engine.Latched ((Operation.start around).latches latched) := by
  rcases SymbolRate.of_cases around.radio.symbolsPerSecond with refused | ⟨rate,rated⟩
  · have rateless := (SymbolRate.of_eq_error_iff.mp refused).1
    rw [start_refused refused] at started
    cases started
    simpa [Operation.latches,rateless] using latching
  · have accepted : reaction.Served none := start_served rated started
    rcases start_cases started with rfl | ⟨_,arrives,_⟩
    · cases accepted.result
    · obtain ⟨wait,notes,rfl⟩ := start_begun started accepted.result
      exact ⟨.backoffStart,arrives,fun _ => Operation.latches_start (SymbolRate.of_rated rated)⟩

theorem Latched.perform {reaction : Reaction ρ} (latching : engine.Latched latched)
    (performed : engine.perform operation = .ok reaction) :
    reaction.engine.Latched (operation.latches latched) := by
  obtain ⟨stage,inside,going⟩ := latching
  cases perform_effect inside performed with
  | ignored unheard same silent fruitless =>
    cases operation with
    | start around => exact Latched.start ⟨stage,inside,going⟩ performed
    | _ => exact same ▸ ⟨stage,inside,going⟩
  | advanced accepted advances =>
    have still : operation.latches latched = latched := by
      rcases accepts_of_eq_some accepted with ⟨_,_,rfl,_⟩ | ⟨_,rfl,_⟩ <;> rfl
    have reacts := advances.reacts inside accepted performed
    rw [still]
    refine ⟨_,advances.arrives,fun _ => ?_⟩
    rw [reacts.direction]
    exact going advances.follows.going
  | begun starts =>
    subst starts
    exact Latched.start ⟨stage,inside,going⟩ performed
  | cancelled cancels abandoned =>
    subst abandoned
    exact ⟨.concluded,cancel_at engine,absurd rfl⟩
  | @reconfigured policy configures idle valid changed =>
    subst changed
    obtain rfl := inside.concluded_of_idle idle
    exact ⟨.concluded,inside.reconfigured policy,absurd rfl⟩

/-- What agrees on the latched direction leads to the same reaction. -/
theorem Latched.perform_eq {other : Operation} (latching : engine.Latched latched)
    (choice : other.latches latched = operation.latches latched)
    (agrees : operation.Agrees (operation.latches latched) other) :
    engine.perform other = engine.perform operation := by
  cases agrees with
  | @start around other agrees =>
    refine start_footprint agrees.now agrees.radio (fun rated => ?_) fun rated _ =>
      agrees.layer _ (Operation.latches_start rated)
    have chosen : Direction.ofDestination other.layer.frame.toCoordinator =
        Direction.ofDestination around.layer.frame.toCoordinator := by
      simpa [Operation.latches,Operation.asks,agrees.radio,rated] using choice
    cases flag : around.layer.frame.toCoordinator <;>
      cases flag' : other.layer.frame.toCoordinator <;>
      simp [Direction.ofDestination,flag,flag'] at chosen ⊢
  | fire agrees =>
    obtain ⟨_,inside,_⟩ := id latching
    exact fire_footprint inside agrees.now agrees.radio agrees.advice fun armed =>
      agrees.layer _ (latching.armed armed)
  | same operation => rfl

theorem Latched.record_eq {operations others : List Operation} (latching : engine.Latched latched)
    (parallel : Parallel Operation.latches latched operations others) :
    engine.record others = engine.record operations := by
  induction operations generalizing engine latched others with
  | nil =>
    cases others with
    | nil => rfl
    | cons other others => exact parallel.elim
  | cons operation operations ih =>
    cases others with
    | nil => exact parallel.elim
    | cons other others =>
      obtain ⟨choice,agrees,rest⟩ := parallel
      rw [record,record,latching.perform_eq choice agrees]
      cases performed : engine.perform operation with
      | error failure => rfl
      | ok reaction => exact congrArg (Except.ok reaction :: ·) (ih (latching.perform performed) rest)

end Engine

end ChannelAccess
