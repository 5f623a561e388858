import ChannelAccess.Proofs.Engine.Footprint

/-!
The epoch of the clock does not matter. When the readings of the clock and the beacons all move by one
offset, an engine does what it did before. Only the end of a CAP is computed as an instant, so only
there can one of the two overflow without the other. Main statement: `Engine.record_shift`.
-/

namespace ChannelAccess

def Instant.shift (offset : Int) (t : Instant) : Instant := ⟨t.us + offset⟩

def Superframe.shift (offset : Int) (superframe : Superframe) : Superframe :=
  { superframe with beacon := superframe.beacon.shift offset }

def LayerFacts.shift (offset : Int) (layer : LayerFacts) : LayerFacts :=
  { layer with
    outgoing := layer.outgoing.shift offset
    incoming := layer.incoming.shift offset }

def Surroundings.shift (offset : Int) (around : Surroundings) : Surroundings :=
  { around with
    now := around.now.shift offset
    layer := around.layer.shift offset }

/-- The same operation in another epoch. -/
def Operation.shift (offset : Int) : Operation → Operation
  | .start around => .start (around.shift offset)
  | .fire timer around => .fire timer (around.shift offset)
  | .confirm status => .confirm status
  | .cancel => .cancel
  | .setPolicy policy => .setPolicy policy
  | .setMode mode => .setMode mode

variable (offset : Int)

namespace Instant

theorem since_shift (t start : Instant) :
    (t.shift offset).since (start.shift offset) = t.since start := by
  have same : t.us + offset - (start.us + offset) = t.us - start.us := by omega
  simp only [since,shift,same]

theorem plus_shift (t : Instant) (d : Span) :
    Alike (fun sum moved => moved = sum.shift offset) (t.plus d) ((t.shift offset).plus d) := by
  intro sum moved adds adds'
  obtain ⟨_,us⟩ := plus_eq_ok.mp adds
  obtain ⟨_,us'⟩ := plus_eq_ok.mp adds'
  refine congrArg mk (us'.symm.trans ?_)
  change t.us + offset + d.us = sum.us + offset
  omega

theorem shift_lt {t u : Instant} : t.shift offset < u.shift offset ↔ t < u := by
  simp only [lt_def,shift]
  omega

theorem shift_inj {t u : Instant} : t.shift offset = u.shift offset ↔ t = u := by
  obtain ⟨t⟩ := t
  obtain ⟨u⟩ := u
  simp only [shift,mk.injEq]
  omega

end Instant

theorem LayerFacts.superframe_shift (layer : LayerFacts) (direction : Direction) :
    (layer.shift offset).superframe direction = (layer.superframe direction).shift offset := by
  cases direction <;> rfl

namespace Superframe

variable (superframe : Superframe) (now : Instant) (rate : SymbolRate)

/-- Boundaries are counted from the beacon, by differences only. -/
theorem timeToBoundary_shift (unit : Nat) :
    (superframe.shift offset).timeToBoundary (now.shift offset) unit rate =
      superframe.timeToBoundary now unit rate := by
  simp only [timeToBoundary,shift,Instant.since_shift]

theorem timeLeftInCap_shift :
    Alike Eq (superframe.timeLeftInCap now rate)
      ((superframe.shift offset).timeLeftInCap (now.shift offset) rate) := by
  refine (Instant.plus_shift offset superframe.beacon _).bind fun close moved same => ?_
  rw [same,Instant.since_shift]
  exact Alike.refl _

end Superframe

namespace Engine

variable {ρ : Type} (engine : Engine ρ) (around : Surroundings)

theorem firstWait_shift (rate : SymbolRate) :
    engine.firstWait (around.shift offset) rate = engine.firstWait around rate := by
  unfold firstWait
  split
  · simp only [Surroundings.shift,LayerFacts.superframe_shift,Superframe.timeToBoundary_shift]
    rfl
  · rfl

/-- Not even an overflow depends on the epoch here. -/
theorem start_shift : engine.start (around.shift offset) = engine.start around := by
  rcases SymbolRate.of_cases around.radio.symbolsPerSecond with refused | ⟨rate,rated⟩
  · have refused' : SymbolRate.of (around.shift offset).radio.symbolsPerSecond = _ := refused
    rw [start_refused refused,start_refused refused']
  · have rated' : SymbolRate.of (around.shift offset).radio.symbolsPerSecond = _ := rated
    rw [start_eq rated,start_eq rated',firstWait_shift]
    rfl

theorem checkTransaction_shift :
    Alike Eq (engine.checkTransaction around) (engine.checkTransaction (around.shift offset)) := by
  rcases SymbolRate.of_cases around.radio.symbolsPerSecond with refused | ⟨rate,rated⟩
  · have refused' : SymbolRate.of (around.shift offset).radio.symbolsPerSecond = _ := refused
    rw [checkTransaction_refused refused,checkTransaction_refused refused']
    exact .done rfl
  · have rated' : SymbolRate.of (around.shift offset).radio.symbolsPerSecond = _ := rated
    rw [checkTransaction_eq rated,checkTransaction_eq rated']
    simp only [Surroundings.shift,LayerFacts.superframe_shift]
    exact (Superframe.timeLeftInCap_shift offset _ _ rate).bind_eq _

variable [WordSource ρ]

theorem beginBackoff_shift :
    Alike Eq (engine.beginBackoff around) (engine.beginBackoff (around.shift offset)) := by
  rcases SymbolRate.of_cases around.radio.symbolsPerSecond with refused | ⟨rate,rated⟩
  · have refused' : SymbolRate.of (around.shift offset).radio.symbolsPerSecond = _ := refused
    rw [beginBackoff_refused refused,beginBackoff_refused refused']
    exact .done rfl
  · have rated' : SymbolRate.of (around.shift offset).radio.symbolsPerSecond = _ := rated
    rcases drawn : engine.takeBackoff around.advice with ⟨source,asked⟩
    have drawn' : engine.takeBackoff (around.shift offset).advice = _ := drawn
    cases mode : engine.policy.mode with
    | unslotted =>
      rw [beginBackoff_unslotted rated mode drawn,beginBackoff_unslotted rated' mode drawn']
      exact .done rfl
    | slotted =>
      rw [beginBackoff_slotted rated mode drawn,beginBackoff_slotted rated' mode drawn']
      simp only [Surroundings.shift,LayerFacts.superframe_shift]
      exact (Superframe.timeLeftInCap_shift offset _ _ rate).map_eq _

theorem fire_shift (timer : Timer) :
    Alike Eq (engine.fire timer around) (engine.fire timer (around.shift offset)) := by
  unfold fire
  rcases engine.timers.take timer with ⟨_ | _,timers⟩
  · exact .done rfl
  · obtain ⟨kind,number⟩ := timer
    cases kind with
    | backoffStart => exact beginBackoff_shift offset { engine with timers } around
    | canProceed => exact checkTransaction_shift offset { engine with timers } around
    | ccaRequest => exact .done rfl
    | capEnd => exact .done rfl

/-- Every operation does the same in another epoch. -/
theorem perform_shift (operation : Operation) :
    Alike Eq (engine.perform operation) (engine.perform (operation.shift offset)) := by
  cases operation with
  | start around =>
    have same : engine.perform ((Operation.start around).shift offset) =
        engine.perform (.start around) := engine.start_shift offset around
    rw [same]
    exact Alike.refl _
  | fire timer around => exact engine.fire_shift offset around timer
  | confirm | cancel | setPolicy | setMode => exact Alike.refl _

/-- A whole run gives the same reactions in another epoch: the same engines with the same words left,
the same calls with their delays, the same notes and results. -/
theorem record_shift (operations : List Operation)
    (ends : ∀ result ∈ engine.record operations, result.isOk = true)
    (ends' : ∀ result ∈ engine.record (operations.map (·.shift offset)), result.isOk = true) :
    engine.record (operations.map (·.shift offset)) = engine.record operations := by
  induction operations generalizing engine with
  | nil => rfl
  | cons operation operations ih =>
    have alike := engine.perform_shift offset operation
    rw [List.map_cons,record] at ends' ⊢
    rw [record] at ends ⊢
    cases performed : engine.perform operation with
    | error failure =>
      rw [performed] at ends
      cases ends _ List.mem_cons_self
    | ok reaction =>
      cases performed' : engine.perform (operation.shift offset) with
      | error failure =>
        rw [performed'] at ends'
        cases ends' _ List.mem_cons_self
      | ok reaction' =>
        obtain rfl := alike reaction reaction' performed performed'
        rw [performed] at ends
        rw [performed'] at ends'
        exact congrArg (Except.ok reaction :: ·) (ih reaction.engine
          (List.forall_mem_cons.mp ends).2 (List.forall_mem_cons.mp ends').2)

end Engine

end ChannelAccess
