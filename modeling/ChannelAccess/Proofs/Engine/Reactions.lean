import ChannelAccess.Engine.Operations
import ChannelAccess.Proofs.ArmedTimers
import ChannelAccess.Proofs.Fallible

/-!
Each operation of an engine in closed form. Every reaction either refuses and changes nothing
more, or makes some calls and waits for one timer, or asks for an assessment, or concludes.
-/

namespace ChannelAccess

/-- A data frame to a neighbour at time zero, in a superframe of 16 slots without a contention free
period. -/
def Surroundings.plain (symbolsPerSecond : UInt32) : Surroundings where
  now := .zero
  radio := { symbolsPerSecond }
  layer := {
    frame := Frame.ofPayload .oqpsk2450 20 false false
    outgoing := Superframe.capped .zero 0 15
    incoming := Superframe.capped .zero 0 15
    ackWait := 54 }

theorem Policy.isSlotted_eq_true {policy : Policy} :
    policy.isSlotted = true ↔ policy.mode = .slotted :=
  decide_eq_true_iff

theorem Policy.isSlotted_eq_false {policy : Policy} :
    policy.isSlotted = false ↔ policy.mode = .unslotted := by
  cases mode : policy.mode <;> simp [Policy.isSlotted,mode]

theorem SymbolRate.of_cases (perSecond : UInt32) :
    SymbolRate.of perSecond = .error .zeroSymbolRate ∨ ∃ rate, SymbolRate.of perSecond = .ok rate := by
  cases rated : SymbolRate.of perSecond with
  | error error => exact .inl (by rw [(SymbolRate.of_eq_error_iff.mp rated).2])
  | ok rate => exact .inr ⟨rate,rfl⟩

namespace Engine

variable {ρ : Type}

/-- Make some calls, then wait for a timer. -/
def waitFor (engine : Engine ρ) (calls : List Call) (kind : TimerKind) (delay : Span)
    (notes : List Note) : Reaction ρ where
  engine := { engine with timers := (engine.timers.arm kind).2 }
  calls := calls ++ [.schedule ⟨kind,engine.timers.nextNumber⟩ delay.clampNonNegative]
  notes

/-- The engine at the start of an attempt, before its first timer is armed. -/
def begun (engine : Engine ρ) (direction : Direction) : Engine ρ :=
  { engine.cancel with
    progress := {
      exponent := engine.policy.initialExponent.toNat
      backoffs := 0
      window := if engine.policy.isSlotted then contentionWindow else 0
      periodsLeft := if engine.policy.isSlotted then engine.carriedPeriods else 0
      direction }
    running := true }

/-- What is asked to wait for a boundary of the chosen superframe or to stay within its CAP. -/
def looks (engine : Engine ρ) : List Call :=
  if engine.policy.isSlotted then [.askSuperframe engine.progress.direction] else []

theorem looks_begun (engine : Engine ρ) (direction : Direction) :
    (engine.begun direction).looks =
      if engine.policy.isSlotted then [.askSuperframe direction] else [] := rfl

theorem looks_slotted {engine : Engine ρ} (slotted : engine.policy.mode = .slotted) :
    engine.looks = [.askSuperframe engine.progress.direction] := by
  rw [looks,if_pos (Policy.isSlotted_eq_true.mpr slotted)]

theorem looks_unslotted {engine : Engine ρ} (unslotted : engine.policy.mode = .unslotted) :
    engine.looks = [] := by
  rw [looks,Policy.isSlotted_eq_false.mpr unslotted,if_neg Bool.false_ne_true]

theorem eq_of_mem_looks {engine : Engine ρ} {call : Call} (member : call ∈ engine.looks) :
    call = .askSuperframe engine.progress.direction := by
  unfold looks at member
  split at member
  · exact List.mem_singleton.mp member
  · exact absurd member List.not_mem_nil

theorem looks_request_nothing (engine : Engine ρ) : .requestCca ∉ engine.looks := by
  intro member
  cases eq_of_mem_looks member

/-- How long an attempt waits before its first backoff. -/
def firstWait (engine : Engine ρ) (around : Surroundings) (rate : SymbolRate) :
    Except Overflow Span :=
  if engine.policy.isSlotted then
    (around.layer.superframe
      (.ofDestination around.layer.frame.toCoordinator)).timeToBoundary around.now
        engine.policy.backoffPeriod.toNat rate
  else .ok .zero

theorem start_refused {engine : Engine ρ} {around : Surroundings}
    (refused : SymbolRate.of around.radio.symbolsPerSecond = .error .zeroSymbolRate) :
    engine.start around = .ok { engine, result := .error .zeroSymbolRate } := by
  simp only [start,refused]

theorem start_eq {engine : Engine ρ} {around : Surroundings} {rate : SymbolRate}
    (rated : SymbolRate.of around.radio.symbolsPerSecond = .ok rate) :
    engine.start around = (engine.firstWait around rate).map fun wait =>
      (engine.begun (.ofDestination around.layer.frame.toCoordinator)).waitFor
        (engine.begun (.ofDestination around.layer.frame.toCoordinator)).looks .backoffStart wait
        ((if engine.running then [Note.restarted] else []) ++
          [if engine.policy.isSlotted then .slottedStarted wait else .unslottedStarted]) := by
  rw [looks_begun]
  unfold start firstWait
  cases slotted : engine.policy.isSlotted with
  | true =>
    simp only [rated,if_true]
    cases (around.layer.superframe
      (.ofDestination around.layer.frame.toCoordinator)).timeToBoundary around.now
        engine.policy.backoffPeriod.toNat rate <;>
      simp [Except.map,bind,Except.bind,pure,Except.pure,begun,slotted,waitFor,schedule,TimerTable.arm]
  | false =>
    simp [rated,slotted,Except.map,pure,Except.pure,begun,waitFor,schedule,TimerTable.arm]

/-- The engine after the last call of an attempt. -/
def ended (engine : Engine ρ) (verdict : Verdict) : Engine ρ :=
  { engine with
    timers := engine.timers.disarmAll
    ccaOutstanding := false
    carriedPeriods := if verdict = .deferred then engine.progress.periodsLeft else 0
    running := false }

def backoffSpan (engine : Engine ρ) (rate : SymbolRate) : Span :=
  rate.spanOf (engine.progress.periodsLeft * engine.policy.backoffPeriod.toNat)

def withPeriods (engine : Engine ρ) (periodsLeft : Nat) : Engine ρ :=
  { engine with progress := { engine.progress with periodsLeft } }

/-- The periods that remain of a backoff when the CAP ends after `left`. -/
def periodsBeyond (engine : Engine ρ) (rate : SymbolRate) (left : Span) : Nat :=
  engine.progress.periodsLeft -
    rate.symbolsIn left / engine.policy.backoffPeriod.toNat % 4294967296

section

variable [WordSource ρ]

theorem takeBackoff_eq {engine taken : Engine ρ} {advice : Option UInt32} {asked : List Call}
    (drawn : engine.takeBackoff advice = (taken,asked)) :
    taken = { engine with
      words := taken.words
      progress := { engine.progress with periodsLeft := taken.progress.periodsLeft } } := by
  unfold takeBackoff at drawn
  split at drawn
  · cases advice <;> cases drawn <;> rfl
  · cases drawn
    rfl

/-- The question for advice, if the backoff that begins is a new one. -/
def advising (engine : Engine ρ) (advice : Option UInt32) : List Call :=
  if engine.choosesBackoff then
    [.askAdvice engine.progress.exponent engine.progress.backoffs advice]
  else []

theorem takeBackoff_asks {engine taken : Engine ρ} {advice : Option UInt32} {asked : List Call}
    (drawn : engine.takeBackoff advice = (taken,asked)) : asked = engine.advising advice := by
  unfold takeBackoff at drawn
  unfold advising
  split at drawn
  case isTrue chooses =>
    rw [if_pos chooses]
    cases advice <;> cases drawn <;> rfl
  case isFalse resumes =>
    rw [if_neg resumes]
    cases drawn
    rfl

theorem eq_of_mem_takeBackoff {engine taken : Engine ρ} {advice : Option UInt32} {asked : List Call}
    {call : Call} (drawn : engine.takeBackoff advice = (taken,asked)) (member : call ∈ asked) :
    call = .askAdvice engine.progress.exponent engine.progress.backoffs advice := by
  rw [takeBackoff_asks drawn,advising] at member
  split at member
  · exact List.mem_singleton.mp member
  · exact absurd member List.not_mem_nil

theorem takeBackoff_policy {engine taken : Engine ρ} {advice : Option UInt32} {asked : List Call}
    (drawn : engine.takeBackoff advice = (taken,asked)) : taken.policy = engine.policy := by
  rw [takeBackoff_eq drawn]

theorem takeBackoff_direction {engine taken : Engine ρ} {advice : Option UInt32}
    {asked : List Call} (drawn : engine.takeBackoff advice = (taken,asked)) :
    taken.progress.direction = engine.progress.direction := by
  rw [takeBackoff_eq drawn]

theorem beginBackoff_refused {engine : Engine ρ} {around : Surroundings}
    (refused : SymbolRate.of around.radio.symbolsPerSecond = .error .zeroSymbolRate) :
    engine.beginBackoff around = .ok { engine, result := .error .zeroSymbolRate } := by
  simp only [beginBackoff,refused]

theorem beginBackoff_unslotted {engine taken : Engine ρ} {around : Surroundings}
    {rate : SymbolRate} {asked : List Call}
    (rated : SymbolRate.of around.radio.symbolsPerSecond = .ok rate)
    (unslotted : engine.policy.mode = .unslotted)
    (drawn : engine.takeBackoff around.advice = (taken,asked)) :
    engine.beginBackoff around =
      .ok (taken.waitFor asked .ccaRequest (taken.backoffSpan rate)
        [.assessmentAfter taken.progress.periodsLeft (taken.backoffSpan rate)]) := by
  have plain : taken.policy.isSlotted = false := by
    rw [takeBackoff_policy drawn]
    exact Policy.isSlotted_eq_false.mpr unslotted
  simp [beginBackoff,rated,drawn,plain,pure,Except.pure,waitFor,schedule,TimerTable.arm,backoffSpan]

theorem beginBackoff_slotted {engine taken : Engine ρ} {around : Surroundings}
    {rate : SymbolRate} {asked : List Call}
    (rated : SymbolRate.of around.radio.symbolsPerSecond = .ok rate)
    (slotted : engine.policy.mode = .slotted)
    (drawn : engine.takeBackoff around.advice = (taken,asked)) :
    engine.beginBackoff around =
      ((around.layer.superframe engine.progress.direction).timeLeftInCap around.now rate).map
        fun left =>
          if left < taken.backoffSpan rate then
            (taken.withPeriods (taken.periodsBeyond rate left)).waitFor
              (asked ++ [.askSuperframe engine.progress.direction]) .capEnd left
              [.carriedOver taken.progress.periodsLeft (taken.periodsBeyond rate left)]
          else
            taken.waitFor (asked ++ [.askSuperframe engine.progress.direction]) .canProceed
              (taken.backoffSpan rate)
              [.proceedingAfter taken.progress.periodsLeft] := by
  have aligned : taken.policy.isSlotted = true := by
    rw [takeBackoff_policy drawn]
    exact Policy.isSlotted_eq_true.mpr slotted
  have direction := takeBackoff_direction drawn
  cases remaining : (around.layer.superframe engine.progress.direction).timeLeftInCap around.now rate with
  | error failure =>
    simp only [beginBackoff,rated,drawn,aligned,if_true,direction,remaining,Except.map,bind,Except.bind]
  | ok left =>
    by_cases short : left < taken.backoffSpan rate
    · have exceeds := short
      unfold backoffSpan at exceeds
      simp only [beginBackoff,rated,drawn,aligned,if_true,direction,remaining,Except.map,bind,Except.bind,
        pure,Except.pure,short,exceeds,waitFor,schedule,TimerTable.arm,withPeriods,periodsBeyond]
    · have fits := short
      unfold backoffSpan at fits
      simp only [beginBackoff,rated,drawn,aligned,if_true,direction,remaining,Except.map,bind,Except.bind,
        pure,Except.pure,fits,if_false,waitFor,schedule,TimerTable.arm,backoffSpan]

end

theorem checkTransaction_refused {engine : Engine ρ} {around : Surroundings}
    (refused : SymbolRate.of around.radio.symbolsPerSecond = .error .zeroSymbolRate) :
    engine.checkTransaction around = .ok { engine, result := .error .zeroSymbolRate } := by
  simp only [checkTransaction,refused]

theorem checkTransaction_eq {engine : Engine ρ} {around : Surroundings} {rate : SymbolRate}
    (rated : SymbolRate.of around.radio.symbolsPerSecond = .ok rate) :
    engine.checkTransaction around = (do
      let left ← (around.layer.superframe engine.progress.direction).timeLeftInCap around.now rate
      let cost ← Cost.estimate engine.progress.window around.layer.frame around.layer.ackWait
        around.radio.turnaround
      return if left < rate.spanOf cost.total then
        (engine.withPeriods 0).waitFor
          [.askSuperframe engine.progress.direction,.cost cost.total] .capEnd left
          [.transactionTooLong cost.total left]
      else
        (engine.withPeriods 0).waitFor
          [.askSuperframe engine.progress.direction,.cost cost.total] .ccaRequest .zero []) := by
  simp only [checkTransaction,rated]
  cases (around.layer.superframe engine.progress.direction).timeLeftInCap around.now rate with
  | error failure => simp only [bind,Except.bind]
  | ok left =>
    simp only [bind,Except.bind,pure,Except.pure]
    cases Cost.estimate engine.progress.window around.layer.frame around.layer.ackWait
      around.radio.turnaround with
    | error failure => simp only
    | ok cost =>
      simp only
      split <;> simp [waitFor,schedule,TimerTable.arm,withPeriods]

def afterIdle (engine : Engine ρ) : Engine ρ :=
  { engine with
    ccaOutstanding := false
    progress := { engine.progress with
      window :=
        if engine.policy.isSlotted then engine.progress.window - 1 else engine.progress.window } }

def afterBusy (engine : Engine ρ) : Engine ρ :=
  { engine with
    ccaOutstanding := false
    progress := { engine.progress with
      exponent := min (engine.progress.exponent + 1) engine.policy.maxExponent.toNat
      backoffs := engine.progress.backoffs + 1
      window := if engine.policy.isSlotted then contentionWindow else engine.progress.window } }

theorem confirm_unexpected {engine : Engine ρ} (status : ChannelStatus)
    (unexpected : engine.ccaOutstanding = false) :
    engine.confirm status = { engine, notes := [.unexpectedConfirm] } := by
  simp [confirm,unexpected]

theorem confirm_idle {engine : Engine ρ} {status : ChannelStatus}
    (outstanding : engine.ccaOutstanding = true) (running : engine.running = true)
    (idle : status.isIdle = true) :
    engine.confirm status =
      if engine.policy.isSlotted = true ∧ 0 < engine.progress.window - 1 then
        engine.afterIdle.waitFor [] .ccaRequest .zero [.stillIdle (engine.progress.window - 1)]
      else
        { engine := engine.afterIdle.ended .channelIdle
          calls := [.verdict .channelIdle]
          notes := [.channelIdle engine.progress.backoffs,.concluded .channelIdle] } := by
  cases slotted : engine.policy.isSlotted with
  | true =>
    by_cases more : 0 < engine.progress.window - 1
    · simp [confirm,outstanding,idle,confirmIdle,slotted,more,schedule,TimerTable.arm,waitFor,afterIdle]
    · simp [confirm,outstanding,idle,confirmIdle,slotted,more,conclude,running,afterIdle,ended]
  | false =>
    simp [confirm,outstanding,idle,confirmIdle,slotted,conclude,running,afterIdle,ended]

theorem confirm_busy {engine : Engine ρ} {status : ChannelStatus}
    (outstanding : engine.ccaOutstanding = true) (running : engine.running = true)
    (busy : status.isIdle = false) :
    engine.confirm status =
      if engine.policy.maxBackoffs.toNat < engine.progress.backoffs + 1 then
        { engine := engine.afterBusy.ended .accessFailure
          calls := [.verdict .accessFailure]
          notes := [.accessFailed (engine.progress.backoffs + 1),.concluded .accessFailure] }
      else
        engine.afterBusy.waitFor [] .backoffStart .zero
          [.backingOff (engine.progress.backoffs + 1) engine.afterBusy.progress.exponent] := by
  by_cases spent : engine.policy.maxBackoffs.toNat < engine.progress.backoffs + 1
  · simp [confirm,outstanding,busy,confirmBusy,spent,conclude,running,afterBusy,ended]
  · simp [confirm,outstanding,busy,confirmBusy,spent,schedule,TimerTable.arm,waitFor,afterBusy]

def taken (engine : Engine ρ) (kind : TimerKind) : Engine ρ :=
  { engine with timers := engine.timers.put kind none }

theorem fire_stale [WordSource ρ] {engine : Engine ρ} {timer : Timer} (around : Surroundings)
    (stale : engine.timers.armed timer.kind ≠ some timer.number) :
    engine.fire timer around = .ok { engine, notes := [.staleTimer timer.kind] } := by
  simp only [fire,TimerTable.take_stale stale]

theorem fire_armed [WordSource ρ] {engine : Engine ρ} {timer : Timer} (around : Surroundings)
    (running : engine.running = true)
    (armed : engine.timers.armed timer.kind = some timer.number) :
    engine.fire timer around =
      match timer.kind with
      | .backoffStart => (engine.taken .backoffStart).beginBackoff around
      | .canProceed => (engine.taken .canProceed).checkTransaction around
      | .ccaRequest => .ok (engine.taken .ccaRequest).requestCca
      | .capEnd => .ok {
          engine := (engine.taken .capEnd).ended .deferred
          calls := [.verdict .deferred]
          notes := [.capEnded,.concluded .deferred] } := by
  obtain ⟨kind,number⟩ := timer
  simp only [fire,TimerTable.take_armed armed]
  cases kind <;> simp [taken,conclude,running,ended]

end Engine

/-- Nothing is refused, and the layer is asked for no advice but what it gives. -/
structure Reaction.Served {ρ : Type} (reaction : Reaction ρ) (advice : Option UInt32) : Prop where
  result : reaction.result = .ok ()
  asked : ∀ exponent backoffs answer,
    .askAdvice exponent backoffs answer ∈ reaction.calls → answer = advice

namespace Engine

variable {ρ : Type} {around : Surroundings} {rate : SymbolRate} {reaction : Reaction ρ}

theorem waitFor_served (engine : Engine ρ) {calls : List Call} (kind : TimerKind) (delay : Span)
    (notes : List Note) {advice : Option UInt32}
    (asked : ∀ exponent backoffs answer,
      .askAdvice exponent backoffs answer ∈ calls → answer = advice) :
    (engine.waitFor calls kind delay notes).Served advice where
  result := rfl
  asked exponent backoffs answer member := by
    simp only [waitFor,List.mem_append,List.mem_singleton,reduceCtorEq,or_false] at member
    exact asked exponent backoffs answer member

theorem start_served {engine : Engine ρ} {advice : Option UInt32}
    (rated : SymbolRate.of around.radio.symbolsPerSecond = .ok rate)
    (started : engine.start around = .ok reaction) : reaction.Served advice := by
  rw [start_eq rated] at started
  obtain ⟨wait,_,rfl⟩ := except_map_eq_ok.mp started
  exact waitFor_served _ _ _ _ fun _ _ _ member => by cases eq_of_mem_looks member

section

variable [WordSource ρ]

theorem takeBackoff_asked {engine taken : Engine ρ} {advice : Option UInt32} {asked : List Call}
    (drawn : engine.takeBackoff advice = (taken,asked)) (exponent backoffs : Nat)
    (answer : Option UInt32) (member : .askAdvice exponent backoffs answer ∈ asked) :
    answer = advice := by
  cases eq_of_mem_takeBackoff drawn member
  rfl

theorem beginBackoff_served {engine : Engine ρ}
    (rated : SymbolRate.of around.radio.symbolsPerSecond = .ok rate)
    (began : engine.beginBackoff around = .ok reaction) : reaction.Served around.advice := by
  rcases drawn : engine.takeBackoff around.advice with ⟨taken,asked⟩
  have answers := takeBackoff_asked drawn
  cases mode : engine.policy.mode with
  | unslotted =>
    rw [beginBackoff_unslotted rated mode drawn] at began
    cases began
    exact waitFor_served taken _ _ _ answers
  | slotted =>
    rw [beginBackoff_slotted rated mode drawn] at began
    obtain ⟨left,_,rfl⟩ := except_map_eq_ok.mp began
    have answers' : ∀ exponent backoffs answer, .askAdvice exponent backoffs answer ∈
        asked ++ [.askSuperframe engine.progress.direction] → answer = around.advice := by
      simpa using answers
    split
    · exact waitFor_served _ _ _ _ answers'
    · exact waitFor_served _ _ _ _ answers'

end

theorem checkTransaction_served {engine : Engine ρ} {advice : Option UInt32}
    (rated : SymbolRate.of around.radio.symbolsPerSecond = .ok rate)
    (checked : engine.checkTransaction around = .ok reaction) : reaction.Served advice := by
  rw [checkTransaction_eq rated] at checked
  obtain ⟨left,_,checked⟩ := except_bind_eq_ok.mp checked
  obtain ⟨cost,_,checked⟩ := except_bind_eq_ok.mp checked
  have silent : ∀ exponent backoffs answer, Call.askAdvice exponent backoffs answer ∈
      [.askSuperframe engine.progress.direction,.cost cost.total] → answer = advice := by simp
  by_cases long : left < rate.spanOf cost.total
  · rw [if_pos long] at checked
    cases checked
    exact waitFor_served _ _ _ _ silent
  · rw [if_neg long] at checked
    cases checked
    exact waitFor_served _ _ _ _ silent

/-- No timer is refused while the radio has a symbol rate. -/
theorem fire_served [WordSource ρ] {engine : Engine ρ} {timer : Timer}
    (rated : SymbolRate.of around.radio.symbolsPerSecond = .ok rate)
    (running : engine.running = true)
    (armed : engine.timers.armed timer.kind = some timer.number)
    (fired : engine.fire timer around = .ok reaction) : reaction.Served around.advice := by
  rw [fire_armed around running armed] at fired
  obtain ⟨kind,number⟩ := timer
  cases kind with
  | backoffStart => exact beginBackoff_served rated fired
  | canProceed => exact checkTransaction_served rated fired
  | ccaRequest =>
    cases fired
    exact ⟨rfl,by simp [requestCca]⟩
  | capEnd =>
    cases fired
    exact ⟨rfl,by simp⟩

theorem confirm_served {engine : Engine ρ} (status : ChannelStatus) (advice : Option UInt32)
    (outstanding : engine.ccaOutstanding = true) (running : engine.running = true) :
    (engine.confirm status).Served advice := by
  cases idle : status.isIdle with
  | true =>
    rw [confirm_idle outstanding running idle]
    split
    · exact waitFor_served _ _ _ _ (by simp)
    · exact ⟨rfl,by simp⟩
  | false =>
    rw [confirm_busy outstanding running idle]
    split
    · exact ⟨rfl,by simp⟩
    · exact waitFor_served _ _ _ _ (by simp)

end Engine

end ChannelAccess
