import ChannelAccess.Cost
import ChannelAccess.Engine.Basic

/-!
Slotted and unslotted CSMA-CA. An attempt waits for a random backoff and assesses the channel; a
busy channel means another backoff with a larger exponent, until the policy allows no more. In
slotted attempts backoffs begin on a boundary, the channel must be idle twice, and what does not
fit the rest of the CAP is deferred. An attempt ends with one verdict.
-/

namespace ChannelAccess.Engine

variable {ρ : Type}

/-- Arm a timer of a kind and schedule it. Negative delays count as none. -/
def schedule (engine : Engine ρ) (kind : TimerKind) (delay : Span) : Engine ρ × Call :=
  let (timer, timers) := engine.timers.arm kind
  ({ engine with timers }, .schedule timer delay.clampNonNegative)

/-- End the attempt. Only a deferred one leaves backoff periods to the next. -/
def conclude (engine : Engine ρ) (verdict : Verdict) : Reaction ρ :=
  if engine.running then
    { engine := { engine with
        timers := engine.timers.disarmAll
        ccaOutstanding := false
        carriedPeriods := if verdict = .deferred then engine.progress.periodsLeft else 0
        running := false }
      calls := [.verdict verdict]
      notes := [.concluded verdict] }
  else
    { engine }

/-- Begin an attempt for the queued frame. An attempt that is still running is abandoned. -/
def start (engine : Engine ρ) (around : Surroundings) : Except Overflow (Reaction ρ) :=
  match SymbolRate.of around.radio.symbolsPerSecond with
  | .error error => .ok { engine, result := .error error }
  | .ok rate => do
    let direction := Direction.ofDestination around.layer.frame.toCoordinator
    let slotted := engine.policy.isSlotted
    let restart := if engine.running then [Note.restarted] else []
    let fresh := { engine.cancel with
      progress := {
        exponent := engine.policy.initialExponent.toNat
        backoffs := 0
        window := if slotted then contentionWindow else 0
        periodsLeft := if slotted then engine.carriedPeriods else 0
        direction }
      running := true }
    if slotted then
      let toBoundary ← (around.layer.superframe direction).timeToBoundary around.now
        engine.policy.backoffPeriod.toNat rate
      let (engine, call) := fresh.schedule .backoffStart toBoundary
      return {
        engine
        calls := [.askSuperframe direction, call]
        notes := restart ++ [.slottedStarted toBoundary] }
    else
      let (engine, call) := fresh.schedule .backoffStart .zero
      return { engine, calls := [call], notes := restart ++ [.unslottedStarted] }

section

variable [WordSource ρ]

/-- Choose the length of a backoff: the layer's advice, held to the exponent, or a random draw. -/
def chooseBackoff (engine : Engine ρ) (advice : Option UInt32) : Engine ρ × Call :=
  let exponent := engine.progress.exponent
  let call := Call.askAdvice exponent engine.progress.backoffs advice
  match advice with
  | some periods =>
    let periodsLeft := min periods.toNat (Backoff.maxPeriods exponent)
    ({ engine with progress := { engine.progress with periodsLeft } }, call)
  | none =>
    let (periodsLeft, words) := Backoff.draw engine.words exponent
    ({ engine with words, progress := { engine.progress with periodsLeft } }, call)

/-- The backoff that begins now is a new one, not one cut short by the end of the last CAP. -/
abbrev choosesBackoff (engine : Engine ρ) : Prop :=
  engine.progress.periodsLeft = 0 ∨ ¬ engine.policy.isSlotted

/-- The backoff that begins now: one cut short by the end of the last CAP is resumed, else a new
one is chosen. -/
def takeBackoff (engine : Engine ρ) (advice : Option UInt32) : Engine ρ × List Call :=
  if engine.choosesBackoff then
    let (engine, call) := engine.chooseBackoff advice
    (engine, [call])
  else
    (engine, [])

def beginBackoff (engine : Engine ρ) (around : Surroundings) : Except Overflow (Reaction ρ) :=
  match SymbolRate.of around.radio.symbolsPerSecond with
  | .error error => .ok { engine, result := .error error }
  | .ok rate => do
    let (engine, asked) := engine.takeBackoff around.advice
    let periods := engine.progress.periodsLeft
    let unit := engine.policy.backoffPeriod.toNat
    let backoff := rate.spanOf (periods * unit)
    if engine.policy.isSlotted then
      let superframe := around.layer.superframe engine.progress.direction
      let asked := asked ++ [.askSuperframe engine.progress.direction]
      let left ← superframe.timeLeftInCap around.now rate
      if left < backoff then
        let used := rate.symbolsIn left / unit % 4294967296
        let periodsLeft := periods - used
        let engine := { engine with progress := { engine.progress with periodsLeft } }
        let (engine, call) := engine.schedule .capEnd left
        return {
          engine
          calls := asked ++ [call]
          notes := [.carriedOver periods periodsLeft] }
      else
        let (engine, call) := engine.schedule .canProceed backoff
        return { engine, calls := asked ++ [call], notes := [.proceedingAfter periods] }
    else
      let (engine, call) := engine.schedule .ccaRequest backoff
      return { engine, calls := asked ++ [call], notes := [.assessmentAfter periods backoff] }

end

/-- The backoff is over: go on only if the whole transaction fits the rest of the CAP. -/
def checkTransaction (engine : Engine ρ) (around : Surroundings) :
    Except Overflow (Reaction ρ) :=
  match SymbolRate.of around.radio.symbolsPerSecond with
  | .error error => .ok { engine, result := .error error }
  | .ok rate => do
    let superframe := around.layer.superframe engine.progress.direction
    let left ← superframe.timeLeftInCap around.now rate
    let cost ← Cost.estimate engine.progress.window around.layer.frame around.layer.ackWait
      around.radio.turnaround
    let symbols := cost.total
    let engine := { engine with progress := { engine.progress with periodsLeft := 0 } }
    if left < rate.spanOf symbols then
      let (engine, call) := engine.schedule .capEnd left
      return {
        engine
        calls := [.askSuperframe engine.progress.direction, .cost symbols, call]
        notes := [.transactionTooLong symbols left] }
    else
      let (engine, call) := engine.schedule .ccaRequest .zero
      return {
        engine
        calls := [.askSuperframe engine.progress.direction, .cost symbols, call] }

def requestCca (engine : Engine ρ) : Reaction ρ where
  engine := { engine with ccaOutstanding := true }
  calls := [.requestCca]
  notes := [.assessing]

/-- The action of a timer that comes back begins with a question for advice. -/
def asksAdvice (engine : Engine ρ) (timer : Timer) : Bool :=
  timer.kind = .backoffStart ∧ engine.choosesBackoff

/-- Run the action of a timer that comes back. A timer that is not armed is ignored. -/
def fire [WordSource ρ] (engine : Engine ρ) (timer : Timer) (around : Surroundings) :
    Except Overflow (Reaction ρ) :=
  match engine.timers.take timer with
  | (false, _) => .ok { engine, notes := [.staleTimer timer.kind] }
  | (true, timers) =>
    let engine := { engine with timers }
    match timer.kind with
    | .backoffStart => engine.beginBackoff around
    | .canProceed => engine.checkTransaction around
    | .ccaRequest => .ok engine.requestCca
    | .capEnd =>
      let ending := engine.conclude .deferred
      .ok { ending with notes := .capEnded :: ending.notes }

/-- An idle assessment: grant the channel, or ask once more while the window is open. -/
def confirmIdle (engine : Engine ρ) : Reaction ρ :=
  let window := if engine.policy.isSlotted then engine.progress.window - 1 else 0
  let engine :=
    if engine.policy.isSlotted then
      { engine with progress := { engine.progress with window } }
    else engine
  if 0 < window then
    let (engine, call) := engine.schedule .ccaRequest .zero
    { engine, calls := [call], notes := [.stillIdle window] }
  else
    let ending := engine.conclude .channelIdle
    { ending with notes := .channelIdle engine.progress.backoffs :: ending.notes }

/-- A busy assessment: back off again, or give up after the last backoff. -/
def confirmBusy (engine : Engine ρ) : Reaction ρ :=
  let exponent := min (engine.progress.exponent + 1) engine.policy.maxExponent.toNat
  let backoffs := engine.progress.backoffs + 1
  let window :=
    if engine.policy.isSlotted then contentionWindow else engine.progress.window
  let engine := { engine with
    progress := { engine.progress with exponent, backoffs, window } }
  if engine.policy.maxBackoffs.toNat < backoffs then
    let ending := engine.conclude .accessFailure
    { ending with notes := .accessFailed backoffs :: ending.notes }
  else
    let (engine, call) := engine.schedule .backoffStart .zero
    { engine, calls := [call], notes := [.backingOff backoffs exponent] }

/-- Take the result of an assessment. One that was not asked for is ignored. -/
def confirm (engine : Engine ρ) (status : ChannelStatus) : Reaction ρ :=
  if engine.ccaOutstanding then
    let engine := { engine with ccaOutstanding := false }
    if status.isIdle then engine.confirmIdle else engine.confirmBusy
  else
    { engine, notes := [.unexpectedConfirm] }

end ChannelAccess.Engine
