import ChannelAccess.Channel
import ChannelAccess.Engine.Operations
import ChannelAccess.Simulation.Queue

/-!
A simulation runs an engine against a layer, a radio and a channel in discrete events. Time moves
only when the next event is taken from the queue or the clock is advanced, so a run is fixed by
its random words and its channel. Everything worth telling is recorded in the trace.
-/

namespace ChannelAccess

inductive Occurrence where
  | started (mode : Mode)
  | ccaRequested (exponent backoffs window : Nat)
  | ccaResult (status : ChannelStatus)
  | cost (symbols : Nat)
  | verdict (verdict : Verdict)
  deriving DecidableEq, Repr

structure TraceEvent where
  instant : Instant
  occurrence : Occurrence
  deriving DecidableEq, Repr

structure Simulation (ρ : Type) where
  engine : Engine ρ
  layer : LayerFacts
  /-- Given for every backoff. -/
  advice : Option UInt32 := none
  symbolsPerSecond : UInt32
  channel : Channel
  ccaRequests : Nat := 0
  clock : Instant := .zero
  /-- The layer's copy of the clock, which tells when something was recorded. -/
  layerClock : Instant := .zero
  queue : EventQueue := {}
  trace : Array TraceEvent := #[]
  verdicts : Array Verdict := #[]
  costs : Array Nat := #[]

/-- What one operation on a simulation produces. A refusal keeps what was done before it. -/
structure Outcome (ρ α : Type) where
  simulation : Simulation ρ
  notes : List Note := []
  result : Except AccessError α

namespace Simulation

variable {ρ : Type}

def ofPhy (engine : Engine ρ) (layer : LayerFacts) (phy : Phy) (channel : Channel) :
    Simulation ρ where
  engine
  layer
  symbolsPerSecond := phy.symbolsPerSecond
  channel

def record (simulation : Simulation ρ) (occurrence : Occurrence) : Simulation ρ :=
  { simulation with trace := simulation.trace.push ⟨simulation.layerClock, occurrence⟩ }

/-- Set the layer's clock. -/
def tellTime (simulation : Simulation ρ) : Simulation ρ :=
  { simulation with layerClock := simulation.clock }

/-- Move the clock forward. Earlier instants are ignored. -/
def advanceTo (simulation : Simulation ρ) (instant : Instant) : Simulation ρ :=
  { simulation with clock := simulation.clock.later instant }.tellTime

/-- Replace both superframes by the ones that follow them. -/
def nextSuperframes (simulation : Simulation ρ) (rate : SymbolRate) :
    Except Overflow (Simulation ρ) := do
  let outgoing ← simulation.layer.outgoing.next rate
  let incoming ← simulation.layer.incoming.next rate
  return { simulation with layer := { simulation.layer with outgoing, incoming } }

def cancel (simulation : Simulation ρ) : Simulation ρ :=
  { simulation with engine := simulation.engine.cancel }

def surroundings (simulation : Simulation ρ) : Surroundings where
  now := simulation.clock
  radio := { symbolsPerSecond := simulation.symbolsPerSecond }
  layer := simulation.layer
  advice := simulation.advice

def push (simulation : Simulation ρ) (due : Instant) (event : Event) :
    Simulation ρ × List Note :=
  let (kept, queue) := simulation.queue.push due event
  ({ simulation with queue }, if kept then [] else [.queueFull])

/-- Answer one call of the engine. A request for an assessment is answered by `assess` later. -/
def hear (simulation : Simulation ρ) : Call → Except Overflow (Simulation ρ × List Note)
  | .schedule timer delay => do
    let due ← simulation.clock.plus delay
    return simulation.push due (.timer timer)
  | .verdict verdict =>
    let heard := { simulation with verdicts := simulation.verdicts.push verdict }
    .ok (heard.record (.verdict verdict), [])
  | .cost symbols =>
    let heard := { simulation with costs := simulation.costs.push symbols }
    .ok (heard.record (.cost symbols), [])
  | .requestCca | .askAdvice _ _ _ | .askSuperframe _ => .ok (simulation, [])

def hearAll (simulation : Simulation ρ) :
    List Call → Except Overflow (Simulation ρ × List Note)
  | [] => .ok (simulation, [])
  | call :: calls => do
    let (simulation, notes) ← simulation.hear call
    let (simulation, more) ← simulation.hearAll calls
    return (simulation, notes ++ more)

/-- Begin an assessment of the channel. It takes eight symbols. -/
def assess (simulation : Simulation ρ) : Except Overflow (Outcome ρ Unit) :=
  match SymbolRate.of simulation.symbolsPerSecond with
  | .error error => .ok { simulation, result := .error error }
  | .ok rate => do
    let ccaRequests ← wordValue .addition (simulation.ccaRequests + 1)
    let progress := simulation.engine.progress
    let simulation := { simulation with ccaRequests }.record
      (.ccaRequested progress.exponent progress.backoffs progress.window)
    let due ← simulation.clock.plus (rate.spanOf assessmentSymbols)
    let (simulation, notes) := simulation.push due .assessmentDone
    return { simulation, notes, result := .ok () }

/-- Take over an engine's reaction: its calls are answered, then an assessment begins if the
engine asked for one and did not refuse. -/
def settle (simulation : Simulation ρ) (reaction : Reaction ρ) :
    Except Overflow (Outcome ρ Unit) := do
  let (simulation, notes) ← { simulation with engine := reaction.engine }.hearAll reaction.calls
  let notes := reaction.notes ++ notes
  match reaction.result with
  | .error error => return { simulation, notes, result := .error error }
  | .ok () =>
    if Call.requestCca ∈ reaction.calls then
      let outcome ← simulation.assess
      return { outcome with notes := notes ++ outcome.notes }
    else
      return { simulation, notes, result := .ok () }

/-- Begin an attempt. That it was begun is recorded even if the engine refuses. -/
def start (simulation : Simulation ρ) : Except Overflow (Outcome ρ Unit) := do
  let simulation := simulation.tellTime.record (.started simulation.engine.policy.mode)
  let reaction ← simulation.engine.start simulation.surroundings
  simulation.settle reaction

variable [WordSource ρ]

/-- The engine's reaction to an event that is due. -/
def handle (simulation : Simulation ρ) : Event → Except Overflow (Outcome ρ Unit)
  | .timer timer => do
    let reaction ← simulation.engine.fire timer simulation.surroundings
    simulation.settle reaction
  | .assessmentDone =>
    let (status, channel) := simulation.channel.assess simulation.clock
    let simulation := { simulation with channel }.record (.ccaResult status)
    simulation.settle (simulation.engine.confirm status)

/-- Process the next event. The result is false if there was none. -/
def step (simulation : Simulation ρ) : Except Overflow (Outcome ρ Bool) :=
  match simulation.queue.pop? with
  | none => .ok { simulation, result := .ok false }
  | some (entry, queue) => do
    let outcome ← ({ simulation with queue }.advanceTo entry.due).handle entry.event
    return {
      simulation := outcome.simulation
      notes := outcome.notes
      result := outcome.result.map fun () => true }

end Simulation

end ChannelAccess
