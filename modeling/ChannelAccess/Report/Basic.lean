import ChannelAccess.Simulation.Attempts

/-!
Reports. A scenario describes consecutive attempts at sending one frame; its report has a section
for each attempt with the events of that attempt.
-/

namespace ChannelAccess

structure Scenario where
  policy : Policy := {}
  phy : Phy := .oqpsk2450
  payloadOctets : UInt32 := 20
  ackRequested : Bool := false
  toCoordinator : Bool := false
  /-- Superframe of the first attempt, in both directions. -/
  superframe : Superframe := .capped .zero 3 15
  /-- Time of the first attempt. -/
  start : Instant := .zero
  channel : Channel := .idle
  attempts : Nat := 1
  deriving DecidableEq, Repr

structure Report where
  scenario : Scenario
  /-- The events of each attempt. -/
  sections : List (List TraceEvent)
  deriving DecidableEq, Repr

namespace Scenario

def frame (scenario : Scenario) : Frame :=
  .ofPayload scenario.phy scenario.payloadOctets scenario.ackRequested scenario.toCoordinator

def simulation {ρ : Type} (scenario : Scenario) (engine : Engine ρ) : Simulation ρ :=
  let layer : LayerFacts := {
    frame := scenario.frame
    outgoing := scenario.superframe
    incoming := scenario.superframe
    ackWait := ackWaitSymbols scenario.phy }
  (Simulation.ofPhy engine layer scenario.phy scenario.channel).advanceTo scenario.start

variable {ρ : Type} [WordSource ρ]

/-- Run every attempt of a scenario. -/
def report (scenario : Scenario) (words : ρ) : Except Overflow (Except AccessError Report) :=
  match Engine.new scenario.policy words with
  | .error error => .ok (.error error)
  | .ok engine => do
    let sections ← (scenario.simulation engine).attempts (.ofPhy scenario.phy) scenario.attempts
    return sections.map fun sections => { scenario, sections }

end Scenario

end ChannelAccess
