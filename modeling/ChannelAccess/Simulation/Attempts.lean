import ChannelAccess.Simulation.Run

/-!
Consecutive attempts of a simulation. After a deferred attempt the next one starts with the
following beacon.
-/

namespace ChannelAccess.Simulation

variable {ρ : Type}

/-- Go on to the following beacon, the earlier one if the directions differ. -/
def awaitBeacon (simulation : Simulation ρ) (rate : SymbolRate) :
    Except Overflow (Simulation ρ) := do
  let next ← simulation.nextSuperframes rate
  return next.advanceTo (next.layer.outgoing.beacon.earlier next.layer.incoming.beacon)

/-- The events recorded after the first `seen`. -/
def eventsSince (simulation : Simulation ρ) (seen : Nat) : List TraceEvent :=
  (simulation.trace.extract seen simulation.trace.size).toList

variable [WordSource ρ]

/-- One attempt to its verdict, with the events recorded after the first `seen`. -/
def attemptFrom (seen : Nat) (simulation : Simulation ρ) :
    Except Overflow (Simulation ρ × Except AccessError (Verdict × List TraceEvent)) := do
  let ⟨started, _, result⟩ ← simulation.start
  match result with
  | .error error => return (started, .error error)
  | .ok () =>
    let ⟨later, _, result⟩ ← started.runUntilVerdict
    match result with
    | .error error => return (later, .error error)
    | .ok (.verdict verdict) => return (later, .ok (verdict, later.eventsSince seen))
    | .ok .idle | .ok .unfinished => return (later, .error .stalled)

/-- One attempt to its verdict, with its events. -/
def attempt (simulation : Simulation ρ) :
    Except Overflow (Simulation ρ × Except AccessError (Verdict × List TraceEvent)) :=
  simulation.attemptFrom simulation.trace.size

/-- The events of so many attempts, attempt by attempt. A refusal ends them all. -/
def attempts (rate : SymbolRate) :
    Nat → Simulation ρ → Except Overflow (Except AccessError (List (List TraceEvent)))
  | 0, _ => .ok (.ok [])
  | count + 1, simulation => do
    match ← simulation.attempt with
    | (_, .error error) => return .error error
    | (later, .ok (verdict, events)) =>
      let next ← if verdict = .deferred then later.awaitBeacon rate else .ok later
      let rest ← attempts rate count next
      return rest.map (events :: ·)

end ChannelAccess.Simulation
