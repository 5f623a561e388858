import ChannelAccess.Simulation.Basic

/-!
Runs of a simulation. An attempt processes at most six events for each of its backoffs, so a run
is over within the events that are queued and six for each backoff that the policy allows.
-/

namespace ChannelAccess.Simulation

variable {ρ : Type} [WordSource ρ]

/-- How a run ends. -/
inductive Ending where
  | verdict (verdict : Verdict)
  /-- The queue is empty. -/
  | idle
  /-- The bound on events was reached. -/
  | unfinished
  deriving DecidableEq, Repr

/-- A number of events that no run exceeds. -/
def eventBound (simulation : Simulation ρ) : Nat :=
  simulation.queue.size + 6 * (simulation.engine.policy.maxBackoffs.toNat + 1)

/-- Process at most `bound` events, until `finished` tells how the run ends. -/
def runUntil (finished : Simulation ρ → Option Verdict) :
    Nat → Simulation ρ → Except Overflow (Outcome ρ Ending)
  | bound, simulation =>
    match finished simulation with
    | some verdict => .ok { simulation, result := .ok (.verdict verdict) }
    | none =>
      match bound with
      | 0 =>
        .ok { simulation, result := .ok (if simulation.queue.size = 0 then .idle else .unfinished) }
      | bound + 1 => do
        let ⟨later, notes, result⟩ ← simulation.step
        match result with
        | .error error => return { simulation := later, notes, result := .error error }
        | .ok false => return { simulation := later, notes, result := .ok .idle }
        | .ok true =>
          let rest ← runUntil finished bound later
          return { rest with notes := notes ++ rest.notes }

/-- Step until the layer receives a verdict or nothing is left to do. -/
def runUntilVerdict (simulation : Simulation ρ) : Except Overflow (Outcome ρ Ending) :=
  let seen := simulation.verdicts.size
  runUntil (fun later => if later.verdicts.size = seen then none else later.verdicts.back?)
    simulation.eventBound simulation

/-- Step until nothing is left to do. -/
def runToCompletion (simulation : Simulation ρ) : Except Overflow (Outcome ρ Ending) :=
  runUntil (fun _ => none) simulation.eventBound simulation

/-- Take `count` steps, also past refusals. The result is that of the last step, true if there was
none. -/
def steps : Nat → Simulation ρ → Except Overflow (Outcome ρ Bool)
  | 0, simulation => .ok { simulation, result := .ok true }
  | 1, simulation => simulation.step
  | count + 2, simulation => do
    let ⟨later, notes, _⟩ ← simulation.step
    let rest ← steps (count + 1) later
    return { rest with notes := notes ++ rest.notes }

end ChannelAccess.Simulation
