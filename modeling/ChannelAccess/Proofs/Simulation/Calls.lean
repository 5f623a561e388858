import ChannelAccess.Proofs.Simulation.Steps

/-!
The calls that the engine of a simulation makes during an attempt. A simulation answers them and
keeps only some; here they are listed in full, from the reactions that `handle` and `start` settle.
-/

namespace ChannelAccess

variable {ρ : Type}

/-- The calls that a layer can take note of. A question for a superframe leaves it as it is. -/
def Call.forLayer : Call → Bool
  | .verdict _ | .cost _ | .askAdvice _ _ _ => true
  | .schedule _ _ | .requestCca | .askSuperframe _ => false

def Call.cost? : Call → Option Nat
  | .cost symbols => some symbols
  | .schedule _ _ | .requestCca | .verdict _ | .askAdvice _ _ _ | .askSuperframe _ => none

/-- The calls of a reaction, none if it overflows. -/
def Reaction.callsOf : Except Overflow (Reaction ρ) → List Call
  | .ok reaction => reaction.calls
  | .error _ => []

/-- When an assessment began, if the event tells of one. -/
def TraceEvent.ccaInstant? (event : TraceEvent) : Option Instant :=
  match event.occurrence with
  | .ccaRequested _ _ _ => some event.instant
  | .started _ | .ccaResult _ | .cost _ | .verdict _ => none

namespace Simulation

/-- When the assessments in the trace began. -/
def ccaInstants (simulation : Simulation ρ) : List Instant :=
  simulation.trace.toList.filterMap TraceEvent.ccaInstant?

theorem ccaInstants_push (simulation : Simulation ρ) (event : TraceEvent) :
    { simulation with trace := simulation.trace.push event }.ccaInstants =
      simulation.ccaInstants ++ event.ccaInstant?.toList := by
  rw [ccaInstants,Array.toList_push,List.filterMap_append]
  cases told : event.ccaInstant? with
  | none => simp [ccaInstants,told]
  | some instant => simp [ccaInstants,told]

section

variable [WordSource ρ]

/-- The engine's reaction to an event that is due now. -/
def reaction (simulation : Simulation ρ) : Event → Except Overflow (Reaction ρ)
  | .timer timer => simulation.engine.fire timer simulation.surroundings
  | .assessmentDone =>
    .ok (simulation.engine.confirm (simulation.channel.assess simulation.clock).1)

/-- The simulation that settles the reaction to an event. The end of an assessment is recorded. -/
def informed (simulation : Simulation ρ) : Event → Simulation ρ
  | .timer _ => simulation
  | .assessmentDone =>
    { simulation with channel := (simulation.channel.assess simulation.clock).2 }.record
      (.ccaResult (simulation.channel.assess simulation.clock).1)

theorem handle_eq (simulation : Simulation ρ) (event : Event) :
    simulation.handle event = (do
      let reaction ← simulation.reaction event
      (simulation.informed event).settle reaction) := by
  cases event with
  | timer timer => rfl
  | assessmentDone => rfl

def nextCalls (simulation : Simulation ρ) : List Call :=
  match simulation.queue.pop? with
  | none => []
  | some (entry, queue) =>
    Reaction.callsOf (({ simulation with queue }.advanceTo entry.due).reaction entry.event)

/-- The calls of a run, step after step. -/
def callsUntil (finished : Simulation ρ → Option Verdict) : Nat → Simulation ρ → List Call
  | 0, _ => []
  | bound + 1, simulation =>
    match finished simulation with
    | some _ => []
    | none =>
      simulation.nextCalls ++
        match simulation.step with
        | .ok ⟨later, _, .ok true⟩ => callsUntil finished bound later
        | .ok ⟨_, _, .ok false⟩ | .ok ⟨_, _, .error _⟩ | .error _ => []

/-- The calls of an attempt from its start to its verdict. -/
def attemptCalls (simulation : Simulation ρ) : List Call :=
  Reaction.callsOf (simulation.engine.start simulation.surroundings) ++
    match simulation.start with
    | .ok begun =>
      callsUntil (verdictAfter begun.simulation.verdicts.size) begun.simulation.eventBound
        begun.simulation
    | .error _ => []

theorem nextCalls_expected {simulation : Simulation ρ} {due : Instant} {event : Event}
    (behind : simulation.clock ≤ due)
    (queued : ∃ order, simulation.queue.entries = [⟨due,order,event⟩]) :
    simulation.nextCalls = Reaction.callsOf ((simulation.arriveAt due).reaction event) := by
  obtain ⟨order,queued⟩ := queued
  simp only [nextCalls,EventQueue.pop?,queued,advanceTo,Instant.later,behind,if_true]
  rfl

end

end Simulation

end ChannelAccess
