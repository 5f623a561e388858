import ChannelAccess.Proofs.Engine.Bound
import ChannelAccess.Proofs.Engine.Verdicts
import ChannelAccess.Proofs.Simulation.Histories
import ChannelAccess.Proofs.Simulation.Proceeding

/-!
Every attempt of a simulation ends with one verdict, whatever earlier attempts have left in its
queue. What the engine waits for is always queued, and each event leaves fewer to come. Main
statement: `attempt_concludes`.
-/

namespace ChannelAccess

variable {ρ : Type}

namespace EventQueue

theorem mem_push_new {queue : EventQueue} (room : queue.size < capacity) (due : Instant)
    (event : Event) : ⟨due,queue.nextOrder,event⟩ ∈ (queue.push due event).2.entries :=
  mem_push.mpr (.inr ⟨room,rfl⟩)

end EventQueue

/-- The engine acts on the event if it comes now. -/
def Engine.Heeds (engine : Engine ρ) : Event → Prop
  | .timer timer => engine.timers.armed timer.kind = some timer.number
  | .assessmentDone => engine.ccaOutstanding = true

theorem Engine.At.heeds_nothing {engine : Engine ρ} (inside : engine.At .concluded) (event : Event) :
    ¬ engine.Heeds event := by
  intro heeds
  cases event with
  | timer timer => simp [Engine.Heeds,inside.armed_none rfl] at heeds
  | assessmentDone => exact absurd (inside.outstanding.symm.trans heeds) (by simp [Stage.assessing])

namespace Simulation

/-- So many events are processed one after the other, none of them refused. -/
inductive Processes [WordSource ρ] : Simulation ρ → Nat → Simulation ρ → Prop
  | none (simulation : Simulation ρ) : Processes simulation 0 simulation
  | next {simulation last : Simulation ρ} {outcome : Outcome ρ Bool} {count : Nat}
      (stepped : simulation.step = .ok outcome) (processed : outcome.result = .ok true)
      (rest : Processes outcome.simulation count last) : Processes simulation (count + 1) last

variable {simulation later : Simulation ρ} {rate : SymbolRate} {seen : Array Verdict}
  {stage next : Stage}

theorem accepts_of_heeds {engine : Engine ρ} {event : Event} (heeds : engine.Heeds event) :
    engine.accepts (simulation.delivery event) ≠ none := by
  cases event with
  | timer timer => simp [delivery,Engine.accepts,show engine.timers.armed timer.kind = _ from heeds]
  | assessmentDone => simp [delivery,Engine.accepts,show engine.ccaOutstanding = true from heeds]

/-- An attempt is under way or has given its verdict, and what its engine waits for is queued. -/
structure Attempting (simulation : Simulation ρ) (rate : SymbolRate) (seen : Array Verdict)
    (stage : Stage) : Prop where
  rated : SymbolRate.of simulation.symbolsPerSecond = .ok rate
  inside : simulation.engine.At stage
  able : stage ≠ .stuck
  room : simulation.queue.size ≤ EventQueue.capacity
  queued : stage ≠ .concluded →
    ∃ entry ∈ simulation.queue.entries, simulation.engine.Heeds entry.event
  undecided : stage ≠ .concluded → simulation.verdicts = seen
  decided : stage = .concluded → ∃ verdict, simulation.verdicts = seen.push verdict

def eventsLeft (simulation : Simulation ρ) (stage : Stage) : Nat :=
  simulation.queue.size + simulation.engine.deliveriesLeft stage

/-- A new attempt needs no more events than those that are queued and six for each of its rounds. -/
theorem eventsLeft_le [WordSource ρ] (simulation : Simulation ρ) :
    simulation.eventsLeft .backoffStart ≤ simulation.eventBound := by
  simp only [eventsLeft,eventBound,Engine.deliveriesLeft,Stage.roundLeft,reduceCtorEq,or_self,if_false]
  omega

theorem drained_of_eventsLeft (spent : simulation.eventsLeft stage ≤ 0) :
    simulation.queue.entries = [] :=
  List.eq_nil_of_length_eq_zero (Nat.eq_zero_of_add_eq_zero_right (Nat.le_zero.mp spent))

namespace Settles

variable {reaction : Reaction ρ} {action : Action}

theorem verdicts (settles : simulation.Settles rate reaction action next later) :
    later.verdicts =
      if next = .concluded then simulation.verdicts.push action.verdict else simulation.verdicts := by
  cases settles with
  | waits hears awaits armed scheduled nonneg reaches pushed =>
    have going : next ≠ .concluded := by
      rintro rfl
      cases awaits
    rw [if_neg going,pushed,hears.same]
    rfl
  | assesses hears assessing lasts pushed =>
    have going : next ≠ .concluded := by
      rintro rfl
      cases assessing
    rw [if_neg going,pushed,hears.same]
    rfl
  | concludes hears concluded told =>
    rw [if_pos concluded,told,hears.same]
    rfl

/-- With room in the queue the engine finds there what it waits for. -/
theorem queued (settles : simulation.Settles rate reaction action next later)
    (arrives : reaction.engine.At next) (room : simulation.queue.size < EventQueue.capacity)
    (going : next ≠ .concluded) :
    ∃ entry ∈ later.queue.entries, later.engine.Heeds entry.event := by
  rw [settles.unchanged.1]
  cases settles with
  | @waits heard costs kind number delay due hears awaits armed scheduled nonneg reaches pushed =>
    have queue : heard.queue = simulation.queue := by rw [hears.same]
    rw [pushed]
    exact ⟨_,EventQueue.mem_push_new (queue ▸ room) due _,armed⟩
  | @assesses heard costs due hears assessing lasts pushed =>
    have queue : heard.requesting.queue = simulation.queue := by
      rw [hears.same]
      rfl
    rw [pushed]
    exact ⟨_,EventQueue.mem_push_new (queue ▸ room) due _,arrives.outstanding.trans assessing⟩
  | concludes hears concluded told => exact absurd concluded going

end Settles

theorem informed_verdicts (simulation : Simulation ρ) (event : Event) :
    (simulation.informed event).verdicts = simulation.verdicts := by
  cases event <;> rfl

namespace Attempting

theorem start {begun : Outcome ρ Unit} (rated : SymbolRate.of simulation.symbolsPerSecond = .ok rate)
    (room : simulation.queue.size < EventQueue.capacity) (started : simulation.start = .ok begun) :
    begun.result = .ok () ∧ begun.simulation.Attempting rate simulation.verdicts .backoffStart ∧
      begun.simulation.engine.policy = simulation.engine.policy := by
  obtain ⟨succeeds,reaction,_,arrives,policy,settles⟩ := start_settles rated started
  obtain ⟨engine,_,_,kept⟩ := settles.unchanged
  refine ⟨succeeds,⟨kept ▸ rated,engine ▸ arrives,by simp,?room,?queued,?undecided,nofun⟩,?policy⟩
  case room => exact Nat.le_trans settles.size_le room
  case queued => exact settles.queued arrives room
  case undecided =>
    intro going
    rw [settles.verdicts,if_neg going]
    rfl
  case policy => rw [engine,policy]

theorem drained (attempting : simulation.Attempting rate seen stage)
    (empty : simulation.queue.entries = []) : stage = .concluded := by
  apply Decidable.of_not_not
  intro going
  obtain ⟨entry,member,_⟩ := attempting.queued going
  rw [empty] at member
  cases member

theorem stopped (attempting : simulation.Attempting rate seen .concluded) :
    simulation.engine.running = false := by
  have running := attempting.inside.running
  simpa using running

variable [WordSource ρ]

theorem step {outcome : Outcome ρ Bool} (attempting : simulation.Attempting rate seen stage)
    (busy : simulation.queue.entries ≠ []) (stepped : simulation.step = .ok outcome) :
    outcome.result = .ok true ∧ ∃ next, outcome.simulation.Attempting rate seen next ∧
      outcome.simulation.eventsLeft next < simulation.eventsLeft stage := by
  have room := attempting.room
  cases step_cases attempting.rated attempting.inside stepped with
  | idle empty same => exact absurd empty busy
  | @ignored entry rest queued unheard result after =>
    have size := size_takes queued
    refine ⟨result,stage,?_⟩
    rw [after]
    refine ⟨⟨?rated,?inside,attempting.able,?room,?queued,?undecided,?decided⟩,?fewer⟩
    case rated =>
      rw [informed_symbolsPerSecond]
      exact attempting.rated
    case inside =>
      rw [informed_engine]
      exact attempting.inside
    case room =>
      rw [informed_queue]
      omega
    case queued =>
      intro going
      obtain ⟨live,member,heeds⟩ := attempting.queued going
      rw [queued] at member
      rw [informed_queue,informed_engine]
      rcases List.mem_cons.mp member with rfl | member
      · exact absurd unheard (accepts_of_heeds heeds)
      · exact ⟨live,member,heeds⟩
    case undecided =>
      rw [informed_verdicts]
      exact attempting.undecided
    case decided =>
      rw [informed_verdicts]
      exact attempting.decided
    case fewer =>
      rw [eventsLeft,eventsLeft,informed_queue,informed_engine]
      exact Nat.add_lt_add_right (by omega) _
  | @advanced entry rest action next reaction queued accepted reacts advances result settles =>
    have size := size_takes queued
    have grows := settles.size_le
    have fewer := advances.fewer attempting.inside
    obtain ⟨engine,_,_,kept⟩ := settles.unchanged
    rw [informed_symbolsPerSecond] at kept
    rw [informed_queue] at grows
    have verdicts := settles.verdicts
    rw [informed_verdicts,show (simulation.takes entry rest).verdicts = simulation.verdicts from rfl,
      attempting.undecided advances.follows.going] at verdicts
    refine ⟨result,next,⟨kept ▸ attempting.rated,engine ▸ advances.arrives,?able,by omega,?queued,
      ?undecided,?decided⟩,?fewer⟩
    case able =>
      have rated : SymbolRate.of (simulation.takes entry rest).symbolsPerSecond = .ok rate :=
        attempting.rated
      have inside : (simulation.takes entry rest).engine.At stage := attempting.inside
      exact advances.able (delivery_served rated inside accepted reacts)
    case queued =>
      apply settles.queued advances.arrives
      rw [informed_queue]
      omega
    case undecided =>
      intro going
      rw [verdicts,if_neg going]
    case decided =>
      intro concluded
      rw [verdicts,if_pos concluded]
      exact ⟨_,rfl⟩
    case fewer =>
      rw [eventsLeft,eventsLeft,engine]
      omega

end Attempting

section

variable [WordSource ρ] {finished : Simulation ρ → Option Verdict} {bound : Nat}

theorem runUntil_finished {verdict : Verdict} (given : finished simulation = some verdict) :
    runUntil finished bound simulation = .ok { simulation, result := .ok (.verdict verdict) } := by
  rw [Simulation.runUntil.eq_def]
  simp only [given]

theorem runUntil_empty (unfinished : finished simulation = none)
    (empty : simulation.queue.entries = []) :
    runUntil finished bound simulation = .ok { simulation, result := .ok .idle } := by
  rw [Simulation.runUntil.eq_def]
  simp only [unfinished]
  cases bound with
  | zero => simp [EventQueue.size,empty]
  | succ bound => simp [Simulation.step,EventQueue.pop?,empty,bind,Except.bind,pure,Except.pure]

theorem runUntil_processed {stepped : Outcome ρ Bool} (unfinished : finished simulation = none)
    (steps : simulation.step = .ok stepped) (processed : stepped.result = .ok true) :
    runUntil finished (bound + 1) simulation =
      (runUntil finished bound stepped.simulation).map fun rest =>
        { rest with notes := stepped.notes ++ rest.notes } := by
  obtain ⟨later,notes,result⟩ := stepped
  cases processed
  rw [Simulation.runUntil.eq_def]
  simp only [unfinished,steps,bind,Except.bind]
  cases runUntil finished bound later <;> rfl

theorem runUntil_steps {outcome : Outcome ρ Ending} (unfinished : finished simulation = none)
    (ran : runUntil finished (bound + 1) simulation = .ok outcome) :
    ∃ stepped, simulation.step = .ok stepped := by
  rw [Simulation.runUntil.eq_def] at ran
  simp only [unfinished] at ran
  obtain ⟨stepped,steps,_⟩ := except_bind_eq_ok.mp ran
  exact ⟨stepped,steps⟩

end

namespace Attempting

variable [WordSource ρ]

/-- Every event that is queued is processed, and those that follow, and then there is a verdict. -/
theorem drains {bound : Nat} {outcome : Outcome ρ Ending}
    (attempting : simulation.Attempting rate seen stage)
    (enough : simulation.eventsLeft stage ≤ bound)
    (ran : runUntil (fun _ => none) bound simulation = .ok outcome) :
    outcome.result = .ok .idle ∧ outcome.simulation.queue.entries = [] ∧
      outcome.simulation.Attempting rate seen .concluded ∧
      ∃ count ≤ simulation.eventsLeft stage, simulation.Processes count outcome.simulation := by
  -- On the bound. An event that the engine ignores takes one away and adds none; one that it acts on
  -- may add one, but brings the verdict nearer.
  induction bound generalizing simulation stage outcome with
  | zero =>
    have empty := drained_of_eventsLeft enough
    rw [runUntil_empty rfl empty] at ran
    cases ran
    exact ⟨rfl,empty,attempting.drained empty ▸ attempting,0,Nat.zero_le _,.none simulation⟩
  | succ bound ih =>
    by_cases empty : simulation.queue.entries = []
    · rw [runUntil_empty rfl empty] at ran
      cases ran
      exact ⟨rfl,empty,attempting.drained empty ▸ attempting,0,Nat.zero_le _,.none simulation⟩
    · obtain ⟨stepped,steps⟩ := runUntil_steps rfl ran
      obtain ⟨processed,next,goesOn,fewer⟩ := attempting.step empty steps
      rw [runUntil_processed rfl steps processed] at ran
      obtain ⟨rest,ran',rfl⟩ := except_map_eq_ok.mp ran
      obtain ⟨idle,drained,concluded,count,few,processes⟩ := ih goesOn (by omega) ran'
      exact ⟨idle,drained,concluded,count + 1,by omega,.next steps processed processes⟩

theorem stops (attempting : simulation.Attempting rate seen .concluded) (bound : Nat) :
    ∃ verdict, simulation.verdicts = seen.push verdict ∧
      runUntil (verdictAfter seen.size) bound simulation =
        .ok { simulation, result := .ok (.verdict verdict) } := by
  obtain ⟨verdict,given⟩ := attempting.decided rfl
  refine ⟨verdict,given,runUntil_finished ?_⟩
  have more : simulation.verdicts.size ≠ seen.size := by simp [given]
  rw [verdictAfter,if_neg more,given]
  exact Array.back?_push

theorem decides {bound : Nat} {outcome : Outcome ρ Ending}
    (attempting : simulation.Attempting rate seen stage)
    (enough : simulation.eventsLeft stage ≤ bound)
    (ran : runUntil (verdictAfter seen.size) bound simulation = .ok outcome) :
    ∃ verdict, outcome.result = .ok (.verdict verdict) ∧
      outcome.simulation.verdicts = seen.push verdict ∧ outcome.simulation.engine.running = false := by
  induction bound generalizing simulation stage outcome with
  | zero =>
    obtain rfl := attempting.drained (drained_of_eventsLeft enough)
    obtain ⟨verdict,given,stops⟩ := attempting.stops 0
    cases stops.symm.trans ran
    exact ⟨verdict,rfl,given,attempting.stopped⟩
  | succ bound ih =>
    by_cases concluded : stage = .concluded
    · subst concluded
      obtain ⟨verdict,given,stops⟩ := attempting.stops (bound + 1)
      cases stops.symm.trans ran
      exact ⟨verdict,rfl,given,attempting.stopped⟩
    · have unfinished : verdictAfter seen.size simulation = none :=
        if_pos (congrArg Array.size (attempting.undecided concluded))
      obtain ⟨stepped,steps⟩ := runUntil_steps unfinished ran
      obtain ⟨processed,next,goesOn,fewer⟩ :=
        attempting.step (fun empty => concluded (attempting.drained empty)) steps
      rw [runUntil_processed unfinished steps processed] at ran
      obtain ⟨rest,ran',rfl⟩ := except_map_eq_ok.mp ran
      obtain ⟨verdict,result,given,stopped⟩ := ih goesOn (by omega) ran'
      exact ⟨verdict,result,given,stopped⟩

end Attempting

/-- Nothing but the clock, the channel and the queue is touched. -/
structure Spares (simulation later : Simulation ρ) : Prop where
  engine : later.engine = simulation.engine
  verdicts : later.verdicts = simulation.verdicts
  requests : later.ccaRequests = simulation.ccaRequests
  instants : later.ccaInstants = simulation.ccaInstants

theorem spares_informed (simulation : Simulation ρ) (entry : QueueEntry) (rest : List QueueEntry) :
    simulation.Spares ((simulation.takes entry rest).informed entry.event) where
  engine := informed_engine _ _
  verdicts := informed_verdicts _ _
  requests := informed_ccaRequests _ _
  instants := informed_ccaInstants _ _

theorem Spares.trans {middle : Simulation ρ} (spares : simulation.Spares middle)
    (goesOn : middle.Spares later) : simulation.Spares later where
  engine := goesOn.engine.trans spares.engine
  verdicts := goesOn.verdicts.trans spares.verdicts
  requests := goesOn.requests.trans spares.requests
  instants := goesOn.instants.trans spares.instants

section

variable [WordSource ρ]

/-- An engine that waits for nothing lets the next event pass. -/
theorem step_unheeded {entry : QueueEntry} {rest : List QueueEntry}
    (inside : simulation.engine.At .concluded) (queued : simulation.queue.entries = entry :: rest) :
    ∃ notes, simulation.step = .ok {
      simulation := (simulation.takes entry rest).informed entry.event
      notes
      result := .ok true } := by
  obtain ⟨reaction,reacts,same,silent,succeeds⟩ :
      ∃ reaction, (simulation.takes entry rest).reaction entry.event = .ok reaction ∧
        reaction.engine = simulation.engine ∧ reaction.calls = [] ∧ reaction.result = .ok () := by
    have inside : (simulation.takes entry rest).engine.At .concluded := inside
    have unheeded := inside.heeds_nothing entry.event
    cases event : entry.event with
    | timer timer =>
      rw [event] at unheeded
      exact ⟨_,Engine.fire_stale _ unheeded,rfl,rfl,rfl⟩
    | assessmentDone =>
      refine ⟨_,rfl,?_⟩
      rw [Engine.confirm_unexpected _ inside.outstanding]
      exact ⟨rfl,rfl,rfl⟩
  have handled : (simulation.takes entry rest).handle entry.event = .ok {
      simulation := (simulation.takes entry rest).informed entry.event
      notes := reaction.notes
      result := .ok () } := by
    rw [handle_eq,reacts]
    refine (settle_silent succeeds silent).trans ?_
    rw [same]
    cases entry.event <;> rfl
  refine ⟨reaction.notes,?_⟩
  simp only [step,EventQueue.pop?,queued]
  change ((simulation.takes entry rest).handle entry.event >>= _) = _
  rw [handled]
  rfl

theorem drains_unheeded {bound : Nat} (inside : simulation.engine.At .concluded)
    (enough : simulation.queue.size ≤ bound) :
    ∃ outcome, runUntil (fun _ => none) bound simulation = .ok outcome ∧
      outcome.result = .ok .idle ∧ outcome.simulation.queue.entries = [] ∧
      simulation.Processes simulation.queue.size outcome.simulation ∧
      simulation.Spares outcome.simulation := by
  induction queued : simulation.queue.entries generalizing simulation bound with
  | nil =>
    have size : simulation.queue.size = 0 := by simp [EventQueue.size,queued]
    refine ⟨_,runUntil_empty rfl queued,rfl,queued,?_,rfl,rfl,rfl,rfl⟩
    rw [size]
    exact .none simulation
  | cons entry rest ih =>
    have size := size_takes queued
    obtain ⟨less,rfl⟩ : ∃ less, bound = less + 1 := Nat.exists_eq_add_of_le' (by omega)
    obtain ⟨notes,steps⟩ := step_unheeded inside queued
    have inside' : ((simulation.takes entry rest).informed entry.event).engine.At .concluded := by
      rw [informed_engine]
      exact inside
    have room : ((simulation.takes entry rest).informed entry.event).queue.size ≤ less := by
      rw [informed_queue]
      omega
    have left : ((simulation.takes entry rest).informed entry.event).queue.entries = rest := by
      rw [informed_queue]
      rfl
    obtain ⟨outcome,ran,idle,drained,processes,spares⟩ := ih inside' room left
    refine ⟨_,(runUntil_processed rfl steps rfl).trans (congrArg _ ran),idle,drained,?_,
      (spares_informed simulation entry rest).trans spares⟩
    rw [informed_queue] at processes
    rw [← size]
    exact .next steps rfl processes

end

end Simulation

variable [WordSource ρ]

/-- Whatever is queued, as long as one more event has room, a started attempt ends with one verdict:
the run up to it finds it, and the run to completion empties the queue in at most six events for each
round besides those that were queued. Without an attempt the queued events come to nothing. -/
theorem attempt_concludes {policy : Policy} {words : ρ} {first : Engine ρ} {deeds : List (Deed ρ)}
    {simulation : Simulation ρ} (made : Engine.new policy words = .ok first)
    (run : Run first deeds simulation.engine) :
    (∀ begun, simulation.symbolsPerSecond ≠ 0 → simulation.queue.size ≤ 31 →
      simulation.start = .ok begun → begun.result = .ok () ∧
      (∀ outcome, begun.simulation.runUntilVerdict = .ok outcome →
        ∃ verdict, outcome.result = .ok (.verdict verdict) ∧
          outcome.simulation.verdicts = simulation.verdicts.push verdict ∧
          outcome.simulation.engine.running = false) ∧
      ∀ outcome, begun.simulation.runToCompletion = .ok outcome →
        outcome.result = .ok .idle ∧ outcome.simulation.queue.entries = [] ∧
        (∃ verdict, outcome.simulation.verdicts = simulation.verdicts.push verdict) ∧
        outcome.simulation.engine.running = false ∧
        ∃ count, begun.simulation.Processes count outcome.simulation ∧
          count ≤ begun.simulation.queue.size +
            6 * (simulation.engine.policy.maxBackoffs.toNat + 1)) ∧
    (simulation.engine.running = false →
      ∃ outcome, simulation.runToCompletion = .ok outcome ∧ outcome.result = .ok .idle ∧
        outcome.simulation.queue.entries = [] ∧
        simulation.Processes simulation.queue.size outcome.simulation ∧
        simulation.Spares outcome.simulation) := by
  obtain ⟨_,stage,tracks⟩ := Engine.Tracks.run made run
  constructor
  · intro begun nonzero room started
    obtain ⟨rate,rated⟩ : ∃ rate, SymbolRate.of simulation.symbolsPerSecond = .ok rate := by
      rcases SymbolRate.of_cases simulation.symbolsPerSecond with refused | rated
      · exact absurd (SymbolRate.of_eq_error_iff.mp refused).1 nonzero
      · exact rated
    obtain ⟨succeeds,attempting,policy⟩ :=
      Simulation.Attempting.start rated (Nat.lt_succ_of_le room) started
    have enough := begun.simulation.eventsLeft_le
    refine ⟨succeeds,?_,?_⟩
    · intro outcome ran
      apply attempting.decides enough
      rw [← attempting.undecided (by simp)]
      exact ran
    · intro outcome ran
      obtain ⟨idle,drained,concluded,count,few,processes⟩ := attempting.drains enough ran
      refine ⟨idle,drained,concluded.decided rfl,concluded.stopped,count,processes,?_⟩
      rw [← policy]
      exact Nat.le_trans few enough
  · intro idle
    have inside := tracks.inside
    obtain rfl := inside.concluded_of_idle idle
    exact Simulation.drains_unheeded inside (Nat.le_add_right _ _)

/-- The end of a cancelled assessment is queued. On its own it comes to nothing, and it does not keep
the next attempt from its verdict, at which the one run stops and the other goes on. -/
theorem attempt_concludes_cancelled :
    ∃ (cancelled : Simulation WordScript) (moves : List (Move WordScript))
        (begun : Outcome WordScript Unit)
        (decided ended rested : Outcome WordScript Simulation.Ending),
      History Simulation.restless moves cancelled ∧ cancelled.queue.size = 1 ∧
        cancelled.start = .ok begun ∧ begun.simulation.runUntilVerdict = .ok decided ∧
        (∃ verdict, decided.result = .ok (.verdict verdict) ∧
          decided.simulation.verdicts = #[verdict] ∧ decided.simulation.engine.running = false) ∧
        begun.simulation.runToCompletion = .ok ended ∧
        (∃ verdict, ended.simulation.verdicts = #[verdict]) ∧
        cancelled.runToCompletion = .ok rested ∧ rested.simulation.verdicts = #[] ∧
        cancelled.Processes 1 rested.simulation := by
  obtain ⟨cancelled,moves,deeds,begun,decided,ended,history,run,rated,size,idle,silent,starts,decides,
      ran⟩ :
      ∃ (cancelled : Simulation WordScript) (moves : List (Move WordScript))
          (deeds : List (Deed WordScript)) (begun : Outcome WordScript Unit)
          (decided ended : Outcome WordScript Simulation.Ending),
        History Simulation.restless moves cancelled ∧
          Run Simulation.restless.engine deeds cancelled.engine ∧ cancelled.symbolsPerSecond ≠ 0 ∧
          cancelled.queue.size = 1 ∧ cancelled.engine.running = false ∧ cancelled.verdicts = #[] ∧
          cancelled.start = .ok begun ∧ begun.simulation.runUntilVerdict = .ok decided ∧
          begun.simulation.runToCompletion = .ok ended :=
    ⟨_,_,_,_,_,_,
      .next (.next (.next (.next .begin (rfl : Simulation.perform _ .start = _))
        (rfl : Simulation.perform _ .step = _)) (rfl : Simulation.perform _ .step = _))
        (rfl : Simulation.perform _ .cancel = _),
      .step (.step (.step (.step .start
        (rfl : Engine.perform _ (.start (.plain 62500)) = _))
        (rfl : Engine.perform _ (.fire ⟨.backoffStart,0⟩ (.plain 62500)) = _))
        (rfl : Engine.perform _ (.fire ⟨.ccaRequest,1⟩ (.plain 62500)) = _))
        (rfl : Engine.perform _ .cancel = _),
      by decide,rfl,rfl,rfl,rfl,rfl,rfl⟩
  have made : Engine.new { maxBackoffs := 0 } (⟨[]⟩ : WordScript) = .ok Simulation.restless.engine := rfl
  obtain ⟨attempts,rests⟩ := attempt_concludes made run
  obtain ⟨_,ends,concludes⟩ := attempts begun rated (by omega) starts
  obtain ⟨decision,found,told,stopped⟩ := ends decided decides
  obtain ⟨_,_,⟨verdict,given⟩,_⟩ := concludes ended ran
  obtain ⟨rested,ran',_,_,processes,spares⟩ := rests idle
  rw [silent] at told given
  rw [size] at processes
  exact ⟨cancelled,moves,begun,decided,ended,rested,history,size,starts,decides,
    ⟨decision,found,told,stopped⟩,ran,⟨verdict,given⟩,ran',spares.verdicts.trans silent,processes⟩

end ChannelAccess
