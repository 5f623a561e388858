import ChannelAccess.Proofs.Engine.PendingAction
import ChannelAccess.Proofs.Simulation.Queue
import ChannelAccess.Proofs.Simulation.Settling

/-!
Histories of a simulation that is started, stepped, cancelled and moved on in time in any order, and
the requests for assessments in them. The end of an assessment does not tell which request it
answers: an engine takes the first one that comes while it waits for one.
-/

namespace ChannelAccess

inductive Command where
  | start
  | step
  | cancel
  | advanceTo (instant : Instant)
  deriving DecidableEq, Repr

def Simulation.perform {ρ : Type} [WordSource ρ] (simulation : Simulation ρ) :
    Command → Except Overflow (Simulation ρ)
  | .start => simulation.start.map Outcome.simulation
  | .step => simulation.step.map Outcome.simulation
  | .cancel => .ok simulation.cancel
  | .advanceTo instant => .ok (simulation.advanceTo instant)

structure Move (ρ : Type) where
  before : Simulation ρ
  command : Command
  after : Simulation ρ

/-- What was commanded one after the other, oldest first, and the simulation after it. -/
inductive History {ρ : Type} [WordSource ρ] (first : Simulation ρ) :
    List (Move ρ) → Simulation ρ → Prop
  | begin : History first [] first
  | next {moves : List (Move ρ)} {last after : Simulation ρ} {command : Command}
      (before : History first moves last) (performed : last.perform command = .ok after) :
      History first (moves ++ [⟨last,command,after⟩]) after

structure Request where
  /-- The number under which its end is queued. -/
  order : Nat
  instant : Instant
  /-- The end of an earlier assessment was still queued. -/
  crowded : Bool
  deriving DecidableEq, Repr

namespace Move

variable {ρ : Type}

def request? (move : Move ρ) : Option Request :=
  if move.after.ccaRequests = move.before.ccaRequests then none
  else some ⟨move.before.queue.nextOrder,move.after.clock,! move.before.queue.completions.isEmpty⟩

/-- The latest request of the current attempt after a move. -/
def track (latest : Option Request) (move : Move ρ) : Option Request :=
  match move.command with
  | .start => none
  | .step | .cancel | .advanceTo _ => move.request?.or latest

end Move

def lastRequest {ρ : Type} (moves : List (Move ρ)) : Option Request :=
  moves.foldl Move.track none

theorem lastRequest_append {ρ : Type} (moves : List (Move ρ)) (move : Move ρ) :
    lastRequest (moves ++ [move]) = move.track (lastRequest moves) := by
  simp [lastRequest]

namespace Simulation

variable {ρ : Type} {simulation later : Simulation ρ} {rate : SymbolRate} {latest : Option Request}

/-- What is queued of assessments while the engine waits for the one requested last. -/
def Answers (simulation : Simulation ρ) (rate : SymbolRate) : Option Request → Prop
  | none => simulation.queue.completions = []
  | some request =>
      simulation.ccaInstants.getLast? = some request.instant ∧
      (request.crowded = false → ∀ entry ∈ simulation.queue.completions,
        entry.order = request.order ∧
          request.instant.us + (rate.spanOf assessmentSymbols).us = entry.due.us) ∧
      (request.crowded = true → ∃ entry ∈ simulation.queue.completions, entry.order < request.order)

/-- The queued assessments are accounted for. -/
structure Accounted (simulation : Simulation ρ) (rate : SymbolRate) (latest : Option Request) :
    Prop where
  rated : SymbolRate.of simulation.symbolsPerSecond = .ok rate
  staged : ∃ stage, simulation.engine.At stage
  timely : simulation.queue.Timely simulation.clock (rate.spanOf assessmentSymbols)
  answers : simulation.engine.ccaOutstanding = true → simulation.Answers rate latest

theorem Tells.ccaInstants {told : List TraceEvent} (tells : simulation.Tells later told) :
    later.ccaInstants = simulation.ccaInstants ++ told.filterMap TraceEvent.ccaInstant? := by
  rw [Simulation.ccaInstants,tells.trace,List.filterMap_append]
  rfl

theorem Answers.congr (answers : simulation.Answers rate latest)
    (instants : later.ccaInstants = simulation.ccaInstants)
    (queued : later.queue.completions = simulation.queue.completions) : later.Answers rate latest := by
  cases latest with
  | none => exact queued.trans answers
  | some request =>
    unfold Answers at answers ⊢
    rw [instants,queued]
    exact answers

theorem track_of_unrequested {command : Command} (fresh : command ≠ .start)
    (unrequested : later.ccaRequests = simulation.ccaRequests) :
    Move.track latest ⟨simulation,command,later⟩ = latest := by
  have none : Move.request? ⟨simulation,command,later⟩ = none := if_pos unrequested
  cases command with
  | start => exact absurd rfl fresh
  | step | cancel | advanceTo instant => simp [Move.track,none]

namespace Accounted

theorem cancel (accounted : simulation.Accounted rate latest) :
    simulation.cancel.Accounted rate latest where
  rated := accounted.rated
  staged := ⟨.concluded,Engine.cancel_at simulation.engine⟩
  timely := accounted.timely
  answers outstanding := by cases outstanding

theorem advanceTo (accounted : simulation.Accounted rate latest) (instant : Instant) :
    (simulation.advanceTo instant).Accounted rate latest where
  rated := accounted.rated
  staged := accounted.staged
  timely := accounted.timely.wait (Instant.le_later _ _)
  answers outstanding := (accounted.answers outstanding).congr rfl rfl

theorem start {outcome : Outcome ρ Unit} (accounted : simulation.Accounted rate latest)
    (started : simulation.start = .ok outcome) : outcome.simulation.Accounted rate none := by
  obtain ⟨_,reaction,_,arrives,_,settles⟩ := start_settles accounted.rated started
  obtain ⟨engine,clock,_,kept⟩ := settles.unchanged
  refine ⟨kept ▸ accounted.rated,⟨.backoffStart,engine ▸ arrives⟩,?timely,?answers⟩
  case timely =>
    rcases settles.queue_cases with ⟨due,timer,_,queue⟩ | ⟨_,assessing,_⟩ | ⟨concluded,_⟩
    · rw [queue,clock]
      exact accounted.timely.push_timer due timer
    · cases assessing
    · cases concluded
  case answers =>
    intro outstanding
    rw [engine,arrives.outstanding] at outstanding
    cases outstanding

theorem ignored {entry : QueueEntry} {rest : List QueueEntry}
    (accounted : simulation.Accounted rate latest)
    (queued : simulation.queue.entries = entry :: rest)
    (unheard : simulation.engine.accepts ((simulation.takes entry rest).delivery entry.event) = none) :
    ((simulation.takes entry rest).informed entry.event).Accounted rate latest := by
  refine ⟨?rated,?staged,?timely,?answers⟩
  case rated =>
    rw [informed_symbolsPerSecond]
    exact accounted.rated
  case staged =>
    rw [informed_engine]
    exact accounted.staged
  case timely =>
    rw [informed_queue,informed_clock]
    exact (accounted.timely.tail queued).wait (Instant.le_later _ _)
  case answers =>
    intro outstanding
    rw [informed_engine] at outstanding
    have timed : entry.event ≠ .assessmentDone := by
      intro completes
      have heard : simulation.engine.ccaOutstanding = true := outstanding
      simp [completes,delivery,Engine.accepts,heard] at unheard
    refine (accounted.answers outstanding).congr ?_ ?_
    · rw [informed_ccaInstants]
      rfl
    · rw [informed_queue]
      exact EventQueue.completions_tail queued timed

theorem requested {entry : QueueEntry} {rest : List QueueEntry} {reaction : Reaction ρ}
    {stage next : Stage} {action : Action} (accounted : simulation.Accounted rate latest)
    (queued : simulation.queue.entries = entry :: rest)
    (accepted : simulation.engine.accepts ((simulation.takes entry rest).delivery entry.event) =
      some action)
    (advances : Engine.Advances simulation.engine stage action reaction next)
    (settles : ((simulation.takes entry rest).informed entry.event).Settles rate reaction action next
      later)
    (assessing : next.assessing = true) :
    later.Answers rate (Move.track latest ⟨simulation,.step,later⟩) := by
  obtain ⟨idles,rfl⟩ : ∃ idles, next = .assessment idles := by
    cases next <;> first | exact ⟨_,rfl⟩ | cases assessing
  have follows := advances.follows
  obtain ⟨costs,tells⟩ := settles.tells (informed_synced (simulation.takes_synced entry rest))
  rw [informed_closingEvents,closingEvents,if_pos assessing,informed_clock] at tells
  have timed : entry.event ≠ .assessmentDone := by
    intro completes
    cases follows with
    | requested => simp [completes,delivery,Engine.accepts] at accepted
  have before : simulation.queue.completions =
      ((simulation.takes entry rest).informed entry.event).queue.completions := by
    rw [informed_queue]
    exact (EventQueue.completions_tail queued timed).symm
  have counts : later.ccaRequests = simulation.ccaRequests + 1 := by
    have counts := tells.requests
    rw [informed_ccaRequests,List.filterMap_append,costs_request_nothing] at counts
    exact counts
  have clock : later.clock = (simulation.takes entry rest).clock := by
    rw [settles.unchanged.2.1,informed_clock]
  have noted : Move.track latest ⟨simulation,.step,later⟩ =
      some ⟨simulation.queue.nextOrder,later.clock,! simulation.queue.completions.isEmpty⟩ := by
    simp [Move.track,Move.request?,counts]
  obtain ⟨due,lasts,queue⟩ : ∃ due,
      (simulation.takes entry rest).clock.plus (rate.spanOf assessmentSymbols) = .ok due ∧
      later.queue = ((simulation.takes entry rest).queue.push due .assessmentDone).2 := by
    rcases settles.queue_cases with ⟨_,_,timed,_⟩ | ⟨due,_,lasts,queue⟩ | ⟨concluded,_⟩
    · exact absurd rfl timed
    · rw [informed_clock] at lasts
      rw [informed_queue] at queue
      exact ⟨due,lasts,queue⟩
    · cases concluded
  rw [noted]
  refine ⟨?instant,?alone,?behind⟩
  case instant =>
    rw [tells.ccaInstants,List.filterMap_append,costs_request_nothing,clock]
    simp [TraceEvent.ccaInstant?]
  case alone =>
    intro uncrowded other member
    have none : simulation.queue.completions = [] := by simpa using uncrowded
    rw [queue] at member
    rcases EventQueue.mem_completions_push.mp member with member | ⟨_,rfl⟩
    · rw [informed_queue] at before
      rw [← before,none] at member
      cases member
    · refine ⟨rfl,?_⟩
      rw [clock]
      exact (Instant.plus_eq_ok.mp lasts).2
  case behind =>
    intro crowded
    obtain ⟨other,member⟩ : ∃ other, other ∈ simulation.queue.completions :=
      List.exists_mem_of_ne_nil _ (by simpa using crowded)
    refine ⟨other,?_,accounted.timely.ordered.numbered other (EventQueue.mem_completions.mp member).1⟩
    rw [informed_queue] at before
    rw [queue,EventQueue.mem_completions_push]
    exact .inl (before ▸ member)

theorem step [WordSource ρ] {outcome : Outcome ρ Bool} (accounted : simulation.Accounted rate latest)
    (stepped : simulation.step = .ok outcome) :
    outcome.simulation.Accounted rate (Move.track latest ⟨simulation,.step,outcome.simulation⟩) := by
  obtain ⟨stage,inside⟩ := accounted.staged
  cases step_cases accounted.rated inside stepped with
  | idle empty same =>
    subst same
    rw [track_of_unrequested (by simp) rfl]
    exact accounted
  | @ignored entry rest queued unheard result after =>
    have unrequested : outcome.simulation.ccaRequests = simulation.ccaRequests := by
      rw [after,informed_ccaRequests]
      rfl
    rw [track_of_unrequested (by simp) unrequested,after]
    exact accounted.ignored queued unheard
  | @advanced entry rest action next reaction queued accepted reacts advances result settles =>
    obtain ⟨engine,clock,_,kept⟩ := settles.unchanged
    rw [informed_symbolsPerSecond] at kept
    have timely : ((simulation.takes entry rest).informed entry.event).queue.Timely
        ((simulation.takes entry rest).informed entry.event).clock
        (rate.spanOf assessmentSymbols) := by
      rw [informed_queue,informed_clock]
      exact (accounted.timely.tail queued).wait (Instant.le_later _ _)
    have arrives : outcome.simulation.engine.At next := engine ▸ advances.arrives
    refine ⟨kept ▸ accounted.rated,⟨next,arrives⟩,?timely,?answers⟩
    case timely =>
      rw [clock]
      rcases settles.queue_cases with ⟨due,timer,_,queue⟩ | ⟨due,_,lasts,queue⟩ | ⟨_,queue⟩
      · rw [queue]
        exact timely.push_timer due timer
      · rw [queue]
        exact timely.push (Instant.plus_eq_ok.mp lasts).2
      · rw [queue]
        exact timely
    case answers =>
      intro outstanding
      have assessing := arrives.outstanding.symm.trans outstanding
      exact accounted.requested queued accepted advances settles assessing

theorem perform [WordSource ρ] {command : Command} (accounted : simulation.Accounted rate latest)
    (performed : simulation.perform command = .ok later) :
    later.Accounted rate (Move.track latest ⟨simulation,command,later⟩) := by
  cases command with
  | start =>
    obtain ⟨outcome,started,rfl⟩ := except_map_eq_ok.mp performed
    exact accounted.start started
  | step =>
    obtain ⟨outcome,stepped,rfl⟩ := except_map_eq_ok.mp performed
    exact accounted.step stepped
  | cancel =>
    cases performed
    have unrequested : simulation.cancel.ccaRequests = simulation.ccaRequests := rfl
    rw [track_of_unrequested (by simp) unrequested]
    exact accounted.cancel
  | advanceTo instant =>
    cases performed
    have unrequested : (simulation.advanceTo instant).ccaRequests = simulation.ccaRequests := rfl
    rw [track_of_unrequested (by simp) unrequested]
    exact accounted.advanceTo instant

theorem history [WordSource ρ] {moves : List (Move ρ)} (accounted : simulation.Accounted rate none)
    (history : History simulation moves later) : later.Accounted rate (lastRequest moves) := by
  induction history with
  | begin => exact accounted
  | next before performed ih =>
    rw [lastRequest_append]
    exact ih.perform performed

/-- The simulation has nothing queued and its engine is new or has been in use. -/
theorem fresh {stage : Stage} (rated : SymbolRate.of simulation.symbolsPerSecond = .ok rate)
    (inside : simulation.engine.At stage) (empty : simulation.queue.entries = []) :
    simulation.Accounted rate none := by
  have none : simulation.queue.completions = [] := by simp [EventQueue.completions,empty]
  refine ⟨rated,⟨stage,inside⟩,⟨⟨?_,?_⟩,?_,?_⟩,fun _ => none⟩
  · simp [empty]
  · simp [empty]
  · simp [none]
  · simp [none]

end Accounted

theorem step_completion [WordSource ρ] {outcome : Outcome ρ Bool} {stage : Stage} {entry : QueueEntry}
    {rest : List QueueEntry} (rated : SymbolRate.of simulation.symbolsPerSecond = .ok rate)
    (inside : simulation.engine.At stage) (queued : simulation.queue.entries = entry :: rest)
    (completes : entry.event = .assessmentDone) (stepped : simulation.step = .ok outcome) :
    outcome.simulation.clock = simulation.clock.later entry.due ∧
      (simulation.engine.ccaOutstanding = false → outcome.simulation.engine = simulation.engine) := by
  refine ⟨step_clock rated inside queued stepped,?_⟩
  intro quiet
  cases step_cases rated inside stepped with
  | idle empty same => simp [queued] at empty
  | ignored queued' unheard result after =>
    cases queued.symm.trans queued'
    rw [after,informed_engine]
    rfl
  | advanced queued' accepted reacts advances result settles =>
    cases queued.symm.trans queued'
    simp [completes,delivery,Engine.accepts,takes,Simulation.advanceTo,quiet] at accepted

end Simulation

/-- In every history of starts, steps, cancellations and advances, the end of an assessment is
ignored while the engine waits for none. While it waits for one, it takes the end of the assessment
that the current attempt requested last exactly if no end of an earlier one was queued at the
request, and then it comes no sooner than an assessment after the request. -/
theorem completion_answers_last_request {ρ : Type} [WordSource ρ] {policy : Policy} {words : ρ}
    {engine : Engine ρ} {deeds : List (Deed ρ)} {first last : Simulation ρ} {rate : SymbolRate}
    {moves : List (Move ρ)} {entry : QueueEntry} {rest : List QueueEntry} {outcome : Outcome ρ Bool}
    (made : Engine.new policy words = .ok engine) (run : Run engine deeds first.engine)
    (rated : SymbolRate.of first.symbolsPerSecond = .ok rate) (empty : first.queue.entries = [])
    (history : History first moves last) (queued : last.queue.entries = entry :: rest)
    (completes : entry.event = .assessmentDone) (stepped : last.step = .ok outcome) :
    (last.engine.ccaOutstanding = false → outcome.simulation.engine = last.engine) ∧
    (last.engine.ccaOutstanding = true → ∃ request, lastRequest moves = some request ∧
      last.ccaInstants.getLast? = some request.instant ∧
      (entry.order = request.order ↔ request.crowded = false) ∧
      (request.crowded = false → request.instant.us + (rate.spanOf assessmentSymbols).us ≤
        outcome.simulation.clock.us)) := by
  obtain ⟨_,stage,tracks⟩ := Engine.Tracks.run made run
  have accounted := (Simulation.Accounted.fresh rated tracks.inside empty).history history
  obtain ⟨stage,inside⟩ := accounted.staged
  obtain ⟨clock,ignores⟩ :=
    Simulation.step_completion accounted.rated inside queued completes stepped
  have member : entry ∈ last.queue.completions :=
    EventQueue.mem_completions.mpr ⟨queued ▸ List.mem_cons_self,completes⟩
  refine ⟨ignores,?_⟩
  intro outstanding
  have answers := accounted.answers outstanding
  cases latest : lastRequest moves with
  | none =>
    rw [latest] at answers
    rw [show last.queue.completions = [] from answers] at member
    cases member
  | some request =>
    rw [latest] at answers
    obtain ⟨instant,alone,behind⟩ := answers
    refine ⟨request,rfl,instant,⟨?_,?_⟩,?_⟩
    · intro own
      cases crowded : request.crowded with
      | false => rfl
      | true =>
        obtain ⟨other,earlier,older⟩ := behind crowded
        have oldest := accounted.timely.oldest queued completes earlier
        omega
    · intro uncrowded
      exact (alone uncrowded entry member).1
    · intro uncrowded
      have lasts := (alone uncrowded entry member).2
      have reached : entry.due.us ≤ outcome.simulation.clock.us := by
        rw [clock]
        exact Instant.later_ge last.clock entry.due
      omega

/-- An unslotted attempt without backoffs on a channel that is idle once and then busy. -/
def Simulation.restless : Simulation WordScript where
  engine := {
    policy := { maxBackoffs := 0 }
    words := ⟨[]⟩
    progress := ⟨3,0,2,0,.outgoing⟩
    timers := {}
    ccaOutstanding := false
    carriedPeriods := 0
    running := false }
  layer := (Surroundings.plain 62500).layer
  symbolsPerSecond := 62500
  channel := .scripted [.idle,.busy]

/-- The end of a cancelled assessment comes before the next attempt starts, and the attempt is then
answered by its own: it fails on the busy channel. -/
theorem completion_answers_last_request_alone :
    ∃ (last : Simulation WordScript) (moves : List (Move WordScript)) (request : Request)
        (entry : QueueEntry) (outcome : Outcome WordScript Bool),
      History Simulation.restless moves last ∧ last.queue.entries = [entry] ∧
        lastRequest moves = some request ∧ entry.order = request.order ∧
        last.step = .ok outcome ∧ outcome.simulation.verdicts = #[.accessFailure] ∧
        request.instant.us + 128 ≤ outcome.simulation.clock.us := by
  obtain ⟨last,moves,entry,outcome,history,queued,completes,outstanding,requested,stepped,given⟩ :
      ∃ (last : Simulation WordScript) (moves : List (Move WordScript)) (entry : QueueEntry)
          (outcome : Outcome WordScript Bool),
        History Simulation.restless moves last ∧ last.queue.entries = [entry] ∧
          entry.event = .assessmentDone ∧ last.engine.ccaOutstanding = true ∧
          lastRequest moves = some ⟨5,⟨128⟩,false⟩ ∧ last.step = .ok outcome ∧
          outcome.simulation.verdicts = #[.accessFailure] :=
    ⟨_,_,_,_,
      .next (.next (.next (.next (.next (.next (.next (.next .begin
        (rfl : Simulation.perform _ .start = _)) (rfl : Simulation.perform _ .step = _))
        (rfl : Simulation.perform _ .step = _)) (rfl : Simulation.perform _ .cancel = _))
        (rfl : Simulation.perform _ .step = _)) (rfl : Simulation.perform _ .start = _))
        (rfl : Simulation.perform _ .step = _)) (rfl : Simulation.perform _ .step = _),
      rfl,rfl,rfl,rfl,rfl,rfl⟩
  have made : Engine.new { maxBackoffs := 0 } (⟨[]⟩ : WordScript) = .ok Simulation.restless.engine := rfl
  have rated : SymbolRate.of Simulation.restless.symbolsPerSecond = .ok (.ofPhy .oqpsk2450) := rfl
  obtain ⟨_,answers⟩ :=
    completion_answers_last_request made .start rated rfl history queued completes stepped
  obtain ⟨request,latest,_,own,late⟩ := answers outstanding
  cases requested.symm.trans latest
  have lasts : ((SymbolRate.ofPhy .oqpsk2450).spanOf assessmentSymbols).us = 128 := by decide
  rw [lasts] at late
  exact ⟨last,moves,_,entry,outcome,history,queued,requested,own.mpr rfl,stepped,given,late rfl⟩

/-- The end of a cancelled assessment that is still queued answers the request of the next attempt:
the channel is granted 28 microseconds after the request, and the busy assessment that was requested
is never heard. -/
theorem completion_answers_earlier_request :
    ∃ (last : Simulation WordScript) (moves : List (Move WordScript)) (request : Request)
        (entry other : QueueEntry) (outcome : Outcome WordScript Bool),
      History Simulation.restless moves last ∧ last.queue.entries = [entry,other] ∧
        entry.event = .assessmentDone ∧ last.engine.ccaOutstanding = true ∧
        lastRequest moves = some request ∧ entry.order ≠ request.order ∧
        last.step = .ok outcome ∧ outcome.simulation.verdicts = #[.channelIdle] ∧
        outcome.simulation.clock.us = request.instant.us + 28 ∧
        outcome.simulation.clock.us <
          request.instant.us + ((SymbolRate.ofPhy .oqpsk2450).spanOf assessmentSymbols).us :=
  ⟨_,_,⟨5,⟨100⟩,true⟩,_,_,_,
    .next (.next (.next (.next (.next (.next (.next (.next .begin
      (rfl : Simulation.perform _ .start = _)) (rfl : Simulation.perform _ .step = _))
      (rfl : Simulation.perform _ .step = _)) (rfl : Simulation.perform _ .cancel = _))
      (rfl : Simulation.perform _ (.advanceTo ⟨100⟩) = _)) (rfl : Simulation.perform _ .start = _))
      (rfl : Simulation.perform _ .step = _)) (rfl : Simulation.perform _ .step = _),
    rfl,rfl,rfl,rfl,by decide,rfl,rfl,rfl,by decide⟩

end ChannelAccess
