import ChannelAccess.Proofs.Engine.Runs
import ChannelAccess.Proofs.Simulation.Calls

/-!
A step of a simulation whose queue may hold events of earlier attempts. A step finds no event, or
an event that the engine ignores, or takes the engine to its next stage and answers its calls. Main
statements: `settle_settles` and `step_cases`.
-/

namespace ChannelAccess

def TraceEvent.verdict? (event : TraceEvent) : Option Verdict :=
  match event.occurrence with
  | .verdict verdict => some verdict
  | .started _ | .ccaRequested _ _ _ | .ccaResult _ | .cost _ => none

namespace Simulation

variable {ρ : Type} {simulation heard later : Simulation ρ}

/-- Costs were recorded, and nothing else changed. -/
structure Hears (simulation : Simulation ρ) (costs : List Nat) (heard : Simulation ρ) : Prop where
  same : heard = { simulation with trace := heard.trace, costs := heard.costs }
  trace : heard.trace.toList =
    simulation.trace.toList ++ costs.map fun symbols => ⟨simulation.layerClock,.cost symbols⟩
  costs : heard.costs.toList = simulation.costs.toList ++ costs

theorem Hears.refl (simulation : Simulation ρ) : simulation.Hears [] simulation where
  same := rfl
  trace := by simp
  costs := by simp

theorem Hears.cons {symbols : Nat} {costs : List Nat}
    (hears : ({ simulation with costs := simulation.costs.push symbols }.record
      (.cost symbols)).Hears costs heard) : simulation.Hears (symbols :: costs) heard where
  same := hears.same
  trace := by
    rw [hears.trace]
    simp [record]
  costs := by
    rw [hears.costs]
    simp [record]

theorem hearAll_quiet {calls : List Call} (quiet : ∀ call ∈ calls, call.isQuiet = true)
    (simulation : Simulation ρ) : ∃ heard, simulation.hearAll calls = .ok (heard,[]) ∧
      simulation.Hears (calls.filterMap Call.cost?) heard := by
  induction calls generalizing simulation with
  | nil => exact ⟨simulation,rfl,.refl simulation⟩
  | cons call calls ih =>
    have rest : ∀ call ∈ calls, call.isQuiet = true := by
      intro call member
      exact quiet call (List.mem_cons_of_mem _ member)
    have first := quiet call List.mem_cons_self
    cases call with
    | askAdvice exponent backoffs answer =>
      obtain ⟨heard,hearing,hears⟩ := ih rest simulation
      refine ⟨heard,?_,hears⟩
      simp [hearAll,hear,hearing,bind,Except.bind,pure,Except.pure]
    | cost symbols =>
      obtain ⟨heard,hearing,hears⟩ :=
        ih rest ({ simulation with costs := simulation.costs.push symbols }.record (.cost symbols))
      refine ⟨heard,?_,hears.cons⟩
      simp [hearAll,hear,hearing,bind,Except.bind,pure,Except.pure]
    | askSuperframe direction =>
      obtain ⟨heard,hearing,hears⟩ := ih rest simulation
      refine ⟨heard,?_,hears⟩
      simp [hearAll,hear,hearing,bind,Except.bind,pure,Except.pure]
    | schedule timer delay => simp [Call.isQuiet] at first
    | requestCca => simp [Call.isQuiet] at first
    | verdict verdict => simp [Call.isQuiet] at first

def requesting (simulation : Simulation ρ) : Simulation ρ :=
  { simulation with ccaRequests := simulation.ccaRequests + 1 }.record
    (.ccaRequested simulation.engine.progress.exponent simulation.engine.progress.backoffs
      simulation.engine.progress.window)

def hearing (simulation : Simulation ρ) (verdict : Verdict) : Simulation ρ :=
  { simulation with verdicts := simulation.verdicts.push verdict }.record (.verdict verdict)

/-- What a simulation makes of a reaction that takes its engine to a stage: it hears the costs, and
then queues the next event or hears the verdict. -/
inductive Settles (simulation : Simulation ρ) (rate : SymbolRate) (reaction : Reaction ρ)
    (action : Action) (next : Stage) (later : Simulation ρ) : Prop
  | waits {heard : Simulation ρ} {costs : List Nat} {kind : TimerKind} {number : UInt32}
      {delay : Span} {due : Instant}
      (hears : { simulation with engine := reaction.engine }.Hears costs heard)
      (awaits : next.awaited = some kind)
      (armed : reaction.engine.timers.armed kind = some number)
      (scheduled : .schedule ⟨kind,number⟩ delay ∈ reaction.calls) (nonneg : 0 ≤ delay.us)
      (reaches : simulation.clock.plus delay = .ok due)
      (pushed : later = (heard.push due (.timer ⟨kind,number⟩)).1)
  | assesses {heard : Simulation ρ} {costs : List Nat} {due : Instant}
      (hears : { simulation with engine := reaction.engine }.Hears costs heard)
      (assessing : next.assessing = true)
      (lasts : simulation.clock.plus (rate.spanOf assessmentSymbols) = .ok due)
      (pushed : later = (heard.requesting.push due .assessmentDone).1)
  | concludes {heard : Simulation ρ} {costs : List Nat}
      (hears : { simulation with engine := reaction.engine }.Hears costs heard)
      (concluded : next = .concluded) (told : later = heard.hearing action.verdict)

theorem assess_begins {rate : SymbolRate} {outcome : Outcome ρ Unit}
    (rated : SymbolRate.of simulation.symbolsPerSecond = .ok rate)
    (assessed : simulation.assess = .ok outcome) :
    outcome.result = .ok () ∧ ∃ due,
      simulation.clock.plus (rate.spanOf assessmentSymbols) = .ok due ∧
      outcome.simulation = (simulation.requesting.push due .assessmentDone).1 := by
  simp only [assess,rated] at assessed
  obtain ⟨counted,counts,assessed⟩ := except_bind_eq_ok.mp assessed
  obtain ⟨due,lasts,assessed⟩ := except_bind_eq_ok.mp assessed
  obtain ⟨_,rfl⟩ := wordValue_eq_ok.mp counts
  cases assessed
  exact ⟨rfl,due,lasts,rfl⟩

theorem settle_silent {reaction : Reaction ρ} (accepted : reaction.result = .ok ())
    (silent : reaction.calls = []) :
    simulation.settle reaction =
      .ok {
        simulation := { simulation with engine := reaction.engine }
        notes := reaction.notes
        result := .ok () } := by
  simp [settle,accepted,silent,hearAll,bind,Except.bind,pure,Except.pure]

theorem settle_settles {rate : SymbolRate} {reaction : Reaction ρ} {action : Action} {next : Stage}
    {outcome : Outcome ρ Unit} (rated : SymbolRate.of simulation.symbolsPerSecond = .ok rate)
    (accepted : reaction.result = .ok ()) (able : next ≠ .stuck)
    (calls : ∃ quiet closing, reaction.calls = quiet ++ closing ∧
      (∀ call ∈ quiet, call.isQuiet = true) ∧ Engine.Closing reaction.engine action next closing)
    (settled : simulation.settle reaction = .ok outcome) :
    outcome.result = .ok () ∧ simulation.Settles rate reaction action next outcome.simulation := by
  obtain ⟨quiet,closing,calls,silent,closes⟩ := calls
  have unasked : .requestCca ∉ quiet := by
    intro member
    simpa [Call.isQuiet] using silent _ member
  obtain ⟨heard,hearing,hears⟩ := hearAll_quiet silent { simulation with engine := reaction.engine }
  have clock : heard.clock = simulation.clock := by rw [hears.same]
  -- The last call decides what is queued.
  cases awaits : next.awaited with
  | some kind =>
    simp only [Engine.Closing,awaits] at closes
    obtain ⟨number,delay,armed,nonneg,rfl⟩ := closes
    rw [settle_closed accepted hearing calls (by simp [calls,unasked])] at settled
    obtain ⟨answered,hearing,rfl⟩ := except_map_eq_ok.mp settled
    obtain ⟨due,reaches,answers⟩ := except_bind_eq_ok.mp hearing
    cases answers
    rw [clock] at reaches
    exact ⟨rfl,.waits hears awaits armed (by simp [calls]) nonneg reaches rfl⟩
  | none =>
    simp only [Engine.Closing,awaits] at closes
    cases next with
    | assessment idles =>
      obtain rfl : closing = [.requestCca] := closes
      rw [settle_requested accepted hearing calls] at settled
      obtain ⟨began,assessed,rfl⟩ := except_map_eq_ok.mp settled
      have rated' : SymbolRate.of heard.symbolsPerSecond = .ok rate := by
        rw [hears.same]
        exact rated
      obtain ⟨succeeds,due,lasts,begins⟩ := assess_begins rated' assessed
      rw [clock] at lasts
      exact ⟨succeeds,.assesses hears rfl lasts begins⟩
    | concluded =>
      obtain rfl : closing = [.verdict action.verdict] := closes
      rw [settle_closed accepted hearing calls (by simp [calls,unasked])] at settled
      obtain ⟨answered,told,rfl⟩ := except_map_eq_ok.mp settled
      cases told
      exact ⟨rfl,.concludes hears rfl rfl⟩
    | stuck => exact absurd rfl able
    | backoffStart | canProceed | ccaRequest idles | capEnd => simp [Stage.awaited] at awaits

/-- What was recorded between two states, with every verdict and every request. -/
structure Tells (simulation later : Simulation ρ) (told : List TraceEvent) : Prop where
  trace : later.trace.toList = simulation.trace.toList ++ told
  verdicts : later.verdicts.toList = simulation.verdicts.toList ++ told.filterMap TraceEvent.verdict?
  requests : later.ccaRequests =
    simulation.ccaRequests + (told.filterMap TraceEvent.ccaInstant?).length

theorem Tells.refl (simulation : Simulation ρ) : simulation.Tells simulation [] where
  trace := by simp
  verdicts := by simp
  requests := by simp

theorem Tells.trans {middle : Simulation ρ} {told more : List TraceEvent}
    (tells : simulation.Tells middle told) (goesOn : middle.Tells later more) :
    simulation.Tells later (told ++ more) where
  trace := by rw [goesOn.trace,tells.trace,List.append_assoc]
  verdicts := by rw [goesOn.verdicts,tells.verdicts,List.filterMap_append,List.append_assoc]
  requests := by
    rw [goesOn.requests,tells.requests,List.filterMap_append,List.length_append,Nat.add_assoc]

/-- What is recorded as an engine goes over to a stage, besides the costs. -/
def closingEvents (simulation : Simulation ρ) (progress : Progress) (action : Action) (next : Stage) :
    List TraceEvent :=
  if next.assessing then
    [⟨simulation.clock,.ccaRequested progress.exponent progress.backoffs progress.window⟩]
  else if next = .concluded then [⟨simulation.clock,.verdict action.verdict⟩]
  else []

theorem costs_request_nothing (now : Instant) (costs : List Nat) :
    (costs.map fun symbols => TraceEvent.mk now (.cost symbols)).filterMap TraceEvent.ccaInstant? =
      [] := by
  simp [List.filterMap_eq_nil_iff,TraceEvent.ccaInstant?]

theorem Hears.synced {engine : Engine ρ} {costs : List Nat}
    (hears : { simulation with engine }.Hears costs heard)
    (synced : simulation.layerClock = simulation.clock) : heard.layerClock = heard.clock := by
  rw [hears.same]
  exact synced

theorem Hears.tells {engine : Engine ρ} {costs : List Nat}
    (hears : { simulation with engine }.Hears costs heard)
    (synced : simulation.layerClock = simulation.clock) :
    simulation.Tells heard (costs.map fun symbols => ⟨simulation.clock,.cost symbols⟩) where
  trace := synced ▸ hears.trace
  verdicts := by
    rw [hears.same]
    simp [List.filterMap_map,Function.comp_def,TraceEvent.verdict?]
  requests := by
    rw [hears.same,costs_request_nothing]
    rfl

namespace Settles

variable {rate : SymbolRate} {reaction : Reaction ρ} {action : Action} {next : Stage}

theorem unchanged (settles : simulation.Settles rate reaction action next later) :
    later.engine = reaction.engine ∧ later.clock = simulation.clock ∧
      later.layer = simulation.layer ∧
      later.symbolsPerSecond = simulation.symbolsPerSecond := by
  cases settles with
  | waits hears awaits armed scheduled nonneg reaches pushed =>
    rw [pushed,hears.same]
    exact ⟨rfl,rfl,rfl,rfl⟩
  | assesses hears assessing lasts pushed =>
    rw [pushed,hears.same]
    exact ⟨rfl,rfl,rfl,rfl⟩
  | concludes hears concluded told =>
    rw [told,hears.same]
    exact ⟨rfl,rfl,rfl,rfl⟩

theorem keeps_time (settles : simulation.Settles rate reaction action next later)
    (synced : simulation.layerClock = simulation.clock) : later.layerClock = later.clock := by
  cases settles with
  | waits hears awaits armed scheduled nonneg reaches pushed =>
    rw [pushed,hears.same]
    exact synced
  | assesses hears assessing lasts pushed =>
    rw [pushed,hears.same]
    exact synced
  | concludes hears concluded told =>
    rw [told,hears.same]
    exact synced

theorem tells (settles : simulation.Settles rate reaction action next later)
    (synced : simulation.layerClock = simulation.clock) :
    ∃ costs : List Nat, simulation.Tells later
      ((costs.map fun symbols => ⟨simulation.clock,.cost symbols⟩) ++
        simulation.closingEvents reaction.engine.progress action next) := by
  cases settles with
  | @waits heard costs kind number delay due hears awaits armed scheduled nonneg reaches pushed =>
    have quiet : simulation.closingEvents reaction.engine.progress action next = [] := by
      cases next <;> simp [closingEvents,Stage.assessing,Stage.awaited] at awaits ⊢
    rw [quiet,pushed]
    refine ⟨costs,(hears.tells synced).trans ?_⟩
    exact ⟨by simp [push],by simp [push],by simp [push]⟩
  | @assesses heard costs due hears assessing lasts pushed =>
    have asks : simulation.closingEvents reaction.engine.progress action next =
        [⟨simulation.clock,.ccaRequested reaction.engine.progress.exponent
          reaction.engine.progress.backoffs reaction.engine.progress.window⟩] := by
      rw [closingEvents,if_pos assessing]
    rw [asks,pushed]
    refine ⟨costs,(hears.tells synced).trans ?_⟩
    have engine : heard.engine = reaction.engine := by rw [hears.same]
    have clock : heard.clock = simulation.clock := by rw [hears.same]
    have stamp := hears.synced synced
    refine ⟨?_,?_,?_⟩
    · simp [push,requesting,record,engine,clock,stamp]
    · simp [push,requesting,record,TraceEvent.verdict?]
    · simp [push,requesting,record,TraceEvent.ccaInstant?]
  | @concludes heard costs hears concluded told =>
    subst concluded
    have gives : simulation.closingEvents reaction.engine.progress action .concluded =
        [⟨simulation.clock,.verdict action.verdict⟩] := rfl
    rw [gives,told]
    refine ⟨costs,(hears.tells synced).trans ?_⟩
    have clock : heard.clock = simulation.clock := by rw [hears.same]
    have stamp := hears.synced synced
    refine ⟨?_,?_,?_⟩
    · simp [hearing,record,clock,stamp]
    · simp [hearing,record,TraceEvent.verdict?]
    · simp [hearing,record,TraceEvent.ccaInstant?]

theorem queue_cases (settles : simulation.Settles rate reaction action next later) :
    (∃ due timer, next.awaited ≠ none ∧ later.queue = (simulation.queue.push due (.timer timer)).2) ∨
      (∃ due, next.assessing = true ∧
        simulation.clock.plus (rate.spanOf assessmentSymbols) = .ok due ∧
        later.queue = (simulation.queue.push due .assessmentDone).2) ∨
      (next = .concluded ∧ later.queue = simulation.queue) := by
  cases settles with
  | @waits heard costs kind number delay due hears awaits armed scheduled nonneg reaches pushed =>
    refine .inl ⟨due,⟨kind,number⟩,by simp [awaits],?_⟩
    rw [pushed,hears.same]
    rfl
  | @assesses heard costs due hears assessing lasts pushed =>
    refine .inr (.inl ⟨due,assessing,lasts,?_⟩)
    rw [pushed,hears.same]
    rfl
  | @concludes heard costs hears concluded told =>
    refine .inr (.inr ⟨concluded,?_⟩)
    rw [told,hears.same]
    rfl

/-- On an empty queue the only event to come is the one that the stage waits for. -/
theorem next_due (settles : simulation.Settles rate reaction action next later)
    (empty : simulation.queue.entries = []) {entry : QueueEntry} {rest : List QueueEntry}
    (queued : later.queue.entries = entry :: rest) :
    rest = [] ∧ simulation.clock ≤ entry.due ∧
      ((next.assessing = true ∧
          simulation.clock.plus (rate.spanOf assessmentSymbols) = .ok entry.due) ∨
        ∃ timer delay, next.awaited = some timer.kind ∧ .schedule timer delay ∈ reaction.calls ∧
          0 ≤ delay.us ∧ simulation.clock.plus delay = .ok entry.due) := by
  cases settles with
  | @waits heard costs kind number delay due hears awaits armed scheduled nonneg reaches pushed =>
    have empty' : heard.queue.entries = [] := by
      rw [hears.same]
      exact empty
    rw [pushed,push_empty empty'] at queued
    cases queued
    have later := Instant.le_plus nonneg reaches
    exact ⟨rfl,later,.inr ⟨⟨kind,number⟩,delay,awaits,scheduled,nonneg,reaches⟩⟩
  | @assesses heard costs due hears assessing lasts pushed =>
    have empty' : heard.requesting.queue.entries = [] := by
      rw [hears.same]
      exact empty
    rw [pushed,push_empty empty'] at queued
    cases queued
    have later := Instant.le_plus (rate.spanOf_nonneg (by decide)) lasts
    exact ⟨rfl,later,.inl ⟨assessing,lasts⟩⟩
  | @concludes heard costs hears concluded told =>
    have empty' : (heard.hearing action.verdict).queue.entries = [] := by
      rw [hears.same]
      exact empty
    rw [told,empty'] at queued
    cases queued

end Settles

/-- A successful start abandons what went before and queues the first timer of an attempt. -/
theorem start_settles {rate : SymbolRate} {outcome : Outcome ρ Unit}
    (rated : SymbolRate.of simulation.symbolsPerSecond = .ok rate)
    (started : simulation.start = .ok outcome) :
    outcome.result = .ok () ∧ ∃ reaction,
      simulation.engine.start simulation.surroundings = .ok reaction ∧
      reaction.engine.At .backoffStart ∧ reaction.engine.policy = simulation.engine.policy ∧
      (simulation.tellTime.record (.started simulation.engine.policy.mode)).Settles rate reaction
        (.expired .backoffStart) .backoffStart outcome.simulation := by
  obtain ⟨reaction,begun,settled⟩ := except_bind_eq_ok.mp started
  have rated' : SymbolRate.of simulation.surroundings.radio.symbolsPerSecond = .ok rate := rated
  rcases Engine.start_cases begun with refused |
    ⟨accepted,arrives,policy,_,quiet,closing,calls,silent,closes⟩
  · have served : reaction.Served none := Engine.start_served rated' begun
    rw [refused] at served
    exact absurd served.result (by simp)
  · have rated' : SymbolRate.of (simulation.tellTime.record
        (.started simulation.engine.policy.mode)).symbolsPerSecond = .ok rate := rated
    obtain ⟨succeeds,settles⟩ := settle_settles rated' accepted (by simp)
      ⟨quiet,closing,calls,silent,closes (.expired .backoffStart)⟩ settled
    exact ⟨succeeds,reaction,begun,arrives,policy,settles⟩

theorem record_started_tells (simulation : Simulation ρ) :
    simulation.Tells (simulation.tellTime.record (.started simulation.engine.policy.mode))
      [⟨simulation.clock,.started simulation.engine.policy.mode⟩] where
  trace := by simp [record,tellTime]
  verdicts := by simp [record,tellTime,TraceEvent.verdict?]
  requests := by simp [record,tellTime,TraceEvent.ccaInstant?]

def delivery (simulation : Simulation ρ) : Event → Operation
  | .timer timer => .fire timer simulation.surroundings
  | .assessmentDone => .confirm (simulation.channel.assess simulation.clock).1

theorem delivery_eq_fire {event : Event} {timer : Timer} {around : Surroundings}
    (delivers : simulation.delivery event = .fire timer around) :
    event = .timer timer ∧ around = simulation.surroundings := by
  cases event with
  | timer timer' =>
    cases delivers
    exact ⟨rfl,rfl⟩
  | assessmentDone => cases delivers

/-- The simulation once the first entry is taken from its queue, before the engine hears of it. -/
def takes (simulation : Simulation ρ) (entry : QueueEntry) (rest : List QueueEntry) : Simulation ρ :=
  { simulation with queue := { simulation.queue with entries := rest } }.advanceTo entry.due

section

variable (simulation : Simulation ρ) (event : Event)

@[simp] theorem informed_engine : (simulation.informed event).engine = simulation.engine := by
  cases event <;> rfl

@[simp] theorem informed_clock : (simulation.informed event).clock = simulation.clock := by
  cases event <;> rfl

@[simp] theorem informed_layerClock :
    (simulation.informed event).layerClock = simulation.layerClock := by
  cases event <;> rfl

@[simp] theorem informed_layer : (simulation.informed event).layer = simulation.layer := by
  cases event <;> rfl

@[simp] theorem informed_symbolsPerSecond :
    (simulation.informed event).symbolsPerSecond = simulation.symbolsPerSecond := by
  cases event <;> rfl

@[simp] theorem informed_queue : (simulation.informed event).queue = simulation.queue := by
  cases event <;> rfl

@[simp] theorem informed_ccaRequests :
    (simulation.informed event).ccaRequests = simulation.ccaRequests := by
  cases event <;> rfl

@[simp] theorem informed_ccaInstants :
    (simulation.informed event).ccaInstants = simulation.ccaInstants := by
  cases event with
  | timer timer => rfl
  | assessmentDone => simp [ccaInstants,informed,record,TraceEvent.ccaInstant?]

end

/-- What is taken from the queue is processed with the layer's clock up to date. -/
theorem takes_synced (simulation : Simulation ρ) (entry : QueueEntry) (rest : List QueueEntry) :
    (simulation.takes entry rest).layerClock = (simulation.takes entry rest).clock := rfl

theorem informed_synced {event : Event} (synced : simulation.layerClock = simulation.clock) :
    (simulation.informed event).layerClock = (simulation.informed event).clock := by
  rw [informed_layerClock,informed_clock,synced]

theorem informed_tells (event : Event) (synced : simulation.layerClock = simulation.clock) :
    ∃ results : List ChannelStatus, simulation.Tells (simulation.informed event)
      (results.map fun status => ⟨simulation.clock,.ccaResult status⟩) := by
  cases event with
  | timer timer => exact ⟨[],.refl simulation⟩
  | assessmentDone =>
    refine ⟨[(simulation.channel.assess simulation.clock).1],?_,?_,?_⟩
    · simp [informed,record,synced]
    · simp [informed,record,TraceEvent.verdict?]
    · simp [informed,record,TraceEvent.ccaInstant?]

theorem takes_tells (simulation : Simulation ρ) (entry : QueueEntry) (rest : List QueueEntry) :
    simulation.Tells (simulation.takes entry rest) [] where
  trace := by simp [takes,advanceTo,tellTime]
  verdicts := by simp [takes,advanceTo,tellTime]
  requests := by simp [takes,advanceTo,tellTime]

theorem takes_clock {entry : QueueEntry} {rest : List QueueEntry} (behind : simulation.clock ≤ entry.due) :
    (simulation.takes entry rest).clock = entry.due :=
  if_pos behind

theorem informed_closingEvents (simulation : Simulation ρ) (event : Event) (progress : Progress)
    (action : Action) (next : Stage) :
    (simulation.informed event).closingEvents progress action next =
      simulation.closingEvents progress action next := by
  cases event with
  | timer timer => rfl
  | assessmentDone => rfl

section

variable [WordSource ρ]

theorem reaction_eq (simulation : Simulation ρ) (event : Event) :
    simulation.reaction event = simulation.engine.perform (simulation.delivery event) := by
  cases event with
  | timer timer => rfl
  | assessmentDone => rfl

/-- What a step does to a simulation whose engine is in a stage. -/
inductive StepsTo (simulation : Simulation ρ) (rate : SymbolRate) (stage : Stage)
    (outcome : Outcome ρ Bool) : Prop
  | idle (empty : simulation.queue.entries = [])
      (same : outcome = { simulation, result := .ok false })
  | ignored {entry : QueueEntry} {rest : List QueueEntry}
      (queued : simulation.queue.entries = entry :: rest)
      (unheard : simulation.engine.accepts ((simulation.takes entry rest).delivery entry.event) = none)
      (result : outcome.result = .ok true)
      (later : outcome.simulation = (simulation.takes entry rest).informed entry.event)
  | advanced {entry : QueueEntry} {rest : List QueueEntry} {action : Action} {next : Stage}
      {reaction : Reaction ρ} (queued : simulation.queue.entries = entry :: rest)
      (accepted : simulation.engine.accepts ((simulation.takes entry rest).delivery entry.event) =
        some action)
      (reacts : simulation.engine.perform ((simulation.takes entry rest).delivery entry.event) =
        .ok reaction)
      (advances : Engine.Advances simulation.engine stage action reaction next)
      (result : outcome.result = .ok true)
      (settles : ((simulation.takes entry rest).informed entry.event).Settles rate reaction action next
        outcome.simulation)

theorem delivery_served {rate : SymbolRate} {stage : Stage} {event : Event} {action : Action}
    {reaction : Reaction ρ} (rated : SymbolRate.of simulation.symbolsPerSecond = .ok rate)
    (inside : simulation.engine.At stage)
    (accepted : simulation.engine.accepts (simulation.delivery event) = some action)
    (reacts : simulation.engine.perform (simulation.delivery event) = .ok reaction) :
    reaction.result = .ok () := by
  have going : stage ≠ .concluded → simulation.engine.running = true := inside.running.mpr
  rcases Engine.accepts_of_eq_some accepted with ⟨timer,around,delivers,_,armed⟩ | ⟨status,delivers,_,outstanding⟩
  · obtain ⟨rfl,rfl⟩ := delivery_eq_fire delivers
    have awaits := inside.awaited_of_armed armed
    have running := going fun stopped => by simp [stopped,Stage.awaited] at awaits
    exact (Engine.fire_served rated running armed reacts).result
  · cases event with
    | timer timer => simp [delivery] at delivers
    | assessmentDone =>
      have assessing := inside.outstanding.symm.trans outstanding
      have running := going fun stopped => by simp [stopped,Stage.assessing] at assessing
      cases reacts
      exact (Engine.confirm_served _ none outstanding running).result

theorem delivery_ignored {event : Event} {reaction : Reaction ρ}
    (unheard : simulation.engine.accepts (simulation.delivery event) = none)
    (reacts : simulation.engine.perform (simulation.delivery event) = .ok reaction) :
    reaction.result = .ok () := by
  cases event with
  | timer timer =>
    have stale : simulation.engine.timers.armed timer.kind ≠ some timer.number := by
      intro armed
      simp [delivery,Engine.accepts,armed] at unheard
    rw [delivery,Engine.perform,Engine.fire_stale _ stale] at reacts
    cases reacts
    rfl
  | assessmentDone =>
    have unexpected : simulation.engine.ccaOutstanding = false := by
      cases outstanding : simulation.engine.ccaOutstanding with
      | true => simp [delivery,Engine.accepts,outstanding] at unheard
      | false => rfl
    rw [delivery,Engine.perform,Engine.confirm_unexpected _ unexpected] at reacts
    cases reacts
    rfl

theorem step_takes {outcome : Outcome ρ Bool} {entry : QueueEntry} {rest : List QueueEntry}
    (queued : simulation.queue.entries = entry :: rest) (stepped : simulation.step = .ok outcome) :
    ∃ handled, (simulation.takes entry rest).handle entry.event = .ok handled ∧
      outcome = {
        simulation := handled.simulation
        notes := handled.notes
        result := handled.result.map fun () => true } := by
  simp only [step,EventQueue.pop?,queued] at stepped
  obtain ⟨handled,handling,stepped⟩ := except_bind_eq_ok.mp stepped
  exact ⟨handled,handling,(Except.ok.inj stepped).symm⟩

theorem step_cases {rate : SymbolRate} {stage : Stage} {outcome : Outcome ρ Bool}
    (rated : SymbolRate.of simulation.symbolsPerSecond = .ok rate)
    (inside : simulation.engine.At stage) (stepped : simulation.step = .ok outcome) :
    simulation.StepsTo rate stage outcome := by
  cases queued : simulation.queue.entries with
  | nil =>
    simp only [step,EventQueue.pop?,queued] at stepped
    cases stepped
    exact .idle queued rfl
  | cons entry rest =>
    obtain ⟨handled,handling,rfl⟩ := step_takes queued stepped
    rw [handle_eq] at handling
    obtain ⟨reaction,reacts,settled⟩ := except_bind_eq_ok.mp handling
    rw [reaction_eq] at reacts
    have rated' : SymbolRate.of (simulation.takes entry rest).symbolsPerSecond = .ok rate := rated
    have inside' : (simulation.takes entry rest).engine.At stage := inside
    cases Engine.perform_effect inside' reacts with
    | ignored unheard same silent fruitless unrefused =>
      have succeeds := delivery_ignored unheard reacts
      rw [settle_silent succeeds silent] at settled
      cases settled
      refine .ignored queued unheard rfl ?_
      rw [same]
      cases entry.event <;> rfl
    | @advanced action next accepted advances =>
      have succeeds := delivery_served rated' inside' accepted reacts
      have able := advances.able succeeds
      have rated'' : SymbolRate.of
          ((simulation.takes entry rest).informed entry.event).symbolsPerSecond = .ok rate := by
        rw [informed_symbolsPerSecond]
        exact rated
      obtain ⟨result,settles⟩ := settle_settles rated'' succeeds able advances.calls settled
      exact .advanced queued accepted reacts advances (by simp [result,Except.map]) settles
    | begun starts => cases event : entry.event <;> simp [event,delivery] at starts
    | cancelled cancels => cases event : entry.event <;> simp [event,delivery] at cancels
    | reconfigured configures => cases event : entry.event <;> simp [event,delivery] at configures

theorem step_clock {rate : SymbolRate} {stage : Stage} {outcome : Outcome ρ Bool} {entry : QueueEntry}
    {rest : List QueueEntry} (rated : SymbolRate.of simulation.symbolsPerSecond = .ok rate)
    (inside : simulation.engine.At stage) (queued : simulation.queue.entries = entry :: rest)
    (stepped : simulation.step = .ok outcome) :
    outcome.simulation.clock = simulation.clock.later entry.due := by
  cases step_cases rated inside stepped with
  | idle empty same => simp [queued] at empty
  | ignored queued' unheard result after =>
    cases queued.symm.trans queued'
    rw [after,informed_clock]
    rfl
  | advanced queued' accepted reacts advances result settles =>
    cases queued.symm.trans queued'
    rw [settles.unchanged.2.1,informed_clock]
    rfl

end

end Simulation

end ChannelAccess
