import ChannelAccess.Proofs.Simulation.Queue
import ChannelAccess.Proofs.Simulation.Settling

/-!
What a start and a step do to the clock, the queue and the trace, whatever is queued. Everything they
tell is told at the clock that they reach, and the one event that they may queue is due from then on.
Main statements: `Regular.start` and `Regular.step`.
-/

namespace ChannelAccess

def TraceEvent.ccaStatus? (event : TraceEvent) : Option ChannelStatus :=
  match event.occurrence with
  | .ccaResult status => some status
  | .started _ | .ccaRequested _ _ _ | .cost _ | .verdict _ => none

def QueueEntry.completes (entry : QueueEntry) : Bool := entry.event = .assessmentDone

theorem EventQueue.length_completions (queue : EventQueue) :
    queue.completions.length = queue.entries.countP QueueEntry.completes :=
  List.countP_eq_length_filter.symm

namespace Simulation

variable {ρ : Type} {simulation middle later : Simulation ρ} {rate : SymbolRate} {stage : Stage}
  {told more : List TraceEvent} {taken : List QueueEntry} {fresh : Option QueueEntry}

/-- The outcomes of the assessments in the trace. -/
def ccaStatuses (simulation : Simulation ρ) : List ChannelStatus :=
  simulation.trace.toList.filterMap TraceEvent.ccaStatus?

/-- The clock went on, some events were taken from the queue, and at most one was put into it. -/
structure Proceeds (simulation later : Simulation ρ) (taken : List QueueEntry)
    (told : List TraceEvent) (fresh : Option QueueEntry) : Prop where
  onward : simulation.clock ≤ later.clock
  tells : simulation.Tells later told
  now : ∀ event ∈ told, event.instant = later.clock
  queued : (taken ++ later.queue.entries).Perm (fresh.toList ++ simulation.queue.entries)
  counted : later.queue.nextOrder = simulation.queue.nextOrder + fresh.toList.length
  numbered : ∀ entry ∈ fresh, entry.order = simulation.queue.nextOrder
  ahead : ∀ entry ∈ fresh, later.clock ≤ entry.due
  requested : (told.filterMap TraceEvent.ccaInstant?).length =
    fresh.toList.countP QueueEntry.completes
  answered : (told.filterMap TraceEvent.ccaStatus?).length = taken.countP QueueEntry.completes

namespace Proceeds

theorem quiet (onward : simulation.clock ≤ later.clock) (tells : simulation.Tells later [])
    (queue : later.queue = simulation.queue) : simulation.Proceeds later [] [] none where
  onward := onward
  tells := tells
  now := by simp
  queued := by simp [queue]
  counted := by simp [queue]
  numbered := by simp
  ahead := by simp
  requested := rfl
  answered := rfl

theorem telling (clock : later.clock = simulation.clock) (tells : simulation.Tells later told)
    (now : ∀ event ∈ told, event.instant = simulation.clock)
    (queue : later.queue = simulation.queue) (unasked : told.filterMap TraceEvent.ccaInstant? = [])
    (unanswered : told.filterMap TraceEvent.ccaStatus? = []) :
    simulation.Proceeds later [] told none where
  onward := Int.le_of_eq (congrArg Instant.us clock.symm)
  tells := tells
  now := by simpa only [clock] using now
  queued := by simp [queue]
  counted := by simp [queue]
  numbered := by simp
  ahead := by simp
  requested := by simp [unasked]
  answered := by simp [unanswered]

theorem queueing {due : Instant} {event : Event} (clock : later.clock = simulation.clock)
    (tells : simulation.Tells later told) (now : ∀ event ∈ told, event.instant = simulation.clock)
    (room : simulation.queue.size < EventQueue.capacity) (ahead : simulation.clock ≤ due)
    (queue : later.queue = (simulation.queue.push due event).2)
    (requested : (told.filterMap TraceEvent.ccaInstant?).length =
      [⟨due,simulation.queue.nextOrder,event⟩].countP QueueEntry.completes)
    (unanswered : told.filterMap TraceEvent.ccaStatus? = []) :
    simulation.Proceeds later [] told (some ⟨due,simulation.queue.nextOrder,event⟩) where
  onward := Int.le_of_eq (congrArg Instant.us clock.symm)
  tells := tells
  now := by simpa only [clock] using now
  queued := queue ▸ EventQueue.push_perm room due event
  counted := queue ▸ EventQueue.push_nextOrder _ due event
  numbered := by
    rintro _ ⟨⟩
    rfl
  ahead := by
    rintro _ ⟨⟩
    exact clock ▸ ahead
  requested := requested
  answered := by simp [unanswered]

theorem trans (proceeds : simulation.Proceeds middle taken told none)
    (goesOn : middle.Proceeds later [] more fresh) (still : later.clock = middle.clock) :
    simulation.Proceeds later taken (told ++ more) fresh where
  onward := still ▸ proceeds.onward
  tells := proceeds.tells.trans goesOn.tells
  now := by
    intro event member
    rcases List.mem_append.mp member with member | member
    · rw [still]
      exact proceeds.now event member
    · exact goesOn.now event member
  queued := by
    calc List.Perm (taken ++ later.queue.entries) (taken ++ (fresh.toList ++ middle.queue.entries)) :=
          goesOn.queued.append_left taken
      List.Perm _ (fresh.toList ++ (taken ++ middle.queue.entries)) := List.perm_append_comm_assoc ..
      List.Perm _ (fresh.toList ++ simulation.queue.entries) := proceeds.queued.append_left _
  counted := by
    rw [goesOn.counted,proceeds.counted]
    rfl
  numbered := by
    intro entry member
    rw [goesOn.numbered entry member,proceeds.counted]
    rfl
  ahead := goesOn.ahead
  requested := by
    rw [List.filterMap_append,List.length_append,proceeds.requested,goesOn.requested]
    exact Nat.zero_add _
  answered := by
    rw [List.filterMap_append,List.length_append,proceeds.answered,goesOn.answered]
    rfl

theorem in_order (proceeds : simulation.Proceeds later taken told fresh)
    (sorted : simulation.trace.toList.Pairwise fun earlier later => earlier.instant ≤ later.instant)
    (past : ∀ event ∈ simulation.trace.toList, event.instant ≤ simulation.clock) :
    (later.trace.toList.Pairwise fun earlier later => earlier.instant ≤ later.instant) ∧
      ∀ event ∈ later.trace.toList, event.instant ≤ later.clock := by
  rw [proceeds.tells.trace]
  refine ⟨List.pairwise_append.mpr ⟨sorted,?together,?behind⟩,?reached⟩
  case together =>
    apply List.pairwise_of_forall_mem_list
    intro earlier member other member'
    rw [proceeds.now earlier member,proceeds.now other member']
    exact Int.le_refl _
  case behind =>
    intro earlier member other member'
    rw [proceeds.now other member']
    exact Int.le_trans (past earlier member) proceeds.onward
  case reached =>
    intro event member
    rcases List.mem_append.mp member with member | member
    · exact Int.le_trans (past event member) proceeds.onward
    · rw [proceeds.now event member]
      exact Int.le_refl _

/-- A request that is told is answered or its answer is queued, and an answer that comes was queued. -/
theorem accounts (proceeds : simulation.Proceeds later taken told fresh) :
    later.ccaRequests + (simulation.ccaStatuses.length + simulation.queue.completions.length) =
      simulation.ccaRequests + (later.ccaStatuses.length + later.queue.completions.length) := by
  have statuses : later.ccaStatuses =
      simulation.ccaStatuses ++ told.filterMap TraceEvent.ccaStatus? := by
    rw [ccaStatuses,proceeds.tells.trace,List.filterMap_append]
    rfl
  have completions := proceeds.queued.countP_eq QueueEntry.completes
  rw [List.countP_append,List.countP_append] at completions
  rw [proceeds.tells.requests,statuses,List.length_append,proceeds.requested,proceeds.answered,
    EventQueue.length_completions,EventQueue.length_completions]
  omega

end Proceeds

theorem Hears.proceeds {heard : Simulation ρ} {engine : Engine ρ} {costs : List Nat}
    (hears : { simulation with engine }.Hears costs heard)
    (synced : simulation.layerClock = simulation.clock) :
    simulation.Proceeds heard [] (costs.map fun symbols => ⟨simulation.clock,.cost symbols⟩) none := by
  refine .telling ?_ (hears.tells synced) ?_ ?_ (costs_request_nothing _ _) ?_
  · rw [hears.same]
  · simp
  · rw [hears.same]
  · simp [List.filterMap_eq_nil_iff,TraceEvent.ccaStatus?]

theorem push_timer_proceeds {due : Instant} (room : simulation.queue.size < EventQueue.capacity)
    (ahead : simulation.clock ≤ due) (timer : Timer) :
    simulation.Proceeds (simulation.push due (.timer timer)).1 [] []
      (some ⟨due,simulation.queue.nextOrder,.timer timer⟩) :=
  .queueing rfl ⟨by simp [push],by simp [push],rfl⟩ (by simp) room ahead rfl rfl rfl

theorem request_proceeds {due : Instant} (room : simulation.queue.size < EventQueue.capacity)
    (ahead : simulation.clock ≤ due) (synced : simulation.layerClock = simulation.clock) :
    simulation.Proceeds (simulation.requesting.push due .assessmentDone).1 []
      [⟨simulation.clock,.ccaRequested simulation.engine.progress.exponent
        simulation.engine.progress.backoffs simulation.engine.progress.window⟩]
      (some ⟨due,simulation.queue.nextOrder,.assessmentDone⟩) := by
  refine .queueing rfl ⟨?_,?_,rfl⟩ (by simp) room ahead rfl rfl rfl
  · simp [push,requesting,record,synced]
  · simp [push,requesting,record,TraceEvent.verdict?]

theorem hearing_proceeds (verdict : Verdict) (synced : simulation.layerClock = simulation.clock) :
    simulation.Proceeds (simulation.hearing verdict) [] [⟨simulation.clock,.verdict verdict⟩] none :=
  .telling rfl ⟨by simp [hearing,record,synced],by simp [hearing,record,TraceEvent.verdict?],rfl⟩
    (by simp) rfl rfl rfl

namespace Settles

variable {reaction : Reaction ρ} {action : Action} {next : Stage}

theorem proceeds (settles : simulation.Settles rate reaction action next later)
    (room : simulation.queue.size < EventQueue.capacity)
    (synced : simulation.layerClock = simulation.clock) :
    ∃ told fresh, simulation.Proceeds later [] told fresh := by
  cases settles with
  | @waits heard costs kind number delay due hears awaits armed scheduled nonneg reaches pushed =>
    have queue : heard.queue = simulation.queue := by rw [hears.same]
    have clock : heard.clock = simulation.clock := by rw [hears.same]
    have ahead : heard.clock ≤ due := clock ▸ Instant.le_plus nonneg reaches
    rw [pushed]
    exact ⟨_,_,(hears.proceeds synced).trans (push_timer_proceeds (queue ▸ room) ahead _) rfl⟩
  | @assesses heard costs due hears assessing lasts pushed =>
    have queue : heard.queue = simulation.queue := by rw [hears.same]
    have clock : heard.clock = simulation.clock := by rw [hears.same]
    have ahead : heard.clock ≤ due := clock ▸ Instant.le_plus (rate.spanOf_nonneg (by decide)) lasts
    have synced' := hears.synced synced
    rw [pushed]
    exact ⟨_,_,(hears.proceeds synced).trans (request_proceeds (queue ▸ room) ahead synced') rfl⟩
  | concludes hears concluded given =>
    rw [given]
    exact ⟨_,_,(hears.proceeds synced).trans (hearing_proceeds _ (hears.synced synced)) rfl⟩

theorem size_le (settles : simulation.Settles rate reaction action next later) :
    later.queue.size ≤ simulation.queue.size + 1 := by
  rcases settles.queue_cases with ⟨due,timer,_,queue⟩ | ⟨due,_,_,queue⟩ | ⟨_,queue⟩
  · rw [queue]
    exact EventQueue.size_push_le _ _ _
  · rw [queue]
    exact EventQueue.size_push_le _ _ _
  · rw [queue]
    exact Nat.le_succ _

theorem ordered (settles : simulation.Settles rate reaction action next later)
    (ordered : simulation.queue.Ordered) : later.queue.Ordered := by
  rcases settles.queue_cases with ⟨due,timer,_,queue⟩ | ⟨due,_,_,queue⟩ | ⟨_,queue⟩
  · exact queue ▸ ordered.push due _
  · exact queue ▸ ordered.push due _
  · exact queue ▸ ordered

end Settles

/-- A start that loses no event finds room for one. -/
theorem start_room {outcome : Outcome ρ Unit}
    (rated : SymbolRate.of simulation.symbolsPerSecond = .ok rate)
    (started : simulation.start = .ok outcome) (kept : .queueFull ∉ outcome.notes) :
    simulation.queue.size < EventQueue.capacity := by
  obtain ⟨reaction,begun,settled⟩ := except_bind_eq_ok.mp started
  have rated' : SymbolRate.of simulation.surroundings.radio.symbolsPerSecond = .ok rate := rated
  replace begun : simulation.engine.start simulation.surroundings = .ok reaction := begun
  rw [Engine.start_eq rated'] at begun
  obtain ⟨wait,_,rfl⟩ := except_map_eq_ok.mp begun
  rw [settle_closed rfl (hearAll_looks _ _) rfl
    (by simp [Engine.waitFor,Engine.looks_request_nothing])] at settled
  obtain ⟨_,heard,rfl⟩ := except_map_eq_ok.mp settled
  obtain ⟨due,_,pushed⟩ := except_bind_eq_ok.mp heard
  cases pushed
  apply Decidable.of_not_not
  intro full
  apply kept
  have full' : ¬ (simulation.tellTime.record
      (.started simulation.engine.policy.mode)).queue.size < EventQueue.capacity := full
  simp [push,EventQueue.push,full']

theorem size_takes {entry : QueueEntry} {rest : List QueueEntry}
    (queued : simulation.queue.entries = entry :: rest) :
    (simulation.takes entry rest).queue.size + 1 = simulation.queue.size := by
  simp [takes,advanceTo,tellTime,EventQueue.size,queued]

theorem informed_proceeds {entry : QueueEntry} {rest : List QueueEntry}
    (queued : simulation.queue.entries = entry :: rest) :
    ∃ told, simulation.Proceeds ((simulation.takes entry rest).informed entry.event) [entry] told
      none := by
  cases event : entry.event with
  | timer timer =>
    refine ⟨[],Instant.le_later _ _,takes_tells _ _ _,by simp,?_,rfl,by simp,by simp,rfl,?_⟩
    · exact .of_eq queued.symm
    · simp [QueueEntry.completes,event]
  | assessmentDone =>
    let status := ((simulation.takes entry rest).channel.assess (simulation.takes entry rest).clock).1
    refine ⟨[⟨(simulation.takes entry rest).clock,.ccaResult status⟩],Instant.le_later _ _,
      (takes_tells simulation entry rest).trans ⟨?trace,?verdicts,rfl⟩,?now,.of_eq queued.symm,rfl,
      by simp,by simp,rfl,?answered⟩
    case trace => simp [informed,record,status,takes_synced]
    case verdicts => simp [informed,record,TraceEvent.verdict?]
    case now =>
      intro event told
      rw [List.mem_singleton.mp told]
      rfl
    case answered => simp [QueueEntry.completes,event,TraceEvent.ccaStatus?]

/-- The queue is in order and within its capacity, the engine is in a known stage, and the layer knows
the time. -/
structure Regular (simulation : Simulation ρ) : Prop where
  rated : ∃ rate, SymbolRate.of simulation.symbolsPerSecond = .ok rate
  staged : ∃ stage, simulation.engine.At stage
  ordered : simulation.queue.Ordered
  room : simulation.queue.size ≤ EventQueue.capacity
  synced : simulation.layerClock = simulation.clock

namespace Regular

theorem ofPhy {engine : Engine ρ} (inside : engine.At stage) (layer : LayerFacts) (phy : Phy)
    (channel : Channel) : (Simulation.ofPhy engine layer phy channel).Regular where
  rated := ⟨_,SymbolRate.of_phy rfl⟩
  staged := ⟨stage,inside⟩
  ordered := ⟨.nil,by simp [Simulation.ofPhy]⟩
  room := Nat.zero_le _
  synced := rfl

theorem informed {entry : QueueEntry} {rest : List QueueEntry} (regular : simulation.Regular)
    (queued : simulation.queue.entries = entry :: rest) :
    ((simulation.takes entry rest).informed entry.event).Regular ∧
      ((simulation.takes entry rest).informed entry.event).queue.size < EventQueue.capacity := by
  have size := size_takes queued
  have room := regular.room
  refine ⟨⟨?_,?_,?_,?_,?_⟩,?_⟩
  · rw [informed_symbolsPerSecond]
    exact regular.rated
  · rw [informed_engine]
    exact regular.staged
  · rw [informed_queue]
    exact regular.ordered.tail queued
  · rw [informed_queue]
    omega
  · exact informed_synced (simulation.takes_synced entry rest)
  · rw [informed_queue]
    omega

theorem settles {reaction : Reaction ρ} {action : Action} {next : Stage} (regular : simulation.Regular)
    (room : simulation.queue.size < EventQueue.capacity) (arrives : reaction.engine.At next)
    (settles : simulation.Settles rate reaction action next later) :
    later.Regular ∧ ∃ told fresh, simulation.Proceeds later [] told fresh := by
  obtain ⟨engine,_,_,kept⟩ := settles.unchanged
  obtain ⟨told,fresh,proceeds⟩ := settles.proceeds room regular.synced
  have size : later.queue.size ≤ EventQueue.capacity := Nat.le_trans settles.size_le room
  exact ⟨⟨kept ▸ regular.rated,⟨next,engine ▸ arrives⟩,settles.ordered regular.ordered,size,
    settles.keeps_time regular.synced⟩,told,fresh,proceeds⟩

theorem start {outcome : Outcome ρ Unit} (regular : simulation.Regular)
    (started : simulation.start = .ok outcome) (kept : .queueFull ∉ outcome.notes) :
    outcome.simulation.Regular ∧ ∃ told fresh, simulation.Proceeds outcome.simulation [] told fresh := by
  obtain ⟨rate,rated⟩ := regular.rated
  have room := start_room rated started kept
  obtain ⟨_,_,_,arrives,_,settles⟩ := start_settles rated started
  have begins : simulation.Proceeds
      (simulation.tellTime.record (.started simulation.engine.policy.mode)) []
      [⟨simulation.clock,.started simulation.engine.policy.mode⟩] none :=
    .telling rfl (record_started_tells simulation) (by simp) rfl rfl rfl
  have regular' : (simulation.tellTime.record (.started simulation.engine.policy.mode)).Regular :=
    ⟨regular.rated,regular.staged,regular.ordered,regular.room,rfl⟩
  obtain ⟨kept,_,_,proceeds⟩ := regular'.settles room arrives settles
  exact ⟨kept,_,_,begins.trans proceeds settles.unchanged.2.1⟩

theorem step [WordSource ρ] {outcome : Outcome ρ Bool} (regular : simulation.Regular)
    (stepped : simulation.step = .ok outcome) :
    outcome.simulation.Regular ∧ ∃ told fresh, simulation.Proceeds outcome.simulation
      (simulation.queue.entries.take 1) told fresh := by
  obtain ⟨rate,rated⟩ := regular.rated
  obtain ⟨stage,inside⟩ := regular.staged
  cases step_cases rated inside stepped with
  | idle empty same =>
    rw [empty,same]
    exact ⟨regular,_,_,.quiet (Int.le_refl _) (.refl simulation) rfl⟩
  | ignored queued unheard result after =>
    obtain ⟨_,taking⟩ := informed_proceeds queued
    rw [after,queued]
    exact ⟨(regular.informed queued).1,_,_,taking⟩
  | @advanced entry rest action next reaction queued accepted reacts advances result settles =>
    obtain ⟨_,taking⟩ := informed_proceeds queued
    obtain ⟨regular',room⟩ := regular.informed queued
    obtain ⟨kept,_,_,proceeds⟩ := regular'.settles room advances.arrives settles
    rw [queued]
    exact ⟨kept,_,_,taking.trans proceeds settles.unchanged.2.1⟩

end Regular

end Simulation

end ChannelAccess
