import ChannelAccess.Proofs.Engine.PendingAction
import ChannelAccess.Proofs.Simulation.Histories
import ChannelAccess.Proofs.Simulation.Proceeding

/-!
Chronicles of a simulation that is started, stepped, run, cancelled and moved on in time, while its
layer, the advice, the channel and the symbol rate change in between. Steps of different attempts mix,
and the clock may jump over what is queued. Main statement: `chronicle_coherent`.
-/

namespace ChannelAccess

inductive Act where
  | command (command : Command)
  | change (layer : LayerFacts) (advice : Option UInt32) (channel : Channel) (rate : SymbolRate)

structure Turn (ρ : Type) where
  before : Simulation ρ
  act : Act
  after : Simulation ρ

namespace Turn

variable {ρ : Type} {turn : Turn ρ}

/-- The event that the turn processes, if any. -/
def taken (turn : Turn ρ) : List QueueEntry :=
  match turn.act with
  | .command .step => turn.before.queue.entries.take 1
  | .command .start | .command .cancel | .command (.advanceTo _) | .change _ _ _ _ => []

/-- The events that the turn queues. -/
def added (turn : Turn ρ) : List QueueEntry :=
  turn.after.queue.entries.filter fun entry => turn.before.queue.nextOrder ≤ entry.order

theorem mem_taken {entry : QueueEntry} (member : entry ∈ turn.taken) :
    turn.act = .command .step ∧ ∃ rest, turn.before.queue.entries = entry :: rest := by
  unfold taken at member
  split at member
  case h_1 steps =>
    cases queued : turn.before.queue.entries with
    | nil => simp [queued] at member
    | cons first rest =>
      obtain rfl : entry = first := by simpa [queued] using member
      exact ⟨steps,rest,rfl⟩
  all_goals cases member

theorem added_eq {told : List TraceEvent} {fresh : Option QueueEntry}
    (ordered : turn.before.queue.Ordered)
    (proceeds : turn.before.Proceeds turn.after turn.taken told fresh) :
    turn.added = fresh.toList := by
  -- The queue counts what is put into it, so its next number parts what was there from what is new.
  have old : ∀ entries : List QueueEntry, (∀ entry ∈ entries, entry ∈ turn.before.queue.entries) →
      entries.filter (fun entry => turn.before.queue.nextOrder ≤ entry.order) = [] := by
    intro entries queued
    rw [List.filter_eq_nil_iff]
    intro entry member
    have older := ordered.numbered entry (queued entry member)
    simpa using older
  have new : fresh.toList.filter (fun entry => turn.before.queue.nextOrder ≤ entry.order) =
      fresh.toList := by
    rw [List.filter_eq_self]
    intro entry member
    rw [proceeds.numbered entry (Option.mem_toList.mp member)]
    simp
  have same := proceeds.queued.filter (fun entry => turn.before.queue.nextOrder ≤ entry.order)
  have processed : ∀ entry ∈ turn.taken, entry ∈ turn.before.queue.entries := by
    intro entry member
    obtain ⟨_,rest,queued⟩ := mem_taken member
    exact queued ▸ List.mem_cons_self
  rw [List.filter_append,List.filter_append,old _ processed,
    old turn.before.queue.entries (fun _ => id),new,List.append_nil] at same
  cases fresh with
  | none => exact same.eq_nil
  | some entry => exact same.eq_singleton

end Turn

namespace Simulation

variable {ρ : Type}

/-- No event is lost for want of room. Only a start can find the queue full: a step takes an event out
of it before it puts one in. -/
def KeepsAll (simulation : Simulation ρ) (act : Act) : Prop :=
  act = .command .start → ∀ outcome, simulation.start = .ok outcome → .queueFull ∉ outcome.notes

theorem KeepsAll.of_ne {simulation : Simulation ρ} {act : Act} (other : act ≠ .command .start) :
    simulation.KeepsAll act := fun starts => absurd starts other

end Simulation

variable {ρ : Type} [WordSource ρ]

namespace Simulation

def enact (simulation : Simulation ρ) : Act → Except Overflow (Simulation ρ)
  | .command command => simulation.perform command
  | .change layer advice channel rate =>
    .ok { simulation with layer, advice, channel, symbolsPerSecond := rate.perSecond }

/-- The steps of a run, one after the other. -/
def stepsUntil (finished : Simulation ρ → Option Verdict) : Nat → Simulation ρ → List (Turn ρ)
  | 0, _ => []
  | bound + 1, simulation =>
    match finished simulation with
    | some _ => []
    | none =>
      match simulation.step with
      | .error _ => []
      | .ok ⟨later, _, .ok true⟩ =>
        ⟨simulation,.command .step,later⟩ :: stepsUntil finished bound later
      | .ok ⟨later, _, .ok false⟩ | .ok ⟨later, _, .error _⟩ => [⟨simulation,.command .step,later⟩]

end Simulation

/-- What was done one after the other, oldest first, and the simulation after it. Nothing overflowed,
and no event was lost. -/
inductive Chronicle (first : Simulation ρ) : List (Turn ρ) → Simulation ρ → Prop
  | begin : Chronicle first [] first
  | act {turns : List (Turn ρ)} {last later : Simulation ρ} {act : Act}
      (before : Chronicle first turns last) (enacted : last.enact act = .ok later)
      (keeps : last.KeepsAll act) : Chronicle first (turns ++ [⟨last,act,later⟩]) later
  | run {turns : List (Turn ρ)} {last : Simulation ρ} {finished : Simulation ρ → Option Verdict}
      {bound : Nat} {outcome : Outcome ρ Simulation.Ending} (before : Chronicle first turns last)
      (ran : last.runUntil finished bound = .ok outcome) :
      Chronicle first (turns ++ last.stepsUntil finished bound) outcome.simulation

/-- The turn does not go back in time. What it queues is due from then on. What it processes was due
before all else that was queued, or at the same time and queued first, and it is processed when it is
due, or at once if that is past. -/
structure Turn.Coherent (turn : Turn ρ) : Prop where
  onward : turn.before.clock ≤ turn.after.clock
  ahead : ∀ entry ∈ turn.added, turn.after.clock ≤ entry.due
  processed : ∀ entry ∈ turn.taken, ∃ rest handled,
    turn.before.queue.entries = entry :: rest ∧
      (∀ other ∈ rest,
        entry.due < other.due ∨ entry.due = other.due ∧ entry.order < other.order) ∧
      (turn.before.takes entry rest).clock = turn.before.clock.later entry.due ∧
      (turn.before.takes entry rest).handle entry.event = .ok handled ∧
      turn.after = handled.simulation ∧ turn.after.clock = turn.before.clock.later entry.due

/-- The clock never goes back and the trace is in order of time. What was queued has been processed
once or is still queued. Every request for an assessment is recorded, and has been answered or its
answer is queued. -/
structure Coherent (turns : List (Turn ρ)) (last : Simulation ρ) : Prop where
  each : ∀ turn ∈ turns, turn.Coherent
  onward : turns.Pairwise fun earlier later => earlier.after.clock ≤ later.before.clock
  reached : ∀ turn ∈ turns, turn.after.clock ≤ last.clock
  told : last.trace.toList.Pairwise fun earlier later => earlier.instant ≤ later.instant
  past : ∀ event ∈ last.trace.toList, event.instant ≤ last.clock
  numbered : (turns.flatMap Turn.added).map QueueEntry.order = List.range last.queue.nextOrder
  once : (turns.flatMap Turn.taken ++ last.queue.entries).Perm (turns.flatMap Turn.added)
  requests : last.ccaRequests = last.ccaInstants.length
  answers : last.ccaRequests = last.ccaStatuses.length + last.queue.completions.length

namespace Simulation

variable {simulation later : Simulation ρ} {act : Act}

theorem Regular.enact (regular : simulation.Regular) (enacted : simulation.enact act = .ok later)
    (keeps : simulation.KeepsAll act) :
    later.Regular ∧ ∃ told fresh,
      simulation.Proceeds later (Turn.taken ⟨simulation,act,later⟩) told fresh := by
  cases act with
  | command command =>
    cases command with
    | start =>
      obtain ⟨outcome,started,rfl⟩ := except_map_eq_ok.mp enacted
      exact regular.start started (keeps rfl outcome started)
    | step =>
      obtain ⟨outcome,stepped,rfl⟩ := except_map_eq_ok.mp enacted
      exact regular.step stepped
    | cancel =>
      cases enacted
      exact ⟨⟨regular.rated,⟨_,Engine.cancel_at simulation.engine⟩,regular.ordered,regular.room,
        regular.synced⟩,_,_,.quiet (Int.le_refl _) ⟨by simp [cancel],by simp [cancel],rfl⟩ rfl⟩
    | advanceTo instant =>
      cases enacted
      exact ⟨⟨regular.rated,regular.staged,regular.ordered,regular.room,rfl⟩,_,_,
        .quiet (Instant.le_later _ _)
          ⟨by simp [advanceTo,tellTime],by simp [advanceTo,tellTime],rfl⟩ rfl⟩
  | change layer advice channel rate =>
    cases enacted
    have rated : SymbolRate.of rate.perSecond = .ok rate := dif_pos rate.nonzero
    exact ⟨⟨⟨rate,rated⟩,regular.staged,regular.ordered,regular.room,regular.synced⟩,_,_,
      .quiet (Int.le_refl _) ⟨by simp,by simp,rfl⟩ rfl⟩

section

variable {finished : Simulation ρ → Option Verdict} {bound : Nat} {outcome : Outcome ρ Ending}

theorem runUntil_stopped (stopped : finished simulation ≠ none ∨ bound = 0)
    (ran : simulation.runUntil finished bound = .ok outcome) :
    outcome.simulation = simulation ∧ simulation.stepsUntil finished bound = [] := by
  rw [runUntil.eq_def] at ran
  cases ends : finished simulation with
  | some verdict =>
    simp only [ends] at ran
    cases ran
    cases bound <;> simp [stepsUntil,ends]
  | none =>
    obtain rfl : bound = 0 := stopped.resolve_left fun unfinished => unfinished ends
    simp only [ends] at ran
    cases ran
    exact ⟨rfl,rfl⟩

theorem runUntil_goes_on (unfinished : finished simulation = none)
    (ran : simulation.runUntil finished (bound + 1) = .ok outcome) :
    ∃ later, simulation.enact (.command .step) = .ok later ∧
      (outcome.simulation = later ∧ simulation.stepsUntil finished (bound + 1) =
          [⟨simulation,.command .step,later⟩] ∨
        ∃ rest, later.runUntil finished bound = .ok rest ∧ outcome.simulation = rest.simulation ∧
          simulation.stepsUntil finished (bound + 1) =
            ⟨simulation,.command .step,later⟩ :: later.stepsUntil finished bound) := by
  rw [runUntil.eq_def] at ran
  simp only [unfinished] at ran
  obtain ⟨⟨later,notes,result⟩,stepped,ran⟩ := except_bind_eq_ok.mp ran
  refine ⟨later,congrArg (Except.map _) stepped,?_⟩
  simp only [stepsUntil,unfinished,stepped]
  cases result with
  | error error =>
    cases ran
    exact .inl ⟨rfl,rfl⟩
  | ok processed =>
    cases processed with
    | false =>
      cases ran
      exact .inl ⟨rfl,rfl⟩
    | true =>
      obtain ⟨rest,rests,ends⟩ := except_bind_eq_ok.mp ran
      cases ends
      exact .inr ⟨rest,rests,rfl,rfl⟩

end

end Simulation

theorem Turn.Coherent.of_enact {act : Act} {simulation later : Simulation ρ} {told : List TraceEvent}
    {fresh : Option QueueEntry}
    (regular : simulation.Regular) (enacted : simulation.enact act = .ok later)
    (proceeds : simulation.Proceeds later (Turn.taken ⟨simulation,act,later⟩) told fresh) :
    Turn.Coherent ⟨simulation,act,later⟩ where
  onward := proceeds.onward
  ahead := by
    intro entry member
    rw [Turn.added_eq regular.ordered proceeds] at member
    exact proceeds.ahead entry (Option.mem_toList.mp member)
  processed := by
    intro entry member
    obtain ⟨rate,rated⟩ := regular.rated
    obtain ⟨stage,inside⟩ := regular.staged
    obtain ⟨steps,rest,queued⟩ := Turn.mem_taken member
    cases (steps : act = .command .step)
    obtain ⟨outcome,stepped,rfl⟩ := except_map_eq_ok.mp enacted
    obtain ⟨handled,handling,after⟩ := Simulation.step_takes queued stepped
    have sorted := regular.ordered.sorted
    rw [queued] at sorted
    refine ⟨rest,handled,queued,?_,rfl,handling,congrArg Outcome.simulation after,
      Simulation.step_clock rated inside queued stepped⟩
    intro other queued
    exact QueueEntry.precedes_iff.mp ((List.pairwise_cons.mp sorted).1 other queued)

namespace Coherent

variable {turns : List (Turn ρ)} {last later : Simulation ρ}

theorem begin (engine : Engine ρ) (layer : LayerFacts) (phy : Phy) (channel : Channel) :
    Coherent [] (Simulation.ofPhy engine layer phy channel) where
  each := by simp
  onward := .nil
  reached := by simp
  told := .nil
  past := by simp [Simulation.ofPhy]
  numbered := rfl
  once := .refl _
  requests := rfl
  answers := rfl

theorem next {act : Act} {told : List TraceEvent} {fresh : Option QueueEntry}
    (coherent : Coherent turns last) (ordered : last.queue.Ordered)
    (turn : Turn.Coherent ⟨last,act,later⟩)
    (proceeds : last.Proceeds later (Turn.taken ⟨last,act,later⟩) told fresh) :
    Coherent (turns ++ [⟨last,act,later⟩]) later := by
  have onward := proceeds.onward
  have added : Turn.added ⟨last,act,later⟩ = fresh.toList := Turn.added_eq ordered proceeds
  refine ⟨?each,?onward,?reached,?told,?past,?numbered,?once,?requests,?answers⟩
  case each =>
    intro other member
    rcases List.mem_append.mp member with member | member
    · exact coherent.each other member
    · rw [List.mem_singleton.mp member]
      exact turn
  case onward =>
    refine List.pairwise_append.mpr ⟨coherent.onward,List.pairwise_singleton _ _,?_⟩
    intro earlier member other member'
    rw [List.mem_singleton.mp member']
    exact coherent.reached earlier member
  case reached =>
    intro other member
    rcases List.mem_append.mp member with member | member
    · exact Int.le_trans (coherent.reached other member) onward
    · rw [List.mem_singleton.mp member]
      exact Int.le_refl _
  case told => exact (proceeds.in_order coherent.told coherent.past).1
  case past => exact (proceeds.in_order coherent.told coherent.past).2
  case numbered =>
    rw [List.flatMap_append,List.map_append,coherent.numbered,proceeds.counted,List.flatMap_singleton,
      added]
    cases fresh with
    | none => simp
    | some entry => simp [List.range_succ,proceeds.numbered entry rfl]
  case once =>
    rw [List.flatMap_append,List.flatMap_append,List.flatMap_singleton,List.flatMap_singleton,added,
      List.append_assoc]
    -- The queue after the turn is traded for the one before it, then that for the turns before.
    calc List.Perm _ (turns.flatMap Turn.taken ++ (fresh.toList ++ last.queue.entries)) :=
          proceeds.queued.append_left _
      List.Perm _ (fresh.toList ++ (turns.flatMap Turn.taken ++ last.queue.entries)) :=
          List.perm_append_comm_assoc ..
      List.Perm _ (fresh.toList ++ turns.flatMap Turn.added) := coherent.once.append_left _
      List.Perm _ (turns.flatMap Turn.added ++ fresh.toList) := List.perm_append_comm
  case requests =>
    rw [proceeds.tells.requests,proceeds.tells.ccaInstants,List.length_append,coherent.requests]
  case answers =>
    have accounts := proceeds.accounts
    have answers := coherent.answers
    omega

theorem enact {act : Act} (regular : last.Regular) (coherent : Coherent turns last)
    (enacted : last.enact act = .ok later) (keeps : last.KeepsAll act) :
    later.Regular ∧ Coherent (turns ++ [⟨last,act,later⟩]) later := by
  obtain ⟨regular',_,_,proceeds⟩ := regular.enact enacted keeps
  exact ⟨regular',coherent.next regular.ordered (.of_enact regular enacted proceeds) proceeds⟩

theorem run {finished : Simulation ρ → Option Verdict} {bound : Nat}
    {outcome : Outcome ρ Simulation.Ending} (regular : last.Regular) (coherent : Coherent turns last)
    (ran : last.runUntil finished bound = .ok outcome) :
    outcome.simulation.Regular ∧
      Coherent (turns ++ last.stepsUntil finished bound) outcome.simulation := by
  -- On the bound, with the turns so far: each step is a turn of its own, and the run goes on from it.
  induction bound generalizing turns last outcome with
  | zero =>
    obtain ⟨same,still⟩ := Simulation.runUntil_stopped (.inr rfl) ran
    rw [same,still,List.append_nil]
    exact ⟨regular,coherent⟩
  | succ bound ih =>
    by_cases unfinished : finished last = none
    · obtain ⟨later,enacted,⟨same,steps⟩ | ⟨rest,rests,same,steps⟩⟩ :=
        Simulation.runUntil_goes_on unfinished ran
      · rw [same,steps]
        exact coherent.enact regular enacted (.of_ne (by simp))
      · obtain ⟨regular',coherent'⟩ := coherent.enact regular enacted (.of_ne (by simp))
        rw [same,steps,List.append_cons]
        exact ih regular' coherent' rests
    · obtain ⟨same,still⟩ := Simulation.runUntil_stopped (.inl unfinished) ran
      rw [same,still,List.append_nil]
      exact ⟨regular,coherent⟩

end Coherent

theorem Chronicle.regular {first last : Simulation ρ} {turns : List (Turn ρ)}
    (chronicle : Chronicle first turns last) (regular : first.Regular) (begins : Coherent [] first) :
    last.Regular ∧ Coherent turns last := by
  induction chronicle with
  | begin => exact ⟨regular,begins⟩
  | act before enacted keeps ih => exact ih.2.enact ih.1 enacted keeps
  | run before ran ih => exact ih.2.run ih.1 ran

/-- Between two acts the layer's copy of the clock is the clock. What an act records is stamped with
the clock that the act reaches. -/
theorem Chronicle.synced {engine : Engine ρ} {stage : Stage} {layer : LayerFacts} {phy : Phy}
    {channel : Channel} {turns : List (Turn ρ)} {last later : Simulation ρ} {act : Act}
    (inside : engine.At stage)
    (chronicle : Chronicle (Simulation.ofPhy engine layer phy channel) turns last)
    (enacted : last.enact act = .ok later) (keeps : last.KeepsAll act) :
    last.layerClock = last.clock ∧ ∃ told, later.trace.toList = last.trace.toList ++ told ∧
      ∀ event ∈ told, event.instant = later.clock := by
  obtain ⟨regular,_⟩ := chronicle.regular (Simulation.Regular.ofPhy inside layer phy channel)
    (.begin engine layer phy channel)
  obtain ⟨_,told,fresh,proceeds⟩ := regular.enact enacted keeps
  exact ⟨regular.synced,told,proceeds.tells.trace,proceeds.now⟩

/-- Whatever is done to a simulation in whatever order, and whatever changes around it, time never goes
back and the trace is in order of time. As long as no event is lost, every event that is queued is due
no sooner than it is queued and is processed once, by due time and then in the order of queueing, when
it is due or at once if the clock has passed that. Every request for an assessment is in the trace, and
so is its answer unless that is still queued. -/
theorem chronicle_coherent {policy : Policy} {words : ρ} {first engine : Engine ρ}
    {deeds : List (Deed ρ)} {layer : LayerFacts} {phy : Phy} {channel : Channel}
    {turns : List (Turn ρ)} {last : Simulation ρ} (made : Engine.new policy words = .ok first)
    (run : Run first deeds engine)
    (chronicle : Chronicle (Simulation.ofPhy engine layer phy channel) turns last) :
    Coherent turns last := by
  obtain ⟨_,stage,tracks⟩ := Engine.Tracks.run made run
  have regular := Simulation.Regular.ofPhy tracks.inside layer phy channel
  exact (chronicle.regular regular (.begin engine layer phy channel)).2

/-- An attempt is cancelled while the channel is assessed, then the clock, the channel and the symbol
rate change, and the next attempt runs to its end. The event that was left over comes in its turn,
between those of the next attempt. -/
theorem chronicle_coherent_cancelled :
    ∃ (turns : List (Turn WordScript)) (last : Simulation WordScript),
      Chronicle (Simulation.ofPhy Simulation.restless.engine Simulation.restless.layer .oqpsk2450
        Simulation.restless.channel) turns last ∧
      (turns.flatMap Turn.taken).map QueueEntry.order = [0,1,3,4,2,5] ∧
      last.queue.entries = [] ∧ last.ccaRequests = 2 ∧ last.ccaStatuses.length = 2 ∧
      Coherent turns last := by
  obtain ⟨turns,last,chronicle,orders,empty,requests⟩ :
      ∃ (turns : List (Turn WordScript)) (last : Simulation WordScript),
        Chronicle (Simulation.ofPhy Simulation.restless.engine Simulation.restless.layer .oqpsk2450
          Simulation.restless.channel) turns last ∧
        (turns.flatMap Turn.taken).map QueueEntry.order = [0,1,3,4,2,5] ∧
        last.queue.entries = [] ∧ last.ccaRequests = 2 :=
    ⟨_,_,
      .run (.act (.act (.act (.act (.act (.act (.act .begin
        (rfl : Simulation.enact _ (.command .start) = _)
          fun _ _ started => by cases started; decide)
        (rfl : Simulation.enact _ (.command .step) = _) (.of_ne (by simp)))
        (rfl : Simulation.enact _ (.command .step) = _) (.of_ne (by simp)))
        (rfl : Simulation.enact _ (.command .cancel) = _) (.of_ne (by simp)))
        (rfl : Simulation.enact _ (.command (.advanceTo ⟨100⟩)) = _) (.of_ne (by simp)))
        (rfl : Simulation.enact _ (.change Simulation.restless.layer (some 0) (.scripted [.busy])
          (.ofPhy .oqpsk868)) = _) (.of_ne (by simp)))
        (rfl : Simulation.enact _ (.command .start) = _)
          fun _ _ started => by cases started; decide)
        (rfl : Simulation.runUntil (fun _ => none) 10 _ = _),
      rfl,rfl,rfl⟩
  have made : Engine.new { maxBackoffs := 0 } (⟨[]⟩ : WordScript) = .ok Simulation.restless.engine := rfl
  have coherent := chronicle_coherent made .start chronicle
  have answers := coherent.answers
  rw [requests,EventQueue.completions,empty] at answers
  exact ⟨turns,last,chronicle,orders,empty,requests,answers.symm,coherent⟩

end ChannelAccess
