import ChannelAccess.Proofs.AgendaOrder
import ChannelAccess.Proofs.Fallible
import ChannelAccess.Proofs.Simulation.Queue
import ChannelAccess.Simulation.Basic

/-!
Stores of timers. A waiting list keeps what was put in, in that order, and gives out the first of those
that no other is due before. The agenda of an access and the queue of a simulation file what they hold
under numbers and keep it in other orders, and both answer as waiting lists do; so they answer alike
as long as neither is full. Main statement: `agenda_stable`.
-/

namespace ChannelAccess

/-- What is asked of a store of timers. The clock that it goes by is set from outside. -/
inductive TimerRequest where
  | schedule (delay : Span) (timer : Timer)
  | next
  | setClock (now : Instant)

namespace TimerRequest

def scheduled? : TimerRequest → Option Timer
  | .schedule _ timer => some timer
  | .next | .setClock _ => none

/-- How many timers a store holds after the request, if it has room. -/
def holding (held : Nat) : TimerRequest → Nat
  | .schedule _ _ => held + 1
  | .next => held - 1
  | .setClock _ => held

end TimerRequest

def scheduled (requests : List TimerRequest) : List Timer :=
  requests.filterMap TimerRequest.scheduled?

@[simp] theorem scheduled_cons (request : TimerRequest) (requests : List TimerRequest) :
    scheduled (request :: requests) = request.scheduled?.toList ++ scheduled requests := by
  cases request <;> rfl

/-- A store that holds so many timers never holds more than there is room for. -/
def Uncrowded (room held : Nat) (requests : List TimerRequest) : Prop :=
  ∀ front, front <+: requests → front.foldl TimerRequest.holding held ≤ room

section Uncrowded

variable {room held : Nat} {request : TimerRequest} {requests : List TimerRequest}

theorem uncrowded_nil : Uncrowded room held [] ↔ held ≤ room := by
  simp [Uncrowded]

theorem uncrowded_cons :
    Uncrowded room held (request :: requests) ↔
      held ≤ room ∧ Uncrowded room (request.holding held) requests := by
  constructor
  · intro uncrowded
    refine ⟨uncrowded [] List.nil_prefix,fun front leads => ?_⟩
    exact uncrowded (request :: front) ((List.prefix_cons_inj request).mpr leads)
  · rintro ⟨fits,uncrowded⟩ front leads
    rcases List.prefix_cons_iff.mp leads with rfl | ⟨rest,rfl,leads'⟩
    · exact fits
    · exact uncrowded rest leads'

instance decidableUncrowded (room held : Nat) :
    (requests : List TimerRequest) → Decidable (Uncrowded room held requests)
  | [] => decidable_of_iff _ uncrowded_nil.symm
  | request :: requests =>
    have := decidableUncrowded room (request.holding held) requests
    decidable_of_iff _ uncrowded_cons.symm

theorem Uncrowded.within (uncrowded : Uncrowded room held requests) : held ≤ room :=
  uncrowded [] List.nil_prefix

end Uncrowded

/-- An event and when it is due. -/
structure Waiting where
  due : Instant
  event : Event
  deriving DecidableEq, Repr

/-- What a store gives out. It answers when it is asked for what comes next, with none if it holds
nothing. -/
abbrev Answers := List (Option Waiting)

def serveAll {store : Type} (serve : store → TimerRequest → Except Overflow (Answers × store))
    (kept : store) : List TimerRequest → Except Overflow (Answers × store)
  | [] => .ok ([], kept)
  | request :: requests => do
    let (answer, later) ← serve kept request
    let (answers, last) ← serveAll serve later requests
    return (answer ++ answers, last)

/-- What waits, in the order in which it was put in. -/
structure WaitingList where
  now : Instant
  waiting : List Waiting := []

/-- No other is due before it. -/
def Waiting.leads (waiting : List Waiting) (first : Waiting) : Bool :=
  waiting.all fun other => first.due ≤ other.due

/-- It is due before all that were put in earlier, and no later than those that were put in later. -/
structure Foremost (before : List Waiting) (first : Waiting) (after : List Waiting) : Prop where
  sooner : ∀ other ∈ before, first.due < other.due
  least : ∀ other ∈ after, first.due ≤ other.due

namespace WaitingList

/-- A timer for which there is no room is lost. -/
def serve (room : Nat) (list : WaitingList) :
    TimerRequest → Except Overflow (Answers × WaitingList)
  | .schedule delay timer => do
    let due ← list.now.plus delay
    if list.waiting.length < room then
      return ([], { list with waiting := list.waiting ++ [⟨due, .timer timer⟩] })
    else
      return ([], list)
  | .next =>
    let leads := Waiting.leads list.waiting
    .ok ([list.waiting.find? leads], { list with waiting := list.waiting.eraseP leads })
  | .setClock now => .ok ([], { list with now })

end WaitingList

def Agenda.serve (agenda : Agenda) : TimerRequest → Except Overflow (Answers × Agenda)
  | .schedule delay timer => do
    let (_, later) ← agenda.schedule delay timer
    return ([], later)
  | .next =>
    match agenda.pop? with
    | none => .ok ([none], agenda)
    | some (entry, later) => .ok ([some ⟨entry.due, .timer entry.timer⟩], later)
  | .setClock now => .ok ([], { agenda with now })

def Simulation.serve {ρ : Type} (simulation : Simulation ρ) :
    TimerRequest → Except Overflow (Answers × Simulation ρ)
  | .schedule delay timer => do
    let (later, _) ← simulation.hear (.schedule timer delay)
    return ([], later)
  | .next =>
    match simulation.queue.pop? with
    | none => .ok ([none], simulation)
    | some (entry, queue) => .ok ([some ⟨entry.due, entry.event⟩], { simulation with queue })
  | .setClock clock => .ok ([], { simulation with clock })

theorem Foremost.leads {before after : List Waiting} {first : Waiting}
    (foremost : Foremost before first after) :
    Waiting.leads (before ++ first :: after) first = true ∧
      ∀ other ∈ before, ¬ Waiting.leads (before ++ first :: after) other = true := by
  have sooner := foremost.sooner
  have least := foremost.least
  simp only [Waiting.leads,List.all_eq_true,decide_eq_true_eq,Instant.le_def,Instant.lt_def] at *
  constructor
  · intro other member
    rcases List.mem_append.mp member with before | after
    · exact Int.le_of_lt (sooner other before)
    · rcases List.mem_cons.mp after with rfl | after
      · exact Int.le_refl _
      · exact least other after
  · intro other member leads
    have late := leads first (by simp)
    have early := sooner other member
    omega

theorem exists_foremost {waiting : List Waiting} (some : waiting ≠ []) :
    ∃ before first after, waiting = before ++ first :: after ∧ Foremost before first after := by
  induction waiting with
  | nil => exact absurd rfl some
  | cons head rest ih =>
    cases rest with
    | nil => exact ⟨[],head,[],rfl,⟨by simp,by simp⟩⟩
    | cons next rest =>
      obtain ⟨before,first,after,split,foremost⟩ := ih (by simp)
      rw [split]
      by_cases sooner : first.due < head.due
      · exact ⟨head :: before,first,after,rfl,⟨by simpa [sooner] using foremost.sooner,foremost.least⟩⟩
      · refine ⟨[],head,_,rfl,⟨by simp,fun other member => ?_⟩⟩
        have leads := List.all_eq_true.mp foremost.leads.1 other member
        simp only [decide_eq_true_eq,Instant.le_def,Instant.lt_def] at leads sooner ⊢
        omega

theorem WaitingList.serve_next {list : WaitingList} {before after : List Waiting} {first : Waiting}
    (room : Nat) (split : list.waiting = before ++ first :: after)
    (foremost : Foremost before first after) :
    list.serve room .next = .ok ([some first],{ list with waiting := before ++ after }) := by
  obtain ⟨leads,behind⟩ := foremost.leads
  have found : (before ++ first :: after).find? (Waiting.leads (before ++ first :: after)) =
      some first := by
    rw [List.find?_append,List.find?_eq_none.mpr behind,Option.none_or]
    exact List.find?_cons_of_pos leads
  have left : (before ++ first :: after).eraseP (Waiting.leads (before ++ first :: after)) =
      before ++ after := by
    rw [List.eraseP_append_right _ behind,List.eraseP_cons_of_pos leads]
  simp only [serve]
  rw [split,found,left]

theorem WaitingList.serve_idle {list : WaitingList} (room : Nat) (idle : list.waiting = []) :
    list.serve room .next = .ok ([none],list) := by
  obtain ⟨now,waiting⟩ := list
  cases idle
  rfl

def QueueEntry.waiting (entry : QueueEntry) : Waiting := ⟨entry.due,entry.event⟩

/-- Put in the order of their numbers, which are less than the count, the entries are what waits. -/
def Filed (entries : List QueueEntry) (waiting : List Waiting) (count : Nat) : Prop :=
  ∃ kept : List QueueEntry, entries.Perm kept ∧ waiting = kept.map QueueEntry.waiting ∧
    kept.Pairwise (fun a b => a.order < b.order) ∧ ∀ entry ∈ kept, entry.order < count

namespace Filed

variable {entries later rest : List QueueEntry} {entry : QueueEntry} {waiting : List Waiting}
  {count : Nat}

theorem length_eq (filed : Filed entries waiting count) : entries.length = waiting.length := by
  obtain ⟨kept,same,rfl,_⟩ := filed
  rw [List.length_map,same.length_eq]

theorem perm (filed : Filed entries waiting count) :
    (entries.map QueueEntry.waiting).Perm waiting := by
  obtain ⟨kept,same,rfl,_⟩ := filed
  exact same.map QueueEntry.waiting

theorem full (filed : Filed entries waiting count) : Filed entries waiting (count + 1) := by
  obtain ⟨kept,same,waits,inTurn,numbered⟩ := filed
  exact ⟨kept,same,waits,inTurn,fun entry member => Nat.lt_succ_of_lt (numbered entry member)⟩

theorem put (filed : Filed entries waiting count) {due : Instant} {event : Event}
    (added : later.Perm (⟨due,count,event⟩ :: entries)) :
    Filed later (waiting ++ [⟨due,event⟩]) (count + 1) := by
  obtain ⟨kept,same,rfl,inTurn,numbered⟩ := filed
  refine ⟨kept ++ [⟨due,count,event⟩],?same,by simp [QueueEntry.waiting],?inTurn,?numbered⟩
  case same => exact added.trans ((same.cons _).trans (List.perm_append_singleton _ kept).symm)
  case inTurn =>
    refine List.pairwise_append.mpr ⟨inTurn,List.pairwise_singleton _ _,?_⟩
    intro entry member other last
    rw [List.mem_singleton.mp last]
    exact numbered entry member
  case numbered =>
    intro entry member
    rcases List.mem_append.mp member with member | last
    · exact Nat.lt_succ_of_lt (numbered entry member)
    · rw [List.mem_singleton.mp last]
      exact Nat.lt_succ_self count

/-- An entry that none of the others precedes is the foremost of what waits. -/
theorem take (filed : Filed entries waiting count) (taken : entries.Perm (entry :: rest))
    (leads : ∀ other ∈ rest, ¬ other.precedes entry = true) :
    ∃ before after, waiting = before ++ entry.waiting :: after ∧
      Foremost before entry.waiting after ∧ Filed rest (before ++ after) count := by
  obtain ⟨kept,same,rfl,inTurn,numbered⟩ := filed
  -- The numbers part what was put in before the entry from what was put in after it, so of two that
  -- are due together the one with the smaller number was there first.
  have among : entry ∈ kept := (taken.symm.trans same).subset List.mem_cons_self
  obtain ⟨before,after,rfl⟩ := List.append_of_mem among
  have others : rest.Perm (before ++ after) :=
    ((taken.symm.trans same).trans List.perm_middle).cons_inv
  obtain ⟨_,_,apart⟩ := List.pairwise_append.mp inTurn
  refine ⟨before.map QueueEntry.waiting,after.map QueueEntry.waiting,by simp,⟨?sooner,?least⟩,
    before ++ after,others,by simp,?inTurn,?numbered⟩
  case sooner =>
    intro waits member
    obtain ⟨other,queued,rfl⟩ := List.mem_map.mp member
    have behind := leads other (others.mem_iff.mpr (List.mem_append_left _ queued))
    have older := apart other queued entry List.mem_cons_self
    rw [QueueEntry.not_precedes_iff] at behind
    rw [Instant.lt_def]
    simp only [QueueEntry.waiting]
    omega
  case least =>
    intro waits member
    obtain ⟨other,queued,rfl⟩ := List.mem_map.mp member
    have behind := leads other (others.mem_iff.mpr (List.mem_append_right _ queued))
    exact (QueueEntry.not_precedes_iff.mp behind).1
  case inTurn =>
    exact inTurn.sublist ((List.sublist_cons_self entry after).append_left before)
  case numbered =>
    intro other member
    apply numbered other
    rcases List.mem_append.mp member with member | member
    · exact List.mem_append_left _ member
    · exact List.mem_append_right _ (List.mem_cons_of_mem _ member)

end Filed

/-- Stores that answer each request alike answer all of them alike, as long as the numbers of what is
put in do not come round. -/
theorem serveAll_coupled {store store' : Type}
    {serve : store → TimerRequest → Except Overflow (Answers × store)}
    {serve' : store' → TimerRequest → Except Overflow (Answers × store')}
    {related : Nat → store → store' → Prop}
    (serves : ∀ count kept kept' request, related count kept kept' →
      count + request.scheduled?.toList.length ≤ 4294967296 →
      Coupled (fun left right => left.1 = right.1 ∧
          related (count + request.scheduled?.toList.length) left.2 right.2)
        (serve kept request) (serve' kept' request))
    {requests : List TimerRequest} {count : Nat} {kept : store} {kept' : store'}
    (relates : related count kept kept') (few : count + (scheduled requests).length ≤ 4294967296) :
    Coupled (fun left right => left.1 = right.1 ∧
        related (count + (scheduled requests).length) left.2 right.2)
      (serveAll serve kept requests) (serveAll serve' kept' requests) := by
  induction requests generalizing count kept kept' with
  | nil => exact .done ⟨rfl,relates⟩
  | cons request requests ih =>
    rw [scheduled_cons,List.length_append,← Nat.add_assoc] at few ⊢
    refine (serves count kept kept' request relates (by omega)).bind ?_
    rintro ⟨answer,later⟩ ⟨_,later'⟩ ⟨rfl,relates⟩
    refine (ih relates few).bind ?_
    rintro ⟨answers,last⟩ ⟨_,last'⟩ ⟨rfl,relates⟩
    exact .done ⟨rfl,relates⟩

def AgendaEntry.queued (entry : AgendaEntry) : QueueEntry :=
  ⟨entry.due,entry.order.toNat,.timer entry.timer⟩

theorem AgendaEntry.precedes_queued (a b : AgendaEntry) :
    a.queued.precedes b.queued = a.precedes b := by
  have older : a.order < b.order ↔ a.order.toNat < b.order.toNat := UInt32.lt_iff_toNat_lt
  rw [precedes,decide_eq_decide.mpr older]
  rfl

namespace Agenda

/-- The agenda holds what waits, after so many timers were scheduled. -/
structure Mirrors (count : Nat) (agenda : Agenda) (list : WaitingList) : Prop where
  now : agenda.now = list.now
  next : agenda.nextOrder = UInt32.ofNat count
  filed : Filed (agenda.entries.map AgendaEntry.queued) list.waiting count

theorem Mirrors.served {count : Nat} {agenda : Agenda} {list : WaitingList} {request : TimerRequest}
    (mirrors : agenda.Mirrors count list)
    (few : count + request.scheduled?.toList.length ≤ 4294967296) :
    Coupled (fun left right => left.1 = right.1 ∧
        left.2.Mirrors (count + request.scheduled?.toList.length) right.2)
      (agenda.serve request) (list.serve capacity request) := by
  cases request with
  | schedule delay timer =>
    rw [serve,schedule,mirrors.now,WaitingList.serve]
    cases list.now.plus delay with
    | error failure => exact .overflow failure
    | ok due =>
      have size := mirrors.filed.length_eq
      rw [List.length_map] at size
      -- This timer's number has not come round yet, though the next one may have.
      have number : agenda.nextOrder.toNat = count := by
        rw [mirrors.next]
        exact UInt32.toNat_ofNat_of_lt' few
      simp only [except_ok_bind]
      rw [← size]
      have next : agenda.nextOrder + 1 = UInt32.ofNat (count + 1) := by
        rw [mirrors.next,UInt32.ofNat_add]
        rfl
      by_cases room : agenda.entries.length < capacity
      · rw [if_pos room,if_pos room]
        refine .done ⟨rfl,rfl,next,mirrors.filed.put ?_⟩
        rw [List.map_append,← number]
        exact List.perm_append_singleton _ _
      · rw [if_neg room,if_neg room]
        exact .done ⟨rfl,rfl,next,mirrors.filed.full⟩
  | next =>
    rw [serve]
    cases popped : agenda.pop? with
    | none =>
      have size := mirrors.filed.length_eq
      rw [pop?_eq_none.mp popped] at size
      rw [WaitingList.serve_idle capacity (List.length_eq_zero_iff.mp size.symm)]
      exact .done ⟨rfl,mirrors⟩
    | some taken =>
      obtain ⟨entry,later⟩ := taken
      obtain ⟨same,leads,rest⟩ := pop?_eq_some popped
      obtain ⟨before,after,split,foremost,filed⟩ := mirrors.filed.take (same.map AgendaEntry.queued)
        (by simpa [AgendaEntry.precedes_queued] using leads)
      rw [WaitingList.serve_next capacity split foremost]
      refine .done ⟨rfl,?_,?_,filed⟩
      · rw [rest]
        exact mirrors.now
      · rw [rest]
        exact mirrors.next
  | setClock now => exact .done ⟨rfl,rfl,mirrors.next,mirrors.filed⟩

end Agenda

namespace Simulation

variable {ρ : Type}

/-- The queue holds what waits, after so many timers were scheduled. -/
structure Mirrors (count : Nat) (simulation : Simulation ρ) (list : WaitingList) : Prop where
  clock : simulation.clock = list.now
  next : simulation.queue.nextOrder = count
  ordered : simulation.queue.Ordered
  filed : Filed simulation.queue.entries list.waiting count

theorem Mirrors.served {count : Nat} {simulation : Simulation ρ} {list : WaitingList}
    {request : TimerRequest} (mirrors : simulation.Mirrors count list) :
    Coupled (fun left right => left.1 = right.1 ∧
        left.2.Mirrors (count + request.scheduled?.toList.length) right.2)
      (simulation.serve request) (list.serve EventQueue.capacity request) := by
  cases request with
  | schedule delay timer =>
    rw [serve,hear,mirrors.clock,WaitingList.serve]
    cases list.now.plus delay with
    | error failure => exact .overflow failure
    | ok due =>
      simp only [except_ok_bind]
      have next := (EventQueue.push_nextOrder simulation.queue due (.timer timer)).trans
        (congrArg (· + 1) mirrors.next)
      have ordered := mirrors.ordered.push due (.timer timer)
      by_cases room : simulation.queue.size < EventQueue.capacity
      · have added := EventQueue.push_perm room due (.timer timer)
        rw [mirrors.next] at added
        rw [if_pos (mirrors.filed.length_eq ▸ room)]
        exact .done ⟨rfl,mirrors.clock,next,ordered,mirrors.filed.put added⟩
      · have lost : (simulation.queue.push due (.timer timer)).2.entries =
            simulation.queue.entries := by
          rw [EventQueue.push,if_neg room]
        have filed := mirrors.filed.full
        rw [← lost] at filed
        rw [if_neg (mirrors.filed.length_eq ▸ room)]
        exact .done ⟨rfl,mirrors.clock,next,ordered,filed⟩
  | next =>
    rw [serve,EventQueue.pop?]
    cases queued : simulation.queue.entries with
    | nil =>
      have size := mirrors.filed.length_eq
      rw [queued] at size
      rw [WaitingList.serve_idle _ (List.length_eq_zero_iff.mp size.symm)]
      exact .done ⟨rfl,mirrors⟩
    | cons entry rest =>
      have sorted := mirrors.ordered.sorted
      rw [queued] at sorted
      have leads := (List.pairwise_cons.mp sorted).1
      obtain ⟨before,after,split,foremost,filed⟩ := mirrors.filed.take (.of_eq queued)
        fun other member => QueueEntry.precedes_asymm (leads other member)
      rw [WaitingList.serve_next _ split foremost]
      exact .done ⟨rfl,mirrors.clock,mirrors.next,mirrors.ordered.tail queued,filed⟩
  | setClock now => exact .done ⟨rfl,rfl,mirrors.next,mirrors.ordered,mirrors.filed⟩

end Simulation

/-- The events that were given out, oldest first. -/
def given (answers : Answers) : List Event := answers.filterMap (Option.map Waiting.event)

namespace WaitingList

variable {room more : Nat} {list later last : WaitingList} {request : TimerRequest}
  {requests : List TimerRequest} {answers : Answers}

/-- Within its room a list gains what is put in and loses what it gives out. -/
theorem serve_within (served : list.serve room request = .ok (answers,later))
    (within : request.holding list.waiting.length ≤ room) :
    later.waiting.length = request.holding list.waiting.length ∧
      (list.waiting.map Waiting.event ++ request.scheduled?.toList.map Event.timer).Perm
        (given answers ++ later.waiting.map Waiting.event) := by
  cases request with
  | schedule delay timer =>
    obtain ⟨due,_,served⟩ := except_bind_eq_ok.mp served
    rw [if_pos (show list.waiting.length < room from within)] at served
    cases served
    simp [TimerRequest.holding,TimerRequest.scheduled?,given]
  | next =>
    by_cases idle : list.waiting = []
    · rw [serve_idle room idle] at served
      cases served
      simp [TimerRequest.holding,TimerRequest.scheduled?,given,idle]
    · obtain ⟨before,first,after,split,foremost⟩ := exists_foremost idle
      rw [serve_next room split foremost] at served
      cases served
      refine ⟨by simp [TimerRequest.holding,split],?_⟩
      simp [TimerRequest.scheduled?,given,split,List.perm_middle]
  | setClock now =>
    cases served
    simp [TimerRequest.holding,TimerRequest.scheduled?,given]

theorem serve_roomier (within : request.holding list.waiting.length ≤ room) (wider : room ≤ more) :
    list.serve more request = list.serve room request := by
  cases request with
  | schedule delay timer =>
    have fits : list.waiting.length < room := within
    simp only [serve,fits,Nat.lt_of_lt_of_le fits wider,if_true]
  | next | setClock now => rfl

/-- A list that is never full does not tell how much more room there is. -/
theorem serveAll_roomier (uncrowded : Uncrowded room list.waiting.length requests)
    (wider : room ≤ more) :
    serveAll (serve more) list requests = serveAll (serve room) list requests := by
  induction requests generalizing list with
  | nil => rfl
  | cons request requests ih =>
    have goesOn := (uncrowded_cons.mp uncrowded).2
    rw [serveAll,serveAll,serve_roomier goesOn.within wider]
    cases served : list.serve room request with
    | error failure => rfl
    | ok outcome =>
      obtain ⟨answer,later⟩ := outcome
      have size := (serve_within served goesOn.within).1
      simp only [except_ok_bind,ih (size ▸ goesOn)]

/-- Nothing is lost and nothing is given out twice. -/
theorem serveAll_conserves (uncrowded : Uncrowded room list.waiting.length requests)
    (ran : serveAll (serve room) list requests = .ok (answers,last)) :
    (list.waiting.map Waiting.event ++ (scheduled requests).map Event.timer).Perm
      (given answers ++ last.waiting.map Waiting.event) := by
  induction requests generalizing list answers with
  | nil =>
    cases ran
    simp [scheduled,given]
  | cons request requests ih =>
    obtain ⟨⟨answer,later⟩,served,ran⟩ := except_bind_eq_ok.mp ran
    obtain ⟨⟨others,_⟩,ran,ends⟩ := except_bind_eq_ok.mp ran
    cases ends
    have goesOn := (uncrowded_cons.mp uncrowded).2
    obtain ⟨size,same⟩ := serve_within served goesOn.within
    have kept := ih (size ▸ goesOn) ran
    have told : given (answer ++ others) = given answer ++ given others := List.filterMap_append
    rw [scheduled_cons,List.map_append,← List.append_assoc,told,List.append_assoc (given answer)]
    refine (same.append_right _).trans ?_
    rw [List.append_assoc]
    exact kept.append_left _

end WaitingList

/-- The agenda of an access is a waiting list with room for eight, whatever is asked of it: the timers
come out in the order of their due times, and those that are due together in the order in which they
were scheduled. As long as no more than eight are held at once no timer is lost and none comes out
twice, and the queue of a simulation gives out the same timers. A timer for which there is no room
leaves the eight as they are. -/
theorem agenda_stable {ρ : Type} (now : Instant) (requests : List TimerRequest)
    (few : (scheduled requests).length ≤ 4294967296) :
    Coupled (fun left right => left.1 = right.1 ∧
        (left.2.entries.map fun entry => Waiting.mk entry.due (.timer entry.timer)).Perm
          right.2.waiting)
      (serveAll Agenda.serve { now } requests)
      (serveAll (WaitingList.serve Agenda.capacity) { now } requests) ∧
    (∀ list : WaitingList, list.waiting ≠ [] → ∃ before first after,
      list.waiting = before ++ first :: after ∧ Foremost before first after ∧
        ∀ room, list.serve room .next =
          .ok ([some first],{ list with waiting := before ++ after })) ∧
    (Uncrowded Agenda.capacity 0 requests →
      (∀ answers agenda, serveAll Agenda.serve { now } requests = .ok (answers,agenda) →
        ((scheduled requests).map Event.timer).Perm
          (given answers ++ agenda.entries.map fun entry => .timer entry.timer)) ∧
      ∀ simulation : Simulation ρ, simulation.clock = now → simulation.queue = {} →
        (serveAll Simulation.serve simulation requests).map Prod.fst =
          (serveAll Agenda.serve { now } requests).map Prod.fst) ∧
    ∀ answers agenda, serveAll Agenda.serve { now } requests = .ok (answers,agenda) →
      agenda.entries.length = Agenda.capacity → ∀ delay timer,
        (agenda.schedule delay timer).map (fun (kept,later) => (kept,later.entries)) =
          (agenda.now.plus delay).map fun _ => (false,agenda.entries) := by
  have empty : Filed [] [] 0 := ⟨[],.refl _,rfl,.nil,by simp⟩
  have mirrored := serveAll_coupled (fun _ _ _ _ mirrors few => mirrors.served few)
    (⟨rfl,rfl,empty⟩ : Agenda.Mirrors 0 { now } { now }) (by simpa using few)
  refine ⟨?refines,?next,fun uncrowded => ⟨?conserves,?agrees⟩,?full⟩
  case refines =>
    refine mirrored.mono fun (_,agenda) _ ⟨same,mirrors⟩ => ⟨same,?_⟩
    have held := mirrors.filed.perm
    rwa [List.map_map] at held
  case next =>
    intro list busy
    obtain ⟨before,first,after,split,foremost⟩ := exists_foremost busy
    exact ⟨before,first,after,split,foremost,fun room => list.serve_next room split foremost⟩
  case conserves =>
    intro answers agenda ran
    rw [ran] at mirrored
    obtain ⟨⟨_,last⟩,listed,rfl,mirrors⟩ := mirrored.of_ok
    have conserved := WaitingList.serveAll_conserves uncrowded listed
    have held := mirrors.filed.perm.map Waiting.event
    rw [List.map_map,List.map_map] at held
    exact conserved.trans (held.symm.append_left (given answers))
  case agrees =>
    rintro simulation rfl fresh
    have queued : simulation.Mirrors 0 { now := simulation.clock } := by
      refine ⟨rfl,?_,?_,?_⟩ <;> rw [fresh]
      · exact ⟨.nil,by simp⟩
      · exact empty
    have mirrored' := serveAll_coupled (fun _ _ _ _ mirrors _ => mirrors.served) queued
      (by simpa using few)
    rw [WaitingList.serveAll_roomier uncrowded (by decide)] at mirrored'
    have answers := (mirrored.mono fun _ _ agree => agree.1).map_left.eq_map
    have answers' := (mirrored'.mono fun _ _ agree => agree.1).map_left.eq_map
    exact answers'.trans answers.symm
  case full =>
    intro _ agenda _ size delay timer
    rw [Agenda.schedule]
    cases agenda.now.plus delay with
    | error failure => rfl
    | ok due =>
      rw [except_ok_bind,if_neg (by simp [size])]
      rfl

/-- Three timers are due together, and when the first of them was taken the last one stood before the
second. Then the agenda is filled. -/
theorem agenda_stable_tied :
    let requests : List TimerRequest :=
      [.schedule ⟨50⟩ ⟨.capEnd,0⟩,.schedule ⟨10⟩ ⟨.canProceed,1⟩,.schedule ⟨10⟩ ⟨.ccaRequest,2⟩,
        .schedule ⟨10⟩ ⟨.backoffStart,3⟩,.next,.next] ++
        List.replicate 6 (.schedule ⟨5⟩ ⟨.canProceed,4⟩)
    let answers : Answers :=
      [some ⟨⟨10⟩,.timer ⟨.canProceed,1⟩⟩,some ⟨⟨10⟩,.timer ⟨.ccaRequest,2⟩⟩]
    (scheduled requests).length ≤ 4294967296 ∧ Uncrowded Agenda.capacity 0 requests ∧
    ∃ (agenda : Agenda) (simulation : Simulation WordScript),
      serveAll Agenda.serve { now := .zero } requests = .ok (answers,agenda) ∧
      agenda.entries.length = Agenda.capacity ∧
      (∃ list, serveAll (WaitingList.serve Agenda.capacity) { now := .zero } requests =
          .ok (answers,list) ∧
        ∃ before first after, list.waiting = before ++ first :: after ∧
          Foremost before first after) ∧
      ((scheduled requests).map Event.timer).Perm
        (given answers ++ agenda.entries.map fun entry => .timer entry.timer) ∧
      simulation.clock = .zero ∧ simulation.queue = {} ∧
      (serveAll Simulation.serve simulation requests).map Prod.fst = .ok answers ∧
      (agenda.schedule ⟨0⟩ ⟨.capEnd,5⟩).map (fun (kept,later) => (kept,later.entries)) =
        .ok (false,agenda.entries) := by
  intro requests answers
  obtain ⟨agenda,ran,size,same⟩ : ∃ agenda, serveAll Agenda.serve { now := .zero } requests =
      .ok (answers,agenda) ∧ agenda.entries.length = Agenda.capacity ∧ agenda.now = .zero :=
    ⟨_,rfl,rfl,rfl⟩
  have few : (scheduled requests).length ≤ 4294967296 := by decide
  have uncrowded : Uncrowded Agenda.capacity 0 requests := by decide
  obtain ⟨engine,_⟩ : ∃ engine, Engine.new {} (⟨[]⟩ : WordScript) = .ok engine := ⟨_,rfl⟩
  have layer : LayerFacts :=
    ⟨.ofPayload .oqpsk2450 20 false false,.capped .zero 0 15,.capped .zero 0 15,54⟩
  obtain ⟨refines,next,fits,full⟩ := agenda_stable .zero requests few
  rw [ran] at refines
  obtain ⟨⟨_,list⟩,listed,rfl,held⟩ := refines.of_ok
  have busy : list.waiting ≠ [] := by
    intro idle
    have sizes := held.length_eq
    simp [idle,size,Agenda.capacity] at sizes
  obtain ⟨before,first,after,split,foremost,_⟩ := next list busy
  obtain ⟨conserves,agrees⟩ := fits uncrowded
  have alike := agrees (.ofPhy engine layer .oqpsk2450 .idle) rfl rfl
  rw [ran] at alike
  refine ⟨few,uncrowded,agenda,_,ran,size,⟨list,listed,before,first,after,split,foremost⟩,
    conserves answers agenda ran,rfl,rfl,alike,?_⟩
  rw [full answers agenda ran size,same]
  rfl

end ChannelAccess
