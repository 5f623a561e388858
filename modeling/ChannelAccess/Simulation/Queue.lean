import ChannelAccess.Time
import ChannelAccess.Timer

/-!
The event queue of a simulation, kept in order of due time and, among events due together, in
order of insertion. There is room for 32 events.
-/

namespace ChannelAccess

inductive Event where
  | timer (timer : Timer)
  /-- The assessment asked for last is complete. -/
  | assessmentDone
  deriving DecidableEq, Repr

structure QueueEntry where
  due : Instant
  order : Nat
  event : Event
  deriving DecidableEq, Repr

/-- The entry comes out before the other. -/
def QueueEntry.precedes (a b : QueueEntry) : Bool :=
  a.due < b.due || (a.due = b.due && a.order < b.order)

structure EventQueue where
  nextOrder : Nat := 0
  entries : List QueueEntry := []
  deriving DecidableEq, Repr

namespace EventQueue

def capacity : Nat := 32

def size (queue : EventQueue) : Nat := queue.entries.length

/-- Put an entry behind all that come out before it. The queue is one of many heaps that give out the
least entry; all of them serve the same events (`Heap.serves_alike`). -/
def insert (entry : QueueEntry) : List QueueEntry → List QueueEntry
  | [] => [entry]
  | other :: entries =>
    if entry.precedes other then entry :: other :: entries else other :: insert entry entries

/-- Add an event. False, and the event is lost, if there is no room. -/
def push (queue : EventQueue) (due : Instant) (event : Event) : Bool × EventQueue :=
  let counted := { queue with nextOrder := queue.nextOrder + 1 }
  if queue.size < capacity then
    (true, { counted with entries := insert ⟨due, queue.nextOrder, event⟩ queue.entries })
  else
    (false, counted)

def pop? (queue : EventQueue) : Option (QueueEntry × EventQueue) :=
  match queue.entries with
  | [] => none
  | entry :: entries => some (entry, { queue with entries })

end EventQueue

end ChannelAccess
