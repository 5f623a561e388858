import ChannelAccess.Time
import ChannelAccess.Timer

/-!
The timers that an access waits for. There is room for eight; the earliest is taken first, and of
those due together the one scheduled first. Taking one moves the last entry into its place.
-/

namespace ChannelAccess

structure AgendaEntry where
  due : Instant
  /-- The number of timers scheduled before. -/
  order : UInt32
  timer : Timer
  deriving DecidableEq, Repr

/-- The entry comes out before the other. -/
def AgendaEntry.precedes (a b : AgendaEntry) : Bool :=
  a.due < b.due || (a.due = b.due && a.order < b.order)

structure Agenda where
  now : Instant
  nextOrder : UInt32 := 0
  entries : List AgendaEntry := []
  deriving DecidableEq, Repr

namespace Agenda

def capacity : Nat := 8

/-- Add a timer that is due after `delay`. False, and the timer is lost, if there is no room. -/
def schedule (agenda : Agenda) (delay : Span) (timer : Timer) :
    Except Overflow (Bool × Agenda) := do
  let due ← agenda.now.plus delay
  let counted := { agenda with nextOrder := agenda.nextOrder + 1 }
  if agenda.entries.length < capacity then
    let entries := agenda.entries ++ [⟨due, agenda.nextOrder, timer⟩]
    return (true, { counted with entries })
  else
    return (false, counted)

/-- The position and the entry that comes out first. -/
def first : List AgendaEntry → Option (Nat × AgendaEntry)
  | [] => none
  | entry :: entries =>
    match first entries with
    | none => some (0, entry)
    | some (position, best) =>
      if best.precedes entry then some (position + 1, best) else some (0, entry)

/-- Drop the entry at a position and move the last one there. -/
def removeAt (entries : List AgendaEntry) (position : Nat) : List AgendaEntry :=
  match entries.getLast? with
  | none => []
  | some last => (entries.set position last).dropLast

def pop? (agenda : Agenda) : Option (AgendaEntry × Agenda) :=
  match first agenda.entries with
  | none => none
  | some (position, entry) =>
    some (entry, { agenda with entries := removeAt agenda.entries position })

end Agenda

end ChannelAccess
