/-!
Armed timers. A timer is a token that goes out to a scheduler and comes back when its delay is
over. Every token carries a fresh number, and for each kind at most one number is armed, so a token
that comes back late is recognised by its number.
-/

namespace ChannelAccess

inductive TimerKind where
  /-- Draw a random backoff or resume one. -/
  | backoffStart
  /-- The backoff is over: check that the transaction fits the CAP. -/
  | canProceed
  /-- Ask the radio to assess the channel. -/
  | ccaRequest
  /-- The CAP ended before the attempt could. -/
  | capEnd
  deriving DecidableEq, Repr

def TimerKind.label : TimerKind → String
  | .backoffStart => "BackoffStart"
  | .canProceed => "CanProceed"
  | .ccaRequest => "CcaRequest"
  | .capEnd => "CapEnd"

structure Timer where
  kind : TimerKind
  number : UInt32
  deriving DecidableEq, Repr

structure TimerTable where
  nextNumber : UInt32 := 0
  backoffStart : Option UInt32 := none
  canProceed : Option UInt32 := none
  ccaRequest : Option UInt32 := none
  capEnd : Option UInt32 := none
  deriving DecidableEq, Repr

namespace TimerTable

/-- The armed number of a kind. -/
def armed (table : TimerTable) : TimerKind → Option UInt32
  | .backoffStart => table.backoffStart
  | .canProceed => table.canProceed
  | .ccaRequest => table.ccaRequest
  | .capEnd => table.capEnd

def put (table : TimerTable) (kind : TimerKind) (number : Option UInt32) : TimerTable :=
  match kind with
  | .backoffStart => { table with backoffStart := number }
  | .canProceed => { table with canProceed := number }
  | .ccaRequest => { table with ccaRequest := number }
  | .capEnd => { table with capEnd := number }

/-- Arm a kind under the next number. Numbers wrap. -/
def arm (table : TimerTable) (kind : TimerKind) : Timer × TimerTable :=
  (⟨kind, table.nextNumber⟩,
    { table.put kind (some table.nextNumber) with nextNumber := table.nextNumber + 1 })

/-- Disarm a timer. False, and no change, if it is not the armed one of its kind. -/
def take (table : TimerTable) (timer : Timer) : Bool × TimerTable :=
  if table.armed timer.kind = some timer.number then (true, table.put timer.kind none)
  else (false, table)

def disarmAll (table : TimerTable) : TimerTable := { nextNumber := table.nextNumber }

end TimerTable

end ChannelAccess
