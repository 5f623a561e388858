import ChannelAccess.SymbolRate

/-!
Superframes: where the backoff period boundaries lie and where the contention access period (CAP)
ends. A superframe has sixteen slots; its order doubles its length; the CAP runs from the beacon
to the end of the final CAP slot.
-/

namespace ChannelAccess

/-- Which superframe a transmission has to fit. -/
inductive Direction where
  /-- The one announced by our coordinator's beacons, for frames sent to the coordinator. -/
  | incoming
  /-- The one started by our own beacons. -/
  | outgoing
  deriving DecidableEq, Repr

def Direction.ofDestination (toCoordinator : Bool) : Direction :=
  if toCoordinator then .incoming else .outgoing

def Direction.label : Direction → String
  | .incoming => "Incoming"
  | .outgoing => "Outgoing"

structure Superframe where
  beacon : Instant
  order : UInt8
  finalSlot : UInt8
  deriving DecidableEq, Repr

namespace Superframe

/-- A superframe whose order is at most 14 and whose final CAP slot is at most 15. -/
def capped (beacon : Instant) (order finalSlot : UInt8) : Superframe :=
  ⟨beacon, min order 14, min finalSlot 15⟩

/-- Symbols of the active superframe. Orders above 14 count as 14. -/
def duration (superframe : Superframe) : Nat :=
  960 <<< min superframe.order.toNat 14

/-- Symbols of one slot. -/
def slotDuration (superframe : Superframe) : Nat :=
  superframe.duration / 16

/-- Symbols of the CAP, beacon included. -/
def capDuration (superframe : Superframe) : Nat :=
  superframe.slotDuration * (superframe.finalSlot.toNat + 1)

def capEnd (superframe : Superframe) (rate : SymbolRate) : Except Overflow Instant :=
  superframe.beacon.plus (rate.spanOf superframe.capDuration)

/-- The superframe that follows when the beacon interval is one superframe duration. -/
def next (superframe : Superframe) (rate : SymbolRate) : Except Overflow Superframe :=
  (superframe.beacon.plus (rate.spanOf superframe.duration)).map
    fun beacon => { superframe with beacon }

/-- Time from `now` until the next boundary of backoff periods of `unit` symbols. The beacon of a
superframe that has not begun is a boundary; on a boundary the following one counts. -/
def timeToBoundary (superframe : Superframe) (now : Instant) (unit : Nat) (rate : SymbolRate) :
    Except Overflow Span := do
  let elapsed ← now.since superframe.beacon
  if elapsed.isNegative then
    superframe.beacon.since now
  else
    let unit := max unit 1
    let periods ← longWordValue .addition (rate.symbolsIn elapsed / unit + 1)
    let boundary ← longWordValue .multiplication (periods * unit)
    (rate.spanOf boundary).minus elapsed

/-- Time from `now` until the end of the CAP, never negative. -/
def timeLeftInCap (superframe : Superframe) (now : Instant) (rate : SymbolRate) :
    Except Overflow Span := do
  let capEnd ← superframe.capEnd rate
  let left ← capEnd.since now
  return left.clampNonNegative

end Superframe

end ChannelAccess
