import ChannelAccess.AccessError

/-!
Backoff policies. A policy may be written down with any values; an engine takes only valid ones.
-/

namespace ChannelAccess

inductive Mode where
  /-- No beacons: assess the channel as soon as the backoff expires. -/
  | unslotted
  /-- Beacons: backoffs are aligned to the superframe and bounded by its CAP. -/
  | slotted
  deriving DecidableEq, Repr

def Mode.text : Mode → String
  | .unslotted => "unslotted"
  | .slotted => "slotted"

structure Policy where
  minExponent : UInt8 := 3
  maxExponent : UInt8 := 5
  maxBackoffs : UInt8 := 4
  /-- Symbols of one backoff period. -/
  backoffPeriod : UInt32 := 20
  /-- Holds the first backoff exponent of slotted attempts down to 2. -/
  batteryLifeExtension : Bool := false
  mode : Mode := .unslotted
  deriving DecidableEq, Repr

namespace Policy

def isSlotted (policy : Policy) : Bool := policy.mode = .slotted

/-- The first broken rule, if any. -/
def validate (policy : Policy) : Except AccessError Unit :=
  if policy.maxExponent < 3 ∨ 8 < policy.maxExponent then
    .error (.maxExponentOutOfRange policy.maxExponent)
  else if policy.maxExponent < policy.minExponent then
    .error (.exponentOrder policy.minExponent policy.maxExponent)
  else if 5 < policy.maxBackoffs then
    .error (.maxBackoffsOutOfRange policy.maxBackoffs)
  else if policy.backoffPeriod = 0 then
    .error .zeroBackoffPeriod
  else
    .ok ()

/-- Backoff exponent at the start of an attempt. -/
def initialExponent (policy : Policy) : UInt8 :=
  if policy.isSlotted ∧ policy.batteryLifeExtension then min policy.minExponent 2
  else policy.minExponent

end Policy

end ChannelAccess
