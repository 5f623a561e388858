import ChannelAccess.Backoff
import ChannelAccess.Note
import ChannelAccess.Policy
import ChannelAccess.Surroundings

/-!
The state of a channel access engine and what one operation of it produces: the engine after it,
the calls it makes on its surroundings in order, notes for the log, and whether it was refused.
-/

namespace ChannelAccess

/-- Progress of the current attempt, or of the last one. -/
structure Progress where
  /-- BE -/
  exponent : Nat
  /-- NB -/
  backoffs : Nat
  /-- CW, zero in unslotted attempts -/
  window : Nat
  periodsLeft : Nat
  /-- The superframe chosen when the attempt started. -/
  direction : Direction
  deriving DecidableEq, Repr

structure Engine (ρ : Type) where
  policy : Policy
  words : ρ
  progress : Progress
  timers : TimerTable
  ccaOutstanding : Bool
  /-- Backoff periods left over by an attempt that the end of the CAP cut short. -/
  carriedPeriods : Nat
  /-- An attempt still owes its verdict. -/
  running : Bool

inductive Call where
  /-- Hand the timer back after the delay. -/
  | schedule (timer : Timer) (delay : Span)
  | requestCca
  | verdict (verdict : Verdict)
  /-- The symbols that the rest of the transaction needs. -/
  | cost (symbols : Nat)
  /-- The layer was asked for advice on a backoff. -/
  | askAdvice (exponent backoffs : Nat) (answer : Option UInt32)
  /-- The layer was asked for the superframe of a direction. -/
  | askSuperframe (direction : Direction)
  deriving DecidableEq, Repr

structure Reaction (ρ : Type) where
  engine : Engine ρ
  calls : List Call := []
  notes : List Note := []
  result : Except AccessError Unit := .ok ()

namespace Engine

variable {ρ : Type}

/-- An idle assessment must come twice in a row in slotted attempts. -/
def contentionWindow : Nat := 2

def new (policy : Policy) (words : ρ) : Except AccessError (Engine ρ) := do
  policy.validate
  return {
    policy
    words
    progress := {
      exponent := policy.minExponent.toNat
      backoffs := 0
      window := contentionWindow
      periodsLeft := 0
      direction := .outgoing }
    timers := {}
    ccaOutstanding := false
    carriedPeriods := 0
    running := false }

/-- Replace the policy, unless an attempt is running or the policy is not valid. -/
def setPolicy (engine : Engine ρ) (policy : Policy) : Except AccessError (Engine ρ) :=
  if engine.running then .error .attemptActive
  else do
    policy.validate
    return { engine with policy, carriedPeriods := 0 }

def setMode (engine : Engine ρ) (mode : Mode) : Except AccessError (Engine ρ) :=
  engine.setPolicy { engine.policy with mode }

/-- Abandon the attempt without a verdict. Its timers and its assessment are ignored when they
come back. -/
def cancel (engine : Engine ρ) : Engine ρ :=
  { engine with
    timers := engine.timers.disarmAll
    ccaOutstanding := false
    carriedPeriods := 0
    running := false }

end Engine

end ChannelAccess
