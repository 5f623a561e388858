import Mathlib.Algebra.Group.Nat.Defs
import ChannelAccess.Simulation.Basic

/-!
Channel access as a sequential algorithm: no timers, no queue, no engine state. A round waits for a
backoff and assesses the channel; a busy round is followed by another with a larger exponent. The
ledger holds what a simulation of the attempt can be seen to do.
-/

namespace ChannelAccess

structure Setting where
  policy : Policy
  rate : SymbolRate
  layer : LayerFacts
  advice : Option UInt32

structure Ledger (ρ : Type) where
  clock : Instant
  words : ρ
  channel : Channel
  ccaRequests : Nat
  trace : Array TraceEvent
  costs : Array Nat

structure Conclusion (ρ : Type) extends Ledger ρ where
  verdict : Verdict
  carriedPeriods : Nat

/-- How a round ends. One that the CAP cuts short may leave periods of its backoff over. -/
inductive RoundEnd (ρ : Type) where
  | clear (ledger : Ledger ρ)
  | busy (ledger : Ledger ρ)
  | cutShort (periodsLeft : Nat) (ledger : Ledger ρ)

namespace Ledger

variable {ρ : Type}

def record (ledger : Ledger ρ) (occurrence : Occurrence) : Ledger ρ :=
  { ledger with trace := ledger.trace.push ⟨ledger.clock,occurrence⟩ }

def wait (ledger : Ledger ρ) (span : Span) : Except Overflow (Ledger ρ) := do
  let clock ← ledger.clock.plus span
  return { ledger with clock }

def spend (ledger : Ledger ρ) (symbols : Nat) : Ledger ρ :=
  { ledger with costs := ledger.costs.push symbols }.record (.cost symbols)

/-- The status of the channel as an assessment ends. -/
def listen (ledger : Ledger ρ) : ChannelStatus × Ledger ρ :=
  let (status,channel) := ledger.channel.assess ledger.clock
  (status,{ ledger with channel }.record (.ccaResult status))

def roundEnd (ledger : Ledger ρ) : RoundEnd ρ :=
  let (status,ledger) := ledger.listen
  if status.isIdle then .clear ledger else .busy ledger

def conclude (ledger : Ledger ρ) (verdict : Verdict) (carriedPeriods : Nat) : Conclusion ρ :=
  { ledger.record (.verdict verdict) with verdict, carriedPeriods }

end Ledger

namespace Setting

variable {ρ : Type} (setting : Setting)

def superframe : Superframe :=
  setting.layer.superframe (.ofDestination setting.layer.frame.toCoordinator)

def backoffSpan (periods : Nat) : Span :=
  setting.rate.spanOf (periods * setting.policy.backoffPeriod.toNat)

/-- Symbols of two assessments, the frame, the reply or two turnarounds, and the spacing. -/
def transactionSymbols : Nat :=
  let frame := setting.layer.frame
  let reply := if frame.ackRequested then setting.layer.ackWait.toNat else 24
  min (16 + frame.symbols.toNat + reply + frame.spacing.toNat) largestWord

/-- Choose a number of backoff periods: the advice, held to the exponent, or a random word. -/
def choose [WordSource ρ] (exponent : Nat) (ledger : Ledger ρ) : Nat × Ledger ρ :=
  match setting.advice with
  | some periods => (min periods.toNat (2 ^ exponent - 1),ledger)
  | none =>
    let (word,words) := WordSource.next ledger.words
    (word.toNat % 2 ^ exponent,{ ledger with words })

/-- Go on with a backoff that was cut short, or choose one. -/
def resume [WordSource ρ] (exponent resumed : Nat) (ledger : Ledger ρ) : Nat × Ledger ρ :=
  if resumed = 0 then setting.choose exponent ledger else (resumed,ledger)

/-- Ask for an assessment and wait until it ends. -/
def request (exponent backoffs window : Nat) (ledger : Ledger ρ) :
    Except Overflow (Ledger ρ) := do
  let ccaRequests ← wordValue .addition (ledger.ccaRequests + 1)
  ({ ledger with ccaRequests }.record (.ccaRequested exponent backoffs window)).wait
    (setting.rate.spanOf 8)

variable [WordSource ρ]

def unslottedRound (exponent backoffs : Nat) (ledger : Ledger ρ) :
    Except Overflow (RoundEnd ρ) := do
  let (periods,ledger) := setting.choose exponent ledger
  let ledger ← ledger.wait (setting.backoffSpan periods)
  let ledger ← setting.request exponent backoffs 0 ledger
  return ledger.roundEnd

/-- Wait for the backoff or for the end of the CAP, and tell what the CAP leaves over of it. -/
def slottedBackoff (exponent resumed : Nat) (ledger : Ledger ρ) :
    Except Overflow (Option Nat × Ledger ρ) := do
  let (periods,ledger) := setting.resume exponent resumed ledger
  let left ← setting.superframe.timeLeftInCap ledger.clock setting.rate
  if left < setting.backoffSpan periods then
    let ledger ← ledger.wait left
    return (some (periods - setting.rate.symbolsIn left / setting.policy.backoffPeriod.toNat),ledger)
  else
    let ledger ← ledger.wait (setting.backoffSpan periods)
    return (none,ledger)

/-- Tell whether the transaction fits the CAP, after the end of the CAP if it does not. -/
def slottedCheck (ledger : Ledger ρ) : Except Overflow (Bool × Ledger ρ) := do
  let left ← setting.superframe.timeLeftInCap ledger.clock setting.rate
  let ledger := ledger.spend setting.transactionSymbols
  if left < setting.rate.spanOf setting.transactionSymbols then
    let ledger ← ledger.wait left
    return (false,ledger)
  else
    return (true,ledger)

def slottedRound (exponent backoffs resumed : Nat) (ledger : Ledger ρ) :
    Except Overflow (RoundEnd ρ) := do
  match ← setting.slottedBackoff exponent resumed ledger with
  | (some periodsLeft,ledger) => return .cutShort periodsLeft ledger
  | (none,ledger) =>
    match ← setting.slottedCheck ledger with
    | (false,ledger) => return .cutShort 0 ledger
    | (true,ledger) =>
      let ledger ← setting.request exponent backoffs 2 ledger
      let (status,ledger) := ledger.listen
      if status.isIdle then
        let ledger ← setting.request exponent backoffs 1 ledger
        return ledger.roundEnd
      else
        return .busy ledger

def round (exponent backoffs resumed : Nat) (ledger : Ledger ρ) : Except Overflow (RoundEnd ρ) :=
  if setting.policy.isSlotted then setting.slottedRound exponent backoffs resumed ledger
  else setting.unslottedRound exponent backoffs ledger

/-- Round after round until the channel is clear, the CAP ends or no backoff is left. -/
def rounds (exponent backoffs resumed : Nat) (ledger : Ledger ρ) :
    Except Overflow (Conclusion ρ) := do
  match ← setting.round exponent backoffs resumed ledger with
  | .clear ledger => return ledger.conclude .channelIdle 0
  | .cutShort periodsLeft ledger => return ledger.conclude .deferred periodsLeft
  | .busy ledger =>
    if spent : setting.policy.maxBackoffs.toNat < backoffs + 1 then
      return ledger.conclude .accessFailure 0
    else
      rounds (min (exponent + 1) setting.policy.maxExponent.toNat) (backoffs + 1) 0 ledger
termination_by setting.policy.maxBackoffs.toNat - backoffs

/-- One attempt. Slotted attempts begin on a boundary of backoff periods, and resume the backoff
that the last one left over. -/
def attempt (carriedPeriods : Nat) (ledger : Ledger ρ) : Except Overflow (Conclusion ρ) := do
  let exponent := setting.policy.initialExponent.toNat
  let ledger := ledger.record (.started setting.policy.mode)
  if setting.policy.isSlotted then
    let toBoundary ← setting.superframe.timeToBoundary ledger.clock
      setting.policy.backoffPeriod.toNat setting.rate
    let ledger ← ledger.wait toBoundary
    setting.rounds exponent 0 carriedPeriods ledger
  else
    setting.rounds exponent 0 0 ledger

end Setting

end ChannelAccess
