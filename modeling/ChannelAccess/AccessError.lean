/-!
Refusals. How an attempt ends is not one of them: that is its verdict.
-/

namespace ChannelAccess

inductive AccessError where
  /-- The radio reported no symbols per second. -/
  | zeroSymbolRate
  | maxExponentOutOfRange (max : UInt8)
  | exponentOrder (min max : UInt8)
  | maxBackoffsOutOfRange (max : UInt8)
  | zeroBackoffPeriod
  /-- The policy cannot change during an attempt. -/
  | attemptActive
  /-- The attempt stopped without a verdict. -/
  | stalled
  deriving DecidableEq, Repr

namespace AccessError

def label : AccessError → String
  | zeroSymbolRate => "ZeroSymbolRate"
  | maxExponentOutOfRange _ => "MaxBackoffExponentOutOfRange"
  | exponentOrder _ _ => "BackoffExponentOrder"
  | maxBackoffsOutOfRange _ => "MaxBackoffsOutOfRange"
  | zeroBackoffPeriod => "ZeroUnitBackoffPeriod"
  | attemptActive => "ProcedureActive"
  | stalled => "Stalled"

def message : AccessError → String
  | zeroSymbolRate => "symbol rate must be non-zero"
  | maxExponentOutOfRange max =>
    "maximum backoff exponent " ++ toString max.toNat ++ " outside 3..=8"
  | exponentOrder min max =>
    "minimum backoff exponent " ++ toString min.toNat ++ " exceeds maximum backoff exponent " ++
      toString max.toNat
  | maxBackoffsOutOfRange max =>
    "maximum number of backoffs " ++ toString max.toNat ++ " outside 0..=5"
  | zeroBackoffPeriod => "unit backoff period must be non-zero"
  | attemptActive => "configuration cannot change during a channel access attempt"
  | stalled => "channel access attempt stopped without a verdict"

end AccessError

end ChannelAccess
