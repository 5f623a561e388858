/-!
Outcomes of channel access attempts.
-/

namespace ChannelAccess

inductive Verdict where
  /-- The channel is clear: transmit now. -/
  | channelIdle
  /-- The channel stayed busy for all backoffs that the policy allows. -/
  | accessFailure
  /-- The CAP ended first: start again in the next one. -/
  | deferred
  deriving DecidableEq, Repr

def Verdict.text : Verdict → String
  | .channelIdle => "channel idle"
  | .accessFailure => "channel access failure"
  | .deferred => "deferred"

end ChannelAccess
