import ChannelAccess.Engine.Basic

/-!
The host of an access: a medium access layer, a radio that can assess the channel, a clock, and a
way to sleep. All of them are functions of the host's state, so any behaviour that depends on what
happened before can be written down.
-/

namespace ChannelAccess

structure Host (σ : Type) where
  /-- A reading of the clock. -/
  readClock : σ → Instant × σ
  radio : σ → RadioFacts
  layer : σ → LayerFacts
  /-- The layer's advice on a backoff with the given exponent and count of backoffs. -/
  advise : Nat → Nat → σ → Option UInt32 × σ
  hearCost : Nat → σ → σ
  hearVerdict : Verdict → σ → σ
  /-- Sleep for so many microseconds. False if the sleep never ends. -/
  sleep : Nat → σ → Except Overflow (Bool × σ)
  /-- Assess the channel. No status if the assessment never ends. -/
  assess : σ → Except Overflow (Option ChannelStatus × σ)

end ChannelAccess
