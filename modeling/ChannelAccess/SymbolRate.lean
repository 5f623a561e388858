import ChannelAccess.AccessError
import ChannelAccess.Phy
import ChannelAccess.Time

/-!
Symbol rates convert between symbol counts and time. A count of symbols takes its time rounded up
to a whole microsecond, so the span always holds the symbols; a span holds the symbols that are
complete in it. Counts too large for their word wrap.
-/

namespace ChannelAccess

structure SymbolRate where
  perSecond : UInt32
  nonzero : perSecond ≠ 0
  deriving DecidableEq

namespace SymbolRate

def of (perSecond : UInt32) : Except AccessError SymbolRate :=
  if nonzero : perSecond ≠ 0 then .ok ⟨perSecond, nonzero⟩ else .error .zeroSymbolRate

def ofPhy (phy : Phy) : SymbolRate :=
  ⟨phy.symbolsPerSecond, by cases phy <;> decide⟩

theorem of_eq_error_iff {perSecond : UInt32} {error : AccessError} :
    of perSecond = .error error ↔ perSecond = 0 ∧ error = .zeroSymbolRate := by
  unfold of
  split <;> simp_all [eq_comm]

theorem perSecond_pos (rate : SymbolRate) : 0 < rate.perSecond.toNat := by
  have nonzero := rate.nonzero
  rcases Nat.eq_zero_or_pos rate.perSecond.toNat with zero | positive
  · exact absurd (UInt32.toNat_inj.mp zero) nonzero
  · exact positive

/-- Whole microseconds that hold `symbols`. -/
def microseconds (rate : SymbolRate) (symbols : Nat) : Nat :=
  (symbols * 1000000 + rate.perSecond.toNat - 1) / rate.perSecond.toNat

/-- Time taken by `symbols`, wrapped to a 64-bit signed count. -/
def spanOf (rate : SymbolRate) (symbols : Nat) : Span :=
  ⟨(rate.microseconds symbols : Int).bmod 18446744073709551616⟩

/-- Complete symbols in a span, wrapped to a 64-bit word. A negative span holds none. -/
def symbolsIn (rate : SymbolRate) (span : Span) : Nat :=
  if span.isNegative then 0
  else span.us.toNat * rate.perSecond.toNat / 1000000 % 18446744073709551616

end SymbolRate

end ChannelAccess
