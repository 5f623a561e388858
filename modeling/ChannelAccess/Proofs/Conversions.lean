import ChannelAccess.Proofs.SymbolTime

/-!
Symbols become time rounded up and time becomes symbols rounded down, so each conversion determines
the other: a count of symbols fits a span exactly if the span completes so many. Main statements:
`spanOf_le_iff` and `symbolsIn_spanOf`.
-/

namespace ChannelAccess.SymbolRate

variable {rate : SymbolRate} {span : Span} {symbols us : Nat}

theorem microseconds_le_iff :
    rate.microseconds symbols ≤ us ↔ symbols * 1000000 ≤ us * rate.perSecond.toNat := by
  rw [← Nat.not_lt,lt_microseconds,Nat.not_lt]

theorem microseconds_mono {fewer : Nat} (le : fewer ≤ symbols) :
    rate.microseconds fewer ≤ rate.microseconds symbols := by
  have whole := microseconds_le_iff.mp (Nat.le_refl (rate.microseconds symbols))
  exact microseconds_le_iff.mpr (Nat.le_trans (Nat.mul_le_mul_right _ le) whole)

/-- Rounding up once is no longer than rounding up twice. -/
theorem microseconds_add_le (first second : Nat) :
    rate.microseconds (first + second) ≤ rate.microseconds first + rate.microseconds second := by
  have left := microseconds_le_iff.mp (Nat.le_refl (rate.microseconds first))
  have right := microseconds_le_iff.mp (Nat.le_refl (rate.microseconds second))
  apply microseconds_le_iff.mpr
  rw [Nat.add_mul,Nat.add_mul]
  exact Nat.add_le_add left right

theorem spanOf_le_iff (shows : InClockRange (rate.microseconds symbols)) (nonneg : 0 ≤ span.us)
    (counts : span.us.toNat * rate.perSecond.toNat / 1000000 < 18446744073709551616) :
    rate.spanOf symbols ≤ span ↔ symbols ≤ rate.symbolsIn span := by
  have exactly : rate.spanOf symbols ≤ span ↔ rate.microseconds symbols ≤ span.us.toNat := by
    rw [spanOf_eq shows,Span.le_def]
    dsimp only
    omega
  rw [exactly,symbolsIn_of_lt nonneg counts,microseconds_le_iff,Nat.le_div_iff_mul_le (by decide)]

/-- While no two symbols share a microsecond, none is lost on the way to time and back. -/
theorem symbolsIn_spanOf (slow : rate.perSecond.toNat ≤ 1000000)
    (shows : InClockRange (rate.microseconds symbols)) :
    rate.symbolsIn (rate.spanOf symbols) = symbols := by
  have positive := rate.perSecond_pos
  have reaches := microseconds_le_iff.mp (Nat.le_refl (rate.microseconds symbols))
  have tight : rate.microseconds symbols * rate.perSecond.toNat < (symbols + 1) * 1000000 := by
    have below := Nat.div_mul_le_self (symbols * 1000000 + rate.perSecond.toNat - 1) rate.perSecond.toNat
    rw [microseconds]
    omega
  have whole : rate.microseconds symbols * rate.perSecond.toNat / 1000000 = symbols :=
    Nat.div_eq_of_lt_le reaches tight
  have fewer : rate.microseconds symbols * rate.perSecond.toNat ≤
      rate.microseconds symbols * 1000000 := Nat.mul_le_mul_left _ slow
  have upper := shows.2
  have counts : (rate.microseconds symbols : Int).toNat * rate.perSecond.toNat / 1000000 <
      18446744073709551616 := by
    rw [Int.toNat_natCast]
    omega
  rw [spanOf_eq shows,symbolsIn_of_lt (Int.natCast_nonneg _) counts,Int.toNat_natCast,whole]

end ChannelAccess.SymbolRate
