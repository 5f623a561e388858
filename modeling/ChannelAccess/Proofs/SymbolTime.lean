import ChannelAccess.Superframe
import ChannelAccess.Proofs.Fallible

/-!
Spans of symbols that a clock can show are exact, and the symbols that are complete in a shorter
span are fewer.
-/

namespace ChannelAccess

theorem wrapped_of_inRange {us : Int} (inRange : InClockRange us) :
    us.bmod 18446744073709551616 = us := by
  obtain ⟨lower,upper⟩ := inRange
  rw [Int.bmod_def]
  split <;> omega

theorem wrapped_of_large {us : Int} (large : 9223372036854775808 ≤ us)
    (bounded : us < 18446744073709551616) :
    us.bmod 18446744073709551616 = us - 18446744073709551616 := by
  rw [Int.bmod_def]
  split <;> omega

theorem Span.clamp_of_nonneg {delay : Span} (nonneg : 0 ≤ delay.us) : delay.clampNonNegative = delay := by
  have known : delay.isNegative = false := by
    simp only [isNegative,decide_eq_false_iff_not]
    omega
  rw [clampNonNegative,known,if_neg Bool.false_ne_true]

theorem Instant.le_plus {t u : Instant} {d : Span} (nonneg : 0 ≤ d.us) (reaches : t.plus d = .ok u) :
    t ≤ u := by
  obtain ⟨_,sum⟩ := Instant.plus_eq_ok.mp reaches
  rw [Instant.le_def]
  omega

theorem Instant.le_later (t u : Instant) : t ≤ t.later u := by
  unfold Instant.later
  split
  · assumption
  · exact Int.le_refl _

theorem Instant.later_ge (t u : Instant) : u ≤ t.later u := by
  unfold Instant.later
  split
  · exact Int.le_refl _
  · rename_i earlier
    exact Int.le_of_lt (Int.lt_of_not_ge earlier)

namespace SymbolRate

theorem of_phy {perSecond : UInt32} {phy : Phy} (rated : perSecond = phy.symbolsPerSecond) :
    SymbolRate.of perSecond = .ok (.ofPhy phy) := by
  subst rated
  cases phy <;> rfl

theorem spanOf_eq {rate : SymbolRate} {symbols : Nat}
    (inRange : InClockRange (rate.microseconds symbols)) :
    rate.spanOf symbols = ⟨rate.microseconds symbols⟩ := by
  unfold spanOf
  rw [wrapped_of_inRange inRange]

theorem microseconds_le (rate : SymbolRate) (symbols : Nat) :
    rate.microseconds symbols ≤ symbols * 1000000 := by
  have positive := rate.perSecond_pos
  apply Nat.le_of_lt_succ
  rw [microseconds,Nat.div_lt_iff_lt_mul positive]
  have product : symbols * 1000000 ≤ symbols * 1000000 * rate.perSecond.toNat :=
    Nat.le_mul_of_pos_right _ positive
  rw [Nat.succ_mul]
  omega

theorem spanOf_wrapped {rate : SymbolRate} {symbols : Nat}
    (large : 9223372036854775808 ≤ rate.microseconds symbols)
    (bounded : rate.microseconds symbols < 18446744073709551616) :
    rate.spanOf symbols = ⟨rate.microseconds symbols - 18446744073709551616⟩ := by
  unfold spanOf
  rw [wrapped_of_large (by omega) (by omega)]

theorem microseconds_inRange {rate : SymbolRate} {symbols : Nat} (few : symbols ≤ 1099511627776) :
    InClockRange (rate.microseconds symbols) := by
  have bound := rate.microseconds_le symbols
  constructor <;> omega

theorem spanOf_nonneg (rate : SymbolRate) {symbols : Nat} (few : symbols ≤ 1099511627776) :
    0 ≤ (rate.spanOf symbols).us := by
  rw [spanOf_eq (microseconds_inRange few)]
  exact Int.natCast_nonneg _

theorem lt_microseconds {rate : SymbolRate} {symbols us : Nat} :
    us < rate.microseconds symbols ↔ us * rate.perSecond.toNat < symbols * 1000000 := by
  have positive := rate.perSecond_pos
  rw [microseconds,Nat.lt_iff_add_one_le,Nat.le_div_iff_mul_le positive,Nat.succ_mul]
  omega

theorem symbolsIn_le (rate : SymbolRate) (span : Span) :
    rate.symbolsIn span ≤ span.us.toNat * rate.perSecond.toNat / 1000000 := by
  unfold symbolsIn
  split
  · exact Nat.zero_le _
  · exact Nat.mod_le _ _

theorem symbolsIn_lt {rate : SymbolRate} {span : Span} {symbols : Nat}
    (inRange : InClockRange (rate.microseconds symbols)) (nonneg : 0 ≤ span.us)
    (shorter : span < rate.spanOf symbols) : rate.symbolsIn span < symbols := by
  rw [spanOf_eq inRange,Span.lt_def] at shorter
  have shorter : span.us.toNat < rate.microseconds symbols := by
    simp only at shorter
    omega
  have complete := lt_microseconds.mp shorter
  apply Nat.lt_of_le_of_lt (rate.symbolsIn_le span)
  rw [Nat.div_lt_iff_lt_mul (by decide)]
  exact complete

/-- A span whose symbols a word can count is counted without wrapping. -/
theorem symbolsIn_of_lt {rate : SymbolRate} {span : Span} (nonneg : 0 ≤ span.us)
    (counts : span.us.toNat * rate.perSecond.toNat / 1000000 < 18446744073709551616) :
    rate.symbolsIn span = span.us.toNat * rate.perSecond.toNat / 1000000 := by
  have known : span.isNegative = false := by
    simp only [Span.isNegative,decide_eq_false_iff_not]
    omega
  rw [symbolsIn,known,if_neg Bool.false_ne_true,Nat.mod_eq_of_lt counts]

/-- A span that is shorter than a few symbols is counted without wrapping. -/
theorem symbolsIn_eq {rate : SymbolRate} {span : Span} {symbols : Nat}
    (few : symbols ≤ 1099511627776) (nonneg : 0 ≤ span.us) (shorter : span < rate.spanOf symbols) :
    rate.symbolsIn span = span.us.toNat * rate.perSecond.toNat / 1000000 := by
  rw [spanOf_eq (microseconds_inRange few),Span.lt_def] at shorter
  have shorter : span.us.toNat < rate.microseconds symbols := by
    simp only at shorter
    omega
  have complete := lt_microseconds.mp shorter
  have small : span.us.toNat * rate.perSecond.toNat / 1000000 < symbols := by
    rw [Nat.div_lt_iff_lt_mul (by decide)]
    exact complete
  exact symbolsIn_of_lt nonneg (by omega)

theorem symbolsIn_ofPhy {phy : Phy} {span : Span} (nonneg : 0 ≤ span.us)
    (inRange : InClockRange span.us) :
    (ofPhy phy).symbolsIn span = span.us.toNat * phy.symbolsPerSecond.toNat / 1000000 := by
  obtain ⟨_,upper⟩ := inRange
  apply symbolsIn_of_lt nonneg
  have slow : phy.symbolsPerSecond.toNat ≤ 62500 := by cases phy <;> decide
  calc span.us.toNat * phy.symbolsPerSecond.toNat / 1000000
      ≤ span.us.toNat * 62500 / 1000000 := Nat.div_le_div_right (Nat.mul_le_mul_left _ slow)
    _ < 18446744073709551616 := by omega

theorem microseconds_bounds {phy : Phy} {span : Span} {symbols : Nat} (nonneg : 0 ≤ span.us)
    (inRange : InClockRange span.us) (after : (ofPhy phy).symbolsIn span < symbols)
    (near : symbols ≤ (ofPhy phy).symbolsIn span + 4294967296) :
    span.us < (ofPhy phy).microseconds symbols ∧
      (ofPhy phy).microseconds symbols < span.us + 1099511627776 := by
  rw [symbolsIn_ofPhy nonneg inRange] at after near
  have rate : (ofPhy phy).perSecond.toNat = phy.symbolsPerSecond.toNat := rfl
  unfold microseconds
  rw [rate]
  have rates : phy.symbolsPerSecond.toNat ∈ [20000,40000,25000,62500] := by cases phy <;> decide
  simp only [List.mem_cons,List.not_mem_nil,or_false] at rates
  rcases rates with slow | slow | slow | slow <;> rw [slow] at after near ⊢ <;> omega

end SymbolRate

namespace Superframe

theorem duration_le (superframe : Superframe) : superframe.duration ≤ 15728640 := by
  have order : min superframe.order.toNat 14 ≤ 14 := Nat.min_le_right _ _
  have power := Nat.pow_le_pow_right (Nat.zero_lt_two) order
  rw [duration,Nat.shiftLeft_eq]
  omega

theorem capDuration_le (superframe : Superframe) : superframe.capDuration ≤ 251658240 := by
  have slots : superframe.finalSlot.toNat + 1 ≤ 256 := superframe.finalSlot.toNat_lt
  have slot : superframe.slotDuration ≤ 983040 := Nat.div_le_div_right superframe.duration_le
  calc superframe.slotDuration * (superframe.finalSlot.toNat + 1)
      ≤ 983040 * 256 := Nat.mul_le_mul slot slots

theorem timeLeftInCap_eq {superframe : Superframe} {now : Instant} {rate : SymbolRate}
    {left : Span} (computed : superframe.timeLeftInCap now rate = .ok left) :
    ∃ capEnd, superframe.capEnd rate = .ok capEnd ∧ left.us = max (capEnd.us - now.us) 0 := by
  obtain ⟨capEnd,ends,computed⟩ := except_bind_eq_ok.mp computed
  obtain ⟨rest,since,computed⟩ := except_bind_eq_ok.mp computed
  obtain ⟨_,restUs⟩ := Instant.since_eq_ok.mp since
  cases computed
  refine ⟨capEnd,ends,?_⟩
  rw [Span.clampNonNegative_us,restUs]

theorem timeLeftInCap_nonneg {superframe : Superframe} {now : Instant} {rate : SymbolRate}
    {left : Span} (computed : superframe.timeLeftInCap now rate = .ok left) : 0 ≤ left.us := by
  obtain ⟨capEnd,_,leftUs⟩ := timeLeftInCap_eq computed
  rw [leftUs]
  exact Int.le_max_right _ _

theorem boundary_bounds (symbols unit : Nat) (positive : 0 < unit) :
    symbols < (symbols / unit + 1) * unit ∧ (symbols / unit + 1) * unit ≤ symbols + unit := by
  have whole := Nat.div_add_mod symbols unit
  have partly := Nat.mod_lt symbols positive
  rw [Nat.succ_mul,Nat.mul_comm (symbols / unit) unit]
  omega

theorem timeToBoundary_nonneg {superframe : Superframe} {now : Instant} {unit : UInt32} {phy : Phy}
    {wait : Span}
    (computed : superframe.timeToBoundary now unit.toNat (.ofPhy phy) = .ok wait) :
    0 ≤ wait.us := by
  unfold timeToBoundary at computed
  obtain ⟨elapsed,since,computed⟩ := except_bind_eq_ok.mp computed
  obtain ⟨inRange,elapsedUs⟩ := Instant.since_eq_ok.mp since
  rw [elapsedUs] at inRange
  by_cases negative : elapsed.us < 0
  · simp only [Span.isNegative,negative,decide_true,if_true] at computed
    obtain ⟨_,waitUs⟩ := Instant.since_eq_ok.mp computed
    omega
  · simp only [Span.isNegative,negative,decide_false,Bool.false_eq_true,if_false] at computed
    obtain ⟨periods,counted,computed⟩ := except_bind_eq_ok.mp computed
    obtain ⟨boundary,placed,computed⟩ := except_bind_eq_ok.mp computed
    obtain ⟨fits,waitUs⟩ := Span.minus_eq_ok.mp computed
    obtain ⟨_,rfl⟩ := longWordValue_eq_ok.mp counted
    obtain ⟨_,rfl⟩ := longWordValue_eq_ok.mp placed
    have positive : 0 < max unit.toNat 1 := Nat.lt_of_lt_of_le Nat.zero_lt_one (Nat.le_max_right _ _)
    obtain ⟨after,near⟩ := boundary_bounds ((SymbolRate.ofPhy phy).symbolsIn elapsed) _ positive
    have word := unit.toNat_lt
    generalize (_ / _ + 1) * _ = boundary at after near fits waitUs
    obtain ⟨later,soon⟩ :=
      SymbolRate.microseconds_bounds (by omega) inRange after (by omega)
    by_cases exact : InClockRange ((SymbolRate.ofPhy phy).microseconds boundary)
    · rw [SymbolRate.spanOf_eq exact] at waitUs
      simp only at waitUs
      omega
    · -- A boundary out of the clock's reach would be more than a clock's range away.
      obtain ⟨lower,upper⟩ := inRange
      simp only [InClockRange,not_and,Int.not_lt] at exact
      have large := exact (by omega)
      rw [SymbolRate.spanOf_wrapped (by omega) (by omega)] at fits
      obtain ⟨fits,_⟩ := fits
      simp only at fits
      omega

end Superframe

end ChannelAccess
