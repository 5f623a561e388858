import Mathlib.Algebra.Group.Int.Defs
import Mathlib.Algebra.Group.Nat.Defs
import Mathlib.Order.Bounds.Defs
import ChannelAccess.Proofs.Conversions

/-!
Where the boundaries of backoff periods lie after a beacon, and that the wait for the next one ends
at the first of them, at every symbol rate and at every phase of a symbol.
-/

namespace ChannelAccess

/-- Symbols that are complete within some 80 years fit a 64-bit word, with room for a period. -/
theorem SymbolRate.complete_lt (rate : SymbolRate) {us : Nat} (short : us ≤ 2 ^ 51 + 2 ^ 48) :
    us * rate.perSecond.toNat / 1000000 < 2 ^ 63 + 2 ^ 61 := by
  have fast : rate.perSecond.toNat ≤ 4294967295 := Nat.le_of_lt_succ rate.perSecond.toNat_lt
  calc us * rate.perSecond.toNat / 1000000
      ≤ (2 ^ 51 + 2 ^ 48) * 4294967295 / 1000000 := Nat.div_le_div_right (Nat.mul_le_mul short fast)
    _ < 2 ^ 63 + 2 ^ 61 := by decide

namespace Superframe

/-- When the backoff period after `count` periods of `unit` symbols begins, whether or not a clock
can show it. -/
def boundaryUs (superframe : Superframe) (unit : Nat) (rate : SymbolRate) (count : Nat) : Int :=
  superframe.beacon.us + rate.microseconds (count * unit)

variable {superframe : Superframe} {now : Instant} {rate : SymbolRate}

theorem boundaryUs_mono {unit fewer count : Nat} (le : fewer ≤ count) :
    superframe.boundaryUs unit rate fewer ≤ superframe.boundaryUs unit rate count := by
  have sooner : rate.microseconds (fewer * unit) ≤ rate.microseconds (count * unit) :=
    SymbolRate.microseconds_mono (Nat.mul_le_mul_right unit le)
  unfold boundaryUs
  omega

theorem boundaryUs_le_iff {unit count : Nat} (positive : 0 < unit) (begun : superframe.beacon ≤ now) :
    superframe.boundaryUs unit rate count ≤ now.us ↔
      count ≤ (now.us - superframe.beacon.us).toNat * rate.perSecond.toNat / 1000000 / unit := by
  have elapsed : superframe.boundaryUs unit rate count ≤ now.us ↔
      rate.microseconds (count * unit) ≤ (now.us - superframe.beacon.us).toNat := by
    rw [Instant.le_def] at begun
    unfold boundaryUs
    omega
  rw [elapsed,SymbolRate.microseconds_le_iff,Nat.le_div_iff_mul_le positive,
    Nat.le_div_iff_mul_le (by decide)]

theorem timeToBoundary_begun {unit : Nat} (positive : 0 < unit) (begun : superframe.beacon ≤ now)
    (shows : InClockRange (now.us - superframe.beacon.us)) :
    superframe.timeToBoundary now unit rate = (do
      let periods ← longWordValue .addition
        (rate.symbolsIn ⟨now.us - superframe.beacon.us⟩ / unit + 1)
      let boundary ← longWordValue .multiplication (periods * unit)
      (rate.spanOf boundary).minus ⟨now.us - superframe.beacon.us⟩) := by
  rw [Instant.le_def] at begun
  have since : now.since superframe.beacon = .ok ⟨now.us - superframe.beacon.us⟩ :=
    Instant.since_eq_ok.mpr ⟨shows,rfl⟩
  have whole : (Span.mk (now.us - superframe.beacon.us)).isNegative = false := by
    simp only [Span.isNegative,decide_eq_false_iff_not]
    omega
  simp only [timeToBoundary,since,except_ok_bind,whole,Bool.false_eq_true,if_false,
    Nat.max_eq_left (Nat.succ_le_of_lt positive)]

theorem boundaryUs_succ_le {unit count : Nat} (past : superframe.boundaryUs unit rate count ≤ now.us) :
    superframe.boundaryUs unit rate (count + 1) ≤ now.us + rate.microseconds unit := by
  have longer : rate.microseconds ((count + 1) * unit) ≤
      rate.microseconds (count * unit) + rate.microseconds unit := by
    rw [Nat.succ_mul]
    exact SymbolRate.microseconds_add_le _ _
  unfold boundaryUs at past ⊢
  omega

/-- Within some 70 years after the beacon the complete symbols tell the last boundary that has come,
and a word and the clock have room for the next one. -/
theorem last_boundary {unit : UInt32} {count : Nat} (nonzero : unit ≠ 0)
    (begun : superframe.beacon ≤ now) (near : now.us - superframe.beacon.us ≤ 2 ^ 51)
    (counted : rate.symbolsIn ⟨now.us - superframe.beacon.us⟩ / unit.toNat = count) :
    superframe.boundaryUs unit.toNat rate count ≤ now.us ∧
      now.us < superframe.boundaryUs unit.toNat rate (count + 1) ∧
      count + 1 < 18446744073709551616 ∧ (count + 1) * unit.toNat < 18446744073709551616 ∧
      InClockRange (rate.microseconds ((count + 1) * unit.toNat)) := by
  have positive : 0 < unit.toNat := Nat.pos_of_ne_zero fun zero => nonzero (UInt32.toNat_inj.mp zero)
  have word := unit.toNat_lt
  have nonneg : 0 ≤ now.us - superframe.beacon.us := Int.sub_nonneg.mpr begun
  have fewer := rate.complete_lt
    (show (now.us - superframe.beacon.us).toNat ≤ 2 ^ 51 + 2 ^ 48 by omega)
  rw [SymbolRate.symbolsIn_of_lt nonneg (by dsimp only; omega)] at counted
  have come (other : Nat) : superframe.boundaryUs unit.toNat rate other ≤ now.us ↔ other ≤ count :=
    counted ▸ boundaryUs_le_iff positive begun
  obtain ⟨_,within⟩ := boundary_bounds
    ((now.us - superframe.beacon.us).toNat * rate.perSecond.toNat / 1000000) unit.toNat positive
  dsimp only at counted
  rw [counted] at within
  have past : superframe.boundaryUs unit.toNat rate count ≤ now.us := (come count).mpr (Nat.le_refl count)
  have coming : now.us < superframe.boundaryUs unit.toNat rate (count + 1) := by
    apply Int.lt_of_not_ge
    exact fun further => Nat.not_succ_le_self count ((come _).mp further)
  have soon := boundaryUs_succ_le past
  have period := rate.microseconds_le unit.toNat
  have more : count + 1 ≤ (count + 1) * unit.toNat := Nat.le_mul_of_pos_right _ positive
  refine ⟨past,coming,by omega,by omega,?shows⟩
  unfold boundaryUs at coming soon
  exact ⟨by omega,by omega⟩

theorem timeToBoundary_after {unit : UInt32} (nonzero : unit ≠ 0) (begun : superframe.beacon ≤ now)
    (near : now.us - superframe.beacon.us ≤ 2 ^ 51) :
    ∃ count wait, superframe.timeToBoundary now unit.toNat rate = .ok wait ∧
      superframe.boundaryUs unit.toNat rate count ≤ now.us ∧
      now.us < superframe.boundaryUs unit.toNat rate (count + 1) ∧
      superframe.boundaryUs unit.toNat rate (count + 1) = now.us + wait.us ∧
      InClockRange (rate.microseconds ((count + 1) * unit.toNat)) := by
  have positive : 0 < unit.toNat := Nat.pos_of_ne_zero fun zero => nonzero (UInt32.toNat_inj.mp zero)
  have nonneg : 0 ≤ now.us - superframe.beacon.us := Int.sub_nonneg.mpr begun
  obtain ⟨count,counted⟩ :
    ∃ count, rate.symbolsIn ⟨now.us - superframe.beacon.us⟩ / unit.toNat = count := ⟨_,rfl⟩
  obtain ⟨past,coming,few,places,shows⟩ := last_boundary nonzero begun near counted
  refine ⟨count,⟨rate.microseconds ((count + 1) * unit.toNat) - (now.us - superframe.beacon.us)⟩,?wait,
    past,coming,by unfold boundaryUs; dsimp only; omega,shows⟩
  have counts : longWordValue .addition (count + 1) = .ok (count + 1) :=
    longWordValue_eq_ok.mpr ⟨few,rfl⟩
  have whole : longWordValue .multiplication ((count + 1) * unit.toNat) =
      .ok ((count + 1) * unit.toNat) := longWordValue_eq_ok.mpr ⟨places,rfl⟩
  rw [timeToBoundary_begun positive begun ⟨by omega,by omega⟩,counted,counts,except_ok_bind,whole,
    except_ok_bind,SymbolRate.spanOf_eq shows,Span.minus_eq_ok]
  have upper := shows.2
  exact ⟨⟨by dsimp only; omega,by dsimp only; omega⟩,rfl⟩

theorem timeToBoundary_before {unit : Nat} (early : now < superframe.beacon)
    (shows : InClockRange (superframe.beacon.us - now.us)) :
    superframe.timeToBoundary now unit rate = .ok ⟨superframe.beacon.us - now.us⟩ := by
  rw [Instant.lt_def] at early
  obtain ⟨lower,upper⟩ := shows
  have since : now.since superframe.beacon = .ok ⟨now.us - superframe.beacon.us⟩ := by
    rw [Instant.since_eq_ok]
    exact ⟨⟨by omega,by omega⟩,rfl⟩
  have negative : (Span.mk (now.us - superframe.beacon.us)).isNegative = true := by
    simp only [Span.isNegative,decide_eq_true_eq]
    omega
  rw [timeToBoundary,since,except_ok_bind,negative,if_pos rfl,Instant.since_eq_ok]
  exact ⟨⟨lower,upper⟩,rfl⟩

end Superframe

/-- In a superframe that began at most some 70 years ago the wait for the next boundary ends at the
first boundary after now, so it is at least one microsecond and at most one backoff period; before
the superframe begins it ends with the beacon. Boundaries are counted exactly, and the one that the
wait leads to is in the range of the conversion to time. -/
theorem boundary_comes_first (superframe : Superframe) (now : Instant) (rate : SymbolRate)
    {unit : UInt32} (nonzero : unit ≠ 0) :
    (0 ≤ now.us - superframe.beacon.us → now.us - superframe.beacon.us ≤ 2 ^ 51 →
      ∃ wait, superframe.timeToBoundary now unit.toNat rate = .ok wait ∧
        IsLeast {us | now.us < us ∧ ∃ count ≥ 1, superframe.boundaryUs unit.toNat rate count = us}
          (now.us + wait.us) ∧
        (∃ count ≥ 1, superframe.beacon.us + (rate.spanOf (count * unit.toNat)).us =
          now.us + wait.us) ∧
        1 ≤ wait.us ∧ wait ≤ rate.spanOf unit.toNat) ∧
    (now < superframe.beacon → InClockRange (superframe.beacon.us - now.us) →
      ∃ wait, superframe.timeToBoundary now unit.toNat rate = .ok wait ∧
        now.us + wait.us = superframe.beacon.us) := by
  have word := unit.toNat_lt
  refine ⟨?after,?before⟩
  case after =>
    intro begun near
    obtain ⟨count,wait,waits,past,coming,reaches,shows⟩ :=
      Superframe.timeToBoundary_after nonzero (Int.le_of_sub_nonneg begun) near
    have soon := Superframe.boundaryUs_succ_le past
    refine ⟨wait,waits,⟨⟨by omega,count + 1,by omega,reaches⟩,?first⟩,
      ⟨count + 1,by omega,?converted⟩,by omega,?period⟩
    case first =>
      rintro us ⟨later,other,_,rfl⟩
      rw [← reaches]
      apply Superframe.boundaryUs_mono
      apply Nat.succ_le_of_lt
      apply Nat.lt_of_not_le
      intro fewer
      have sooner : superframe.boundaryUs unit.toNat rate other ≤
          superframe.boundaryUs unit.toNat rate count := Superframe.boundaryUs_mono fewer
      omega
    case converted =>
      rw [SymbolRate.spanOf_eq shows]
      exact reaches
    case period =>
      rw [SymbolRate.spanOf_eq (SymbolRate.microseconds_inRange (by omega)),Span.le_def]
      dsimp only
      omega
  case before =>
    intro early shows
    exact ⟨_,Superframe.timeToBoundary_before early shows,by dsimp only; omega⟩

/-- At 300000 symbols per second the second boundary rounds up to 134 microseconds after the beacon;
one microsecond before it, inside the last symbol, it is the next one. -/
theorem boundary_comes_first_fractional :
    (0 : Int) ≤ 1133 - 1000 ∧ (1133 : Int) - 1000 ≤ 2 ^ 51 ∧
      (Superframe.capped ⟨1000⟩ 0 15).timeToBoundary ⟨1133⟩ 20 ⟨300000,by decide⟩ = .ok ⟨1⟩ ∧
      IsLeast {us | (1133 : Int) < us ∧ ∃ count ≥ 1,
        (Superframe.capped ⟨1000⟩ 0 15).boundaryUs 20 ⟨300000,by decide⟩ count = us} 1134 := by
  have nonzero : (20 : UInt32) ≠ 0 := by decide
  obtain ⟨⟨us⟩,waits,first,_,least,_⟩ := (boundary_comes_first (Superframe.capped ⟨1000⟩ 0 15) ⟨1133⟩
    ⟨300000,by decide⟩ nonzero).1 (by decide) (by decide)
  have second : (Superframe.capped ⟨1000⟩ 0 15).boundaryUs 20 ⟨300000,by decide⟩ 2 = 1134 := by decide
  have soon : 1133 + us ≤ 1134 := first.2 ⟨by decide,2,by decide,second⟩
  obtain rfl : us = 1 := by
    dsimp only at least
    omega
  exact ⟨by decide,by decide,waits,first⟩

end ChannelAccess
