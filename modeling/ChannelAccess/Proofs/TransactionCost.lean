import Mathlib.Algebra.Group.Nat.Defs
import ChannelAccess.Cost
import ChannelAccess.Proofs.Conversions

/-!
What a transaction costs and whether it fits the rest of a CAP. Its parts are added up in a word that
stays full, so a sum that is too large shows as the largest word at the end and nowhere else, and a
sum of so many symbols fits no CAP. Only the two turnarounds of a transaction without acknowledgment
can leave their word. Main statements: `cost_saturates` and `Superframe.left_lt_iff`.
-/

namespace ChannelAccess

namespace Cost

/-- Symbols of a transaction whether or not a word holds them: the assessments of a contention window,
a frame of `length` symbols, its reply or two turnarounds, and the spacing. -/
def unbounded (window length : Nat) (frame : Frame) (ackWait turnaround : UInt32) : Nat :=
  8 * window + length + (if frame.ackRequested then ackWait.toNat else 2 * turnaround.toNat) +
    frame.spacing.toNat

variable {window length : Nat} {frame : Frame} {ackWait turnaround : UInt32}

theorem total_eq (cost : Cost) :
    cost.total = min (cost.assessments + cost.frame + cost.reply + cost.spacing) largestWord := by
  unfold total
  rw [show saturatingAdd cost.assessments cost.frame = min _ largestWord from rfl,
    saturatingAdd_saturated,saturatingAdd_saturated]

theorem estimate_overflows (unrequested : frame.ackRequested = false)
    (slow : 2 ^ 31 ≤ turnaround.toNat) :
    estimate window frame ackWait turnaround = .error .multiplication := by
  have large : ¬ 2 * turnaround.toNat < 4294967296 := by omega
  simp [estimate,unrequested,wordValue,large,bind,Except.bind]

theorem estimate_fits (window : Nat) (ackWait : UInt32)
    (fits : frame.ackRequested = true ∨ turnaround.toNat < 2 ^ 31) :
    ∃ cost, estimate window frame ackWait turnaround = .ok cost ∧
      cost.total =
        min (unbounded window frame.symbols.toNat frame ackWait turnaround) largestWord := by
  cases requested : frame.ackRequested with
  | true =>
    refine ⟨_,by simp only [estimate,requested,if_true]; rfl,?_⟩
    rw [total_eq,unbounded,requested]
    rfl
  | false =>
    have small : 2 * turnaround.toNat < 4294967296 := by
      rw [requested] at fits
      simp only [Bool.false_eq_true,false_or] at fits
      omega
    have twice : wordValue .multiplication (2 * turnaround.toNat) = .ok (2 * turnaround.toNat) :=
      wordValue_eq_ok.mpr ⟨small,rfl⟩
    refine ⟨_,by simp only [estimate,requested,Bool.false_eq_true,if_false,twice]; rfl,?_⟩
    rw [total_eq,unbounded,requested]
    rfl

theorem map_total_eq :
    (estimate window frame ackWait turnaround).map total =
      if frame.ackRequested = true ∨ turnaround.toNat < 2 ^ 31 then
        .ok (min (unbounded window frame.symbols.toNat frame ackWait turnaround) largestWord)
      else .error .multiplication := by
  by_cases fits : frame.ackRequested = true ∨ turnaround.toNat < 2 ^ 31
  · obtain ⟨cost,estimated,total⟩ := estimate_fits window ackWait fits
    rw [if_pos fits,estimated,← total]
    rfl
  · simp only [not_or,Bool.not_eq_true,Nat.not_lt] at fits
    rw [if_neg (by simpa using fits),estimate_overflows fits.1 fits.2]
    rfl

theorem total_of_ok {total : Nat}
    (estimated : (estimate window frame ackWait turnaround).map Cost.total = .ok total) :
    total = min (unbounded window frame.symbols.toNat frame ackWait turnaround) largestWord := by
  rw [map_total_eq] at estimated
  split at estimated
  · cases estimated
    rfl
  · cases estimated

/-- A frame that is cut down to the largest word costs what it costs in full. -/
theorem unbounded_cut (window length : Nat) (frame : Frame) (ackWait turnaround : UInt32) :
    min (unbounded window (min length largestWord) frame ackWait turnaround) largestWord =
      min (unbounded window length frame ackWait turnaround) largestWord := by
  unfold unbounded
  omega

theorem unbounded_mono {window' length' : Nat} {frame' : Frame} {ackWait' turnaround' : UInt32}
    (windows : window ≤ window') (lengths : length ≤ length')
    (alike : frame.ackRequested = frame'.ackRequested) (waits : ackWait ≤ ackWait')
    (turnarounds : turnaround ≤ turnaround') (spacings : frame.spacing ≤ frame'.spacing) :
    unbounded window length frame ackWait turnaround ≤
      unbounded window' length' frame' ackWait' turnaround' := by
  rw [UInt32.le_iff_toNat_le] at waits turnarounds spacings
  unfold unbounded
  rw [← alike]
  split <;> omega

end Cost

namespace SymbolRate

theorem microseconds_pos (rate : SymbolRate) {symbols : Nat} (positive : 0 < symbols) : 0 < rate.microseconds symbols := by
  rw [lt_microseconds]
  omega

theorem microseconds_capDuration_lt (rate : SymbolRate) (superframe : Superframe) :
    rate.microseconds superframe.capDuration < rate.microseconds largestWord := by
  have short := superframe.capDuration_le
  have word := rate.perSecond.toNat_lt
  have tight := Nat.div_mul_le_self
    (superframe.capDuration * 1000000 + rate.perSecond.toNat - 1) rate.perSecond.toNat
  rw [lt_microseconds,microseconds,largestWord]
  omega

end SymbolRate

/-- From the beacon on, the clamped time left in a CAP is too short for a saturated number of symbols
exactly if the true number of symbols ends after the CAP. -/
theorem Superframe.left_lt_iff {superframe : Superframe} {now capEnd : Instant} {rate : SymbolRate}
    {left : Span} {symbols : Nat} (begun : superframe.beacon ≤ now) (positive : 0 < symbols)
    (ends : superframe.capEnd rate = .ok capEnd)
    (remains : superframe.timeLeftInCap now rate = .ok left) :
    left < rate.spanOf (min symbols largestWord) ↔
      capEnd.us < now.us + rate.microseconds symbols := by
  obtain ⟨_,ends',leftUs⟩ := timeLeftInCap_eq remains
  cases ends.symm.trans ends'
  obtain ⟨_,endUs⟩ := Instant.plus_eq_ok.mp ends
  have short := superframe.capDuration_le
  rw [SymbolRate.spanOf_eq (SymbolRate.microseconds_inRange (by omega))] at endUs
  have cut : min symbols largestWord ≤ 1099511627776 :=
    Nat.le_trans (Nat.min_le_right _ _) (by decide)
  rw [SymbolRate.spanOf_eq (SymbolRate.microseconds_inRange cut),Span.lt_def,leftUs]
  rw [Instant.le_def] at begun
  dsimp only at endUs ⊢
  have takesTime := rate.microseconds_pos positive
  by_cases fits : symbols ≤ largestWord
  · rw [Nat.min_eq_left fits]
    omega
  · -- No CAP is as long as the largest word of symbols, so both sides hold.
    have outlasts := rate.microseconds_capDuration_lt superframe
    have more : rate.microseconds largestWord ≤ rate.microseconds symbols :=
      SymbolRate.microseconds_mono (by omega)
    rw [Nat.min_eq_right (by omega)]
    omega

/-- The estimate of a transaction is the sum of its parts, at most the largest word, and grows with
each of them. There is none exactly if a word does not hold the two turnarounds of a frame without
acknowledgment. -/
theorem cost_saturates (window : UInt8) (frame : Frame) (ackWait turnaround : UInt32) :
    (Cost.estimate window.toNat frame ackWait turnaround).map Cost.total =
      (if frame.ackRequested = true ∨ turnaround.toNat < 2 ^ 31 then
        .ok (min (2 ^ 32 - 1) (8 * window.toNat + frame.symbols.toNat +
          (if frame.ackRequested then ackWait.toNat else 2 * turnaround.toNat) + frame.spacing.toNat))
      else .error .multiplication) ∧
    ∀ (window' : UInt8) (frame' : Frame) (ackWait' turnaround' : UInt32) (total total' : Nat),
      window ≤ window' → frame.symbols ≤ frame'.symbols →
      frame.ackRequested = frame'.ackRequested → ackWait ≤ ackWait' → turnaround ≤ turnaround' →
      frame.spacing ≤ frame'.spacing →
      (Cost.estimate window.toNat frame ackWait turnaround).map Cost.total = .ok total →
      (Cost.estimate window'.toNat frame' ackWait' turnaround').map Cost.total = .ok total' →
      total ≤ total' := by
  constructor
  · rw [Cost.map_total_eq,Nat.min_comm]
    rfl
  · intro window' frame' ackWait' turnaround' total total' windows lengths alike waits turnarounds
      spacings estimated estimated'
    have least := Cost.total_of_ok estimated
    have greatest := Cost.total_of_ok estimated'
    have grows := Cost.unbounded_mono (UInt8.le_iff_toNat_le.mp windows)
      (UInt32.le_iff_toNat_le.mp lengths) alike waits turnarounds spacings
    rw [least,greatest]
    omega

/-- A short transaction costs no more than one of almost the largest word, which saturates. -/
theorem cost_saturates_near_limit :
    ∃ short long, (Cost.estimate 2 ⟨100,false,40,false⟩ 7 12).map Cost.total = .ok short ∧
      (Cost.estimate 255 ⟨4294965000,false,40,false⟩ 7 2147483647).map Cost.total = .ok long ∧
      short ≤ long ∧ short = 180 ∧ long = 4294967295 := by
  obtain ⟨estimated,grows⟩ := cost_saturates 2 ⟨100,false,40,false⟩ 7 12
  have saturated := (cost_saturates 255 ⟨4294965000,false,40,false⟩ 7 2147483647).1
  refine ⟨180,4294967295,estimated,saturated,?_,rfl,rfl⟩
  exact grows 255 ⟨4294965000,false,40,false⟩ 7 2147483647 _ _ (by decide) (by decide) rfl
    (by decide) (by decide) (by decide) estimated saturated

/-- Two turnarounds that no word holds leave a transaction without an estimate. -/
theorem cost_leaves_word :
    Cost.estimate 0 ⟨1,false,0,false⟩ 7 2147483648 = .error .multiplication ∧
      (Cost.estimate 0 ⟨1,false,0,false⟩ 7 2147483648).map Cost.total ≠
        .ok (min (2 ^ 32 - 1) (8 * 0 + 1 + 2 * 2147483648 + 0)) := by
  constructor
  · rfl
  · intro saturated
    cases saturated

end ChannelAccess
