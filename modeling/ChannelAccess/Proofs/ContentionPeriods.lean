import ChannelAccess.Proofs.Simulation.Landing
import ChannelAccess.Proofs.TransactionCost

/-!
The time that is left in a CAP, and one CAP after another. Every end is rounded up to a microsecond by
itself, and still no CAP runs into the next one, at any symbol rate and after any number of
superframes. Main statement: `caps_in_succession`.
-/

namespace ChannelAccess

namespace Superframe

/-- When the CAP ends, whether or not a clock can show it. -/
def closeUs (superframe : Superframe) (rate : SymbolRate) : Int :=
  superframe.beacon.us + rate.microseconds superframe.capDuration

/-- When the beacon comes that follows after `count` superframes, whether or not a clock can show
it. -/
def followUs (superframe : Superframe) (rate : SymbolRate) (count : Nat) : Int :=
  superframe.beacon.us + (count * rate.microseconds superframe.duration : Nat)

/-- The superframe that follows after `count` superframes. -/
def after (superframe : Superframe) (rate : SymbolRate) : Nat → Except Overflow Superframe
  | 0 => .ok superframe
  | count + 1 => do
    let before ← superframe.after rate count
    before.next rate

/-- The instant lies between the beacon and the end of the CAP, both included. -/
def Covers (superframe : Superframe) (rate : SymbolRate) (t : Instant) : Prop :=
  ∃ close, superframe.capEnd rate = .ok close ∧ superframe.beacon ≤ t ∧ t ≤ close

variable {superframe later : Superframe} {rate : SymbolRate} {now close : Instant} {left : Span}

theorem capEnd_eq_ok :
    superframe.capEnd rate = .ok close ↔
      InClockRange (superframe.closeUs rate) ∧ superframe.closeUs rate = close.us := by
  have short := superframe.capDuration_le
  rw [capEnd,Instant.plus_eq_ok,SymbolRate.spanOf_eq (SymbolRate.microseconds_inRange (by omega))]
  rfl

theorem timeLeftInCap_eq_ok :
    superframe.timeLeftInCap now rate = .ok left ↔
      InClockRange (superframe.closeUs rate) ∧ InClockRange (superframe.closeUs rate - now.us) ∧
        max (superframe.closeUs rate - now.us) 0 = left.us := by
  constructor
  · intro remains
    obtain ⟨close,ends,remains⟩ := except_bind_eq_ok.mp remains
    obtain ⟨rest,since,remains⟩ := except_bind_eq_ok.mp remains
    obtain ⟨shows,closeUs⟩ := capEnd_eq_ok.mp ends
    obtain ⟨near,restUs⟩ := Instant.since_eq_ok.mp since
    cases remains
    rw [Span.clampNonNegative_us,← restUs,closeUs]
    exact ⟨closeUs ▸ shows,near,rfl⟩
  · rintro ⟨shows,near,leftUs⟩
    have ends : superframe.capEnd rate = .ok ⟨superframe.closeUs rate⟩ := capEnd_eq_ok.mpr ⟨shows,rfl⟩
    have since : (Instant.mk (superframe.closeUs rate)).since now =
        .ok ⟨superframe.closeUs rate - now.us⟩ := Instant.since_eq_ok.mpr ⟨near,rfl⟩
    rw [timeLeftInCap,ends,except_ok_bind,since,except_ok_bind]
    obtain ⟨us⟩ := left
    exact congrArg (fun us => Except.ok (Span.mk us)) ((Span.clampNonNegative_us _).trans leftUs)

theorem beacon_lt_closeUs : superframe.beacon.us < superframe.closeUs rate := by
  have takesTime := rate.microseconds_pos superframe.capDuration_pos
  unfold closeUs
  omega

theorem followUs_zero : superframe.followUs rate 0 = superframe.beacon.us := by
  unfold followUs
  omega

theorem followUs_one :
    superframe.followUs rate 1 = superframe.beacon.us + rate.microseconds superframe.duration := by
  unfold followUs
  omega

theorem followUs_succ (count : Nat) :
    superframe.followUs rate (count + 1) =
      superframe.followUs rate count + rate.microseconds superframe.duration := by
  unfold followUs
  rw [Nat.succ_mul]
  omega

theorem followUs_mono {fewer count : Nat} (le : fewer ≤ count) :
    superframe.followUs rate fewer ≤ superframe.followUs rate count := by
  have sooner : fewer * rate.microseconds superframe.duration ≤
      count * rate.microseconds superframe.duration := Nat.mul_le_mul_right _ le
  unfold followUs
  omega

/-- Rounding up keeps the order of the end of the CAP and the next beacon. -/
theorem closeUs_le (last : superframe.finalSlot.toNat ≤ 15) :
    superframe.closeUs rate ≤ superframe.followUs rate 1 := by
  have whole : superframe.capDuration ≤ superframe.duration := by
    calc superframe.capDuration
        ≤ superframe.duration / 16 * 16 := Nat.mul_le_mul_left _ (by omega)
      _ ≤ superframe.duration := Nat.div_mul_le_self _ _
  have sooner : rate.microseconds superframe.capDuration ≤ rate.microseconds superframe.duration :=
    SymbolRate.microseconds_mono whole
  rw [followUs_one,closeUs]
  omega

/-- The beacon after one more superframe. -/
theorem followUs_onward (count : Nat) :
    Superframe.followUs { superframe with beacon := ⟨superframe.followUs rate count⟩ } rate 1 =
      superframe.followUs rate (count + 1) :=
  followUs_one.trans (followUs_succ count).symm

theorem next_iff :
    superframe.next rate = .ok later ↔ InClockRange (superframe.followUs rate 1) ∧
      { superframe with beacon := ⟨superframe.followUs rate 1⟩ } = later := by
  have short := superframe.duration_le
  have us : superframe.followUs rate 1 =
      superframe.beacon.us + (rate.spanOf superframe.duration).us := by
    rw [SymbolRate.spanOf_eq (SymbolRate.microseconds_inRange (by omega)),followUs_one]
  rw [next,except_map_eq_ok,us]
  constructor
  · rintro ⟨beacon,reaches,rfl⟩
    obtain ⟨shows,sum⟩ := Instant.plus_eq_ok.mp reaches
    rw [sum]
    exact ⟨sum ▸ shows,rfl⟩
  · rintro ⟨shows,rfl⟩
    exact ⟨_,Instant.plus_eq_ok.mpr ⟨shows,rfl⟩,rfl⟩

/-- Beacons follow each other at equal distances, as long as a clock can show them. -/
theorem after_eq_ok {count : Nat} (begins : InClockRange superframe.beacon.us) :
    superframe.after rate count = .ok later ↔ InClockRange (superframe.followUs rate count) ∧
      { superframe with beacon := ⟨superframe.followUs rate count⟩ } = later := by
  induction count generalizing later with
  | zero =>
    rw [after,followUs_zero]
    exact ⟨fun same => ⟨begins,Except.ok.inj same⟩,fun same => congrArg Except.ok same.2⟩
  | succ count ih =>
    rw [after,except_bind_eq_ok]
    constructor
    · rintro ⟨middle,earlier,follows⟩
      obtain ⟨_,rfl⟩ := ih.mp earlier
      obtain ⟨shows,rfl⟩ := next_iff.mp follows
      rw [followUs_onward] at shows ⊢
      exact ⟨shows,rfl⟩
    · rintro ⟨shows,rfl⟩
      -- A beacon between two that a clock can show can be shown as well.
      have first : superframe.followUs rate 0 ≤ superframe.followUs rate count :=
        followUs_mono (Nat.zero_le count)
      have last : superframe.followUs rate count ≤ superframe.followUs rate (count + 1) :=
        followUs_mono (Nat.le_succ count)
      rw [followUs_zero] at first
      have between : InClockRange (superframe.followUs rate count) :=
        ⟨Int.le_trans begins.1 first,Int.lt_of_le_of_lt last shows.2⟩
      refine ⟨_,ih.mpr ⟨between,rfl⟩,next_iff.mpr ?_⟩
      rw [followUs_onward]
      exact ⟨shows,rfl⟩

theorem capped_finalSlot (beacon : Instant) (order finalSlot : UInt8) :
    (capped beacon order finalSlot).finalSlot.toNat ≤ 15 := by
  change (if finalSlot ≤ 15 then finalSlot else 15).toNat ≤ 15
  split
  · rename_i small
    exact UInt8.le_iff_toNat_le.mp small
  · exact Nat.le_refl 15

/-- The time left shrinks, and by no more than what passes. -/
theorem timeLeftInCap_shrinks {soon : Instant} {rest : Span} (onward : now ≤ soon)
    (remains : superframe.timeLeftInCap now rate = .ok left)
    (lasts : superframe.timeLeftInCap soon rate = .ok rest) :
    0 ≤ rest.us ∧ rest ≤ left ∧ left.us ≤ rest.us + (soon.us - now.us) := by
  obtain ⟨_,_,leftUs⟩ := timeLeftInCap_eq_ok.mp remains
  obtain ⟨_,_,restUs⟩ := timeLeftInCap_eq_ok.mp lasts
  rw [Instant.le_def] at onward
  rw [Span.le_def]
  omega

theorem timeLeftInCap_eq_zero (remains : superframe.timeLeftInCap now rate = .ok left) :
    ∃ close, superframe.capEnd rate = .ok close ∧ (left.us = 0 ↔ close ≤ now) := by
  obtain ⟨shows,_,leftUs⟩ := timeLeftInCap_eq_ok.mp remains
  refine ⟨⟨superframe.closeUs rate⟩,capEnd_eq_ok.mpr ⟨shows,rfl⟩,?_⟩
  rw [Instant.le_def]
  dsimp only
  omega

/-- Within the time left nothing overflows, and what passes is what is lost. -/
theorem timeLeftInCap_plus {delay : Span} (reads : InClockRange now.us)
    (remains : superframe.timeLeftInCap now rate = .ok left) (nonneg : 0 ≤ delay.us)
    (within : delay ≤ left) :
    ∃ soon rest, now.plus delay = .ok soon ∧ superframe.timeLeftInCap soon rate = .ok rest ∧
      left.minus delay = .ok rest := by
  obtain ⟨shows,near,leftUs⟩ := timeLeftInCap_eq_ok.mp remains
  rw [Span.le_def] at within
  simp only [InClockRange] at reads shows near
  refine ⟨⟨now.us + delay.us⟩,⟨left.us - delay.us⟩,Instant.plus_eq_ok.mpr ⟨?sum,rfl⟩,
    timeLeftInCap_eq_ok.mpr ⟨shows,?near,?rest⟩,Span.minus_eq_ok.mpr ⟨?difference,rfl⟩⟩
  case sum => exact ⟨by omega,by omega⟩
  case near => exact ⟨by dsimp only; omega,by dsimp only; omega⟩
  case rest =>
    dsimp only
    omega
  case difference => exact ⟨by omega,by omega⟩

/-- Between two beacons of one succession the CAP of the earlier superframe begins and ends. -/
theorem after_capEnd_le {fewer count : Nat} {earlier : Superframe} (last : superframe.finalSlot.toNat ≤ 15)
    (begins : InClockRange superframe.beacon.us) (less : fewer < count)
    (before : superframe.after rate fewer = .ok earlier) (follows : superframe.after rate count = .ok later) :
    ∃ close, earlier.capEnd rate = .ok close ∧ earlier.beacon < close ∧ close ≤ later.beacon := by
  obtain ⟨⟨lower,_⟩,rfl⟩ := (after_eq_ok begins).mp before
  obtain ⟨⟨_,upper⟩,rfl⟩ := (after_eq_ok begins).mp follows
  let earlier : Superframe := { superframe with beacon := ⟨superframe.followUs rate fewer⟩ }
  have opens : superframe.followUs rate fewer < earlier.closeUs rate := beacon_lt_closeUs
  have closes : earlier.closeUs rate ≤ superframe.followUs rate count :=
    calc earlier.closeUs rate
        ≤ earlier.followUs rate 1 := closeUs_le last
      _ = superframe.followUs rate (fewer + 1) := followUs_onward fewer
      _ ≤ superframe.followUs rate count := followUs_mono less
  have shows : InClockRange (earlier.closeUs rate) := ⟨by omega,by omega⟩
  exact ⟨⟨earlier.closeUs rate⟩,capEnd_eq_ok.mpr ⟨shows,rfl⟩,opens,closes⟩

theorem Covers.meet {earlier : Superframe} {t : Instant} (ends : earlier.capEnd rate = .ok close)
    (apart : close ≤ later.beacon) (covers : earlier.Covers rate t) (covers' : later.Covers rate t) :
    t = close ∧ t = later.beacon := by
  obtain ⟨close',ends',_,upto⟩ := covers
  obtain ⟨_,_,since,_⟩ := covers'
  cases ends.symm.trans ends'
  rw [Instant.le_def] at apart upto since
  have last : t.us = close.us := by omega
  have first : t.us = later.beacon.us := by omega
  exact ⟨congrArg Instant.mk last,congrArg Instant.mk first⟩

end Superframe

/-- A whole number of microseconds for each symbol is not rounded. -/
theorem SymbolRate.microseconds_of_dvd {rate : SymbolRate} (whole : rate.perSecond.toNat ∣ 1000000)
    (symbols : Nat) : rate.microseconds symbols = symbols * (1000000 / rate.perSecond.toNat) := by
  have positive := rate.perSecond_pos
  obtain ⟨period,exact⟩ := whole
  rw [microseconds,exact,Nat.mul_div_cancel_left period positive,Nat.mul_left_comm]
  apply Nat.div_eq_of_lt_le
  · rw [Nat.mul_comm]
    omega
  · rw [Nat.succ_mul,Nat.mul_comm]
    omega

/-- Wherever nothing overflows, the time left in a CAP is never negative, shrinks by no more than what
passes, is zero exactly from the end of the CAP on, and loses what passes until then. The CAP of a
superframe begins with its beacon and ends no later than the next beacon comes, so however many
superframes follow one another, what two of their CAPs have in common is at most one instant, the end
of the earlier and the beacon of the later. At a rate with a whole number of microseconds for each
symbol the beacons keep their exact distance. -/
theorem caps_in_succession (rate : SymbolRate) :
    (∀ (superframe : Superframe) (now : Instant),
      ((∃ left, superframe.timeLeftInCap now rate = .ok left) ↔
        InClockRange (superframe.closeUs rate) ∧ InClockRange (superframe.closeUs rate - now.us)) ∧
      ∀ left, superframe.timeLeftInCap now rate = .ok left →
        (∀ soon rest, now ≤ soon → superframe.timeLeftInCap soon rate = .ok rest →
          0 ≤ rest.us ∧ rest ≤ left ∧ left.us ≤ rest.us + (soon.us - now.us)) ∧
        (∃ close, superframe.capEnd rate = .ok close ∧ (left.us = 0 ↔ close ≤ now)) ∧
        ∀ delay, InClockRange now.us → 0 ≤ delay.us → delay ≤ left →
          ∃ soon rest, now.plus delay = .ok soon ∧ superframe.timeLeftInCap soon rate = .ok rest ∧
            left.minus delay = .ok rest) ∧
    ∀ (beacon : Instant) (order finalSlot : UInt8), InClockRange beacon.us →
      let first := Superframe.capped beacon order finalSlot
      (∀ close, first.capEnd rate = .ok close → beacon < close) ∧
      (∀ next, first.next rate = .ok next →
        ∃ close, first.capEnd rate = .ok close ∧ beacon < close ∧ close ≤ next.beacon) ∧
      (∀ count, (∃ later, first.after rate count = .ok later) ↔
        InClockRange (first.followUs rate count)) ∧
      (∀ fewer count earlier later, fewer < count → first.after rate fewer = .ok earlier →
        first.after rate count = .ok later →
        ∃ close, earlier.capEnd rate = .ok close ∧ earlier.beacon < close ∧ close ≤ later.beacon ∧
          ∀ t, earlier.Covers rate t → later.Covers rate t → t = close ∧ t = later.beacon) ∧
      (rate.perSecond.toNat ∣ 1000000 → ∀ count later, first.after rate count = .ok later →
        later.beacon.us =
          beacon.us + count * (first.duration * (1000000 / rate.perSecond.toNat) : Nat)) := by
  refine ⟨fun superframe now => ⟨⟨?shows,?remains⟩,fun left remains => ⟨?shrinks,?zero,?passes⟩⟩,
    fun beacon order finalSlot begins => ⟨?opens,?closes,?follows,?apart,?exact⟩⟩
  case shows =>
    rintro ⟨left,remains⟩
    obtain ⟨shows,near,_⟩ := Superframe.timeLeftInCap_eq_ok.mp remains
    exact ⟨shows,near⟩
  case remains =>
    rintro ⟨shows,near⟩
    exact ⟨⟨_⟩,Superframe.timeLeftInCap_eq_ok.mpr ⟨shows,near,rfl⟩⟩
  case shrinks => exact fun soon rest onward => Superframe.timeLeftInCap_shrinks onward remains
  case zero => exact Superframe.timeLeftInCap_eq_zero remains
  case passes => exact fun delay reads => Superframe.timeLeftInCap_plus reads remains
  all_goals have last := Superframe.capped_finalSlot beacon order finalSlot
  case opens =>
    intro close ends
    rw [Instant.lt_def,← (Superframe.capEnd_eq_ok.mp ends).2]
    exact Superframe.beacon_lt_closeUs
  case closes =>
    intro next follows
    exact Superframe.after_capEnd_le last begins Nat.zero_lt_one rfl follows
  case follows =>
    intro count
    constructor
    · rintro ⟨later,follows⟩
      exact ((Superframe.after_eq_ok begins).mp follows).1
    · exact fun shows => ⟨_,(Superframe.after_eq_ok begins).mpr ⟨shows,rfl⟩⟩
  case apart =>
    intro fewer count earlier later less before follows
    obtain ⟨close,ends,opens,apart⟩ := Superframe.after_capEnd_le last begins less before follows
    exact ⟨close,ends,opens,apart,fun t => Superframe.Covers.meet ends apart⟩
  case exact =>
    intro whole count later follows
    obtain ⟨_,rfl⟩ := (Superframe.after_eq_ok begins).mp follows
    rw [← SymbolRate.microseconds_of_dvd whole,← Int.natCast_mul]
    rfl

/-- At 70000 symbols per second each superframe rounds up to 13715 microseconds, and the third CAP ends
as the fourth beacon comes. At 62500 symbols per second nothing is rounded. -/
theorem caps_in_succession_fractional :
    let first := Superframe.capped ⟨-100⟩ 0 15
    let rate : SymbolRate := ⟨70000,by decide⟩
    (∃ earlier later close, first.after rate 2 = .ok earlier ∧ first.after rate 3 = .ok later ∧
      earlier.capEnd rate = .ok close ∧ earlier.beacon < close ∧ close ≤ later.beacon ∧
      earlier.Covers rate ⟨41045⟩ ∧ later.Covers rate ⟨41045⟩ ∧ later.beacon = ⟨41045⟩) ∧
    (∃ soon rest, first.timeLeftInCap ⟨13000⟩ rate = .ok ⟨615⟩ ∧ (Instant.mk 13000).plus ⟨600⟩ = .ok soon ∧
      first.timeLeftInCap soon rate = .ok rest ∧ (Span.mk 615).minus ⟨600⟩ = .ok rest ∧ rest ≤ ⟨615⟩) ∧
    ∃ later, first.after ⟨62500,by decide⟩ 2 = .ok later ∧ later.beacon.us = -100 + 2 * (960 * 16) := by
  intro first rate
  have begins : InClockRange (Instant.mk (-100)).us := by decide
  obtain ⟨times,periods⟩ := caps_in_succession rate
  obtain ⟨_,_,_,apart,_⟩ := periods ⟨-100⟩ 0 15 begins
  refine ⟨?caps,?left,?beacons⟩
  case caps =>
    have before : first.after rate 2 = .ok ⟨⟨27330⟩,0,15⟩ := by decide
    have follows : first.after rate 3 = .ok ⟨⟨41045⟩,0,15⟩ := by decide
    have covers : Superframe.Covers ⟨⟨27330⟩,0,15⟩ rate ⟨41045⟩ := ⟨⟨41045⟩,by decide⟩
    have covers' : Superframe.Covers ⟨⟨41045⟩,0,15⟩ rate ⟨41045⟩ := ⟨⟨54760⟩,by decide⟩
    obtain ⟨close,ends,opens,closes,meet⟩ := apart 2 3 _ _ (by decide) before follows
    exact ⟨_,_,close,before,follows,ends,opens,closes,covers,covers',(meet _ covers covers').2.symm⟩
  case left =>
    have remains : first.timeLeftInCap ⟨13000⟩ rate = .ok ⟨615⟩ := by decide
    obtain ⟨shrinks,_,passes⟩ := (times first ⟨13000⟩).2 ⟨615⟩ remains
    obtain ⟨soon,rest,reaches,lasts,less⟩ := passes ⟨600⟩ (by decide) (by decide) (by decide)
    have onward : Instant.mk 13000 ≤ soon := Instant.le_plus (by decide) reaches
    exact ⟨soon,rest,remains,reaches,lasts,less,(shrinks soon rest onward lasts).2.1⟩
  case beacons =>
    have follows : first.after ⟨62500,by decide⟩ 2 = .ok ⟨⟨30620⟩,0,15⟩ := by decide
    obtain ⟨_,_,_,_,exact⟩ := (caps_in_succession ⟨62500,by decide⟩).2 ⟨-100⟩ 0 15 begins
    exact ⟨_,follows,exact (by decide) 2 _ follows⟩

end ChannelAccess
