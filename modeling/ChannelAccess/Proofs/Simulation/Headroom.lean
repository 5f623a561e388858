import ChannelAccess.Proofs.Simulation.Growth

/-!
Attempts that do not overflow. As long as the clock, the beacon and the count of requests keep away
from the ends of their ranges, the sequential algorithm comes to a conclusion. Main statement:
`attempt_total`.
-/

namespace ChannelAccess

variable {ρ : Type}

/-- Microseconds that clocks and beacons may reach, half of what they can show. -/
def farthest : Int := 4611686018427387904

def Instant.IsNear (t : Instant) : Prop := 0 ≤ t.us ∧ t.us ≤ farthest

theorem Instant.plus_total {t : Instant} {d : Span} (inRange : InClockRange (t.us + d.us)) :
    t.plus d = .ok ⟨t.us + d.us⟩ :=
  Instant.plus_eq_ok.mpr ⟨inRange,rfl⟩

theorem Instant.since_total {t start : Instant} (near : t.IsNear) (begun : start.IsNear) :
    t.since start = .ok ⟨t.us - start.us⟩ := by
  obtain ⟨_,_⟩ := near
  obtain ⟨_,_⟩ := begun
  simp only [farthest] at *
  exact Instant.since_eq_ok.mpr ⟨⟨by omega,by omega⟩,rfl⟩

namespace Superframe

variable {superframe : Superframe} {now : Instant}

theorem timeLeftInCap_total (phy : Phy) (beacon : superframe.beacon.IsNear) (near : now.IsNear) :
    ∃ left, superframe.timeLeftInCap now (.ofPhy phy) = .ok left := by
  obtain ⟨begun,soon⟩ := beacon
  obtain ⟨_,_⟩ := near
  have short := superframe.capDuration_le
  have slow := phy.symbolPeriod_bounds.2
  have lasts : superframe.capDuration * phy.symbolPeriod ≤ 251658240 * 50 := Nat.mul_le_mul short slow
  simp only [farthest] at *
  have ends : superframe.capEnd (.ofPhy phy) =
      .ok ⟨superframe.beacon.us + (superframe.capDuration * phy.symbolPeriod : Nat)⟩ := by
    rw [capEnd,SymbolRate.spanOf_ofPhy (by omega),← Int.natCast_mul]
    exact Instant.plus_total ⟨by dsimp only; omega,by dsimp only; omega⟩
  obtain ⟨left,remains⟩ : ∃ left, (Instant.mk (superframe.beacon.us +
      (superframe.capDuration * phy.symbolPeriod : Nat))).since now = .ok left :=
    ⟨⟨_⟩,Instant.since_eq_ok.mpr ⟨⟨by dsimp only; omega,by dsimp only; omega⟩,rfl⟩⟩
  refine ⟨left.clampNonNegative,?_⟩
  rw [timeLeftInCap,ends,except_ok_bind,remains]
  rfl

theorem timeToBoundary_total (phy : Phy) (beacon : superframe.beacon.IsNear) (near : now.IsNear) :
    ∃ wait, superframe.timeToBoundary now 20 (.ofPhy phy) = .ok wait := by
  have since := Instant.since_total near beacon
  rw [timeToBoundary,since,except_ok_bind]
  by_cases negative : now.us - superframe.beacon.us < 0
  · simp only [Span.isNegative,negative,decide_true,if_true]
    exact ⟨_,Instant.since_total beacon near⟩
  · obtain ⟨begun,_⟩ := beacon
    obtain ⟨_,soon⟩ := near
    simp only [farthest] at *
    have inRange : InClockRange (now.us - superframe.beacon.us) := ⟨by omega,by omega⟩
    have nonneg : 0 ≤ now.us - superframe.beacon.us := by omega
    obtain ⟨next,within⟩ := SymbolRate.boundary_near phy
      (show 0 ≤ (Span.mk (now.us - superframe.beacon.us)).us from nonneg) inRange
    simp only [Span.isNegative,negative,decide_false,Bool.false_eq_true,if_false,Nat.reduceLeDiff,
      Nat.max_eq_left]
    generalize (SymbolRate.ofPhy phy).symbolsIn ⟨now.us - superframe.beacon.us⟩ / 20 + 1 = periods
      at next within ⊢
    obtain ⟨fast,slow⟩ := phy.symbolPeriod_bounds
    have whole : periods * (20 * 16) ≤ periods * (20 * phy.symbolPeriod) :=
      Nat.mul_le_mul_left _ (Nat.mul_le_mul_left _ fast)
    dsimp only at next within
    have counts : longWordValue .addition periods = .ok periods :=
      longWordValue_eq_ok.mpr ⟨by omega,rfl⟩
    have places : longWordValue .multiplication (periods * 20) = .ok (periods * 20) :=
      longWordValue_eq_ok.mpr ⟨by omega,rfl⟩
    have reaches : (SymbolRate.ofPhy phy).spanOf (periods * 20) = _ :=
      SymbolRate.spanOf_periods ⟨by omega,by omega⟩
    rw [counts,except_ok_bind,places,except_ok_bind,reaches]
    exact ⟨⟨_⟩,Span.minus_eq_ok.mpr ⟨⟨by dsimp only; omega,by dsimp only; omega⟩,rfl⟩⟩

end Superframe

namespace Ledger

variable {ledger after : Ledger ρ} {us more requests others : Nat}

/-- There is room for so much time and so many requests. -/
structure Spares (ledger : Ledger ρ) (us requests : Nat) : Prop where
  begun : 0 ≤ ledger.clock.us
  clock : ledger.clock.us + us ≤ farthest
  requests : ledger.ccaRequests + requests < 4294967296

theorem Spares.later {rest further : Nat} (spares : ledger.Spares us requests)
    (grows : ledger.Grows after more others) (time : more + rest ≤ us)
    (count : others + further ≤ requests) : after.Spares rest further where
  begun := Int.le_trans spares.begun grows.onward
  clock := by
    have clock := spares.clock
    have soon := grows.soon
    omega
  requests := by
    have few := spares.requests
    have fewer := grows.requests
    omega

theorem Spares.mono (spares : ledger.Spares us requests) (shorter : more ≤ us)
    (fewer : others ≤ requests) : ledger.Spares more others where
  begun := spares.begun
  clock := by
    have clock := spares.clock
    omega
  requests := Nat.lt_of_le_of_lt (Nat.add_le_add_left fewer _) spares.requests

theorem Spares.near (spares : ledger.Spares us requests) : ledger.clock.IsNear := by
  have clock := spares.clock
  exact ⟨spares.begun,by omega⟩

theorem Spares.wait {span : Span} (spares : ledger.Spares us requests) (nonneg : 0 ≤ span.us)
    (short : span.us ≤ us) : ∃ after, ledger.wait span = .ok after ∧ ledger.Grows after us 0 := by
  have begun := spares.begun
  have clock := spares.clock
  simp only [farthest] at clock
  have reaches : ledger.clock.plus span = .ok _ := Instant.plus_total ⟨by omega,by omega⟩
  have waited : ledger.wait span = .ok { ledger with clock := ⟨ledger.clock.us + span.us⟩ } := by
    rw [Ledger.wait,reaches]
    rfl
  exact ⟨_,waited,Ledger.wait_grows waited nonneg short⟩

end Ledger

namespace Setting

variable {setting : Setting} {phy : Phy} {ledger : Ledger ρ} {exponent backoffs resumed : Nat}

theorem Modest.request_total (modest : setting.Modest phy) (exponent backoffs window : Nat)
    (spares : ledger.Spares 400 1) :
    ∃ after, setting.request exponent backoffs window ledger = .ok after ∧
      ledger.Grows after 400 1 := by
  have slow := phy.symbolPeriod_bounds.2
  have counts : wordValue .addition (ledger.ccaRequests + 1) = .ok (ledger.ccaRequests + 1) :=
    wordValue_eq_ok.mpr ⟨spares.requests,rfl⟩
  have asking : ({ ledger with ccaRequests := ledger.ccaRequests + 1 }.record
      (.ccaRequested exponent backoffs window)).Spares 400 0 :=
    ⟨spares.begun,spares.clock,spares.requests⟩
  have short : (setting.rate.spanOf 8).us ≤ (400 : Nat) ∧ 0 ≤ (setting.rate.spanOf 8).us := by
    rw [modest.rate,SymbolRate.spanOf_ofPhy (by decide)]
    constructor <;> dsimp only <;> omega
  obtain ⟨after,waited,_⟩ := asking.wait short.2 short.1
  have requested : setting.request exponent backoffs window ledger = .ok after := by
    rw [request,counts,except_ok_bind]
    exact waited
  exact ⟨after,requested,modest.request_grows requested⟩

theorem Modest.timeLeft_total (modest : setting.Modest phy)
    (beacon : setting.superframe.beacon.IsNear) {now : Instant} (near : now.IsNear) :
    ∃ left, setting.superframe.timeLeftInCap now setting.rate = .ok left ∧ 0 ≤ left.us := by
  rw [modest.rate]
  obtain ⟨left,remains⟩ := Superframe.timeLeftInCap_total phy beacon near
  exact ⟨left,remains,Superframe.timeLeftInCap_nonneg remains⟩

theorem Modest.check_total (modest : setting.Modest phy)
    (beacon : setting.superframe.beacon.IsNear) (spares : ledger.Spares 62000 0) :
    ∃ fits after, setting.slottedCheck ledger = .ok (fits,after) ∧ ledger.Grows after 62000 0 := by
  obtain ⟨left,remains,nonneg⟩ := modest.timeLeft_total beacon spares.near
  have spent := ledger.spend_grows setting.transactionSymbols
  rw [slottedCheck,remains,except_ok_bind]
  by_cases short : left < setting.rate.spanOf setting.transactionSymbols
  · have whole := modest.transaction_le
    have less := modest.transaction_lt.mp short
    have brief : left.us ≤ (62000 : Nat) := by omega
    have room : (ledger.spend setting.transactionSymbols).Spares 62000 0 :=
      spares.later spent (by decide) (by decide)
    obtain ⟨after,waited,grows⟩ := room.wait nonneg brief
    rw [if_pos short,waited]
    exact ⟨false,after,rfl,(spent.trans grows).mono (by decide) (by decide)⟩
  · rw [if_neg short]
    exact ⟨true,_,rfl,spent.mono (by decide) (by decide)⟩

variable [WordSource ρ]

theorem Modest.backoff_total (modest : setting.Modest phy)
    (beacon : setting.superframe.beacon.IsNear) (low : exponent ≤ 8) (few : resumed ≤ 255)
    (spares : ledger.Spares 255000 0) :
    ∃ cut backed, setting.slottedBackoff exponent resumed ledger = .ok (cut,backed) ∧
      ledger.Grows backed 255000 0 := by
  have resumes := setting.resume_grows exponent resumed ledger
  have brief := modest.backoffSpan_le (setting.resume_le ledger low few)
  have room : (setting.resume exponent resumed ledger).2.Spares 255000 0 :=
    spares.later resumes (by decide) (by decide)
  obtain ⟨left,remains,nonneg⟩ := modest.timeLeft_total beacon room.near
  rw [slottedBackoff_eq]
  dsimp only
  rw [remains,except_ok_bind]
  by_cases short : left < setting.backoffSpan (setting.resume exponent resumed ledger).1
  · obtain ⟨backed,waited,grows⟩ := room.wait nonneg (Int.le_trans (Int.le_of_lt short) brief.2)
    rw [if_pos short,waited]
    exact ⟨_,backed,rfl,(resumes.trans grows).mono (by decide) (by decide)⟩
  · obtain ⟨backed,waited,grows⟩ := room.wait brief.1 brief.2
    rw [if_neg short,waited]
    exact ⟨none,backed,rfl,(resumes.trans grows).mono (by decide) (by decide)⟩

theorem Modest.round_total (modest : setting.Modest phy)
    (beacon : setting.superframe.beacon.IsNear) (low : exponent ≤ 8) (few : resumed ≤ 255)
    (spares : ledger.Spares 320000 2) :
    ∃ ending, setting.round exponent backoffs resumed ledger = .ok ending := by
  unfold round
  cases slotted : setting.policy.isSlotted with
  | false =>
    have room : (setting.choose exponent ledger).2.Spares 255000 0 :=
      spares.later (setting.choose_grows exponent ledger) (by decide) (by decide)
    have brief := modest.backoffSpan_le (setting.choose_le ledger low)
    obtain ⟨backed,waited,grows⟩ := room.wait brief.1 brief.2
    have spent := (setting.choose_grows exponent ledger).trans grows
    obtain ⟨heard,requested,_⟩ := modest.request_total exponent backoffs 0
      (spares.later spent (by decide) (by decide))
    rw [if_neg Bool.false_ne_true,← bind_pure (setting.unslottedRound _ _ _),unslottedRound_bind,
      waited,except_ok_bind,requested]
    exact ⟨_,rfl⟩
  | true =>
    obtain ⟨cut,backed,backsOff,waited⟩ := modest.backoff_total beacon low few
      (spares.mono (by decide) (by decide))
    have room : backed.Spares 65000 2 := spares.later waited (by decide) (by decide)
    rw [if_pos rfl,← bind_pure (setting.slottedRound _ _ _ _),slottedRound_bind,backsOff,
      except_ok_bind]
    cases cut with
    | some periodsLeft => exact ⟨_,rfl⟩
    | none =>
      obtain ⟨fits,checked,checks,spent⟩ := modest.check_total beacon (room.mono (by decide) (by decide))
      have room : checked.Spares 3000 2 := room.later spent (by decide) (by decide)
      dsimp only
      rw [checks,except_ok_bind]
      cases fits with
      | false => exact ⟨_,rfl⟩
      | true =>
        obtain ⟨heard,requested,asked⟩ := modest.request_total exponent backoffs 2
          (room.mono (by decide) (by decide))
        have room : heard.listen.2.Spares 400 1 :=
          room.later (asked.trans heard.listen_grows) (by decide) (by decide)
        dsimp only
        rw [requested,except_ok_bind]
        split
        · obtain ⟨last,again,_⟩ := modest.request_total exponent backoffs 1 room
          rw [again]
          exact ⟨_,rfl⟩
        · exact ⟨_,rfl⟩

theorem Modest.rounds_total {exponent backoffs resumed : Nat} {ledger : Ledger ρ}
    (modest : setting.Modest phy) (beacon : setting.superframe.beacon.IsNear)
    (low : exponent ≤ 8) (few : resumed ≤ 255)
    (left : backoffs ≤ setting.policy.maxBackoffs.toNat)
    (spares : ledger.Spares (320000 * (setting.policy.maxBackoffs.toNat + 1 - backoffs))
      (2 * (setting.policy.maxBackoffs.toNat + 1 - backoffs))) :
    ∃ conclusion, setting.rounds exponent backoffs resumed ledger = .ok conclusion := by
  obtain ⟨ending,ran⟩ : ∃ ending, setting.round exponent backoffs resumed ledger = .ok ending :=
    modest.round_total beacon low few (spares.mono (by omega) (by omega))
  have grows := (round_turns ran).grows modest low few
  rw [rounds_eq,ran,except_ok_bind]
  cases ending with
  | clear after => exact ⟨_,rfl⟩
  | cutShort periodsLeft after => exact ⟨_,rfl⟩
  | busy after =>
    by_cases spent : setting.policy.maxBackoffs.toNat < backoffs + 1
    · rw [goOn,if_pos spent]
      exact ⟨_,rfl⟩
    · have slow := (Policy.exponents_le modest.valid).1
      rw [goOn,if_neg spent]
      exact modest.rounds_total beacon (Nat.le_trans (Nat.min_le_right _ _) slow) (Nat.zero_le _)
        (Nat.le_of_not_lt spent) (spares.later grows (by omega) (by omega))
termination_by setting.policy.maxBackoffs.toNat - backoffs

theorem Modest.firstWait_total (modest : setting.Modest phy)
    (beacon : setting.superframe.beacon.IsNear) {now : Instant} (near : now.IsNear) :
    ∃ wait, setting.firstWait now = .ok wait := by
  unfold firstWait
  split
  · rw [modest.unit_toNat,modest.rate]
    exact Superframe.timeToBoundary_total phy beacon near
  · exact ⟨_,rfl⟩

/-- An attempt that has two seconds from its beginning and from the beacon comes to a conclusion. -/
theorem Modest.attempt_total (modest : setting.Modest phy) {carriedPeriods : Nat}
    (few : carriedPeriods ≤ 255) (beacon : setting.superframe.beacon.IsNear)
    (soon : setting.superframe.beacon.us + 2000000 ≤ farthest) (spares : ledger.Spares 2000000 12) :
    ∃ conclusion, setting.attempt carriedPeriods ledger = .ok conclusion := by
  have near := spares.near
  have inRange : InClockRange ledger.clock.us := by
    obtain ⟨begun,reached⟩ := near
    simp only [farthest] at reached
    exact ⟨by omega,by omega⟩
  obtain ⟨wait,computed⟩ := modest.firstWait_total beacon near
  obtain ⟨nonneg,reaches⟩ := modest.firstWait_reaches computed
  obtain ⟨_,_,_,rounds,_⟩ := Policy.validate_eq_ok.mp modest.valid
  have low := (Policy.exponents_le modest.valid).2
  have resumed : (if setting.policy.isSlotted then carriedPeriods else 0) ≤ 255 := by
    split <;> omega
  rw [attempt_eq _ _ _ inRange,computed,except_ok_bind]
  have clock := spares.clock
  have starts : (ledger.record (.started setting.policy.mode)).Spares (wait.us.toNat + 1920000) 12 := by
    refine ⟨spares.begun,?_,spares.requests⟩
    change ledger.clock.us + _ ≤ _
    omega
  have waits : (ledger.record (.started setting.policy.mode)).Spares wait.us.toNat 12 :=
    starts.mono (by omega) (by omega)
  obtain ⟨begun,waited,grows⟩ := waits.wait nonneg (by omega)
  rw [waited,except_ok_bind]
  exact modest.rounds_total beacon low resumed (Nat.zero_le _)
    (starts.later grows (by omega) (by omega))

end Setting

end ChannelAccess
