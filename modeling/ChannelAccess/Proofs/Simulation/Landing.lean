import ChannelAccess.Proofs.Simulation.Growth

/-!
Where a slotted attempt ends. A deferred one ends with the CAP, or on its first boundary if that lies
behind the end of the CAP; any other ends before the CAP does. Main statement: `attempt_lands`.
-/

namespace ChannelAccess

variable {ρ : Type}

namespace Superframe

variable (superframe : Superframe) (phy : Phy)

/-- Microseconds at which the CAP ends. -/
def capEndUs : Int :=
  superframe.beacon.us + (superframe.capDuration * phy.symbolPeriod : Nat)

/-- Microseconds at which the following beacon is due. -/
def nextBeaconUs : Int :=
  superframe.beacon.us + (superframe.duration * phy.symbolPeriod : Nat)

theorem duration_eq : superframe.duration = 48 * 2 ^ min superframe.order.toNat 14 * 20 := by
  rw [duration,Nat.shiftLeft_eq]
  omega

theorem capDuration_pos : 0 < superframe.capDuration := by
  have power : 0 < 2 ^ min superframe.order.toNat 14 := Nat.two_pow_pos _
  apply Nat.mul_pos
  · rw [slotDuration,duration_eq]
    omega
  · exact Nat.succ_pos _

theorem capEndUs_gt : superframe.beacon.us < superframe.capEndUs phy := by
  have fast := phy.symbolPeriod_bounds.1
  have some : 0 < superframe.capDuration * phy.symbolPeriod :=
    Nat.mul_pos superframe.capDuration_pos (by omega)
  rw [capEndUs]
  omega

theorem capEndUs_le (last : superframe.finalSlot.toNat ≤ 15) :
    superframe.capEndUs phy ≤ superframe.nextBeaconUs phy := by
  have whole : superframe.capDuration ≤ superframe.duration := by
    calc superframe.capDuration
        ≤ superframe.duration / 16 * 16 := Nat.mul_le_mul_left _ (by omega)
      _ ≤ superframe.duration := Nat.div_mul_le_self _ _
  have longer : superframe.capDuration * phy.symbolPeriod ≤ superframe.duration * phy.symbolPeriod :=
    Nat.mul_le_mul_right _ whole
  rw [capEndUs,nextBeaconUs]
  omega

variable {superframe phy}

theorem timeLeftInCap_us {now : Instant} {left : Span}
    (remains : superframe.timeLeftInCap now (.ofPhy phy) = .ok left) :
    left.us = max (superframe.capEndUs phy - now.us) 0 := by
  obtain ⟨capEnd,ends,leftUs⟩ := timeLeftInCap_eq remains
  obtain ⟨_,endUs⟩ := Instant.plus_eq_ok.mp ends
  have short := superframe.capDuration_le
  rw [SymbolRate.spanOf_ofPhy (by omega),← Int.natCast_mul] at endUs
  rw [leftUs,← endUs]
  rfl

/-- The first boundary after an instant does not lie behind a beacon that follows the instant. -/
theorem boundary_le {now : Instant} {wait : Span} (before : now.us < superframe.nextBeaconUs phy)
    (computed : superframe.timeToBoundary now 20 (.ofPhy phy) = .ok wait) :
    now.us + wait.us ≤ superframe.nextBeaconUs phy := by
  rw [nextBeaconUs] at before ⊢
  rcases timeToBoundary_eq computed with ⟨_,reaches⟩ | ⟨_,_,short,periods,reaches⟩
  · omega
  · have whole : superframe.duration * phy.symbolPeriod =
        48 * 2 ^ min superframe.order.toNat 14 * (20 * phy.symbolPeriod) := by
      rw [duration_eq,Nat.mul_assoc]
    rw [whole] at before ⊢
    generalize 48 * 2 ^ min superframe.order.toNat 14 = boundaries at before ⊢
    generalize 20 * phy.symbolPeriod = unit at before short reaches ⊢
    have earlier : periods * unit < (boundaries + 1) * unit := by
      rw [Nat.succ_mul]
      omega
    have fewer : periods ≤ boundaries := Nat.le_of_lt_succ (Nat.lt_of_mul_lt_mul_right earlier)
    have least := Nat.mul_le_mul_right unit fewer
    omega

end Superframe

theorem Ledger.wait_us {ledger after : Ledger ρ} {span : Span} (waited : ledger.wait span = .ok after) :
    after.clock.us = ledger.clock.us + span.us := by
  obtain ⟨clock,reaches,same⟩ := except_bind_eq_ok.mp waited
  cases same
  exact (Instant.plus_eq_ok.mp reaches).2.symm

namespace Setting

variable {setting : Setting} {phy : Phy} {ledger after : Ledger ρ} {exponent backoffs resumed : Nat}
  {ending : RoundEnd ρ}

theorem Modest.request_us (modest : setting.Modest phy) {window : Nat}
    (requested : setting.request exponent backoffs window ledger = .ok after) :
    after.clock.us = ledger.clock.us + (8 * phy.symbolPeriod : Nat) := by
  obtain ⟨counted,_,waited⟩ := except_bind_eq_ok.mp requested
  rw [modest.rate,SymbolRate.spanOf_ofPhy (by decide),← Int.natCast_mul] at waited
  have reaches := Ledger.wait_us waited
  exact reaches

/-- A round that began at an instant is cut short with the CAP, or ends before it. -/
def Lands (ending : RoundEnd ρ) (start capEnd : Int) : Prop :=
  match ending with
  | .cutShort _ after => after.clock.us = max start capEnd
  | .clear after | .busy after => after.clock.us < capEnd

theorem roundEnd_lands {start capEnd : Int} (inside : ledger.clock.us < capEnd) :
    Lands ledger.roundEnd start capEnd := by
  rcases ledger.roundEnd_cases with clear | busy
  · rw [clear]
    exact inside
  · rw [busy]
    exact inside

theorem Checks.lands (checks : setting.Checks exponent backoffs ledger ending)
    (modest : setting.Modest phy) :
    Lands ending ledger.clock.us (setting.superframe.capEndUs phy) := by
  have weighty := modest.weighty
  have whole : 17 * phy.symbolPeriod ≤ setting.transactionSymbols * phy.symbolPeriod :=
    Nat.mul_le_mul_right _ weighty
  have fast := phy.symbolPeriod_bounds.1
  have spent : (ledger.spend setting.transactionSymbols).clock = ledger.clock := rfl
  cases checks with
  | @tooLong left waited remains short waits =>
    rw [modest.rate] at remains
    have rest := Superframe.timeLeftInCap_us remains
    have reaches := Ledger.wait_us waits
    rw [spent] at reaches
    change waited.clock.us = _
    omega
  | @assesses left heard remains fits requests busy =>
    rw [modest.rate] at remains
    have rest := Superframe.timeLeftInCap_us remains
    have asked := modest.request_us requests
    rw [modest.transaction_lt] at fits
    rw [spent] at asked
    change heard.clock.us < _
    omega
  | @assessesTwice left heard last remains fits requests again =>
    rw [modest.rate] at remains
    have rest := Superframe.timeLeftInCap_us remains
    have asked := modest.request_us requests
    have more := modest.request_us again
    rw [modest.transaction_lt] at fits
    rw [spent] at asked
    have heard' : heard.listen.2.clock = heard.clock := rfl
    rw [heard'] at more
    apply roundEnd_lands
    omega

variable [WordSource ρ]

theorem Turns.lands (turns : setting.Turns exponent backoffs resumed ledger ending)
    (modest : setting.Modest phy) (slotted : setting.policy.isSlotted = true) (low : exponent ≤ 8)
    (few : resumed ≤ 255) :
    Lands ending ledger.clock.us (setting.superframe.capEndUs phy) := by
  have clock : (setting.resume exponent resumed ledger).2.clock = ledger.clock := by
    rw [setting.resume_ledger]
  cases turns with
  | unslotted plain waits requests =>
    rw [slotted] at plain
    cases plain
  | @cutShort left waited _ remains short waits =>
    rw [modest.rate,clock] at remains
    have rest := Superframe.timeLeftInCap_us remains
    have reaches := Ledger.wait_us waits
    rw [clock] at reaches
    change waited.clock.us = _
    omega
  | @backedOff left backed _ _ remains fits waits checks =>
    rw [modest.rate,clock] at remains
    have rest := Superframe.timeLeftInCap_us remains
    have reaches := Ledger.wait_us waits
    rw [clock] at reaches
    have nonneg := (modest.backoffSpan_le (setting.resume_le ledger low few)).1
    rw [Span.lt_def] at fits
    have lands := checks.lands modest
    cases ending with
    | cutShort periodsLeft after =>
      replace lands : after.clock.us = max backed.clock.us _ := lands
      change after.clock.us = _
      omega
    | clear after => exact lands
    | busy after => exact lands

theorem Concluding.lands {conclusion : Conclusion ρ}
    (concluding : setting.Concluding exponent backoffs resumed ledger conclusion)
    (modest : setting.Modest phy) (slotted : setting.policy.isSlotted = true) (low : exponent ≤ 8)
    (few : resumed ≤ 255) :
    (conclusion.verdict = .deferred →
      conclusion.clock.us = max ledger.clock.us (setting.superframe.capEndUs phy)) ∧
    (conclusion.verdict ≠ .deferred → conclusion.clock.us < setting.superframe.capEndUs phy) := by
  induction concluding with
  | clear turns =>
    have lands := turns.lands modest slotted low few
    exact ⟨nofun,fun _ => lands⟩
  | cutShort turns =>
    have lands := turns.lands modest slotted low few
    exact ⟨fun _ => lands,fun going => absurd rfl going⟩
  | fails turns =>
    have lands := turns.lands modest slotted low few
    exact ⟨nofun,fun _ => lands⟩
  | @again exponent backoffs resumed ledger after conclusion turns more rest ih =>
    have lands : after.clock.us < _ := turns.lands modest slotted low few
    have onward : ledger.clock.us ≤ after.clock.us := (turns.grows modest low few).onward
    have slow := (Policy.exponents_le modest.valid).1
    obtain ⟨deferred,decided⟩ := ih (Nat.le_trans (Nat.min_le_right _ _) slow) (Nat.zero_le _)
    refine ⟨?_,decided⟩
    intro defers
    have ends := deferred defers
    omega

end Setting

/-- Where a slotted attempt ends that begins at an instant. -/
structure Setting.AttemptLands (setting : Setting) (phy : Phy) (start : Instant) (conclusion : Conclusion ρ) :
    Prop where
  deferred : conclusion.verdict = .deferred → start.us < setting.superframe.nextBeaconUs phy →
    setting.superframe.beacon.us < conclusion.clock.us ∧
      conclusion.clock.us ≤ setting.superframe.nextBeaconUs phy
  decided : conclusion.verdict ≠ .deferred →
    conclusion.clock.us < setting.superframe.nextBeaconUs phy
  late : setting.superframe.nextBeaconUs phy ≤ start.us →
    conclusion.verdict = .deferred ∧ start.us < conclusion.clock.us

theorem Setting.attempt_lands [WordSource ρ] {setting : Setting} {phy : Phy} {carriedPeriods : Nat}
    {ledger : Ledger ρ} {conclusion : Conclusion ρ} (modest : setting.Modest phy)
    (slotted : setting.policy.isSlotted = true) (last : setting.superframe.finalSlot.toNat ≤ 15)
    (few : carriedPeriods ≤ 255) (inRange : InClockRange ledger.clock.us)
    (ran : setting.attempt carriedPeriods ledger = .ok conclusion) :
    setting.AttemptLands phy ledger.clock conclusion := by
  rw [attempt_eq _ _ _ inRange,if_pos slotted] at ran
  obtain ⟨begun,waits,ran⟩ := except_bind_eq_ok.mp ran
  obtain ⟨wait,computed,waits⟩ := except_bind_eq_ok.mp waits
  have low := (Policy.exponents_le modest.valid).2
  obtain ⟨deferred,decided⟩ := (rounds_concluding ran).lands modest slotted low few
  have reaches := Ledger.wait_us waits
  replace reaches : begun.clock.us = ledger.clock.us + wait.us := reaches
  rw [firstWait,if_pos slotted,modest.unit_toNat,modest.rate] at computed
  have after := setting.superframe.capEndUs_gt phy
  have within := setting.superframe.capEndUs_le phy last
  refine ⟨?deferred,?decided,?late⟩
  case deferred =>
    intro defers timely
    have near := Superframe.boundary_le timely computed
    have ends := deferred defers
    omega
  case decided =>
    intro going
    have ends := decided going
    omega
  case late =>
    intro late
    have onward : begun.clock.us ≤ conclusion.clock.us := by
      obtain ⟨_,ended,concludes,grows⟩ :=
        (rounds_concluding ran).grows modest low few (Nat.zero_le _)
      rw [concludes]
      exact grows.onward
    rcases Superframe.timeToBoundary_eq computed with ⟨early,_⟩ | ⟨_,positive,_⟩
    · rw [Instant.lt_def] at early
      omega
    · constructor
      · apply Decidable.of_not_not
        intro going
        have ends := decided going
        omega
      · omega

end ChannelAccess
