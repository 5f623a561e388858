import ChannelAccess.Proofs.Simulation.Budget

/-!
How much one attempt adds to a ledger: time, assessments and events, of which only the first begins
an attempt and only the last ends one. Main statement: `attempt_records`.
-/

namespace ChannelAccess

variable {ρ : Type}

/-- It begins or ends an attempt. -/
def Occurrence.isMark : Occurrence → Bool
  | .started _ | .verdict _ => true
  | .ccaRequested _ _ _ | .ccaResult _ | .cost _ => false

def RoundEnd.ledger : RoundEnd ρ → Ledger ρ
  | .clear ledger | .busy ledger | .cutShort _ ledger => ledger

/-- Periods of a backoff that the end of the CAP leaves over. -/
def RoundEnd.leftover : RoundEnd ρ → Nat
  | .clear _ | .busy _ => 0
  | .cutShort periodsLeft _ => periodsLeft

/-- Backoff periods and frames are short, and a transaction is more than two assessments. -/
structure Setting.Modest (setting : Setting) (phy : Phy) : Prop where
  rate : setting.rate = .ofPhy phy
  valid : setting.policy.validate = .ok ()
  unit : setting.policy.backoffPeriod = 20
  light : setting.transactionSymbols ≤ 1240
  weighty : 16 < setting.transactionSymbols

theorem Phy.symbolPeriod_bounds (phy : Phy) : 16 ≤ phy.symbolPeriod ∧ phy.symbolPeriod ≤ 50 := by
  cases phy <;> decide

theorem SymbolRate.spanOf_periods {phy : Phy} {periods : Nat}
    (inRange : InClockRange (periods * (20 * phy.symbolPeriod) : Nat)) :
    (ofPhy phy).spanOf (periods * 20) = ⟨(periods * (20 * phy.symbolPeriod) : Nat)⟩ := by
  have exactly : (ofPhy phy).microseconds (periods * 20) = periods * (20 * phy.symbolPeriod) := by
    rw [microseconds_ofPhy,Nat.mul_assoc]
  rw [spanOf_eq (exactly ▸ inRange),exactly]

/-- The boundary after a span is less than a backoff period away. -/
theorem SymbolRate.boundary_near (phy : Phy) {span : Span} (nonneg : 0 ≤ span.us)
    (inRange : InClockRange span.us) :
    span.us < (((ofPhy phy).symbolsIn span / 20 + 1) * (20 * phy.symbolPeriod) : Nat) ∧
      (((ofPhy phy).symbolsIn span / 20 + 1) * (20 * phy.symbolPeriod) : Nat) ≤
        span.us + (20 * phy.symbolPeriod : Nat) := by
  rw [symbolsIn_ofPhy nonneg inRange]
  cases phy
  all_goals
    simp only [Phy.symbolsPerSecond,Phy.symbolPeriod,UInt32.reduceToNat]
    omega

theorem Superframe.timeToBoundary_eq {superframe : Superframe} {now : Instant} {phy : Phy} {wait : Span}
    (computed : superframe.timeToBoundary now 20 (.ofPhy phy) = .ok wait) :
    (now < superframe.beacon ∧ now.us + wait.us = superframe.beacon.us) ∨
      (superframe.beacon ≤ now ∧ 0 < wait.us ∧ wait.us ≤ (20 * phy.symbolPeriod : Nat) ∧
        ∃ periods : Nat, now.us + wait.us =
          superframe.beacon.us + (periods * (20 * phy.symbolPeriod) : Nat)) := by
  unfold timeToBoundary at computed
  obtain ⟨elapsed,since,computed⟩ := except_bind_eq_ok.mp computed
  obtain ⟨inRange,elapsedUs⟩ := Instant.since_eq_ok.mp since
  rw [elapsedUs] at inRange
  by_cases negative : elapsed.us < 0
  · simp only [Span.isNegative,negative,decide_true,if_true] at computed
    obtain ⟨_,waitUs⟩ := Instant.since_eq_ok.mp computed
    exact .inl ⟨by rw [Instant.lt_def]; omega,by omega⟩
  · simp only [Span.isNegative,negative,decide_false,Bool.false_eq_true,if_false] at computed
    obtain ⟨periods,counted,computed⟩ := except_bind_eq_ok.mp computed
    obtain ⟨boundary,placed,computed⟩ := except_bind_eq_ok.mp computed
    obtain ⟨fits,waitUs⟩ := Span.minus_eq_ok.mp computed
    obtain ⟨_,rfl⟩ := longWordValue_eq_ok.mp counted
    obtain ⟨_,rfl⟩ := longWordValue_eq_ok.mp placed
    simp only [Nat.reduceLeDiff,Nat.max_eq_left] at fits waitUs
    have nonneg : 0 ≤ elapsed.us := by omega
    obtain ⟨next,within⟩ := SymbolRate.boundary_near phy nonneg inRange
    refine .inr ⟨by rw [Instant.le_def]; omega,?_⟩
    generalize (SymbolRate.ofPhy phy).symbolsIn elapsed / 20 + 1 = periods at next within fits waitUs
    by_cases inside : InClockRange (periods * (20 * phy.symbolPeriod) : Nat)
    · rw [SymbolRate.spanOf_periods inside] at waitUs
      dsimp only at waitUs
      exact ⟨by omega,by omega,periods,by omega⟩
    · -- A boundary out of the clock's reach would be more than a clock's range away.
      have exactly : (SymbolRate.ofPhy phy).microseconds (periods * 20) =
          periods * (20 * phy.symbolPeriod) := by
        rw [SymbolRate.microseconds_ofPhy,Nat.mul_assoc]
      obtain ⟨lower,upper⟩ := inRange
      have slow := phy.symbolPeriod_bounds.2
      simp only [InClockRange,not_and,Int.not_lt] at inside
      have large := inside (by omega)
      rw [SymbolRate.spanOf_wrapped (by omega) (by omega)] at fits
      obtain ⟨fits,_⟩ := fits
      simp only at fits
      omega

namespace Ledger

variable {ledger before middle after : Ledger ρ} {us more requests others : Nat}

/-- At most so much time, so many requests, and events inside an attempt. -/
structure Grows (before after : Ledger ρ) (us requests : Nat) : Prop where
  onward : before.clock.us ≤ after.clock.us
  soon : after.clock.us ≤ before.clock.us + us
  inRange : InClockRange before.clock.us → InClockRange after.clock.us
  requests : after.ccaRequests ≤ before.ccaRequests + requests
  trace : ∃ told, after.trace.toList = before.trace.toList ++ told ∧
    ∀ event ∈ told, event.occurrence.isMark = false

theorem Grows.trans (first : before.Grows middle us requests)
    (second : middle.Grows after more others) :
    before.Grows after (us + more) (requests + others) := by
  obtain ⟨told,trace,inside⟩ := first.trace
  obtain ⟨later,longer,within⟩ := second.trace
  refine ⟨?onward,?soon,second.inRange ∘ first.inRange,?requests,told ++ later,?trace,?inside⟩
  case onward => exact Int.le_trans first.onward second.onward
  case soon =>
    have sooner := first.soon
    have soon := second.soon
    omega
  case requests =>
    have fewer := first.requests
    have few := second.requests
    omega
  case trace => rw [longer,trace,List.append_assoc]
  case inside =>
    intro event member
    rcases List.mem_append.mp member with member | member
    · exact inside event member
    · exact within event member

theorem Grows.mono (grows : before.Grows after us requests) (longer : us ≤ more)
    (fewer : requests ≤ others) : before.Grows after more others where
  onward := grows.onward
  soon := by
    have soon := grows.soon
    omega
  inRange := grows.inRange
  requests := Nat.le_trans grows.requests (Nat.add_le_add_left fewer _)
  trace := grows.trace

theorem Grows.recorded {occurrence : Occurrence} (clock : after.clock = before.clock)
    (counts : after.ccaRequests ≤ before.ccaRequests + requests)
    (trace : after.trace = before.trace.push ⟨before.clock,occurrence⟩)
    (inside : occurrence.isMark = false) : before.Grows after 0 requests := by
  refine ⟨?onward,?soon,?inRange,counts,[⟨before.clock,occurrence⟩],?trace,?inside⟩
  case onward => exact clock ▸ Int.le_refl _
  case soon => rw [clock]; omega
  case inRange => rw [clock]; exact id
  case trace => rw [trace,Array.toList_push]
  case inside =>
    intro event member
    obtain rfl := List.mem_singleton.mp member
    exact inside

theorem wait_grows {span : Span} (waited : ledger.wait span = .ok after) (nonneg : 0 ≤ span.us)
    (short : span.us ≤ us) : ledger.Grows after us 0 := by
  obtain ⟨clock,reaches,same⟩ := except_bind_eq_ok.mp waited
  cases same
  obtain ⟨inRange,sum⟩ := Instant.plus_eq_ok.mp reaches
  refine ⟨?_,?_,fun _ => sum ▸ inRange,Nat.le_refl _,[],by simp,by simp⟩
  · change ledger.clock.us ≤ clock.us
    omega
  · change clock.us ≤ ledger.clock.us + us
    omega

theorem listen_grows (ledger : Ledger ρ) : ledger.Grows ledger.listen.2 0 0 :=
  .recorded rfl (Nat.le_refl _) rfl rfl

theorem spend_grows (ledger : Ledger ρ) (symbols : Nat) : ledger.Grows (ledger.spend symbols) 0 0 :=
  .recorded rfl (Nat.le_refl _) rfl rfl

theorem roundEnd_cases (ledger : Ledger ρ) :
    ledger.roundEnd = .clear ledger.listen.2 ∨ ledger.roundEnd = .busy ledger.listen.2 := by
  cases idle : ledger.listen.1.isIdle with
  | true => exact .inl (if_pos idle)
  | false => exact .inr (if_neg (ne_true_of_eq_false idle))

theorem roundEnd_ledger (ledger : Ledger ρ) : ledger.roundEnd.ledger = ledger.listen.2 := by
  rcases ledger.roundEnd_cases with clear | busy
  · rw [clear,RoundEnd.ledger]
  · rw [busy,RoundEnd.ledger]

theorem roundEnd_leftover (ledger : Ledger ρ) : ledger.roundEnd.leftover = 0 := by
  rcases ledger.roundEnd_cases with clear | busy
  · rw [clear,RoundEnd.leftover]
  · rw [busy,RoundEnd.leftover]

end Ledger

namespace Setting

variable {setting : Setting} {phy : Phy} {ledger after : Ledger ρ}

theorem Modest.unit_toNat (modest : setting.Modest phy) : setting.policy.backoffPeriod.toNat = 20 := by
  rw [modest.unit]
  rfl

theorem Modest.transaction_lt (modest : setting.Modest phy) {left : Span} :
    left < setting.rate.spanOf setting.transactionSymbols ↔
      left.us < (setting.transactionSymbols * phy.symbolPeriod : Nat) := by
  have light := modest.light
  rw [modest.rate,SymbolRate.spanOf_ofPhy (by omega),Span.lt_def,← Int.natCast_mul]

theorem Modest.transaction_le (modest : setting.Modest phy) :
    setting.transactionSymbols * phy.symbolPeriod ≤ 62000 :=
  calc setting.transactionSymbols * phy.symbolPeriod
      ≤ 1240 * 50 := Nat.mul_le_mul modest.light phy.symbolPeriod_bounds.2
    _ = 62000 := rfl

theorem Modest.backoffSpan_eq (modest : setting.Modest phy) {periods : Nat} (few : periods ≤ 255) :
    setting.backoffSpan periods = ⟨(periods * 20 * phy.symbolPeriod : Nat)⟩ := by
  rw [backoffSpan,modest.unit_toNat,modest.rate,SymbolRate.spanOf_ofPhy (by omega)]
  simp

theorem Modest.backoffSpan_le (modest : setting.Modest phy) {periods : Nat} (few : periods ≤ 255) :
    0 ≤ (setting.backoffSpan periods).us ∧ (setting.backoffSpan periods).us ≤ 255000 := by
  rw [modest.backoffSpan_eq few]
  have slow := phy.symbolPeriod_bounds.2
  have whole : periods * 20 * phy.symbolPeriod ≤ 255 * 20 * 50 :=
    Nat.mul_le_mul (Nat.mul_le_mul_right 20 few) slow
  constructor <;> dsimp only <;> omega

theorem Modest.request_grows (modest : setting.Modest phy) {exponent backoffs window : Nat}
    (requested : setting.request exponent backoffs window ledger = .ok after) :
    ledger.Grows after 400 1 := by
  obtain ⟨counted,counts,waited⟩ := except_bind_eq_ok.mp requested
  obtain ⟨_,rfl⟩ := wordValue_eq_ok.mp counts
  rw [modest.rate,SymbolRate.spanOf_ofPhy (by decide)] at waited
  have asked : ledger.Grows ({ ledger with ccaRequests := ledger.ccaRequests + 1 }.record
      (.ccaRequested exponent backoffs window)) 0 1 :=
    .recorded rfl (Nat.le_refl _) rfl rfl
  have slow := phy.symbolPeriod_bounds.2
  have lasts : Ledger.Grows _ after 400 0 :=
    Ledger.wait_grows waited (by dsimp only; omega) (by dsimp only; omega)
  exact (asked.trans lasts).mono (by decide) (by decide)

theorem Modest.firstWait_reaches (modest : setting.Modest phy) {now : Instant} {wait : Span}
    (computed : setting.firstWait now = .ok wait) :
    0 ≤ wait.us ∧ now.us + wait.us ≤ max (now.us + 1000) setting.superframe.beacon.us := by
  have slow := phy.symbolPeriod_bounds.2
  unfold firstWait at computed
  split at computed
  · rw [modest.unit_toNat,modest.rate] at computed
    rcases Superframe.timeToBoundary_eq computed with ⟨early,reaches⟩ | ⟨late,positive,short,_⟩
    · rw [Instant.lt_def] at early
      omega
    · omega
  · cases computed
    simp only [Span.zero]
    omega

/-- How a slotted round can go on once its backoff is over. -/
inductive Checks (setting : Setting) (exponent backoffs : Nat) (backed : Ledger ρ) :
    RoundEnd ρ → Prop
  | tooLong {left : Span} {waited : Ledger ρ}
      (remains : setting.superframe.timeLeftInCap backed.clock setting.rate = .ok left)
      (short : left < setting.rate.spanOf setting.transactionSymbols)
      (waits : (backed.spend setting.transactionSymbols).wait left = .ok waited) :
      Checks setting exponent backoffs backed (.cutShort 0 waited)
  | assesses {left : Span} {heard : Ledger ρ}
      (remains : setting.superframe.timeLeftInCap backed.clock setting.rate = .ok left)
      (fits : ¬ left < setting.rate.spanOf setting.transactionSymbols)
      (requests : setting.request exponent backoffs 2 (backed.spend setting.transactionSymbols) =
        .ok heard)
      (busy : heard.listen.1.isIdle = false) :
      Checks setting exponent backoffs backed (.busy heard.listen.2)
  | assessesTwice {left : Span} {heard last : Ledger ρ}
      (remains : setting.superframe.timeLeftInCap backed.clock setting.rate = .ok left)
      (fits : ¬ left < setting.rate.spanOf setting.transactionSymbols)
      (requests : setting.request exponent backoffs 2 (backed.spend setting.transactionSymbols) =
        .ok heard)
      (again : setting.request exponent backoffs 1 heard.listen.2 = .ok last) :
      Checks setting exponent backoffs backed last.roundEnd

variable {exponent backoffs resumed : Nat} {ending : RoundEnd ρ}

theorem Checks.grows (checks : setting.Checks exponent backoffs ledger ending)
    (modest : setting.Modest phy) : ledger.Grows ending.ledger 65000 2 := by
  have spent := ledger.spend_grows setting.transactionSymbols
  cases checks with
  | @tooLong left waited remains short waits =>
    have nonneg := Superframe.timeLeftInCap_nonneg remains
    have brief := modest.transaction_le
    have waited := Ledger.wait_grows waits nonneg (Int.le_of_lt (modest.transaction_lt.mp short))
    exact (spent.trans waited).mono (by omega) (by decide)
  | @assesses left heard remains fits requests busy =>
    have asked := modest.request_grows requests
    exact ((spent.trans asked).trans heard.listen_grows).mono (by decide) (by decide)
  | @assessesTwice left heard last remains fits requests again =>
    have asked := modest.request_grows requests
    have asked' := modest.request_grows again
    rw [last.roundEnd_ledger]
    exact ((((spent.trans asked).trans heard.listen_grows).trans asked').trans
      last.listen_grows).mono (by decide) (by decide)

variable [WordSource ρ]

theorem choose_grows (setting : Setting) (exponent : Nat) (ledger : Ledger ρ) :
    ledger.Grows (setting.choose exponent ledger).2 0 0 := by
  rw [setting.choose_ledger]
  exact ⟨Int.le_refl _,by simp,id,Nat.le_refl _,[],by simp,by simp⟩

theorem resume_grows (setting : Setting) (exponent resumed : Nat) (ledger : Ledger ρ) :
    ledger.Grows (setting.resume exponent resumed ledger).2 0 0 := by
  rw [setting.resume_ledger]
  exact ⟨Int.le_refl _,by simp,id,Nat.le_refl _,[],by simp,by simp⟩

theorem choose_le (setting : Setting) (ledger : Ledger ρ) (low : exponent ≤ 8) :
    (setting.choose exponent ledger).1 ≤ 255 := by
  have drawn := setting.choose_lt exponent ledger
  have few : 2 ^ exponent ≤ 2 ^ 8 := Nat.pow_le_pow_right (by decide) low
  omega

theorem resume_le (setting : Setting) (ledger : Ledger ρ)
    (low : exponent ≤ 8) (few : resumed ≤ 255) :
    (setting.resume exponent resumed ledger).1 ≤ 255 := by
  unfold resume
  split
  · exact setting.choose_le ledger low
  · exact few

/-- How a round can go. -/
inductive Turns (setting : Setting) (exponent backoffs resumed : Nat) (ledger : Ledger ρ) :
    RoundEnd ρ → Prop
  | unslotted {backed heard : Ledger ρ} (plain : setting.policy.isSlotted = false)
      (waits : (setting.choose exponent ledger).2.wait
        (setting.backoffSpan (setting.choose exponent ledger).1) = .ok backed)
      (requests : setting.request exponent backoffs 0 backed = .ok heard) :
      Turns setting exponent backoffs resumed ledger heard.roundEnd
  | cutShort {left : Span} {waited : Ledger ρ} (slotted : setting.policy.isSlotted = true)
      (remains : setting.superframe.timeLeftInCap (setting.resume exponent resumed ledger).2.clock
        setting.rate = .ok left)
      (short : left < setting.backoffSpan (setting.resume exponent resumed ledger).1)
      (waits : (setting.resume exponent resumed ledger).2.wait left = .ok waited) :
      Turns setting exponent backoffs resumed ledger
        (.cutShort ((setting.resume exponent resumed ledger).1 -
          setting.rate.symbolsIn left / setting.policy.backoffPeriod.toNat) waited)
  | backedOff {left : Span} {backed : Ledger ρ} {ending : RoundEnd ρ}
      (slotted : setting.policy.isSlotted = true)
      (remains : setting.superframe.timeLeftInCap (setting.resume exponent resumed ledger).2.clock
        setting.rate = .ok left)
      (fits : ¬ left < setting.backoffSpan (setting.resume exponent resumed ledger).1)
      (waits : (setting.resume exponent resumed ledger).2.wait
        (setting.backoffSpan (setting.resume exponent resumed ledger).1) = .ok backed)
      (checks : setting.Checks exponent backoffs backed ending) :
      Turns setting exponent backoffs resumed ledger ending

theorem slottedBackoff_eq (setting : Setting) (exponent resumed : Nat) (ledger : Ledger ρ) :
    setting.slottedBackoff exponent resumed ledger = (do
      let resumes := setting.resume exponent resumed ledger
      let left ← setting.superframe.timeLeftInCap resumes.2.clock setting.rate
      if left < setting.backoffSpan resumes.1 then
        let ledger ← resumes.2.wait left
        return (some (resumes.1 -
          setting.rate.symbolsIn left / setting.policy.backoffPeriod.toNat),ledger)
      else
        let ledger ← resumes.2.wait (setting.backoffSpan resumes.1)
        return (none,ledger)) := rfl

theorem round_turns (ran : setting.round exponent backoffs resumed ledger = .ok ending) :
    setting.Turns exponent backoffs resumed ledger ending := by
  unfold round at ran
  cases slotted : setting.policy.isSlotted with
  | false =>
    rw [slotted,if_neg Bool.false_ne_true] at ran
    obtain ⟨backed,waits,ran⟩ := except_bind_eq_ok.mp ran
    obtain ⟨heard,requests,same⟩ := except_bind_eq_ok.mp ran
    cases same
    exact .unslotted slotted waits requests
  | true =>
    rw [slotted,if_pos rfl] at ran
    obtain ⟨⟨cut,backed⟩,backsOff,ran⟩ := except_bind_eq_ok.mp ran
    rw [slottedBackoff_eq] at backsOff
    obtain ⟨left,remains,backsOff⟩ := except_bind_eq_ok.mp backsOff
    by_cases short : left < setting.backoffSpan (setting.resume exponent resumed ledger).1
    · rw [if_pos short] at backsOff
      obtain ⟨waited,waits,same⟩ := except_bind_eq_ok.mp backsOff
      cases same
      cases ran
      exact .cutShort slotted remains short waits
    · rw [if_neg short] at backsOff
      obtain ⟨waited,waits,same⟩ := except_bind_eq_ok.mp backsOff
      cases same
      refine .backedOff slotted remains short waits ?_
      obtain ⟨⟨proceeds,checked⟩,check,ran⟩ := except_bind_eq_ok.mp ran
      obtain ⟨rest,remains,check⟩ := except_bind_eq_ok.mp check
      by_cases long : rest < setting.rate.spanOf setting.transactionSymbols
      · rw [if_pos long] at check
        obtain ⟨waited,waits,same⟩ := except_bind_eq_ok.mp check
        cases same
        cases ran
        exact .tooLong remains long waits
      · rw [if_neg long] at check
        cases check
        obtain ⟨heard,requests,ran⟩ := except_bind_eq_ok.mp ran
        cases idle : heard.listen.1.isIdle with
        | false =>
          replace ran : (if heard.listen.1.isIdle then _ else _) = _ := ran
          rw [if_neg (ne_true_of_eq_false idle)] at ran
          cases ran
          exact .assesses remains long requests idle
        | true =>
          replace ran : (if heard.listen.1.isIdle then _ else _) = _ := ran
          rw [if_pos idle] at ran
          obtain ⟨last,again,same⟩ := except_bind_eq_ok.mp ran
          cases same
          exact .assessesTwice remains long requests again

theorem Turns.grows (turns : setting.Turns exponent backoffs resumed ledger ending)
    (modest : setting.Modest phy) (low : exponent ≤ 8) (few : resumed ≤ 255) :
    ledger.Grows ending.ledger 320000 2 := by
  have chosen := setting.choose_grows exponent ledger
  have resumes := setting.resume_grows exponent resumed ledger
  have short := modest.backoffSpan_le (setting.choose_le ledger low)
  have brief := modest.backoffSpan_le (setting.resume_le ledger low few)
  cases turns with
  | @unslotted backed heard plain waits requests =>
    have waited := Ledger.wait_grows waits short.1 short.2
    have asked := modest.request_grows requests
    rw [heard.roundEnd_ledger]
    exact (((chosen.trans waited).trans asked).trans heard.listen_grows).mono (by decide) (by decide)
  | @cutShort left waited slotted remains less waits =>
    have nonneg := Superframe.timeLeftInCap_nonneg remains
    rw [Span.lt_def] at less
    have waited := Ledger.wait_grows waits nonneg (Int.le_trans (Int.le_of_lt less) brief.2)
    exact (resumes.trans waited).mono (by decide) (by decide)
  | backedOff slotted remains fits waits checks =>
    have waited := Ledger.wait_grows waits brief.1 brief.2
    exact ((resumes.trans waited).trans (checks.grows modest)).mono (by decide) (by decide)

theorem Turns.leftover_le (turns : setting.Turns exponent backoffs resumed ledger ending)
    (low : exponent ≤ 8) (few : resumed ≤ 255) : ending.leftover ≤ 255 := by
  have resumes := setting.resume_le ledger low few
  cases turns with
  | @unslotted backed heard plain waits requests =>
    rw [heard.roundEnd_leftover]
    exact Nat.zero_le _
  | cutShort slotted remains less waits => exact Nat.le_trans (Nat.sub_le _ _) resumes
  | backedOff slotted remains fits waits checks =>
    cases checks with
    | tooLong remains short waits => exact Nat.zero_le _
    | assesses remains fits requests busy => exact Nat.zero_le _
    | @assessesTwice left heard last remains fits requests again =>
      rw [last.roundEnd_leftover]
      exact Nat.zero_le _

/-- How the rounds of an attempt come to a conclusion. -/
inductive Concluding (setting : Setting) : Nat → Nat → Nat → Ledger ρ → Conclusion ρ → Prop
  | clear {exponent backoffs resumed : Nat} {ledger after : Ledger ρ}
      (turns : setting.Turns exponent backoffs resumed ledger (.clear after)) :
      Concluding setting exponent backoffs resumed ledger (after.conclude .channelIdle 0)
  | cutShort {exponent backoffs resumed periodsLeft : Nat} {ledger after : Ledger ρ}
      (turns : setting.Turns exponent backoffs resumed ledger (.cutShort periodsLeft after)) :
      Concluding setting exponent backoffs resumed ledger (after.conclude .deferred periodsLeft)
  | fails {exponent backoffs resumed : Nat} {ledger after : Ledger ρ}
      (turns : setting.Turns exponent backoffs resumed ledger (.busy after)) :
      Concluding setting exponent backoffs resumed ledger (after.conclude .accessFailure 0)
  | again {exponent backoffs resumed : Nat} {ledger after : Ledger ρ} {conclusion : Conclusion ρ}
      (turns : setting.Turns exponent backoffs resumed ledger (.busy after))
      (more : backoffs + 1 ≤ setting.policy.maxBackoffs.toNat)
      (rest : Concluding setting (min (exponent + 1) setting.policy.maxExponent.toNat) (backoffs + 1)
        0 after conclusion) :
      Concluding setting exponent backoffs resumed ledger conclusion

theorem rounds_concluding {exponent backoffs resumed : Nat} {ledger : Ledger ρ}
    {conclusion : Conclusion ρ}
    (ran : setting.rounds exponent backoffs resumed ledger = .ok conclusion) :
    setting.Concluding exponent backoffs resumed ledger conclusion := by
  rw [rounds_eq] at ran
  obtain ⟨ending,ran,goesOn⟩ := except_bind_eq_ok.mp ran
  have turns := round_turns ran
  cases ending with
  | clear after =>
    cases goesOn
    exact .clear turns
  | cutShort periodsLeft after =>
    cases goesOn
    exact .cutShort turns
  | busy after =>
    by_cases spent : setting.policy.maxBackoffs.toNat < backoffs + 1
    · rw [goOn,if_pos spent] at goesOn
      cases goesOn
      exact .fails turns
    · rw [goOn,if_neg spent] at goesOn
      exact .again turns (Nat.le_of_not_lt spent) (rounds_concluding goesOn)
termination_by setting.policy.maxBackoffs.toNat - backoffs

theorem Concluding.grows {conclusion : Conclusion ρ}
    (concluding : setting.Concluding exponent backoffs resumed ledger conclusion)
    (modest : setting.Modest phy) (low : exponent ≤ 8) (few : resumed ≤ 255)
    (left : backoffs ≤ setting.policy.maxBackoffs.toNat) :
    conclusion.carriedPeriods ≤ 255 ∧ ∃ ended,
      conclusion = ended.conclude conclusion.verdict conclusion.carriedPeriods ∧
      ledger.Grows ended (320000 * (setting.policy.maxBackoffs.toNat + 1 - backoffs))
        (2 * (setting.policy.maxBackoffs.toNat + 1 - backoffs)) := by
  induction concluding with
  | @clear exponent backoffs resumed ledger after turns =>
    have grows : ledger.Grows after _ _ := turns.grows modest low few
    exact ⟨Nat.zero_le _,after,rfl,grows.mono (by omega) (by omega)⟩
  | @cutShort exponent backoffs resumed periodsLeft ledger after turns =>
    have grows : ledger.Grows after _ _ := turns.grows modest low few
    exact ⟨turns.leftover_le low few,after,rfl,grows.mono (by omega) (by omega)⟩
  | @fails exponent backoffs resumed ledger after turns =>
    have grows : ledger.Grows after _ _ := turns.grows modest low few
    exact ⟨Nat.zero_le _,after,rfl,grows.mono (by omega) (by omega)⟩
  | @again exponent backoffs resumed ledger after conclusion turns more rest ih =>
    have grows : ledger.Grows after _ _ := turns.grows modest low few
    have slow := (Policy.exponents_le modest.valid).1
    obtain ⟨carried,ended,concludes,longer⟩ :=
      ih (Nat.le_trans (Nat.min_le_right _ _) slow) (Nat.zero_le _) more
    exact ⟨carried,ended,concludes,(grows.trans longer).mono (by omega) (by omega)⟩

end Setting

/-- A conclusion of an attempt that began with the ledger: it is recorded last, soon after the attempt
and the beacon have begun, and what is recorded in between neither begins nor ends an attempt. -/
structure Ledger.Concludes (ledger : Ledger ρ) (setting : Setting) (conclusion : Conclusion ρ) : Prop where
  few : conclusion.carriedPeriods ≤ 255
  inRange : InClockRange conclusion.clock.us
  onward : ledger.clock ≤ conclusion.clock
  soon : conclusion.clock.us ≤ max ledger.clock.us setting.superframe.beacon.us + 2000000
  requests : conclusion.ccaRequests ≤ ledger.ccaRequests + 12
  trace : ∃ told, conclusion.trace.toList = ledger.trace.toList ++
      (⟨ledger.clock,.started setting.policy.mode⟩ :: told ++
        [⟨conclusion.clock,.verdict conclusion.verdict⟩]) ∧
    ∀ event ∈ told, event.occurrence.isMark = false

theorem Setting.attempt_records [WordSource ρ] {setting : Setting} {phy : Phy}
    {carriedPeriods : Nat} {ledger : Ledger ρ} {conclusion : Conclusion ρ}
    (modest : setting.Modest phy) (few : carriedPeriods ≤ 255) (inRange : InClockRange ledger.clock.us)
    (ran : setting.attempt carriedPeriods ledger = .ok conclusion) :
    ledger.Concludes setting conclusion := by
  rw [attempt_eq _ _ _ inRange] at ran
  obtain ⟨begun,waits,ran⟩ := except_bind_eq_ok.mp ran
  obtain ⟨wait,computed,waits⟩ := except_bind_eq_ok.mp waits
  obtain ⟨nonneg,reaches⟩ := modest.firstWait_reaches computed
  obtain ⟨_,_,_,rounds,_⟩ := Policy.validate_eq_ok.mp modest.valid
  have low := (Policy.exponents_le modest.valid).2
  have resumed : (if setting.policy.isSlotted then carriedPeriods else 0) ≤ 255 := by
    split <;> omega
  obtain ⟨carried,ended,concludes,grows⟩ :=
    (rounds_concluding ran).grows modest low resumed (Nat.zero_le _)
  have waited : (ledger.record (.started setting.policy.mode)).Grows begun wait.us.toNat 0 :=
    Ledger.wait_grows waits nonneg (by omega)
  have whole := waited.trans grows
  have clock : (ledger.record (.started setting.policy.mode)).clock = ledger.clock := rfl
  have asked : (ledger.record (.started setting.policy.mode)).ccaRequests = ledger.ccaRequests := rfl
  have onward := whole.onward
  have soon := whole.soon
  have requests := whole.requests
  obtain ⟨told,trace,inside⟩ := whole.trace
  rw [concludes]
  refine ⟨carried,whole.inRange inRange,onward,?soon,?requests,told,?trace,inside⟩
  case soon =>
    change ended.clock.us ≤ _
    rw [clock] at soon
    omega
  case requests =>
    change ended.ccaRequests ≤ _
    rw [asked] at requests
    omega
  case trace => simp [Ledger.conclude,Ledger.record,trace]

end ChannelAccess
