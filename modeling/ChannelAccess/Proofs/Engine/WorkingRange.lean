import ChannelAccess.Proofs.Boundaries
import ChannelAccess.Proofs.Engine.Reckonings
import ChannelAccess.Proofs.Engine.Tallies

/-!
Within some 35 years of the epoch an engine overflows nowhere, and nothing that it casts wraps,
whatever its policy, the symbol rate, the frame and the superframes. Main statement:
`arithmetic_fits`.
-/

namespace ChannelAccess

open Reckoning

def Instant.Near (t : Instant) : Prop := -2 ^ 50 ≤ t.us ∧ t.us ≤ 2 ^ 50

/-- The clock and the beacons are near the epoch, and a word holds two turnarounds. -/
structure Surroundings.Working (around : Surroundings) : Prop where
  now : around.now.Near
  outgoing : around.layer.outgoing.beacon.Near
  incoming : around.layer.incoming.beacon.Near
  turnaround : around.radio.turnaround.toNat < 2 ^ 31

theorem Surroundings.Working.superframe {around : Surroundings} (working : around.Working)
    (direction : Direction) : (around.layer.superframe direction).beacon.Near := by
  cases direction with
  | incoming => exact working.incoming
  | outgoing => exact working.outgoing

def Operation.Working : Operation → Prop
  | .start around | .fire _ around => around.Working
  | .confirm _ | .cancel | .setPolicy _ | .setMode _ => True

/-- Every delay is short enough to be added to a clock near the epoch. -/
def Reaction.Bounded {ρ : Type} (reaction : Reaction ρ) : Prop :=
  ∀ timer delay, .schedule timer delay ∈ reaction.calls → 0 ≤ delay.us ∧ delay.us ≤ 2 ^ 61

namespace SymbolRate

variable (rate : SymbolRate)

theorem reckonSpan_exact {symbols : Nat} (few : symbols < 2 ^ 64)
    (shows : InClockRange (rate.microseconds symbols)) :
    (rate.reckonSpan symbols).Exact (rate.spanOf symbols) := by
  have word := rate.perSecond.toNat_lt
  have positive := rate.perSecond_pos
  have dividend : Width.wide.Holds ((symbols * 1000000 + rate.perSecond.toNat : Nat) - 1) :=
    ⟨by omega,by omega⟩
  have divided : Width.clock.Holds
      (((symbols * 1000000 + rate.perSecond.toNat : Nat) - 1 : Int) / rate.perSecond.toNat) := by
    rw [rate.dividend_div]
    exact shows
  have spans : rate.spanOf symbols =
      ⟨((symbols * 1000000 + rate.perSecond.toNat : Nat) - 1 : Int) / rate.perSecond.toNat⟩ := by
    rw [rate.dividend_div,spanOf_eq shows]
  rw [spans]
  exact .bind (.count (by simp only [Width.room]; omega)) (.bind (.count (by simp only [Width.room]; omega))
    (.bind (.result dividend) (.bind (.narrow divided) (.pure _))))

theorem reckonSymbols_exact {span : Span} (short : span.us ≤ 2 ^ 51 + 2 ^ 48) :
    (rate.reckonSymbols span).Exact (rate.symbolsIn span) := by
  unfold reckonSymbols symbolsIn
  cases negative : span.isNegative with
  | true => exact .pure 0
  | false =>
    have fast : rate.perSecond.toNat ≤ 4294967295 := Nat.le_of_lt_succ rate.perSecond.toNat_lt
    have whole : span.us.toNat ≤ 2 ^ 51 + 2 ^ 48 := Int.toNat_le.mpr short
    have product := Nat.mul_le_mul whole fast
    have fewer := rate.complete_lt whole
    have complete : span.us.toNat * rate.perSecond.toNat / 1000000 < 18446744073709551616 :=
      Nat.lt_trans fewer (by decide)
    rw [if_neg Bool.false_ne_true,if_neg Bool.false_ne_true,Nat.mod_eq_of_lt complete]
    exact .bind (.count (Nat.lt_of_le_of_lt product (by decide))) (.narrowCount complete)

end SymbolRate

theorem Instant.reckonSince_exact {t start : Instant} (shows : InClockRange (t.us - start.us)) :
    (t.reckonSince start).Exact ⟨t.us - start.us⟩ :=
  .bind (.clock shows) (.pure _)

theorem Span.reckonMinus_exact {a b : Span} (shows : InClockRange (a.us - b.us)) :
    (a.reckonMinus b).Exact ⟨a.us - b.us⟩ :=
  .bind (.clock shows) (.pure _)

namespace Superframe

variable {superframe : Superframe} {now : Instant} (rate : SymbolRate)

theorem reckonCap_exact (superframe : Superframe) :
    superframe.reckonCap.Exact superframe.capDuration := by
  have whole := superframe.duration_le
  have short := superframe.capDuration_le
  have slots := superframe.finalSlot.toNat_lt
  exact .bind (.count (Nat.lt_of_le_of_lt whole (by decide)))
    (.bind (.count (Nat.lt_trans (Nat.succ_lt_succ slots) (by decide)))
      (.count (Nat.lt_of_le_of_lt short (by decide))))

theorem reckonCapEnd_exact (begins : superframe.beacon.Near) :
    ∃ capEnd, (superframe.reckonCapEnd rate).Exact capEnd ∧
      superframe.beacon.us ≤ capEnd.us ∧ capEnd.us ≤ superframe.beacon.us + 2 ^ 48 := by
  obtain ⟨lower,upper⟩ := begins
  have short := superframe.capDuration_le
  have lasts := rate.microseconds_le superframe.capDuration
  have span : rate.spanOf superframe.capDuration = ⟨rate.microseconds superframe.capDuration⟩ :=
    SymbolRate.spanOf_eq (SymbolRate.microseconds_inRange (by omega))
  have shows : InClockRange (superframe.beacon.us + (rate.spanOf superframe.capDuration).us) := by
    rw [span]
    exact ⟨by dsimp only; omega,by dsimp only; omega⟩
  refine ⟨⟨superframe.beacon.us + (rate.spanOf superframe.capDuration).us⟩,
    .bind superframe.reckonCap_exact (.bind (rate.reckonSpan_exact (by omega)
      (SymbolRate.microseconds_inRange (by omega))) (.bind (.clock shows) (.pure _))),?_,?_⟩
  all_goals
    rw [span]
    dsimp only
    omega

theorem reckonLeft_exact (begins : superframe.beacon.Near) (near : now.Near) :
    ∃ left, (superframe.reckonLeft now rate).Exact left ∧
      0 ≤ left.us ∧ left.us ≤ 2 ^ 51 + 2 ^ 48 := by
  obtain ⟨capEnd,ends,after,soon⟩ := reckonCapEnd_exact rate begins
  obtain ⟨lower,upper⟩ := near
  obtain ⟨begins,begins'⟩ := begins
  refine ⟨_,.bind ends (.bind (Instant.reckonSince_exact ⟨by omega,by omega⟩) (.pure _)),?_,?_⟩
  all_goals
    rw [Span.clampNonNegative_us]
    dsimp only
    omega

theorem reckonBoundary_before {unit : Nat} (begins : superframe.beacon.Near) (near : now.Near)
    (early : now < superframe.beacon) :
    (superframe.reckonBoundary now unit rate).Exact ⟨superframe.beacon.us - now.us⟩ := by
  obtain ⟨begins,begins'⟩ := begins
  obtain ⟨lower,upper⟩ := near
  have negative : (Span.mk (now.us - superframe.beacon.us)).isNegative = true := by
    rw [Instant.lt_def] at early
    simp only [Span.isNegative,decide_eq_true_eq]
    omega
  refine .bind (Instant.reckonSince_exact ⟨by omega,by omega⟩) ?_
  rw [if_pos negative]
  exact Instant.reckonSince_exact ⟨by omega,by omega⟩

theorem reckonBoundary_after {unit : UInt32} {count : Nat} (nonzero : unit ≠ 0)
    (begun : superframe.beacon ≤ now) (near : now.us - superframe.beacon.us ≤ 2 ^ 51)
    (counted : rate.symbolsIn ⟨now.us - superframe.beacon.us⟩ / unit.toNat = count) :
    (superframe.reckonBoundary now unit.toNat rate).Exact
      ⟨(rate.spanOf ((count + 1) * unit.toNat)).us - (now.us - superframe.beacon.us)⟩ := by
  obtain ⟨_,coming,few,places,shows⟩ := last_boundary nonzero begun near counted
  have positive : 0 < unit.toNat := Nat.pos_of_ne_zero fun zero => nonzero (UInt32.toNat_inj.mp zero)
  have nonneg : 0 ≤ now.us - superframe.beacon.us := Int.sub_nonneg.mpr begun
  have whole : (Span.mk (now.us - superframe.beacon.us)).isNegative = false := by
    simp only [Span.isNegative,decide_eq_false_iff_not]
    omega
  have rest : InClockRange ((rate.spanOf ((count + 1) * unit.toNat)).us -
      (now.us - superframe.beacon.us)) := by
    obtain ⟨lower,upper⟩ := shows
    rw [SymbolRate.spanOf_eq ⟨lower,upper⟩]
    exact ⟨by dsimp only; omega,by dsimp only; omega⟩
  refine .bind (Instant.reckonSince_exact ⟨by omega,by omega⟩) ?_
  rw [if_neg (Bool.eq_false_iff.mp whole),Nat.max_eq_left (Nat.succ_le_of_lt positive)]
  refine .bind (rate.reckonSymbols_exact (by dsimp only; omega)) ?_
  rw [counted]
  refine .bind (.longWord few) (.bind (.longWord places) ?_)
  exact .bind (rate.reckonSpan_exact places shows) (Span.reckonMinus_exact rest)

theorem reckonBoundary_exact {unit : UInt32} (nonzero : unit ≠ 0) (begins : superframe.beacon.Near)
    (near : now.Near) :
    ∃ wait, (superframe.reckonBoundary now unit.toNat rate).Exact wait ∧ wait.us ≤ 2 ^ 61 := by
  have bounds := begins
  have limits := near
  unfold Instant.Near at bounds limits
  by_cases early : now < superframe.beacon
  · exact ⟨_,reckonBoundary_before rate begins near early,by dsimp only; omega⟩
  · have begun : superframe.beacon ≤ now := Int.not_lt.mp early
    obtain ⟨count,counted⟩ :
      ∃ count, rate.symbolsIn ⟨now.us - superframe.beacon.us⟩ / unit.toNat = count := ⟨_,rfl⟩
    obtain ⟨past,_,_,_,shows⟩ := last_boundary nonzero begun (by omega) counted
    refine ⟨_,reckonBoundary_after rate nonzero begun (by omega) counted,?_⟩
    have soon := boundaryUs_succ_le past
    have period := rate.microseconds_le unit.toNat
    have word := unit.toNat_lt
    unfold boundaryUs at soon
    rw [SymbolRate.spanOf_eq shows]
    dsimp only
    omega

end Superframe

theorem Cost.reckon_exact {window : Nat} {turnaround : UInt32} (frame : Frame) (ackWait : UInt32)
    (narrow : window ≤ 2) (few : turnaround.toNat < 2 ^ 31) :
    ∃ cost, (Cost.reckon window frame ackWait turnaround).Exact cost := by
  have assessments : assessmentSymbols * window < Width.word.room :=
    Nat.lt_of_le_of_lt (Nat.mul_le_mul_left assessmentSymbols narrow) (by decide)
  have twice : 2 * turnaround.toNat < 4294967296 := by omega
  unfold reckon
  cases frame.ackRequested with
  | true => exact ⟨_,.bind (.count assessments) (.bind (.pure ackWait.toNat) (.pure _))⟩
  | false => exact ⟨_,.bind (.count assessments) (.bind (.word twice) (.pure _))⟩

namespace Engine

variable {ρ : Type} {engine : Engine ρ} {around : Surroundings}

theorem waitFor_bounded (engine : Engine ρ) {calls : List Call} (kind : TimerKind) {delay : Span}
    (notes : List Note) (quiet : ∀ call ∈ calls, call.isQuiet = true) (upper : delay.us ≤ 2 ^ 61) :
    (engine.waitFor calls kind delay notes).Bounded := by
  intro timer other scheduled
  rcases List.mem_append.mp scheduled with asked | waits
  · exact absurd (quiet _ asked) (by simp [Call.isQuiet])
  · obtain ⟨_,rfl⟩ := Call.schedule.inj (List.mem_singleton.mp waits)
    rw [Span.clampNonNegative_us]
    omega

theorem reckonStart_exact (nonzero : engine.policy.backoffPeriod ≠ 0) (working : around.Working) :
    ∃ reaction, (engine.reckonStart around).Exact reaction ∧ reaction.Bounded := by
  unfold reckonStart
  rcases SymbolRate.of_cases around.radio.symbolsPerSecond with refused | ⟨rate,rated⟩
  · rw [refused]
    exact ⟨_,.pure _,by simp [Reaction.Bounded]⟩
  · rw [rated]
    cases slotted : engine.policy.isSlotted with
    | true =>
      obtain ⟨wait,exactly,upper⟩ := Superframe.reckonBoundary_exact rate nonzero
        (working.superframe (.ofDestination around.layer.frame.toCoordinator)) working.now
      exact ⟨_,.bind exactly (.pure _),waitFor_bounded _ _ _ (looks_quiet _) upper⟩
    | false =>
      exact ⟨_,.bind (.pure Span.zero) (.pure _),waitFor_bounded _ _ _ (looks_quiet _) (by decide)⟩

theorem backoffSymbols_le {source : Engine ρ} (few : source.progress.periodsLeft ≤ 255) :
    source.progress.periodsLeft * source.policy.backoffPeriod.toNat ≤ 255 * 4294967295 :=
  Nat.mul_le_mul few (Nat.le_of_lt_succ source.policy.backoffPeriod.toNat_lt)

theorem backoff_shows {source : Engine ρ} (few : source.progress.periodsLeft ≤ 255)
    (rate : SymbolRate) : InClockRange (rate.microseconds
      (source.progress.periodsLeft * source.policy.backoffPeriod.toNat)) :=
  SymbolRate.microseconds_inRange (Nat.le_trans (backoffSymbols_le few) (by decide))

theorem reckonWait_exact {source : Engine ρ} (rate : SymbolRate)
    (few : source.progress.periodsLeft ≤ 255) :
    (source.reckonWait rate).Exact (source.backoffSpan rate) := by
  have word := Nat.lt_of_le_of_lt (backoffSymbols_le few)
    (by decide : 255 * 4294967295 < Width.longWord.room)
  exact .bind (.count word) (rate.reckonSpan_exact word (backoff_shows few rate))

theorem backoffSpan_le {source : Engine ρ} (few : source.progress.periodsLeft ≤ 255)
    (rate : SymbolRate) : (source.backoffSpan rate).us ≤ 2 ^ 61 := by
  have symbols := backoffSymbols_le few
  have lasts := rate.microseconds_le
    (source.progress.periodsLeft * source.policy.backoffPeriod.toNat)
  rw [backoffSpan,SymbolRate.spanOf_eq (backoff_shows few rate)]
  dsimp only
  omega

theorem reckonBeyond_exact {source : Engine ρ} {rate : SymbolRate} {left : Span}
    (few : source.progress.periodsLeft ≤ 255) (nonneg : 0 ≤ left.us)
    (upper : left.us ≤ 2 ^ 51 + 2 ^ 48) (short : left < source.backoffSpan rate) :
    (source.reckonBeyond rate left).Exact (source.periodsBeyond rate left) := by
  have fewer := SymbolRate.symbolsIn_lt (backoff_shows few rate) nonneg short
  have used : rate.symbolsIn left / source.policy.backoffPeriod.toNat < 255 :=
    Nat.lt_of_lt_of_le (Nat.div_lt_of_lt_mul (Nat.mul_comm _ _ ▸ fewer)) few
  have word : rate.symbolsIn left / source.policy.backoffPeriod.toNat < 4294967296 :=
    Nat.lt_trans used (by decide)
  rw [periodsBeyond,Nat.mod_eq_of_lt word]
  exact .bind (rate.reckonSymbols_exact upper) (.bind (.narrowCount word) (.pure _))

theorem reckonFit_exact {source : Engine ρ} {superframe : Superframe} {now : Instant}
    {asked : List Call} (rate : SymbolRate) (few : source.progress.periodsLeft ≤ 255)
    (begins : superframe.beacon.Near) (near : now.Near) (quiet : ∀ call ∈ asked, call.isQuiet = true) :
    ∃ reaction, (source.reckonFit superframe now rate asked (source.backoffSpan rate)).Exact reaction ∧
      reaction.Bounded := by
  obtain ⟨left,remains,nonneg,upper⟩ := Superframe.reckonLeft_exact rate begins near
  by_cases short : left < source.backoffSpan rate
  · refine ⟨_,.bind remains ?_,waitFor_bounded (source.withPeriods (source.periodsBeyond rate left))
      .capEnd [.carriedOver source.progress.periodsLeft (source.periodsBeyond rate left)] quiet
      (Int.le_trans upper (by decide))⟩
    rw [if_pos short]
    exact .bind (reckonBeyond_exact few nonneg upper short) (.pure _)
  · refine ⟨_,.bind remains ?_,waitFor_bounded source .canProceed
      [.proceedingAfter source.progress.periodsLeft] quiet (backoffSpan_le few rate)⟩
    rw [if_neg short]
    exact .pure _

theorem maxPeriods_lt (exponent : Nat) : Backoff.maxPeriods exponent < 2 ^ 31 := by
  have low : 0 < 1 <<< min exponent 31 := by
    rw [Nat.shiftLeft_eq,Nat.one_mul]
    exact Nat.two_pow_pos _
  have high : 1 <<< min exponent 31 ≤ 2 ^ 31 := by
    rw [Nat.shiftLeft_eq,Nat.one_mul]
    exact Nat.pow_le_pow_right Nat.zero_lt_two (Nat.min_le_right _ _)
  unfold Backoff.maxPeriods
  omega

theorem reckonMost_exact (exponent : Nat) :
    (reckonMost exponent).Exact (Backoff.maxPeriods exponent) := by
  have high : 1 <<< min exponent 31 ≤ 2 ^ 31 := by
    rw [Nat.shiftLeft_eq,Nat.one_mul]
    exact Nat.pow_le_pow_right Nat.zero_lt_two (Nat.min_le_right _ _)
  have low : 0 < 1 <<< min exponent 31 := by
    rw [Nat.shiftLeft_eq,Nat.one_mul]
    exact Nat.two_pow_pos _
  have lowered : Width.word.Holds ((1 <<< min exponent 31 : Nat) - 1) := ⟨by omega,by omega⟩
  exact .of_outcome (reckonMost_outcome exponent)
    ⟨_,.bind (.count (Nat.lt_of_le_of_lt high (by decide))) (.bind (.result lowered) (.pure _))⟩

section

variable [WordSource ρ]

theorem reckonTake_exact (engine : Engine ρ) (advice : Option UInt32) :
    (engine.reckonTake advice).Exact (engine.takeBackoff advice) := by
  refine .of_outcome (engine.reckonTake_outcome advice) ?_
  unfold reckonTake
  split
  · have most := reckonMost_exact engine.progress.exponent
    have bound := maxPeriods_lt engine.progress.exponent
    cases advice with
    | some periods => exact ⟨_,.bind most (.pure _)⟩
    | none =>
      have draws : (WordSource.next engine.words).1.toNat %
          (Backoff.maxPeriods engine.progress.exponent + 1) < 2 ^ 31 + 1 :=
        Nat.lt_of_lt_of_le (Nat.mod_lt _ (Nat.succ_pos _)) (Nat.succ_le_succ (Nat.le_of_lt bound))
      exact ⟨_,.bind most (.bind (.count (Nat.lt_of_le_of_lt bound (by decide)))
        (.bind (.narrowCount (Nat.lt_trans draws (by decide))) (.pure _)))⟩
  · exact ⟨_,.pure _⟩

theorem reckonBackoff_exact (few : ∀ source asked, engine.takeBackoff around.advice = (source,asked) →
      source.progress.periodsLeft ≤ 255) (working : around.Working) :
    ∃ reaction, (engine.reckonBackoff around).Exact reaction ∧ reaction.Bounded := by
  unfold reckonBackoff
  rcases SymbolRate.of_cases around.radio.symbolsPerSecond with refused | ⟨rate,rated⟩
  · rw [refused]
    exact ⟨_,.pure _,by simp [Reaction.Bounded]⟩
  · obtain ⟨⟨source,asked⟩,drawn⟩ : ∃ taken, engine.takeBackoff around.advice = taken := ⟨_,rfl⟩
    have takes : (engine.reckonTake around.advice).Exact (source,asked) :=
      drawn ▸ engine.reckonTake_exact around.advice
    have few := few source asked drawn
    have quiet := takeBackoff_quiet drawn
    rw [rated]
    cases slotted : engine.policy.isSlotted with
    | true =>
      obtain ⟨reaction,fits,bounded⟩ := reckonFit_exact rate few
        (working.superframe engine.progress.direction) working.now (quiet_asking quiet)
      exact ⟨reaction,.bind takes (.bind (reckonWait_exact rate few) fits),bounded⟩
    | false =>
      exact ⟨_,.bind takes (.bind (reckonWait_exact rate few) (.pure _)),
        waitFor_bounded _ _ _ quiet (backoffSpan_le few rate)⟩

end

theorem reckonCheck_exact (window : engine.progress.window ≤ 2) (working : around.Working) :
    ∃ reaction, (engine.reckonCheck around).Exact reaction ∧ reaction.Bounded := by
  unfold reckonCheck
  rcases SymbolRate.of_cases around.radio.symbolsPerSecond with refused | ⟨rate,rated⟩
  · rw [refused]
    exact ⟨_,.pure _,by simp [Reaction.Bounded]⟩
  · obtain ⟨left,remains,nonneg,upper⟩ := Superframe.reckonLeft_exact rate
      (working.superframe engine.progress.direction) working.now
    obtain ⟨cost,costs⟩ := Cost.reckon_exact around.layer.frame around.layer.ackWait window
      working.turnaround
    have few : cost.total ≤ 4294967295 := saturatingAdd_le _ _
    have spans := rate.reckonSpan_exact (Nat.lt_of_le_of_lt few (by decide))
      (SymbolRate.microseconds_inRange (by omega))
    have quiet : ∀ call ∈ [.askSuperframe engine.progress.direction,Call.cost cost.total],
        call.isQuiet = true := by simp [Call.isQuiet]
    rw [rated]
    refine ⟨_,.bind remains (.bind costs (.bind spans (.pure _))),?_⟩
    split
    · exact waitFor_bounded _ _ _ quiet (Int.le_trans upper (by decide))
    · exact waitFor_bounded _ _ _ quiet (by decide)

theorem change_bounded (engine : Engine ρ) (changed : Except AccessError (Engine ρ)) :
    (engine.change changed).Bounded := by
  cases changed <;> simp [change,Reaction.Bounded]

theorem confirm_bounded {stage : Stage} (inside : engine.At stage) (status : ChannelStatus) :
    (engine.confirm status).Bounded := by
  cases outstanding : engine.ccaOutstanding with
  | false =>
    rw [confirm_unexpected status outstanding]
    simp [Reaction.Bounded]
  | true =>
    have running : engine.running = true := by
      apply inside.running.mpr
      rintro rfl
      exact absurd (inside.outstanding.symm.trans outstanding) (by simp [Stage.assessing])
    cases idle : status.isIdle with
    | true =>
      rw [confirm_idle outstanding running idle]
      split
      · exact waitFor_bounded _ _ _ (by simp) (by decide)
      · simp [Reaction.Bounded]
    | false =>
      rw [confirm_busy outstanding running idle]
      split
      · simp [Reaction.Bounded]
      · exact waitFor_bounded _ _ _ (by simp) (by decide)

theorem reckonConfirm_exact {stage : Stage} (counted : engine.Counted stage)
    (bound : stage ≠ .concluded → engine.progress.backoffs ≤ engine.policy.maxBackoffs.toNat)
    (status : ChannelStatus) : (engine.reckonConfirm status).Exact (engine.confirm status) := by
  refine .of_outcome (engine.reckonConfirm_outcome status) ?_
  unfold reckonConfirm
  split
  · rename_i busy
    have going : stage ≠ .concluded := by
      rintro rfl
      exact absurd (counted.inside.outstanding.symm.trans busy.1) (by simp [Stage.assessing])
    obtain ⟨exponent,backoffs⟩ := counted.raises going (bound going)
    exact ⟨_,.bind (.count exponent) (.bind (.count backoffs) (.pure _))⟩
  · exact ⟨_,.still rfl⟩

variable [WordSource ρ]

theorem reckonFire_exact {stage : Stage} (counted : engine.Counted stage) (working : around.Working)
    (timer : Timer) : ∃ reaction, (engine.reckonFire timer around).Exact reaction ∧ reaction.Bounded := by
  have inside := counted.inside
  by_cases armed : engine.timers.armed timer.kind = some timer.number
  · have taken := TimerTable.take_armed armed
    have awaits := inside.awaited_of_armed armed
    have running : engine.running = true := by
      apply inside.running.mpr
      rintro rfl
      simp [Stage.awaited] at awaits
    have fires := fire_armed around running armed
    unfold reckonFire
    rw [taken]
    cases kind : timer.kind with
    | backoffStart =>
      obtain rfl : stage = .backoffStart := inside.stage_of_armed (kind ▸ armed) rfl (by simp)
      have low := (Policy.exponents_le counted.valid).1
      exact reckonBackoff_exact
        (fun _ _ drawn => Nat.le_trans (counted.drawn drawn) (Backoff.maxPeriods_le low)) working
    | canProceed =>
      obtain rfl : stage = .canProceed := inside.stage_of_armed (kind ▸ armed) rfl (by simp)
      exact reckonCheck_exact (Nat.le_of_eq inside.window_canProceed) working
    | ccaRequest =>
      rw [kind] at fires
      exact ⟨_,.still fires,by simp [Reaction.Bounded,requestCca]⟩
    | capEnd =>
      rw [kind] at fires
      exact ⟨_,.still fires,by simp [Reaction.Bounded]⟩
  · unfold reckonFire
    rw [TimerTable.take_stale armed]
    exact ⟨_,.still (fire_stale around armed),by simp [Reaction.Bounded]⟩

theorem reckon_exact {deeds : List (Deed ρ)} {stage : Stage} (balanced : engine.Balanced deeds stage)
    {operation : Operation} (working : operation.Working) :
    ∃ reaction, (engine.reckon operation).Exact reaction ∧ reaction.Bounded := by
  have counted := balanced.counted
  cases operation with
  | start around => exact reckonStart_exact (Policy.validate_eq_ok.mp counted.valid).2.2.2.2 working
  | fire timer around => exact reckonFire_exact counted working timer
  | confirm status =>
    exact ⟨_,reckonConfirm_exact counted balanced.bound status,confirm_bounded counted.inside status⟩
  | cancel => exact ⟨_,.still rfl,by simp [Reaction.Bounded]⟩
  | setPolicy policy => exact ⟨_,.still rfl,change_bounded _ _⟩
  | setMode mode => exact ⟨_,.still rfl,change_bounded _ _⟩

end Engine

/-- In the working range every operation of an engine gives a result: no figure on the way leaves the
integer that it is put into, so nothing overflows and no cast changes a value. Every delay that is
scheduled can be added to the clock. -/
theorem arithmetic_fits {ρ : Type} [WordSource ρ] {policy : Policy} {words : ρ}
    {first last : Engine ρ} {deeds : List (Deed ρ)} {operation : Operation}
    (made : Engine.new policy words = .ok first) (run : Run first deeds last)
    (working : operation.Working) :
    ∃ reaction, last.perform operation = .ok reaction ∧
      (last.reckon operation).outcome = .ok reaction ∧
      (∀ figure ∈ (last.reckon operation).figures, figure.Fits) ∧
      ∀ timer delay, .schedule timer delay ∈ reaction.calls →
        0 ≤ delay.us ∧ delay.us ≤ 2 ^ 61 ∧ ∀ now : Instant, now.Near → InClockRange (now.us + delay.us) := by
  obtain ⟨stage,balanced⟩ := Engine.Balanced.run made run
  obtain ⟨reaction,⟨outcome,fits⟩,bounded⟩ := Engine.reckon_exact balanced working
  refine ⟨reaction,last.reckon_outcome operation ▸ outcome,outcome,fits,?_⟩
  intro timer delay scheduled
  obtain ⟨nonneg,upper⟩ := bounded timer delay scheduled
  refine ⟨nonneg,upper,fun now near => ?_⟩
  obtain ⟨early,late⟩ := near
  exact ⟨by omega,by omega⟩

/-- The slowest symbol rate at the first instant of the working range. -/
def Surroundings.remote : Surroundings := { Surroundings.plain 1 with now := ⟨-2 ^ 50⟩ }

/-- At one symbol per second 255 of the longest backoff periods take some 35000 years. -/
theorem arithmetic_fits_longest_backoff :
    ∃ (first last : Engine WordScript) (deeds : List (Deed WordScript))
        (operation : Operation) (reaction : Reaction WordScript),
      Engine.new { minExponent := 8, maxExponent := 8, backoffPeriod := 4294967295 } ⟨[255]⟩ =
          .ok first ∧
        Run first deeds last ∧ operation.Working ∧ last.perform operation = .ok reaction ∧
        reaction.calls =
          [.askAdvice 8 0 none,.schedule ⟨.ccaRequest,1⟩ ⟨1095216660225000000⟩] ∧
        (∀ figure ∈ (last.reckon operation).figures, figure.Fits) ∧
        InClockRange (-2 ^ 50 + 1095216660225000000) := by
  obtain ⟨first,made⟩ : ∃ first, Engine.new
    { minExponent := 8, maxExponent := 8, backoffPeriod := 4294967295 }
    (⟨[255]⟩ : WordScript) = .ok first := ⟨_,rfl⟩
  have remote : Instant.Near ⟨-2 ^ 50⟩ := ⟨by decide,by decide⟩
  have working : (Operation.fire ⟨.backoffStart,0⟩ .remote).Working :=
    ⟨remote,⟨by decide,by decide⟩,⟨by decide,by decide⟩,by decide⟩
  obtain ⟨deeds,last,source,run,running,armed,unslotted,drawn,periods,unit,number⟩ :
      ∃ deeds last source, Run first deeds last ∧ last.running = true ∧
        last.timers.armed .backoffStart = some 0 ∧ last.policy.mode = .unslotted ∧
        (last.taken .backoffStart).takeBackoff Surroundings.remote.advice = (source,[.askAdvice 8 0 none]) ∧
        source.progress.periodsLeft = 255 ∧ source.policy.backoffPeriod.toNat = 4294967295 ∧
        source.timers.nextNumber = 1 := by
    cases made
    exact ⟨_,_,_,.step .start (rfl : Engine.perform _ (.start .remote) = _),rfl,rfl,rfl,rfl,rfl,rfl,rfl⟩
  obtain ⟨reaction,performed,_,fits,delays⟩ := arithmetic_fits made run working
  have span : SymbolRate.spanOf ⟨1,by decide⟩ (255 * 4294967295) = ⟨1095216660225000000⟩ := by decide
  have calls : reaction.calls =
      [.askAdvice 8 0 none,.schedule ⟨.ccaRequest,1⟩ ⟨1095216660225000000⟩] := by
    have begins : (last.taken .backoffStart).beginBackoff .remote = .ok reaction := by
      rw [← performed,Engine.perform,Engine.fire_armed _ running armed]
    have rated : SymbolRate.of Surroundings.remote.radio.symbolsPerSecond =
      .ok ⟨1,by decide⟩ := rfl
    have plain : (last.taken .backoffStart).policy.mode = .unslotted := unslotted
    rw [Engine.beginBackoff_unslotted rated plain drawn] at begins
    cases begins
    dsimp only [Engine.waitFor,Engine.backoffSpan]
    rw [periods,unit,number,span]
    rfl
  obtain ⟨_,_,sum⟩ := delays ⟨.ccaRequest,1⟩ ⟨1095216660225000000⟩ (by simp [calls])
  exact ⟨first,last,deeds,_,reaction,made,run,working,performed,calls,fits,sum ⟨-2 ^ 50⟩ remote⟩

end ChannelAccess
