import ChannelAccess.Proofs.Conversions
import ChannelAccess.Proofs.Engine.Counters

/-!
Whether a slotted backoff fits the rest of the CAP can be told from its periods alone: the two
conversions between symbols and time agree, so the comparison of spans and the count of the periods
that are complete give the same answer. Main statement: `conversions_agree`.
-/

namespace ChannelAccess

theorem SymbolRate.spanOf_periods_le_iff {rate : SymbolRate} {periods unit : Nat} {left : Span}
    (positive : 0 < unit) (shows : InClockRange (rate.microseconds (periods * unit)))
    (nonneg : 0 ≤ left.us)
    (counts : left.us.toNat * rate.perSecond.toNat / 1000000 < 18446744073709551616) :
    rate.spanOf (periods * unit) ≤ left ↔ periods ≤ rate.symbolsIn left / unit := by
  rw [spanOf_le_iff shows nonneg counts,Nat.le_div_iff_mul_le positive]

namespace Engine

variable {ρ : Type} [WordSource ρ]

/-- A slotted backoff goes on if the rest of the CAP completes its periods, and is cut short by those
that are not complete otherwise. -/
theorem beginBackoff_by_periods {engine source : Engine ρ} {around : Surroundings}
    {rate : SymbolRate} {asked : List Call} {left : Span}
    (positive : 0 < engine.policy.backoffPeriod.toNat) (slotted : engine.policy.mode = .slotted)
    (rated : SymbolRate.of around.radio.symbolsPerSecond = .ok rate)
    (drawn : engine.takeBackoff around.advice = (source,asked))
    (remains : (around.layer.superframe engine.progress.direction).timeLeftInCap around.now rate =
      .ok left)
    (word : source.progress.periodsLeft < 4294967296)
    (shows : InClockRange (rate.microseconds
      (source.progress.periodsLeft * engine.policy.backoffPeriod.toNat)))
    (counts : left.us.toNat * rate.perSecond.toNat / 1000000 < 18446744073709551616) :
    engine.beginBackoff around = .ok
      (if source.progress.periodsLeft ≤ rate.symbolsIn left / engine.policy.backoffPeriod.toNat then
        source.waitFor (asked ++ [.askSuperframe engine.progress.direction]) .canProceed
          (source.backoffSpan rate) [.proceedingAfter source.progress.periodsLeft]
      else
        (source.withPeriods (source.progress.periodsLeft -
          rate.symbolsIn left / engine.policy.backoffPeriod.toNat)).waitFor
            (asked ++ [.askSuperframe engine.progress.direction]) .capEnd left
            [.carriedOver source.progress.periodsLeft (source.progress.periodsLeft -
              rate.symbolsIn left / engine.policy.backoffPeriod.toNat)]) := by
  have nonneg := Superframe.timeLeftInCap_nonneg remains
  have policy := takeBackoff_policy drawn
  have fits := SymbolRate.spanOf_periods_le_iff positive shows nonneg counts
  have span : source.backoffSpan rate =
      rate.spanOf (source.progress.periodsLeft * engine.policy.backoffPeriod.toNat) := by
    rw [backoffSpan,policy]
  rw [beginBackoff_slotted rated slotted drawn,remains]
  apply congrArg Except.ok
  dsimp only
  by_cases short : left < source.backoffSpan rate
  · have beyond := periodsBeyond_eq word (policy ▸ shows) nonneg short
    rw [policy] at beyond
    have unfit : ¬ source.progress.periodsLeft ≤
        rate.symbolsIn left / engine.policy.backoffPeriod.toNat := by
      rw [← fits,← span]
      exact Int.not_le_of_gt short
    rw [if_pos short,if_neg unfit,beyond]
  · have fit : source.progress.periodsLeft ≤
        rate.symbolsIn left / engine.policy.backoffPeriod.toNat := by
      rw [← fits,← span]
      exact Int.le_of_not_gt short
    rw [if_neg short,if_pos fit]

end Engine

/-- A count of symbols takes at most a span exactly if the span completes the symbols; up to a
million symbols per second none is lost on the way to time and back. So a number of backoff periods
fits a span exactly if the span completes the periods, and a slotted backoff goes on exactly then:
what it carries over otherwise are the periods that are not complete. -/
theorem conversions_agree {ρ : Type} [WordSource ρ] (rate : SymbolRate) :
    (∀ (symbols : Nat) (span : Span), InClockRange (rate.microseconds symbols) → 0 ≤ span.us →
      span.us.toNat * rate.perSecond.toNat / 1000000 < 2 ^ 64 →
      (rate.spanOf symbols ≤ span ↔ symbols ≤ rate.symbolsIn span)) ∧
    (rate.perSecond.toNat ≤ 1000000 → ∀ symbols : Nat, InClockRange (rate.microseconds symbols) →
      rate.symbolsIn (rate.spanOf symbols) = symbols) ∧
    (∀ (periods unit : Nat) (left : Span), 1 ≤ unit →
      InClockRange (rate.microseconds (periods * unit)) → 0 ≤ left.us →
      left.us.toNat * rate.perSecond.toNat / 1000000 < 2 ^ 64 →
      (rate.spanOf (periods * unit) ≤ left ↔ periods ≤ rate.symbolsIn left / unit)) ∧
    ∀ (engine source : Engine ρ) (around : Surroundings) (asked : List Call) (left : Span),
      engine.policy.backoffPeriod ≠ 0 → engine.policy.mode = .slotted →
      SymbolRate.of around.radio.symbolsPerSecond = .ok rate →
      engine.takeBackoff around.advice = (source,asked) →
      (around.layer.superframe engine.progress.direction).timeLeftInCap around.now rate = .ok left →
      source.progress.periodsLeft < 2 ^ 32 →
      InClockRange (rate.microseconds
        (source.progress.periodsLeft * engine.policy.backoffPeriod.toNat)) →
      left.us.toNat * rate.perSecond.toNat / 1000000 < 2 ^ 64 →
      let periods := source.progress.periodsLeft
      let complete := rate.symbolsIn left / engine.policy.backoffPeriod.toNat
      engine.beginBackoff around = .ok
        (if periods ≤ complete then
          source.waitFor (asked ++ [.askSuperframe engine.progress.direction]) .canProceed
            (source.backoffSpan rate) [.proceedingAfter periods]
        else
          (source.withPeriods (periods - complete)).waitFor
            (asked ++ [.askSuperframe engine.progress.direction]) .capEnd left
            [.carriedOver periods (periods - complete)]) := by
  refine ⟨?converts,fun slow symbols shows => SymbolRate.symbolsIn_spanOf slow shows,?periods,?engine⟩
  case converts =>
    intro symbols span shows nonneg counts
    exact SymbolRate.spanOf_le_iff shows nonneg counts
  case periods =>
    intro periods unit left positive shows nonneg counts
    exact SymbolRate.spanOf_periods_le_iff positive shows nonneg counts
  case engine =>
    intro engine source around asked left nonzero slotted rated drawn remains word shows counts
    have positive : 0 < engine.policy.backoffPeriod.toNat :=
      Nat.pos_of_ne_zero fun zero => nonzero (UInt32.toNat_inj.mp zero)
    exact Engine.beginBackoff_by_periods positive slotted rated drawn remains word shows counts

/-- At 300000 symbols per second 333 microseconds of the CAP hold 99 symbols, so four of five periods
of 20 symbols, and the fifth, which would end a microsecond later, is carried over. -/
theorem conversions_agree_fractional :
    ∃ (begun source : Engine WordScript) (reaction : Reaction WordScript),
      begun.takeBackoff (some 5) = (source,[.askAdvice 3 0 (some 5)]) ∧
        begun.beginBackoff { Surroundings.plain 300000 with now := ⟨2867⟩, advice := some 5 } =
          .ok reaction ∧
        reaction.calls = [.askAdvice 3 0 (some 5),.askSuperframe .outgoing,
          .schedule ⟨.capEnd,1⟩ ⟨333⟩] ∧
        reaction.notes = [.carriedOver 5 1] ∧ reaction.engine.progress.periodsLeft = 1 ∧
        SymbolRate.spanOf ⟨300000,by decide⟩ 100 = ⟨334⟩ ∧
        SymbolRate.symbolsIn ⟨300000,by decide⟩ ⟨334⟩ = 100 ∧
        SymbolRate.symbolsIn ⟨300000,by decide⟩ ⟨333⟩ = 99 := by
  obtain ⟨first,made⟩ :
    ∃ first, Engine.new { mode := .slotted } (⟨[]⟩ : WordScript) = .ok first := ⟨_,rfl⟩
  obtain ⟨begun,source,_,slotted,nonzero,unit,drawn,direction,remains,periods,number⟩ :
      ∃ (begun : Reaction WordScript) (source : Engine WordScript),
        first.perform (.start (Surroundings.plain 300000)) = .ok begun ∧
        begun.engine.policy.mode = .slotted ∧ begun.engine.policy.backoffPeriod ≠ 0 ∧
        begun.engine.policy.backoffPeriod.toNat = 20 ∧
        begun.engine.takeBackoff (some 5) = (source,[.askAdvice 3 0 (some 5)]) ∧
        begun.engine.progress.direction = .outgoing ∧
        ((Surroundings.plain 300000).layer.superframe
          begun.engine.progress.direction).timeLeftInCap ⟨2867⟩ ⟨300000,by decide⟩ = .ok ⟨333⟩ ∧
        source.progress.periodsLeft = 5 ∧ source.timers.nextNumber = 1 := by
    cases made
    exact ⟨_,_,rfl,rfl,by decide,rfl,rfl,rfl,by decide,rfl,rfl⟩
  obtain ⟨_,lossless,_,agrees⟩ := @conversions_agree WordScript _ ⟨300000,by decide⟩
  have counted : SymbolRate.symbolsIn ⟨300000,by decide⟩ ⟨333⟩ = 99 := by decide
  have span : SymbolRate.spanOf ⟨300000,by decide⟩ 100 = ⟨334⟩ := by decide
  have back : SymbolRate.symbolsIn ⟨300000,by decide⟩ (SymbolRate.spanOf ⟨300000,by decide⟩ 100) = 100 :=
    lossless (by decide) 100 (by decide)
  have cut := agrees begun.engine source
    { Surroundings.plain 300000 with now := ⟨2867⟩, advice := some 5 } _ ⟨333⟩ nonzero slotted rfl drawn
    remains (by rw [periods]; decide) (by rw [periods,unit]; decide) (by decide)
  dsimp only at cut
  rw [periods,unit,counted,if_neg (by decide)] at cut
  refine ⟨begun.engine,source,_,drawn,cut,?calls,rfl,rfl,span,span ▸ back,counted⟩
  dsimp only [Engine.waitFor,Engine.withPeriods]
  rw [number,direction]
  rfl

end ChannelAccess
