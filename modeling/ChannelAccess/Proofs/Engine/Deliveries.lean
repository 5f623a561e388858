import ChannelAccess.Proofs.Engine.Runs

/-!
What an engine does with each delivery that it acts on: its reaction in closed form, the stage it
leaves and the stage it reaches. Main statement: `Advances.reacts`.
-/

namespace ChannelAccess.Engine

variable {ρ : Type} [WordSource ρ]

/-- How an engine reacts to a delivery that takes its attempt from one stage to another. -/
inductive Reacts (engine : Engine ρ) : Stage → Operation → Reaction ρ → Stage → Prop
  | refused {stage : Stage} {timer : Timer} {around : Surroundings}
      (awaits : stage.awaited = some timer.kind)
      (unrated : SymbolRate.of around.radio.symbolsPerSecond = .error .zeroSymbolRate) :
      Reacts engine stage (.fire timer around)
        { engine := engine.taken timer.kind, result := .error .zeroSymbolRate } .stuck
  | drawn {number : UInt32} {around : Surroundings} {rate : SymbolRate} {source : Engine ρ}
      {asked : List Call} (unslotted : engine.policy.mode = .unslotted)
      (rated : SymbolRate.of around.radio.symbolsPerSecond = .ok rate)
      (drawn : (engine.taken .backoffStart).takeBackoff around.advice = (source,asked)) :
      Reacts engine .backoffStart (.fire ⟨.backoffStart,number⟩ around)
        (source.waitFor asked .ccaRequest (source.backoffSpan rate)
          [.assessmentAfter source.progress.periodsLeft (source.backoffSpan rate)]) (.ccaRequest 0)
  | fits {number : UInt32} {around : Surroundings} {rate : SymbolRate} {source : Engine ρ}
      {asked : List Call} {left : Span} (slotted : engine.policy.mode = .slotted)
      (rated : SymbolRate.of around.radio.symbolsPerSecond = .ok rate)
      (drawn : (engine.taken .backoffStart).takeBackoff around.advice = (source,asked))
      (remains : (around.layer.superframe engine.progress.direction).timeLeftInCap around.now rate =
        .ok left)
      (enough : ¬ left < source.backoffSpan rate) :
      Reacts engine .backoffStart (.fire ⟨.backoffStart,number⟩ around)
        (source.waitFor (asked ++ [.askSuperframe engine.progress.direction]) .canProceed
          (source.backoffSpan rate) [.proceedingAfter source.progress.periodsLeft]) .canProceed
  | cutShort {number : UInt32} {around : Surroundings} {rate : SymbolRate} {source : Engine ρ}
      {asked : List Call} {left : Span} (slotted : engine.policy.mode = .slotted)
      (rated : SymbolRate.of around.radio.symbolsPerSecond = .ok rate)
      (drawn : (engine.taken .backoffStart).takeBackoff around.advice = (source,asked))
      (remains : (around.layer.superframe engine.progress.direction).timeLeftInCap around.now rate =
        .ok left)
      (short : left < source.backoffSpan rate) :
      Reacts engine .backoffStart (.fire ⟨.backoffStart,number⟩ around)
        ((source.withPeriods (source.periodsBeyond rate left)).waitFor
          (asked ++ [.askSuperframe engine.progress.direction]) .capEnd left
          [.carriedOver source.progress.periodsLeft (source.periodsBeyond rate left)]) .capEnd
  | proceeds {number : UInt32} {around : Surroundings} {rate : SymbolRate} {left : Span} {cost : Cost}
      (rated : SymbolRate.of around.radio.symbolsPerSecond = .ok rate)
      (remains : (around.layer.superframe engine.progress.direction).timeLeftInCap around.now rate =
        .ok left)
      (costs : Cost.estimate engine.progress.window around.layer.frame around.layer.ackWait
        around.radio.turnaround = .ok cost)
      (enough : ¬ left < rate.spanOf cost.total) :
      Reacts engine .canProceed (.fire ⟨.canProceed,number⟩ around)
        (((engine.taken .canProceed).withPeriods 0).waitFor
          [.askSuperframe engine.progress.direction,.cost cost.total] .ccaRequest .zero [])
        (.ccaRequest 0)
  | tooLong {number : UInt32} {around : Surroundings} {rate : SymbolRate} {left : Span} {cost : Cost}
      (rated : SymbolRate.of around.radio.symbolsPerSecond = .ok rate)
      (remains : (around.layer.superframe engine.progress.direction).timeLeftInCap around.now rate =
        .ok left)
      (costs : Cost.estimate engine.progress.window around.layer.frame around.layer.ackWait
        around.radio.turnaround = .ok cost)
      (long : left < rate.spanOf cost.total) :
      Reacts engine .canProceed (.fire ⟨.canProceed,number⟩ around)
        (((engine.taken .canProceed).withPeriods 0).waitFor
          [.askSuperframe engine.progress.direction,.cost cost.total] .capEnd left
          [.transactionTooLong cost.total left]) .capEnd
  | requested {idles : Nat} {number : UInt32} {around : Surroundings} :
      Reacts engine (.ccaRequest idles) (.fire ⟨.ccaRequest,number⟩ around)
        (engine.taken .ccaRequest).requestCca (.assessment idles)
  | stillIdle {idles : Nat} {status : ChannelStatus}
      (idle : status.isIdle = true) (slotted : engine.policy.mode = .slotted) :
      Reacts engine (.assessment idles) (.confirm status)
        (engine.afterIdle.waitFor [] .ccaRequest .zero [.stillIdle (engine.progress.window - 1)])
        (.ccaRequest (idles + 1))
  | granted {idles : Nat} {status : ChannelStatus}
      (idle : status.isIdle = true) (enough : idles + 1 = engine.policy.mode.needed) :
      Reacts engine (.assessment idles) (.confirm status)
        { engine := engine.afterIdle.ended .channelIdle
          calls := [.verdict .channelIdle]
          notes := [.channelIdle engine.progress.backoffs,.concluded .channelIdle] }
        .concluded
  | backsOff {idles : Nat} {status : ChannelStatus}
      (busy : status.isIdle = false)
      (allowed : engine.progress.backoffs + 1 ≤ engine.policy.maxBackoffs.toNat) :
      Reacts engine (.assessment idles) (.confirm status)
        (engine.afterBusy.waitFor [] .backoffStart .zero
          [.backingOff (engine.progress.backoffs + 1) engine.afterBusy.progress.exponent]) .backoffStart
  | fails {idles : Nat} {status : ChannelStatus}
      (busy : status.isIdle = false)
      (spent : engine.policy.maxBackoffs.toNat < engine.progress.backoffs + 1) :
      Reacts engine (.assessment idles) (.confirm status)
        { engine := engine.afterBusy.ended .accessFailure
          calls := [.verdict .accessFailure]
          notes := [.accessFailed (engine.progress.backoffs + 1),.concluded .accessFailure] }
        .concluded
  | capEnds {number : UInt32} {around : Surroundings} :
      Reacts engine .capEnd (.fire ⟨.capEnd,number⟩ around)
        { engine := (engine.taken .capEnd).ended .deferred
          calls := [.verdict .deferred]
          notes := [.capEnded,.concluded .deferred] }
        .concluded

omit [WordSource ρ] in
theorem At.awaited_of_waitFor {source : Engine ρ} {calls : List Call} {kind : TimerKind}
    {delay : Span} {notes : List Note} {next : Stage}
    (arrives : (source.waitFor calls kind delay notes).engine.At next) : next.awaited = some kind := by
  have armed : (source.waitFor calls kind delay notes).engine.timers.armed kind =
      some source.timers.nextNumber := by simp [waitFor]
  exact arrives.awaited_of_armed armed

omit [WordSource ρ] in
theorem Advances.stuck_of_refused {engine : Engine ρ} {stage next : Stage} {action : Action}
    {reaction : Reaction ρ} {error : AccessError} (advances : Advances engine stage action reaction next)
    (refused : reaction.result = .error error) : next = .stuck := by
  have result := advances.result
  rw [refused] at result
  split at result
  · assumption
  · cases result

variable {engine : Engine ρ} {action : Action} {reaction : Reaction ρ} {next : Stage}

theorem reacts_backoffStart {number : UInt32} {around : Surroundings}
    (fired : (engine.taken .backoffStart).beginBackoff around = .ok reaction)
    (advances : Advances engine .backoffStart (.expired .backoffStart) reaction next) :
    engine.Reacts .backoffStart (.fire ⟨.backoffStart,number⟩ around) reaction next := by
  have follows := advances.follows
  have arrives := advances.arrives
  rcases SymbolRate.of_cases around.radio.symbolsPerSecond with unrated | ⟨rate,rated⟩
  · rw [beginBackoff_refused unrated] at fired
    cases fired
    obtain rfl := advances.stuck_of_refused rfl
    exact .refused rfl unrated
  · rcases drawn : (engine.taken .backoffStart).takeBackoff around.advice with ⟨source,asked⟩
    cases mode : engine.policy.mode with
    | unslotted =>
      have plain : (engine.taken .backoffStart).policy.mode = .unslotted := mode
      rw [beginBackoff_unslotted rated plain drawn] at fired
      cases fired
      have awaits := arrives.awaited_of_waitFor
      cases follows with
      | drawn unslotted => exact .drawn mode rated drawn
      | fits slotted => simp [Stage.awaited] at awaits
      | cutShort slotted => simp [Stage.awaited] at awaits
      | backoffRefused => simp [Stage.awaited] at awaits
    | slotted =>
      have aligned : (engine.taken .backoffStart).policy.mode = .slotted := mode
      rw [beginBackoff_slotted rated aligned drawn] at fired
      obtain ⟨left,remains,fired⟩ := except_map_eq_ok.mp fired
      by_cases short : left < source.backoffSpan rate
      · rw [if_pos short] at fired
        cases fired
        have awaits := arrives.awaited_of_waitFor
        cases follows with
        | cutShort slotted => exact .cutShort mode rated drawn remains short
        | drawn unslotted => simp [Stage.awaited] at awaits
        | fits slotted => simp [Stage.awaited] at awaits
        | backoffRefused => simp [Stage.awaited] at awaits
      · rw [if_neg short] at fired
        cases fired
        have awaits := arrives.awaited_of_waitFor
        cases follows with
        | fits slotted => exact .fits mode rated drawn remains short
        | drawn unslotted => simp [Stage.awaited] at awaits
        | cutShort slotted => simp [Stage.awaited] at awaits
        | backoffRefused => simp [Stage.awaited] at awaits

theorem reacts_canProceed {number : UInt32} {around : Surroundings}
    (fired : (engine.taken .canProceed).checkTransaction around = .ok reaction)
    (advances : Advances engine .canProceed (.expired .canProceed) reaction next) :
    engine.Reacts .canProceed (.fire ⟨.canProceed,number⟩ around) reaction next := by
  have follows := advances.follows
  have arrives := advances.arrives
  rcases SymbolRate.of_cases around.radio.symbolsPerSecond with unrated | ⟨rate,rated⟩
  · rw [checkTransaction_refused unrated] at fired
    cases fired
    obtain rfl := advances.stuck_of_refused rfl
    exact .refused rfl unrated
  · rw [checkTransaction_eq rated] at fired
    obtain ⟨left,remains,fired⟩ := except_bind_eq_ok.mp fired
    obtain ⟨cost,costs,fired⟩ := except_bind_eq_ok.mp fired
    by_cases long : left < rate.spanOf cost.total
    · rw [if_pos long] at fired
      cases fired
      have awaits := arrives.awaited_of_waitFor
      cases follows with
      | tooLong => exact .tooLong rated remains costs long
      | proceeds => simp [Stage.awaited] at awaits
      | checkRefused => simp [Stage.awaited] at awaits
    · rw [if_neg long] at fired
      cases fired
      have awaits := arrives.awaited_of_waitFor
      cases follows with
      | proceeds => exact .proceeds rated remains costs long
      | tooLong => simp [Stage.awaited] at awaits
      | checkRefused => simp [Stage.awaited] at awaits

theorem reacts_assessment {idles : Nat} {status : ChannelStatus}
    (inside : engine.At (.assessment idles))
    (advances : Advances engine (.assessment idles) (.assessed status) (engine.confirm status) next) :
    engine.Reacts (.assessment idles) (.confirm status) (engine.confirm status) next := by
  have running : engine.running = true := inside.running.mpr (by simp)
  have follows := advances.follows
  have arrives := advances.arrives
  cases idle : status.isIdle with
  | true =>
    rw [confirm_idle inside.outstanding running idle] at arrives ⊢
    split at arrives
    · rename_i more
      rw [if_pos more]
      have awaits := arrives.awaited_of_waitFor
      cases follows with
      | stillIdle idles idle' fewer => exact .stillIdle idle (Policy.isSlotted_eq_true.mp more.1)
      | granted => simp [Stage.awaited] at awaits
      | backsOff idles busy => simp [idle] at busy
      | fails => simp [Stage.awaited] at awaits
    · rename_i closed
      rw [if_neg closed]
      cases follows with
      | granted idles idle' enough => exact .granted idle enough
      | stillIdle => exact absurd (arrives.running.mpr (by simp)) (by simp [ended])
      | backsOff idles busy => simp [idle] at busy
      | fails idles busy => simp [idle] at busy
  | false =>
    rw [confirm_busy inside.outstanding running idle] at arrives ⊢
    split at arrives
    · rename_i spent
      rw [if_pos spent]
      cases follows with
      | fails => exact .fails idle spent
      | backsOff => exact absurd (arrives.running.mpr (by simp)) (by simp [ended])
      | stillIdle idles idle' => simp [idle] at idle'
      | granted idles idle' => simp [idle] at idle'
    · rename_i allowed
      rw [if_neg allowed]
      have awaits := arrives.awaited_of_waitFor
      cases follows with
      | backsOff => exact .backsOff idle (Nat.le_of_not_lt allowed)
      | fails => simp [Stage.awaited] at awaits
      | stillIdle idles idle' => simp [idle] at idle'
      | granted => simp [Stage.awaited] at awaits

theorem Advances.reacts {stage : Stage} {operation : Operation} (inside : engine.At stage)
    (accepted : engine.accepts operation = some action)
    (performed : engine.perform operation = .ok reaction)
    (advances : Advances engine stage action reaction next) :
    engine.Reacts stage operation reaction next := by
  have follows := advances.follows
  rcases accepts_of_eq_some accepted with
    ⟨⟨kind,number⟩,around,rfl,rfl,armed⟩ | ⟨status,rfl,rfl,outstanding⟩
  · have awaits := inside.awaited_of_armed armed
    have running : engine.running = true :=
      inside.running.mpr fun concluded => by simp [concluded,Stage.awaited] at awaits
    rw [perform,fire_armed around running armed] at performed
    cases kind with
    | backoffStart =>
      obtain rfl : stage = .backoffStart := inside.stage_of_armed armed rfl (by simp)
      exact reacts_backoffStart performed advances
    | canProceed =>
      obtain rfl : stage = .canProceed := inside.stage_of_armed armed rfl (by simp)
      exact reacts_canProceed performed advances
    | ccaRequest =>
      cases performed
      cases follows with
      | requested idles => exact .requested
    | capEnd =>
      cases performed
      cases follows with
      | capEnds => exact .capEnds
  · cases performed
    obtain ⟨idles,rfl⟩ : ∃ idles, stage = .assessment idles := by
      cases follows <;> exact ⟨_,rfl⟩
    exact reacts_assessment inside advances

/-- An attempt keeps to the superframe that it chose at its start. -/
theorem Reacts.direction {stage : Stage} {operation : Operation}
    (reacts : engine.Reacts stage operation reaction next) :
    reaction.engine.progress.direction = engine.progress.direction := by
  cases reacts with
  | drawn unslotted rated drawn =>
    have kept := takeBackoff_direction drawn
    exact kept
  | fits slotted rated drawn remains enough =>
    have kept := takeBackoff_direction drawn
    exact kept
  | cutShort slotted rated drawn remains short =>
    have kept := takeBackoff_direction drawn
    exact kept
  | _ => rfl

end ChannelAccess.Engine
