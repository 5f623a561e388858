import ChannelAccess.Proofs.Engine.Counters

/-!
What the counters of an engine tell about the attempt that it runs: each of them follows from what
was performed since the attempt began, under the policy that was in force as it began. Main
statement: `counters_tally`.
-/

namespace ChannelAccess

variable {ρ : Type}

/-- `later` is all that was performed since an attempt began under a policy. -/
structure Begun (deeds : List (Deed ρ)) (policy : Policy) (later : List (Deed ρ)) : Prop where
  opening : ∃ earlier opening, deeds = earlier ++ opening :: later ∧ opening.begins = true ∧
    opening.before.policy = policy
  last : ∀ deed ∈ later, deed.begins = false

/-- The counters of an engine after everything that was performed since its attempt began. -/
structure Engine.Tallied (engine : Engine ρ) (later : List (Deed ρ)) : Prop where
  valid : engine.policy.validate = .ok ()
  backoffs : engine.progress.backoffs ≤ engine.policy.maxBackoffs.toNat
  exponent : engine.progress.exponent =
    min (engine.policy.initialExponent.toNat + engine.progress.backoffs) engine.policy.maxExponent.toNat
  exponent_le : engine.progress.exponent ≤ engine.policy.maxExponent.toNat
  unslotted : engine.policy.mode = .unslotted → engine.progress.window = 0
  slotted : engine.policy.mode = .slotted →
    (engine.progress.window = 1 ∨ engine.progress.window = 2) ∧
      engine.progress.window + idleRow (assessments later) = 2
  whole : engine.policy.mode = .slotted → ∀ kind ∈ [.backoffStart,.canProceed,.capEnd],
    (engine.timers.armed kind).isSome = true → engine.progress.window = 2
  periods : engine.progress.periodsLeft ≤ 2 ^ engine.policy.maxExponent.toNat - 1
  served : engine.policy.mode = .slotted →
    (engine.timers.armed .ccaRequest).isSome = true ∨ engine.ccaOutstanding = true →
      engine.progress.periodsLeft = 0
  kept : engine.carriedPeriods = 0

/-- The periods that an idle engine carries are those that its last deferral left over, and nothing
has changed the engine since. -/
def Engine.Defers (engine : Engine ρ) (deeds : List (Deed ρ)) : Prop :=
  engine.policy.mode = .slotted ∧ ∃ earlier deferral later, deeds = earlier ++ deferral :: later ∧
    deferral.reaction.verdicts = [.deferred] ∧ deferral.reaction.engine = engine

theorem Deed.begins_of_accepted {deed : Deed ρ} {action : Action}
    (accepted : deed.before.accepts deed.operation = some action) : deed.begins = false := by
  rcases Engine.accepts_of_eq_some accepted with ⟨timer,around,fires,_,_⟩ | ⟨status,confirms,_,_⟩
  · simp [begins,fires]
  · simp [begins,confirms]

namespace Begun

variable {deeds later : List (Deed ρ)} {policy : Policy} {deed : Deed ρ}

theorem now (deeds : List (Deed ρ)) (begins : deed.begins = true) :
    Begun (deeds ++ [deed]) deed.before.policy [] :=
  ⟨⟨deeds,deed,rfl,begins,rfl⟩,by simp⟩

theorem further (begun : Begun deeds policy later) (continues : deed.begins = false) :
    Begun (deeds ++ [deed]) policy (later ++ [deed]) := by
  obtain ⟨earlier,opening,rfl,begins,same⟩ := begun.opening
  refine ⟨⟨earlier,opening,by simp,begins,same⟩,?_⟩
  intro other member
  rcases List.mem_append.mp member with member | member
  · exact begun.last other member
  · rw [List.mem_singleton.mp member]
    exact continues

end Begun

namespace Engine

theorem Defers.further {engine : Engine ρ} {deeds : List (Deed ρ)} (defers : engine.Defers deeds)
    (deed : Deed ρ) : engine.Defers (deeds ++ [deed]) := by
  obtain ⟨slotted,earlier,deferral,later,rfl,gives,same⟩ := defers
  exact ⟨slotted,earlier,deferral,later ++ [deed],by simp,gives,same⟩

/-- The engine in a stage, after all that was performed with it. -/
structure Balanced (engine : Engine ρ) (deeds : List (Deed ρ)) (stage : Stage) : Prop where
  counted : engine.Counted stage
  bound : stage ≠ .concluded → engine.progress.backoffs ≤ engine.policy.maxBackoffs.toNat
  served : engine.policy.mode = .slotted →
    stage.awaited = some .ccaRequest ∨ stage.assessing = true → engine.progress.periodsLeft = 0
  opened : stage ≠ .concluded → ∃ later, Begun deeds engine.policy later ∧
    idleRow (assessments later) = stage.idles
  deferred : stage = .concluded → engine.carriedPeriods ≠ 0 → engine.Defers deeds

namespace Balanced

variable {engine : Engine ρ} {deeds : List (Deed ρ)} {stage next : Stage} {operation : Operation}
  {action : Action} {reaction : Reaction ρ}

theorem idle (counted : engine.Counted .concluded) (empty : engine.carriedPeriods = 0) :
    engine.Balanced deeds .concluded :=
  ⟨counted,absurd rfl,by simp [Stage.awaited,Stage.assessing],absurd rfl,fun _ => absurd empty⟩

theorem ignored {deed : Deed ρ} (balanced : engine.Balanced deeds stage)
    (continues : deed.begins = false) (unnoted : deed.assessment? = none) :
    engine.Balanced (deeds ++ [deed]) stage := by
  refine ⟨balanced.counted,balanced.bound,balanced.served,?opened,?deferred⟩
  case opened =>
    intro going
    obtain ⟨later,begun,row⟩ := balanced.opened going
    exact ⟨later ++ [deed],begun.further continues,by simpa [unnoted] using row⟩
  case deferred =>
    intro concluded carries
    exact (balanced.deferred concluded carries).further deed

theorem start {around : Surroundings} (balanced : engine.Balanced deeds stage)
    (started : engine.start around = .ok reaction) (succeeds : reaction.result = .ok ()) :
    reaction.engine.Balanced (deeds ++ [⟨engine,.start around,reaction⟩]) .backoffStart := by
  have begins : (Deed.mk engine (.start around) reaction).begins = true := by
    simp [Deed.begins,succeeds]
  rcases start_cases started with rfl | ⟨_,arrives,policy,backoffs,_⟩
  · cases succeeds
  · refine ⟨balanced.counted.start started succeeds,?bound,?served,?opened,nofun⟩
    case bound =>
      intro _
      rw [backoffs]
      exact Nat.zero_le _
    case served => simp [Stage.awaited,Stage.assessing]
    case opened =>
      intro _
      rw [policy]
      exact ⟨[],Begun.now deeds begins,rfl⟩

variable [WordSource ρ]

theorem advance (balanced : engine.Balanced deeds stage)
    (accepted : engine.accepts operation = some action)
    (performed : engine.perform operation = .ok reaction)
    (advances : Advances engine stage action reaction next) :
    reaction.engine.Balanced (deeds ++ [⟨engine,operation,reaction⟩]) next := by
  have inside := balanced.counted.inside
  have reacts := advances.reacts inside accepted performed
  have follows := advances.follows
  have going := follows.going
  refine ⟨balanced.counted.advance accepted performed advances,?bound,?served,?opened,?deferred⟩
  case bound =>
    intro more
    rw [advances.policy]
    exact advances.backoffs_le (balanced.bound going) more
  case served =>
    intro slotted assesses
    rw [advances.policy] at slotted
    cases reacts with
    | drawn unslotted => simp [slotted] at unslotted
    | proceeds => rfl
    | requested => exact balanced.served slotted (.inl rfl)
    | stillIdle => exact balanced.served slotted (.inr rfl)
    | _ => simp [Stage.awaited,Stage.assessing] at assesses
  case opened =>
    intro more
    obtain ⟨later,begun,row⟩ := balanced.opened going
    have noted : (Deed.mk engine operation reaction).assessment? = action.status? :=
      congrArg (Option.bind · Action.status?) accepted
    rw [advances.policy]
    exact ⟨_,begun.further (Deed.begins_of_accepted accepted),Follows.row follows noted row more⟩
  case deferred =>
    intro concluded carries
    cases reacts with
    | capEnds => exact ⟨inside.allowed,deeds,_,[],rfl,rfl,rfl⟩
    | granted => exact absurd rfl carries
    | fails => exact absurd rfl carries
    | _ => simp at concluded

theorem perform (balanced : engine.Balanced deeds stage)
    (performed : engine.perform operation = .ok reaction) :
    ∃ next, reaction.engine.Balanced (deeds ++ [⟨engine,operation,reaction⟩]) next := by
  cases perform_effect balanced.counted.inside performed with
  | ignored unheard same silent fruitless unrefused =>
    rw [same]
    exact ⟨stage,balanced.ignored fruitless (congrArg (Option.bind · Action.status?) unheard)⟩
  | advanced accepted advances => exact ⟨_,balanced.advance accepted performed advances⟩
  | begun starts succeeds arrives policy =>
    subst starts
    exact ⟨.backoffStart,balanced.start performed succeeds⟩
  | cancelled cancels abandoned =>
    rw [abandoned]
    exact ⟨.concluded,idle balanced.counted.cancel rfl⟩
  | reconfigured configures idle valid changed =>
    obtain rfl := balanced.counted.inside.concluded_of_idle idle
    rw [changed]
    exact ⟨.concluded,.idle (balanced.counted.reconfigured valid) rfl⟩

theorem run {policy : Policy} {words : ρ} {first last : Engine ρ}
    (made : Engine.new policy words = .ok first) (run : Run first deeds last) :
    ∃ stage, last.Balanced deeds stage := by
  induction run with
  | start =>
    obtain ⟨inside,valid,policy⟩ := new_at made
    obtain ⟨_,_,same⟩ := except_bind_eq_ok.mp made
    cases same
    exact ⟨.concluded,idle (Counted.idle inside valid (Nat.zero_le _)) rfl⟩
  | step before performed ih =>
    obtain ⟨stage,balanced⟩ := ih
    exact balanced.perform performed

end Balanced

namespace Balanced

variable {engine : Engine ρ} {deeds later : List (Deed ρ)} {stage : Stage}

theorem window (balanced : engine.Balanced deeds stage) (going : stage ≠ .concluded)
    (slotted : engine.policy.mode = .slotted) : stage.idles ≤ 1 ∧
      engine.progress.window = 2 - stage.idles := by
  have inside := balanced.counted.inside
  have allowed := inside.allowed
  have window := inside.window going
  rw [if_pos (Policy.isSlotted_eq_true.mpr slotted)] at window
  refine ⟨?_,window⟩
  rw [slotted] at allowed
  cases stage with
  | ccaRequest idles => exact Nat.le_of_lt_succ allowed
  | assessment idles => exact Nat.le_of_lt_succ allowed
  | _ => exact Nat.zero_le _

theorem tallied (balanced : engine.Balanced deeds stage) (going : stage ≠ .concluded)
    (row : idleRow (assessments later) = stage.idles) : engine.Tallied later := by
  have counted := balanced.counted
  have inside := counted.inside
  have low := (Policy.exponents_le counted.valid).1
  refine ⟨counted.valid,balanced.bound going,counted.exponent going,counted.exponent_le going,
    ?unslotted,?slotted,?whole,?periods,?served,counted.kept going⟩
  case unslotted =>
    intro unslotted
    have window := inside.window going
    rw [Policy.isSlotted_eq_false.mpr unslotted] at window
    exact window
  case slotted =>
    intro slotted
    obtain ⟨few,window⟩ := balanced.window going slotted
    omega
  case whole =>
    intro slotted kind member armed
    obtain ⟨_,window⟩ := balanced.window going slotted
    have awaits := (inside.armed kind).mp armed
    cases stage with
    | ccaRequest idles =>
      obtain rfl := Option.some.inj awaits
      simp at member
    | assessment idles => simp [Stage.awaited] at awaits
    | _ => exact window
  case periods =>
    have periods := counted.periods going
    rwa [Backoff.maxPeriods_eq (by omega)] at periods
  case served =>
    intro slotted assesses
    apply balanced.served slotted
    rcases assesses with armed | outstanding
    · exact .inl ((inside.armed _).mp armed)
    · exact .inr (inside.outstanding.symm.trans outstanding)

end Balanced

theorem Counted.raises {engine : Engine ρ} {stage : Stage} (counted : engine.Counted stage)
    (going : stage ≠ .concluded) (bound : engine.progress.backoffs ≤ engine.policy.maxBackoffs.toNat) :
    engine.progress.exponent + 1 < UInt8.size ∧ engine.progress.backoffs + 1 < UInt8.size := by
  obtain ⟨_,low,_,few,_⟩ := Policy.validate_eq_ok.mp counted.valid
  have exponent := counted.exponent_le going
  have size : UInt8.size = 256 := rfl
  omega

variable [WordSource ρ]

theorem Reacts.cost {engine : Engine ρ} {stage next : Stage} {operation : Operation}
    {reaction : Reaction ρ} {symbols : Nat} (inside : engine.At stage)
    (reacts : engine.Reacts stage operation reaction next)
    (asked : Call.cost symbols ∈ reaction.calls) :
    ∃ timer around cost, operation = .fire timer around ∧
      Cost.estimate 2 around.layer.frame around.layer.ackWait around.radio.turnaround = .ok cost ∧
      symbols = cost.total := by
  cases reacts with
  | proceeds rated remains costs enough =>
    rw [inside.window_canProceed] at costs
    exact ⟨_,_,_,rfl,costs,by simpa [waitFor] using asked⟩
  | tooLong rated remains costs long =>
    rw [inside.window_canProceed] at costs
    exact ⟨_,_,_,rfl,costs,by simpa [waitFor] using asked⟩
  | drawn _ _ drawn | fits _ _ drawn | cutShort _ _ drawn =>
    simp only [waitFor,List.mem_append,List.mem_singleton,reduceCtorEq,or_false] at asked
    cases eq_of_mem_takeBackoff drawn asked
  | _ => simp [waitFor,requestCca] at asked

/-- Only a timer that comes back has a transaction estimated, and always with two assessments. -/
theorem perform_cost {engine : Engine ρ} {stage : Stage} {operation : Operation}
    {reaction : Reaction ρ} {symbols : Nat} (inside : engine.At stage)
    (performed : engine.perform operation = .ok reaction)
    (asked : Call.cost symbols ∈ reaction.calls) :
    ∃ timer around cost, operation = .fire timer around ∧
      Cost.estimate 2 around.layer.frame around.layer.ackWait around.radio.turnaround = .ok cost ∧
      symbols = cost.total := by
  cases perform_effect inside performed with
  | ignored unheard same silent fruitless unrefused => simp [silent] at asked
  | advanced accepted advances => exact (advances.reacts inside accepted performed).cost inside asked
  | begun starts succeeds arrives policy =>
    subst starts
    obtain ⟨wait,notes,rfl⟩ := start_begun performed succeeds
    simp only [waitFor,List.mem_append,List.mem_singleton,reduceCtorEq,or_false] at asked
    cases eq_of_mem_looks asked
  | cancelled cancels abandoned => simp [abandoned] at asked
  | reconfigured configures idle valid changed => simp [changed] at asked

end Engine

variable [WordSource ρ]

/-- A running engine's counters follow from what was performed since its attempt began, under the
policy that was in force then. An engine that does not run carries periods only after a deferral in
a slotted attempt. No increment of the exponent or of the number of backoffs leaves a byte, and each
estimated cost counts two assessments. -/
theorem counters_tally {policy : Policy} {words : ρ} {first last : Engine ρ} {deeds : List (Deed ρ)}
    (made : Engine.new policy words = .ok first) (run : Run first deeds last) :
    (last.running = true → ∃ earlier opening later, deeds = earlier ++ opening :: later ∧
      opening.begins = true ∧ (∀ deed ∈ later, deed.begins = false) ∧
      opening.before.policy = last.policy ∧ last.Tallied later) ∧
    (last.running = false → last.carriedPeriods ≠ 0 → last.Defers deeds) ∧
    (last.ccaOutstanding = true → last.progress.exponent + 1 < UInt8.size ∧
      last.progress.backoffs + 1 < UInt8.size) ∧
    ∀ operation reaction symbols, last.perform operation = .ok reaction →
      Call.cost symbols ∈ reaction.calls → ∃ timer around cost, operation = .fire timer around ∧
        Cost.estimate 2 around.layer.frame around.layer.ackWait around.radio.turnaround = .ok cost ∧
        symbols = cost.total := by
  obtain ⟨stage,balanced⟩ := Engine.Balanced.run made run
  have inside := balanced.counted.inside
  refine ⟨?running,?idle,?raises,fun operation reaction symbols => Engine.perform_cost inside⟩
  case running =>
    intro running
    have going := inside.running.mp running
    obtain ⟨later,begun,row⟩ := balanced.opened going
    obtain ⟨earlier,opening,split,begins,same⟩ := begun.opening
    exact ⟨earlier,opening,later,split,begins,begun.last,same,balanced.tallied going row⟩
  case idle =>
    intro idle carries
    exact balanced.deferred (inside.concluded_of_idle idle) carries
  case raises =>
    intro outstanding
    have going : stage ≠ .concluded := by
      rintro rfl
      exact absurd (inside.outstanding.symm.trans outstanding) (by simp [Stage.assessing])
    exact balanced.counted.raises going (balanced.bound going)

/-- With battery life extension the exponent goes from two to three with the busy assessment, and the
idle one after it leaves one more to ask for. -/
theorem counters_tally_battery_life :
    ∃ (first last : Engine WordScript) (deeds later : List (Deed WordScript)),
      Engine.new { mode := .slotted, batteryLifeExtension := true } ⟨[2,5]⟩ = .ok first ∧
        Run first deeds last ∧ last.ccaOutstanding = true ∧ assessments deeds = [.busy,.idle] ∧
        last.Tallied later ∧
        idleRow (assessments later) = 1 ∧ last.progress.window = 1 ∧
        last.progress.exponent = 3 ∧ last.progress.backoffs = 1 := by
  obtain ⟨first,made⟩ : ∃ first, Engine.new { mode := .slotted, batteryLifeExtension := true }
    (⟨[2,5]⟩ : WordScript) = .ok first := ⟨_,rfl⟩
  obtain ⟨deeds,last,run,running,outstanding,slotted,heard,window,exponent,backoffs⟩ :
      ∃ deeds last, Run first deeds last ∧ last.running = true ∧ last.ccaOutstanding = true ∧
        last.policy.mode = .slotted ∧ assessments deeds = [.busy,.idle] ∧
        last.progress.window = 1 ∧ last.progress.exponent = 3 ∧ last.progress.backoffs = 1 := by
    cases made
    exact ⟨_,_,.step (.step (.step (.step (.step (.step (.step (.step (.step (.step .start
        (rfl : Engine.perform _ (.start (.plain 62500)) = _))
        (rfl : Engine.perform _ (.fire ⟨.backoffStart,0⟩ (.plain 62500)) = _))
        (rfl : Engine.perform _ (.fire ⟨.canProceed,1⟩ (.plain 62500)) = _))
        (rfl : Engine.perform _ (.fire ⟨.ccaRequest,2⟩ (.plain 62500)) = _))
        (rfl : Engine.perform _ (.confirm .busy) = _))
        (rfl : Engine.perform _ (.fire ⟨.backoffStart,3⟩ (.plain 62500)) = _))
        (rfl : Engine.perform _ (.fire ⟨.canProceed,4⟩ (.plain 62500)) = _))
        (rfl : Engine.perform _ (.fire ⟨.ccaRequest,5⟩ (.plain 62500)) = _))
        (rfl : Engine.perform _ (.confirm .idle) = _))
        (rfl : Engine.perform _ (.fire ⟨.ccaRequest,6⟩ (.plain 62500)) = _),
      rfl,rfl,rfl,rfl,rfl,rfl,rfl⟩
  obtain ⟨tallies,_⟩ := counters_tally made run
  obtain ⟨_,_,later,_,_,_,_,tallied⟩ := tallies running
  have row := (tallied.slotted slotted).2
  exact ⟨first,last,deeds,later,made,run,outstanding,heard,tallied,by omega,window,exponent,
    backoffs⟩

end ChannelAccess
