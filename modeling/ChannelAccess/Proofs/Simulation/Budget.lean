import ChannelAccess.Proofs.Engine.Deliveries
import ChannelAccess.Proofs.Simulation.Refinement
import ChannelAccess.Proofs.Simulation.Settling

/-!
A slotted attempt that goes on to assess the channel fits the rest of the CAP: both assessments, the
frame, its reply and the spacing. The budget is checked once, at the end of a backoff, and each
assessment uses up its part of it. Main statement: `granted_fits_cap`.
-/

namespace ChannelAccess

/-- Microseconds of one symbol. -/
def Phy.symbolPeriod : Phy → Nat
  | bpsk868 => 50
  | bpsk915 => 25
  | oqpsk868 => 40
  | oqpsk915 | oqpsk2450 => 16

namespace SymbolRate

theorem microseconds_ofPhy (phy : Phy) (symbols : Nat) :
    (ofPhy phy).microseconds symbols = symbols * phy.symbolPeriod := by
  have rate : (ofPhy phy).perSecond.toNat = phy.symbolsPerSecond.toNat := rfl
  rw [microseconds,rate]
  cases phy
  all_goals
    simp only [Phy.symbolsPerSecond,Phy.symbolPeriod,UInt32.reduceToNat]
    omega

theorem spanOf_ofPhy {phy : Phy} {symbols : Nat} (few : symbols ≤ 1099511627776) :
    (ofPhy phy).spanOf symbols = ⟨symbols * phy.symbolPeriod⟩ := by
  rw [spanOf_eq (microseconds_inRange few),microseconds_ofPhy]
  simp

end SymbolRate

namespace Superframe

theorem timeToBoundary_reaches {superframe : Superframe} {now : Instant} {unit : Nat}
    {rate : SymbolRate} {wait : Span}
    (computed : superframe.timeToBoundary now unit rate = .ok wait) :
    superframe.beacon.us ≤ now.us + max wait.us 0 := by
  obtain ⟨elapsed,since,computed⟩ := except_bind_eq_ok.mp computed
  obtain ⟨_,elapsedUs⟩ := Instant.since_eq_ok.mp since
  by_cases negative : elapsed.us < 0
  · simp only [Span.isNegative,negative,decide_true,if_true] at computed
    obtain ⟨_,waitUs⟩ := Instant.since_eq_ok.mp computed
    omega
  · omega

theorem fits_of_timeLeft {superframe : Superframe} {now : Instant} {phy : Phy} {left : Span}
    {symbols : Nat} (begun : superframe.beacon ≤ now) (positive : 0 < symbols)
    (remains : superframe.timeLeftInCap now (.ofPhy phy) = .ok left)
    (enough : ¬ left < (SymbolRate.ofPhy phy).spanOf (min symbols largestWord)) :
    ∃ capEnd, superframe.capEnd (.ofPhy phy) = .ok capEnd ∧
      now.us + symbols * phy.symbolPeriod ≤ capEnd.us := by
  obtain ⟨capEnd,ends,_⟩ := timeLeftInCap_eq remains
  refine ⟨capEnd,ends,?_⟩
  rw [left_lt_iff begun positive ends remains,SymbolRate.microseconds_ofPhy] at enough
  exact Int.not_lt.mp enough

end Superframe

theorem Span.clampNonNegative_zero : Span.zero.clampNonNegative = .zero := rfl

/-- Symbols of a transaction once the channel is granted: the frame, the wait for its reply or two
turnarounds, and the spacing. -/
def LayerFacts.grantedSymbols (layer : LayerFacts) : Nat :=
  layer.frame.symbols.toNat +
    (if layer.frame.ackRequested then layer.ackWait.toNat else 24) + layer.frame.spacing.toNat

theorem LayerFacts.grantedSymbols_le (layer : LayerFacts) : layer.grantedSymbols ≤ 12884901888 := by
  have frame := layer.frame.symbols.toNat_lt
  have spacing := layer.frame.spacing.toNat_lt
  have wait := layer.ackWait.toNat_lt
  unfold grantedSymbols
  split <;> omega

/-- An assessment lies between the beacon and the end of the CAP, and so does all that follows a
grant. -/
def TraceEvent.FitsCap (superframe : Superframe) (rate : SymbolRate) (layer : LayerFacts)
    (event : TraceEvent) : Prop :=
  match event.occurrence with
  | .ccaRequested _ _ _ => superframe.beacon ≤ event.instant ∧
      ∃ capEnd, superframe.capEnd rate = .ok capEnd ∧
        event.instant.us + (rate.spanOf assessmentSymbols).us ≤ capEnd.us
  | .verdict .channelIdle =>
      ∃ capEnd, superframe.capEnd rate = .ok capEnd ∧
        event.instant.us + (rate.spanOf layer.grantedSymbols).us ≤ capEnd.us
  | .verdict .accessFailure | .verdict .deferred | .started _ | .ccaResult _ | .cost _ => True

/-- Assessments to be requested from a stage on. -/
def Stage.requestsLeft : Stage → Option Nat
  | ccaRequest idles => some (2 - idles)
  | assessment idles => some (1 - idles)
  | backoffStart | canProceed | capEnd | concluded | stuck => none

/-- A delivery due in a stage comes after the beacon, and leaves room in the CAP for the assessments
that are still to be requested and for the transaction. -/
structure Affords (superframe : Superframe) (phy : Phy) (layer : LayerFacts) (stage : Stage)
    (due : Instant) : Prop where
  begun : superframe.beacon ≤ due
  budget : ∀ more, stage.requestsLeft = some more →
    ∃ capEnd, superframe.capEnd (.ofPhy phy) = .ok capEnd ∧
      due.us + (assessmentSymbols * more + layer.grantedSymbols : Nat) * phy.symbolPeriod ≤ capEnd.us

namespace Affords

variable {ρ : Type} {superframe : Superframe} {phy : Phy} {layer : LayerFacts}
  {stage next : Stage} {due later : Instant} {reaction : Reaction ρ}

theorem proceeds {left : Span} {cost : Cost}
    (affords : Affords superframe phy layer .canProceed due)
    (remains : superframe.timeLeftInCap due (.ofPhy phy) = .ok left)
    (costs : Cost.estimate 2 layer.frame layer.ackWait standardTurnaround = .ok cost)
    (enough : ¬ left < (SymbolRate.ofPhy phy).spanOf cost.total) :
    Affords superframe phy layer (.ccaRequest 0) due where
  begun := affords.begun
  budget := by
    rintro _ ⟨⟩
    obtain ⟨cost',estimated,total⟩ := Cost.estimate_total layer.frame layer.ackWait
    cases estimated.symm.trans costs
    have whole : 16 + layer.frame.symbols.toNat +
        (if layer.frame.ackRequested then layer.ackWait.toNat else 24) + layer.frame.spacing.toNat =
          assessmentSymbols * 2 + layer.grantedSymbols := by
      simp only [assessmentSymbols,LayerFacts.grantedSymbols]
      omega
    rw [total,whole] at enough
    have positive : 0 < assessmentSymbols * 2 + layer.grantedSymbols :=
      Nat.add_pos_left (by decide) _
    exact Superframe.fits_of_timeLeft affords.begun positive remains enough

theorem request {idles : Nat} (affords : Affords superframe phy layer (.ccaRequest idles) due)
    (few : idles < 2) (lasts : due.us + 8 * phy.symbolPeriod = later.us) :
    Affords superframe phy layer (.assessment idles) later where
  begun := by
    have begun := affords.begun
    rw [Instant.le_def] at begun ⊢
    omega
  budget := by
    rintro _ ⟨⟩
    obtain ⟨capEnd,ends,fits⟩ := affords.budget _ rfl
    refine ⟨capEnd,ends,?_⟩
    obtain ⟨more,split⟩ : ∃ more, 2 - idles = more + 1 ∧ 1 - idles = more := ⟨1 - idles,by omega,rfl⟩
    rw [split.1] at fits
    rw [split.2]
    have apart : (assessmentSymbols * (more + 1) + layer.grantedSymbols) * phy.symbolPeriod =
        8 * phy.symbolPeriod + (assessmentSymbols * more + layer.grantedSymbols) * phy.symbolPeriod := by
      rw [← Nat.add_mul,assessmentSymbols]
      congr 1
      omega
    have apart := congrArg (fun us : Nat => (us : Int)) apart
    simp only [Int.natCast_mul,Int.natCast_add] at apart fits ⊢
    omega

theorem request_fits {idles exponent backoffs window : Nat}
    (affords : Affords superframe phy layer (.ccaRequest idles) due) (few : idles < 2) :
    (TraceEvent.mk due (.ccaRequested exponent backoffs window)).FitsCap superframe (.ofPhy phy)
      layer := by
  obtain ⟨capEnd,ends,fits⟩ := affords.budget _ rfl
  refine ⟨affords.begun,capEnd,ends,?_⟩
  rw [SymbolRate.spanOf_ofPhy (by decide)]
  have part : assessmentSymbols * phy.symbolPeriod ≤
      (assessmentSymbols * (2 - idles) + layer.grantedSymbols) * phy.symbolPeriod := by
    apply Nat.mul_le_mul_right
    have more : assessmentSymbols * 1 ≤ assessmentSymbols * (2 - idles) :=
      Nat.mul_le_mul_left _ (by omega)
    omega
  have part := Int.ofNat_le.mpr part
  simp only [Int.natCast_mul] at part fits ⊢
  omega

theorem grant_fits {idles : Nat} (affords : Affords superframe phy layer (.assessment idles) due) :
    (TraceEvent.mk due (.verdict .channelIdle)).FitsCap superframe (.ofPhy phy) layer := by
  obtain ⟨capEnd,ends,fits⟩ := affords.budget _ rfl
  refine ⟨capEnd,ends,?_⟩
  have bounded := layer.grantedSymbols_le
  rw [SymbolRate.spanOf_ofPhy (by omega)]
  have part : layer.grantedSymbols * phy.symbolPeriod ≤
      (assessmentSymbols * (1 - idles) + layer.grantedSymbols) * phy.symbolPeriod :=
    Nat.mul_le_mul_right _ (Nat.le_add_left _ _)
  have part := Int.ofNat_le.mpr part
  simp only [Int.natCast_mul] at part fits ⊢
  omega

theorem at_once {now : Instant} (prompt : ∀ timer delay, .schedule timer delay ∈ reaction.calls →
      delay = .zero)
    (waits : ∃ timer delay, next.awaited = some timer.kind ∧ .schedule timer delay ∈ reaction.calls ∧
      0 ≤ delay.us ∧ now.plus delay = .ok later) : later = now := by
  obtain ⟨timer,delay,_,scheduled,_,reaches⟩ := waits
  obtain ⟨_,sum⟩ := Instant.plus_eq_ok.mp reaches
  obtain rfl := prompt timer delay scheduled
  cases now
  cases later
  simpa [Span.zero,eq_comm] using sum

variable [WordSource ρ]

theorem advance {simulation : Simulation ρ} {event : Event} {operation : Operation}
    (affords : Affords superframe phy simulation.layer stage simulation.clock)
    (inside : simulation.engine.At stage) (slotted : simulation.engine.policy.mode = .slotted)
    (rated : SymbolRate.of simulation.symbolsPerSecond = .ok (.ofPhy phy))
    (chosen : simulation.layer.superframe simulation.engine.progress.direction = superframe)
    (delivers : simulation.delivery event = operation)
    (reacts : simulation.engine.Reacts stage operation reaction next)
    (waits : (next.assessing = true ∧
        simulation.clock.plus ((SymbolRate.ofPhy phy).spanOf assessmentSymbols) = .ok later) ∨
      ∃ timer delay, next.awaited = some timer.kind ∧ .schedule timer delay ∈ reaction.calls ∧
        0 ≤ delay.us ∧ simulation.clock.plus delay = .ok later) :
    Affords superframe phy simulation.layer next later := by
  have lasts : (SymbolRate.ofPhy phy).spanOf assessmentSymbols = ⟨8 * phy.symbolPeriod⟩ :=
    SymbolRate.spanOf_ofPhy (by decide)
  rw [lasts] at waits
  have reached : simulation.clock.us ≤ later.us := by
    rcases waits with ⟨_,reaches⟩ | ⟨timer,delay,_,_,nonneg,reaches⟩
    · obtain ⟨_,reaches⟩ := Instant.plus_eq_ok.mp reaches
      simp only at reaches
      omega
    · obtain ⟨_,reaches⟩ := Instant.plus_eq_ok.mp reaches
      omega
  have begun : superframe.beacon ≤ later := Int.le_trans affords.begun reached
  cases reacts with
  | drawn unslotted => simp [slotted] at unslotted
  | @proceeds number around rate left cost rated' remains costs enough =>
    obtain ⟨rfl,rfl⟩ := Simulation.delivery_eq_fire delivers
    cases rated.symm.trans rated'
    replace remains : superframe.timeLeftInCap simulation.clock (.ofPhy phy) = .ok left :=
      chosen ▸ remains
    rcases waits with ⟨assessing,_⟩ | waits
    · cases assessing
    · obtain rfl := at_once (by simp [Engine.waitFor,Span.clampNonNegative_zero]) waits
      rw [inside.window_canProceed] at costs
      exact affords.proceeds remains costs enough
  | @requested idles number around =>
    have few : idles < simulation.engine.policy.mode.needed := inside.allowed
    rw [slotted] at few
    rcases waits with ⟨_,reaches⟩ | ⟨timer,delay,awaits,_⟩
    · obtain ⟨_,reaches⟩ := Instant.plus_eq_ok.mp reaches
      exact affords.request few reaches
    · cases awaits
  | stillIdle idle slotted' =>
    rcases waits with ⟨assessing,_⟩ | waits
    · cases assessing
    · obtain rfl := at_once (by simp [Engine.waitFor,Span.clampNonNegative_zero]) waits
      refine ⟨begun,?_⟩
      rintro _ ⟨⟩
      exact affords.budget _ (by simp [Stage.requestsLeft])
  | refused | fits | cutShort | tooLong | granted | backsOff | fails | capEnds =>
    exact ⟨begun,by simp [Stage.requestsLeft]⟩

end Affords

namespace Simulation

variable {ρ : Type}

/-- A simulation in the attempt that `first` began, with everything recorded since. -/
structure Budgeted (first : Simulation ρ) (phy : Phy) (superframe : Superframe)
    (simulation : Simulation ρ) (stage : Stage) (told : List TraceEvent) : Prop where
  inside : simulation.engine.At stage
  slotted : simulation.engine.policy.mode = .slotted
  rated : simulation.symbolsPerSecond = phy.symbolsPerSecond
  layer : simulation.layer = first.layer
  chosen : first.layer.superframe simulation.engine.progress.direction = superframe
  tells : first.Tells simulation told
  fits : ∀ event ∈ told, event.FitsCap superframe (.ofPhy phy) first.layer
  next : ∀ entry rest, simulation.queue.entries = entry :: rest →
    rest = [] ∧ simulation.clock ≤ entry.due ∧ Affords superframe phy first.layer stage entry.due

/-- What is recorded as an affordable delivery takes effect fits the CAP. -/
theorem closingEvents_fit [WordSource ρ] {simulation : Simulation ρ} {superframe : Superframe}
    {phy : Phy} {stage next : Stage} {action : Action} {reaction : Reaction ρ} {event : TraceEvent}
    (affords : Affords superframe phy simulation.layer stage simulation.clock)
    (inside : simulation.engine.At stage) (slotted : simulation.engine.policy.mode = .slotted)
    (advances : Engine.Advances simulation.engine stage action reaction next)
    (member : event ∈ simulation.closingEvents reaction.engine.progress action next) :
    event.FitsCap superframe (.ofPhy phy) simulation.layer := by
  have follows := advances.follows
  have allowed := inside.allowed
  cases follows with
  | requested idles =>
    have few : idles < simulation.engine.policy.mode.needed := allowed
    rw [slotted] at few
    obtain rfl := List.mem_singleton.mp member
    exact affords.request_fits few
  | granted idles idle enough =>
    obtain rfl := List.mem_singleton.mp member
    rw [Action.verdict,if_pos idle]
    exact affords.grant_fits
  | fails idles busy =>
    obtain rfl := List.mem_singleton.mp member
    rw [Action.verdict,if_neg (by simp [busy])]
    trivial
  | capEnds =>
    obtain rfl := List.mem_singleton.mp member
    trivial
  | drawn | fits | cutShort | backoffRefused | proceeds | tooLong | checkRefused | stillIdle
    | backsOff => exact absurd member List.not_mem_nil

namespace Budgeted

variable {first simulation : Simulation ρ} {phy : Phy} {superframe : Superframe} {stage : Stage}
  {told : List TraceEvent}

theorem start {begun : Outcome ρ Unit} (rated : first.symbolsPerSecond = phy.symbolsPerSecond)
    (slotted : first.engine.policy.mode = .slotted) (empty : first.queue.entries = [])
    (started : first.start = .ok begun) :
    ∃ told, Budgeted first phy
      (first.layer.superframe (.ofDestination first.layer.frame.toCoordinator)) begun.simulation
      .backoffStart told := by
  have rated' := SymbolRate.of_phy rated
  obtain ⟨_,reaction,starts,arrives,policy,settles⟩ := start_settles rated' started
  obtain ⟨costs,tells⟩ := settles.tells rfl
  obtain ⟨engine,clock,layer,kept⟩ := settles.unchanged
  have aligned := Policy.isSlotted_eq_true.mpr slotted
  rw [Engine.start_eq rated',Engine.firstWait,if_pos aligned] at starts
  obtain ⟨wait,computed,rfl⟩ := except_map_eq_ok.mp starts
  refine ⟨_,?inside,?slotted,?rated,?layer,?chosen,first.record_started_tells.trans tells,?fits,?queued⟩
  case inside => exact engine ▸ arrives
  case slotted => rw [engine,policy,slotted]
  case rated => exact kept.trans rated
  case layer => exact layer
  case chosen => rw [engine]; rfl
  case fits =>
    intro event member
    simp only [closingEvents,Stage.assessing,List.mem_append,List.mem_map,List.mem_singleton] at member
    rcases member with rfl | ⟨symbols,_,rfl⟩ | member
    · trivial
    · trivial
    · simp at member
  case queued =>
    intro entry rest queued
    obtain ⟨alone,behind,⟨assessing,_⟩ | ⟨timer,delay,_,scheduled,nonneg,reaches⟩⟩ :=
      settles.next_due empty queued
    · cases assessing
    · obtain rfl : delay = wait.clampNonNegative := by
        rcases List.mem_append.mp scheduled with looked | scheduled
        · cases Engine.eq_of_mem_looks looked
        · cases List.mem_singleton.mp scheduled
          rfl
      have reached : (first.layer.superframe (.ofDestination first.layer.frame.toCoordinator)).beacon.us ≤
          first.clock.us + max wait.us 0 :=
        Superframe.timeToBoundary_reaches computed
      obtain ⟨_,sum⟩ := Instant.plus_eq_ok.mp reaches
      replace sum : first.clock.us + wait.clampNonNegative.us = entry.due.us := sum
      rw [Span.clampNonNegative_us] at sum
      refine ⟨alone,clock ▸ behind,?_,by simp [Stage.requestsLeft]⟩
      rw [Instant.le_def]
      omega

variable [WordSource ρ]

theorem step {outcome : Outcome ρ Bool} (budgeted : Budgeted first phy superframe simulation stage told)
    (stepped : simulation.step = .ok outcome) :
    ∃ stage told, Budgeted first phy superframe outcome.simulation stage told := by
  have rated := SymbolRate.of_phy budgeted.rated
  cases step_cases rated budgeted.inside stepped with
  | idle empty same =>
    rw [same]
    exact ⟨stage,told,budgeted⟩
  | @ignored entry rest queued unheard result later =>
    obtain ⟨rfl,behind,affords⟩ := budgeted.next entry rest queued
    obtain ⟨results,heard⟩ := informed_tells entry.event (simulation.takes_synced entry [])
    rw [later]
    refine ⟨stage,_,?inside,?slotted,?rated,?layer,?chosen,
      budgeted.tells.trans ((takes_tells simulation entry []).trans heard),?fits,?queued⟩
    case inside =>
      rw [informed_engine]
      exact budgeted.inside
    case slotted =>
      rw [informed_engine]
      exact budgeted.slotted
    case rated =>
      rw [informed_symbolsPerSecond]
      exact budgeted.rated
    case layer =>
      rw [informed_layer]
      exact budgeted.layer
    case chosen =>
      rw [informed_engine]
      exact budgeted.chosen
    case fits =>
      intro event member
      simp only [List.nil_append,List.mem_append,List.mem_map] at member
      rcases member with member | ⟨status,_,rfl⟩
      · exact budgeted.fits event member
      · trivial
    case queued =>
      intro other others more
      rw [informed_queue] at more
      cases more
  | @advanced entry rest action next reaction queued accepted reacts advances result settles =>
    obtain ⟨rfl,behind,affords⟩ := budgeted.next entry rest queued
    obtain ⟨results,heard⟩ := informed_tells entry.event (simulation.takes_synced entry [])
    obtain ⟨costs,more⟩ := settles.tells (informed_synced (simulation.takes_synced entry []))
    rw [informed_closingEvents] at more
    obtain ⟨engine,clock,layer,kept⟩ := settles.unchanged
    rw [informed_clock] at clock
    rw [informed_layer] at layer
    rw [informed_symbolsPerSecond] at kept
    have due : (simulation.takes entry []).clock = entry.due := takes_clock behind
    have inside : (simulation.takes entry []).engine.At stage := budgeted.inside
    have slotted : (simulation.takes entry []).engine.policy.mode = .slotted := budgeted.slotted
    have rated' : SymbolRate.of (simulation.takes entry []).symbolsPerSecond = .ok (.ofPhy phy) := rated
    have how := advances.reacts inside accepted reacts
    have facts : (simulation.takes entry []).layer = first.layer := budgeted.layer
    rw [← facts,← due] at affords
    refine ⟨next,_,?inside,?slotted,?rated,?layer,?chosen,
      budgeted.tells.trans ((takes_tells simulation entry []).trans (heard.trans more)),?fits,?queued⟩
    case inside => exact engine ▸ advances.arrives
    case slotted =>
      rw [engine,advances.policy]
      exact budgeted.slotted
    case rated => exact kept.trans budgeted.rated
    case layer => exact layer.trans budgeted.layer
    case chosen =>
      rw [engine,how.direction]
      exact budgeted.chosen
    case fits =>
      intro event member
      simp only [List.nil_append,List.mem_append,List.mem_map] at member
      rcases member with member | ⟨status,_,rfl⟩ | ⟨symbols,_,rfl⟩ | member
      · exact budgeted.fits event member
      · trivial
      · trivial
      · rw [← facts]
        exact closingEvents_fit affords inside slotted advances member
    case queued =>
      intro other others more
      have empty : ((simulation.takes entry []).informed entry.event).queue.entries = [] := by
        rw [informed_queue]
        rfl
      obtain ⟨alone,behind,waits⟩ := settles.next_due empty more
      rw [informed_clock] at behind waits
      have afford := affords.advance inside slotted rated'
        (facts.symm ▸ budgeted.chosen) rfl how waits
      rw [facts] at afford
      exact ⟨alone,clock ▸ behind,afford⟩

theorem steps {count : Nat} {outcome : Outcome ρ Bool}
    (budgeted : Budgeted first phy superframe simulation stage told)
    (stepped : simulation.steps count = .ok outcome) :
    ∃ stage told, Budgeted first phy superframe outcome.simulation stage told := by
  fun_induction Simulation.steps count simulation generalizing stage told outcome with
  | case1 simulation =>
    cases stepped
    exact ⟨stage,told,budgeted⟩
  | case2 simulation => exact budgeted.step stepped
  | case3 count simulation ih =>
    obtain ⟨later,once,stepped⟩ := except_bind_eq_ok.mp stepped
    obtain ⟨rest,more,same⟩ := except_bind_eq_ok.mp stepped
    cases same
    obtain ⟨stage,told,onward⟩ := budgeted.step once
    obtain ⟨stage,told,ended⟩ := ih _ onward more
    exact ⟨stage,told,ended⟩

end Budgeted

end Simulation

/-- In a slotted attempt that starts with an empty queue and is then only stepped, every assessment
begins after the beacon and ends before the end of the CAP, and if the channel is granted then the
frame, its reply and the spacing end before it too. The record leaves out no request and no verdict.
-/
theorem granted_fits_cap {ρ : Type} [WordSource ρ] {simulation : Simulation ρ} {phy : Phy}
    {begun : Outcome ρ Unit} {count : Nat} {ended : Outcome ρ Bool}
    (rated : simulation.symbolsPerSecond = phy.symbolsPerSecond)
    (slotted : simulation.engine.policy.mode = .slotted) (empty : simulation.queue.entries = [])
    (started : simulation.start = .ok begun) (stepped : begun.simulation.steps count = .ok ended) :
    ∃ told, simulation.Tells ended.simulation told ∧
      ∀ event ∈ told, event.FitsCap
        (simulation.layer.superframe (.ofDestination simulation.layer.frame.toCoordinator))
        (.ofPhy phy) simulation.layer := by
  obtain ⟨told,budgeted⟩ := Simulation.Budgeted.start rated slotted empty started
  obtain ⟨stage,told,after⟩ := budgeted.steps stepped
  exact ⟨told,after.tells,after.fits⟩

/-- A slotted attempt that resumes seven periods early in the CAP, where the second assessment is
busy. -/
def Simulation.resuming : Simulation WordScript :=
  { Simulation.late with clock := ⟨1000⟩, channel := .scripted [.idle,.busy] }

/-- The channel is granted after another round, and all of it fits the CAP. -/
theorem granted_fits_cap_resuming :
    ∃ ended told, Simulation.resuming.Tells ended told ∧
      told.filterMap TraceEvent.ccaInstant? = [⟨3520⟩,⟨3648⟩,⟨5376⟩,⟨5504⟩] ∧
      ended.verdicts = #[.channelIdle] ∧
      ∀ event ∈ told, event.FitsCap Simulation.resuming.layer.outgoing (.ofPhy .oqpsk2450)
        Simulation.resuming.layer := by
  obtain ⟨begun,starts,ended,stepped,given,instants⟩ :
      ∃ begun, Simulation.resuming.start = .ok begun ∧
        ∃ ended, begun.simulation.steps 12 = .ok ended ∧
          ended.simulation.verdicts = #[.channelIdle] ∧
          ended.simulation.ccaInstants = [⟨3520⟩,⟨3648⟩,⟨5376⟩,⟨5504⟩] :=
    ⟨_,rfl,_,rfl,rfl,rfl⟩
  have rated : Simulation.resuming.symbolsPerSecond = Phy.oqpsk2450.symbolsPerSecond := rfl
  obtain ⟨told,tells,fits⟩ := granted_fits_cap rated rfl rfl starts stepped
  refine ⟨ended.simulation,told,tells,?_,given,fits⟩
  rw [← instants,Simulation.ccaInstants,tells.trace]
  rfl

end ChannelAccess
