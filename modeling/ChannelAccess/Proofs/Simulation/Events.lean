import ChannelAccess.Proofs.Engine.Counters
import ChannelAccess.Proofs.Simulation.Steps
import ChannelAccess.Proofs.TransactionCost

/-!
What each event of an attempt does to a simulation, in step with the sequential algorithm.
-/

namespace ChannelAccess

variable {ρ : Type}

theorem Setting.backoffSpan_nonneg (setting : Setting) {periods : Nat}
    (exactly : InClockRange (setting.rate.microseconds
      (periods * setting.policy.backoffPeriod.toNat))) :
    0 ≤ (setting.backoffSpan periods).us := by
  rw [backoffSpan,SymbolRate.spanOf_eq exactly]
  exact Int.natCast_nonneg _

theorem Cost.estimate_total (frame : Frame) (ackWait : UInt32) :
    ∃ cost, Cost.estimate 2 frame ackWait standardTurnaround = .ok cost ∧
      cost.total = min (16 + frame.symbols.toNat +
        (if frame.ackRequested then ackWait.toNat else 24) + frame.spacing.toNat) largestWord := by
  have short : standardTurnaround.toNat < 2 ^ 31 := by decide
  exact estimate_fits 2 ackWait (.inr short)

theorem Ledger.wait_zero {ledger : Ledger ρ} (inRange : InClockRange ledger.clock.us) :
    ledger.wait .zero = .ok ledger := by
  have same : ledger.clock.plus .zero = .ok ledger.clock := by
    have sum : ledger.clock.us + Span.zero.us = ledger.clock.us := Int.add_zero _
    rw [Instant.plus_eq_ok,sum]
    exact ⟨inRange,rfl⟩
  rw [wait,same]
  rfl

section

variable [WordSource ρ]

theorem Setting.choose_ledger (setting : Setting) (exponent : Nat) (ledger : Ledger ρ) :
    (setting.choose exponent ledger).2 =
      { ledger with words := (setting.choose exponent ledger).2.words } := by
  cases advised : setting.advice <;> simp [choose,advised]

theorem Setting.choose_lt (setting : Setting) (exponent : Nat) (ledger : Ledger ρ) :
    (setting.choose exponent ledger).1 < 2 ^ exponent := by
  have positive : 0 < 2 ^ exponent := Nat.two_pow_pos exponent
  cases advised : setting.advice with
  | none =>
    simp only [choose,advised]
    exact Nat.mod_lt _ positive
  | some periods =>
    simp only [choose,advised]
    omega

theorem Setting.chosen_exact (setting : Setting) {exponent : Nat} (ledger : Ledger ρ)
    (low : exponent ≤ 8) :
    InClockRange (setting.rate.microseconds
      ((setting.choose exponent ledger).1 * setting.policy.backoffPeriod.toNat)) := by
  apply SymbolRate.microseconds_inRange
  have drawn := setting.choose_lt exponent ledger
  have few : 2 ^ exponent ≤ 2 ^ 8 := Nat.pow_le_pow_right (by decide) low
  have word := setting.policy.backoffPeriod.toNat_lt
  calc (setting.choose exponent ledger).1 * setting.policy.backoffPeriod.toNat
      ≤ 256 * 4294967296 := Nat.mul_le_mul (by omega) (by omega)
    _ ≤ 1099511627776 := by decide

theorem Setting.resume_exact (setting : Setting) {exponent resumed : Nat} (ledger : Ledger ρ)
    (low : exponent ≤ 8) (word : resumed < 4294967296)
    (exactly : InClockRange (setting.rate.microseconds
      (resumed * setting.policy.backoffPeriod.toNat))) :
    (setting.resume exponent resumed ledger).1 < 4294967296 ∧
      InClockRange (setting.rate.microseconds
        ((setting.resume exponent resumed ledger).1 * setting.policy.backoffPeriod.toNat)) := by
  unfold resume
  split
  · refine ⟨?_,setting.chosen_exact ledger low⟩
    calc (setting.choose exponent ledger).1 < 2 ^ exponent := setting.choose_lt exponent ledger
      _ ≤ 2 ^ 8 := Nat.pow_le_pow_right (by decide) low
      _ < 4294967296 := by decide
  · exact ⟨word,exactly⟩

theorem Setting.resume_ledger (setting : Setting) (exponent resumed : Nat) (ledger : Ledger ρ) :
    (setting.resume exponent resumed ledger).2 =
      { ledger with words := (setting.resume exponent resumed ledger).2.words } := by
  unfold resume
  split
  · exact setting.choose_ledger exponent ledger
  · rfl

theorem Engine.takeBackoff_resumes {engine : Engine ρ} (setting : Setting) {ledger : Ledger ρ}
    {resumed : Nat} (words : engine.words = ledger.words) (low : engine.progress.exponent ≤ 31)
    (resumes : resumed = if engine.policy.isSlotted then engine.progress.periodsLeft else 0) :
    ∃ asked, engine.takeBackoff setting.advice =
        ({ engine with
          words := (setting.resume engine.progress.exponent resumed ledger).2.words
          progress := { engine.progress with
            periodsLeft := (setting.resume engine.progress.exponent resumed ledger).1 } },asked) ∧
      Call.requestCca ∉ asked ∧
      ∀ simulation : Simulation ρ, simulation.hearAll asked = .ok (simulation,[]) := by
  have fewer := Backoff.maxPeriods_eq low
  have largest : Backoff.maxPeriods engine.progress.exponent + 1 = 2 ^ engine.progress.exponent := by
    have positive : 0 < 2 ^ engine.progress.exponent := Nat.two_pow_pos _
    omega
  by_cases fresh : engine.progress.periodsLeft = 0 ∨ ¬ engine.policy.isSlotted = true
  · have none_left : resumed = 0 := by
      rcases fresh with spent | unslotted
      · simp [resumes,spent]
      · simp [resumes,unslotted]
    subst none_left
    refine ⟨[.askAdvice engine.progress.exponent engine.progress.backoffs setting.advice],?_,by simp,
      fun simulation => rfl⟩
    rw [takeBackoff,if_pos fresh]
    cases advised : setting.advice with
    | none => simp [chooseBackoff,Setting.resume,Setting.choose,advised,Backoff.draw,largest,words]
    | some periods => simp [chooseBackoff,Setting.resume,Setting.choose,advised,fewer,words]
  · have left : resumed ≠ 0 ∧ resumed = engine.progress.periodsLeft := by
      simp only [not_or,Decidable.not_not] at fresh
      rw [if_pos fresh.2] at resumes
      exact ⟨resumes ▸ fresh.1,resumes⟩
    refine ⟨[],?_,by simp,fun simulation => rfl⟩
    rw [takeBackoff,if_neg fresh,Setting.resume,if_neg left.1,left.2,← words]

end

namespace Simulation

variable {simulation : Simulation ρ} {setting : Setting} {seen : Nat} {progress : Progress}
  {ledger : Ledger ρ}

theorem Expects.arrives {event : Event}
    (expects : simulation.Expects setting seen progress event ledger) :
    (simulation.arriveAt ledger.clock).Stands setting seen progress ledger :=
  ⟨expects.stands.shows,expects.stands.within,expects.stands.rated,expects.stands.running,
    expects.stands.progress,expects.stands.verdicts,expects.stands.inRange,rfl⟩

theorem Stands.policy (stands : simulation.Stands setting seen progress ledger) :
    simulation.engine.policy = setting.policy :=
  congrArg Setting.policy stands.within

theorem Stands.layer (stands : simulation.Stands setting seen progress ledger) :
    simulation.layer = setting.layer :=
  congrArg Setting.layer stands.within

theorem Stands.withEngine (stands : simulation.Stands setting seen progress ledger)
    {engine : Engine ρ} (policy : engine.policy = simulation.engine.policy)
    (running : engine.running = true) :
    { simulation with engine }.Stands setting seen engine.progress
      { ledger with words := engine.words } := by
  have shows := stands.shows
  subst shows
  have within : { simulation with engine }.setting setting.rate = simulation.setting setting.rate := by
    simp only [Simulation.setting,policy]
  exact ⟨rfl,within.trans stands.within,stands.rated,running,rfl,stands.verdicts,stands.inRange,
    stands.synced⟩

theorem Stands.handOver (stands : simulation.Stands setting seen progress ledger)
    {engine : Engine ρ} (policy : engine.policy = simulation.engine.policy)
    (running : engine.running = true) (words : engine.words = simulation.engine.words) :
    { simulation with engine }.Stands setting seen engine.progress ledger := by
  have same : { ledger with words := engine.words } = ledger := by
    rw [words,← stands.shows]
    rfl
  have stands' := stands.withEngine policy running
  rw [same] at stands'
  exact stands'

theorem Stands.around (stands : simulation.Stands setting seen progress ledger)
    (direction : progress.direction = .ofDestination setting.layer.frame.toCoordinator) :
    SymbolRate.of simulation.surroundings.radio.symbolsPerSecond = .ok setting.rate ∧
    simulation.surroundings.now = ledger.clock ∧
    simulation.surroundings.layer.superframe progress.direction = setting.superframe ∧
    simulation.surroundings.advice = setting.advice := by
  refine ⟨stands.rated,congrArg Ledger.clock stands.shows,?_,congrArg Setting.advice stands.within⟩
  rw [Setting.superframe,← direction,← stands.layer]
  rfl

/-- An engine that waits for a timer after calls that the simulation does not record. -/
theorem waits_quietly {engine : Engine ρ} {calls : List Call} {after : Ledger ρ} (kind : TimerKind)
    (delay : Span) (notes : List Note) (stands : simulation.Stands setting seen progress ledger)
    (empty : simulation.queue.entries = []) (policy : engine.policy = simulation.engine.policy)
    (running : engine.running = true) (quiet : Call.requestCca ∉ calls)
    (hears : ∀ simulation : Simulation ρ, simulation.hearAll calls = .ok (simulation,[]))
    (nonneg : 0 ≤ delay.us) (words : { ledger with words := engine.words } = after) :
    Coupled (fun outcome later => outcome.result = .ok () ∧
        outcome.simulation.ExpectsTimer setting seen engine.progress kind later)
      (simulation.settle (engine.waitFor calls kind delay notes)) (after.wait delay) := by
  subst words
  exact waitFor_coupled (hears _) quiet empty nonneg rfl (stands.withEngine policy running)

theorem waits_at_once {engine : Engine ρ} (kind : TimerKind) (notes : List Note)
    (stands : simulation.Stands setting seen progress ledger) (empty : simulation.queue.entries = [])
    (policy : engine.policy = simulation.engine.policy) (running : engine.running = true)
    (words : engine.words = simulation.engine.words) :
    Coupled (fun outcome later => outcome.result = .ok () ∧
        outcome.simulation.ExpectsTimer setting seen engine.progress kind later)
      (simulation.settle (engine.waitFor [] kind .zero notes)) (.ok ledger) := by
  have inRange : InClockRange ledger.clock.us := by
    rw [← stands.shows]
    exact stands.inRange
  have same : { ledger with words := engine.words } = ledger := by
    rw [words,← stands.shows]
    rfl
  have waits := waits_quietly kind .zero notes stands empty policy running List.not_mem_nil
    (fun _ => rfl) (Int.le_refl 0) same
  rw [Ledger.wait_zero inRange] at waits
  exact waits

theorem waits_spending {engine : Engine ρ} (direction : Direction) (symbols : Nat) (kind : TimerKind)
    (delay : Span) (notes : List Note) (stands : simulation.Stands setting seen progress ledger)
    (empty : simulation.queue.entries = []) (policy : engine.policy = simulation.engine.policy)
    (running : engine.running = true) (words : engine.words = ledger.words) (nonneg : 0 ≤ delay.us) :
    Coupled (fun outcome later => outcome.result = .ok () ∧
        outcome.simulation.ExpectsTimer setting seen engine.progress kind later)
      (simulation.settle
        (engine.waitFor [.askSuperframe direction,.cost symbols] kind delay notes))
      ((ledger.spend symbols).wait delay) := by
  have shows := stands.shows
  subst shows
  have within : { simulation with engine }.setting setting.rate = setting := by
    rw [← stands.within]
    simp only [Simulation.setting,policy]
  refine waitFor_coupled rfl (by simp) empty nonneg rfl
    ⟨?_,within,stands.rated,running,rfl,stands.verdicts,stands.inRange,stands.synced⟩
  simp only [Ledger.spend,Ledger.record,record,Simulation.ledger,Engine.waitFor,words,stands.synced]

theorem Stands.listened (stands : simulation.Stands setting seen progress ledger) :
    ({ simulation with channel := (simulation.channel.assess simulation.clock).2 }.record
      (.ccaResult (simulation.channel.assess simulation.clock).1)).Stands setting seen progress
        ledger.listen.2 := by
  have shows := stands.shows
  subst shows
  refine ⟨?_,stands.within,stands.rated,stands.running,stands.progress,stands.verdicts,stands.inRange,
    stands.synced⟩
  simp only [record,Simulation.ledger,Ledger.listen,Ledger.record,stands.synced]

section

variable [WordSource ρ]

theorem handle_timer {kind : TimerKind} {number : UInt32} (running : simulation.engine.running = true)
    (armed : simulation.engine.timers.armed kind = some number) :
    simulation.handle (.timer ⟨kind,number⟩) = (match kind with
      | .backoffStart =>
        (simulation.engine.taken .backoffStart).beginBackoff simulation.surroundings
      | .canProceed =>
        (simulation.engine.taken .canProceed).checkTransaction simulation.surroundings
      | .ccaRequest => .ok (simulation.engine.taken .ccaRequest).requestCca
      | .capEnd => .ok {
          engine := (simulation.engine.taken .capEnd).ended .deferred
          calls := [.verdict .deferred]
          notes := [.capEnded,.concluded .deferred] }) >>= simulation.settle := by
  rw [handle,Engine.fire_armed simulation.surroundings running armed]
  cases kind <;> rfl

theorem takes_backoff (resumed : Nat) (stands : simulation.Stands setting seen progress ledger)
    (low : progress.exponent ≤ 31)
    (resumes : resumed = if setting.policy.isSlotted then progress.periodsLeft else 0) :
    ∃ source asked,
      (simulation.engine.taken .backoffStart).takeBackoff setting.advice = (source,asked) ∧
      source.policy = simulation.engine.policy ∧ source.running = true ∧
      source.progress = { progress with
        periodsLeft := (setting.resume progress.exponent resumed ledger).1 } ∧
      { ledger with words := source.words } = (setting.resume progress.exponent resumed ledger).2 ∧
      Call.requestCca ∉ asked ∧
      ∀ simulation : Simulation ρ, simulation.hearAll asked = .ok (simulation,[]) := by
  have words : (simulation.engine.taken .backoffStart).words = ledger.words :=
    congrArg Ledger.words stands.shows
  have progressed := stands.progress
  have policy := stands.policy
  subst progressed
  rw [← policy] at resumes
  obtain ⟨asked,drawn,quiet,hears⟩ := Engine.takeBackoff_resumes setting words low resumes
  exact ⟨_,asked,drawn,rfl,stands.running,rfl,(setting.resume_ledger _ _ ledger).symm,quiet,hears⟩

theorem handles_backoff_unslotted {number : UInt32}
    (stands : simulation.Stands setting seen progress ledger)
    (empty : simulation.queue.entries = [])
    (armed : simulation.engine.timers.armed .backoffStart = some number)
    (unslotted : setting.policy.mode = .unslotted) (low : progress.exponent ≤ 8)
    (direction : progress.direction = .ofDestination setting.layer.frame.toCoordinator) :
    simulation.Handles (.timer ⟨.backoffStart,number⟩)
      (fun later => later.ExpectsTimer setting seen
        { progress with periodsLeft := (setting.choose progress.exponent ledger).1 } .ccaRequest)
      ((setting.choose progress.exponent ledger).2.wait
        (setting.backoffSpan (setting.choose progress.exponent ledger).1)) := by
  have plain : setting.policy.isSlotted = false := Policy.isSlotted_eq_false.mpr unslotted
  obtain ⟨source,asked,drawn,policy,running,progressed,ledgers,quiet,hears⟩ :=
    takes_backoff 0 stands (by omega) (by simp [plain])
  have chosen : setting.resume progress.exponent 0 ledger = setting.choose progress.exponent ledger :=
    if_pos rfl
  rw [chosen] at progressed ledgers
  obtain ⟨rated,_,_,advice⟩ := stands.around direction
  have mode : (simulation.engine.taken .backoffStart).policy.mode = .unslotted := by
    rw [← unslotted,← stands.policy]
    rfl
  have span : source.backoffSpan setting.rate =
      setting.backoffSpan (setting.choose progress.exponent ledger).1 := by
    rw [Engine.backoffSpan,Setting.backoffSpan,policy,stands.policy,progressed]
  have nonneg := setting.backoffSpan_nonneg (setting.chosen_exact ledger low)
  rw [← advice] at drawn
  rw [Handles,handle_timer stands.running armed]
  simp only [Engine.beginBackoff_unslotted rated mode drawn]
  rw [← span] at nonneg ⊢
  rw [← progressed]
  exact waits_quietly .ccaRequest _ _ stands empty policy running quiet hears nonneg ledgers

/-- A slotted backoff begins. -/
theorem handles_backoff_slotted {number : UInt32}
    (stands : simulation.Stands setting seen progress ledger)
    (empty : simulation.queue.entries = [])
    (armed : simulation.engine.timers.armed .backoffStart = some number)
    (slotted : setting.policy.mode = .slotted) (low : progress.exponent ≤ 8)
    (word : progress.periodsLeft < 4294967296)
    (exactly : InClockRange (setting.rate.microseconds
      (progress.periodsLeft * setting.policy.backoffPeriod.toNat)))
    (direction : progress.direction = .ofDestination setting.layer.frame.toCoordinator) :
    simulation.Handles (.timer ⟨.backoffStart,number⟩)
      (fun later waited => ∃ periodsLeft,
        later.ExpectsTimer setting seen { progress with periodsLeft }
          (if waited.1.isSome then .capEnd else .canProceed) waited.2 ∧
        ∀ rest, waited.1 = some rest → periodsLeft = rest)
      (setting.slottedBackoff progress.exponent progress.periodsLeft ledger) := by
  have aligned : setting.policy.isSlotted = true := Policy.isSlotted_eq_true.mpr slotted
  obtain ⟨source,asked,drawn,policy,running,progressed,ledgers,quiet,hears⟩ :=
    takes_backoff progress.periodsLeft stands (by omega) (by simp [aligned])
  obtain ⟨few,inRange⟩ := setting.resume_exact ledger low word exactly
  obtain ⟨rated,now,superframe,advice⟩ := stands.around direction
  have mode : (simulation.engine.taken .backoffStart).policy.mode = .slotted := by
    rw [← slotted,← stands.policy]
    rfl
  have directed : (simulation.engine.taken .backoffStart).progress.direction = progress.direction :=
    congrArg Progress.direction stands.progress
  have clock : ledger.clock = (setting.resume progress.exponent progress.periodsLeft ledger).2.clock := by
    rw [← ledgers]
  have span : source.backoffSpan setting.rate = setting.backoffSpan
      (setting.resume progress.exponent progress.periodsLeft ledger).1 := by
    rw [Engine.backoffSpan,Setting.backoffSpan,policy,stands.policy,progressed]
  have few' : source.progress.periodsLeft < 4294967296 := by
    rw [progressed]
    exact few
  have inRange' : InClockRange (setting.rate.microseconds
      (source.progress.periodsLeft * source.policy.backoffPeriod.toNat)) := by
    rw [progressed,policy,stands.policy]
    exact inRange
  have quiet' : .requestCca ∉ asked ++ [.askSuperframe progress.direction] := by simp [quiet]
  have hears' (simulation : Simulation ρ) :
      simulation.hearAll (asked ++ [.askSuperframe progress.direction]) = .ok (simulation,[]) :=
    hearAll_snoc (hears simulation) _
  rw [← advice] at drawn
  rw [Handles,handle_timer stands.running armed]
  cases remaining : setting.superframe.timeLeftInCap ledger.clock setting.rate with
  | error failure =>
    simp only [Engine.beginBackoff_slotted rated mode drawn,directed,superframe,now,remaining,
      Setting.slottedBackoff,← clock]
    exact .overflow failure
  | ok left =>
    simp only [Engine.beginBackoff_slotted rated mode drawn,directed,superframe,now,remaining,
      Setting.slottedBackoff,← clock]
    rw [← span]
    have nonneg := Superframe.timeLeftInCap_nonneg remaining
    by_cases short : left < source.backoffSpan setting.rate
    · have beyond : source.periodsBeyond setting.rate left =
          (setting.resume progress.exponent progress.periodsLeft ledger).1 -
            setting.rate.symbolsIn left / setting.policy.backoffPeriod.toNat := by
        have same := Engine.periodsBeyond_eq few' inRange' nonneg short
        rw [same,progressed,policy,stands.policy]
      rw [except_ok_map_bind,if_pos short,except_ok_bind,if_pos short]
      apply Coupled.bind_right
      have policy' : (source.withPeriods (source.periodsBeyond setting.rate left)).policy =
          simulation.engine.policy := policy
      apply (waits_quietly .capEnd left _ stands empty policy' running quiet' hears' nonneg ledgers).mono
      rintro outcome later ⟨succeeds,expects⟩
      refine ⟨succeeds,_,?_,fun rest same => Option.some.inj same⟩
      have left_over : (source.withPeriods (source.periodsBeyond setting.rate left)).progress =
          { progress with periodsLeft := source.periodsBeyond setting.rate left } := by
        rw [Engine.withPeriods,progressed]
      rw [left_over,beyond] at expects
      exact expects
    · rw [except_ok_map_bind,if_neg short,except_ok_bind,if_neg short]
      apply Coupled.bind_right
      have nonneg := setting.backoffSpan_nonneg inRange
      rw [← span] at nonneg
      apply (waits_quietly .canProceed _ _ stands empty policy running quiet' hears' nonneg ledgers).mono
      rintro outcome later ⟨succeeds,expects⟩
      rw [progressed] at expects
      refine ⟨succeeds,_,expects,?_⟩
      intro rest same
      cases same

theorem handles_canProceed {number : UInt32}
    (stands : simulation.Stands setting seen progress ledger)
    (empty : simulation.queue.entries = [])
    (armed : simulation.engine.timers.armed .canProceed = some number)
    (fresh : progress.window = 2)
    (direction : progress.direction = .ofDestination setting.layer.frame.toCoordinator) :
    simulation.Handles (.timer ⟨.canProceed,number⟩)
      (fun later checked => later.ExpectsTimer setting seen { progress with periodsLeft := 0 }
        (if checked.1 then .ccaRequest else .capEnd) checked.2)
      (setting.slottedCheck ledger) := by
  obtain ⟨cost,estimated,total⟩ := Cost.estimate_total setting.layer.frame setting.layer.ackWait
  obtain ⟨rated,now,superframe,_⟩ := stands.around direction
  have directed : (simulation.engine.taken .canProceed).progress.direction = progress.direction :=
    congrArg Progress.direction stands.progress
  have estimated' : Cost.estimate (simulation.engine.taken .canProceed).progress.window
      simulation.surroundings.layer.frame simulation.surroundings.layer.ackWait
      simulation.surroundings.radio.turnaround = .ok cost := by
    rw [← estimated,← fresh,← stands.layer,← stands.progress]
    rfl
  have spent : cost.total = setting.transactionSymbols := total
  have progressed : ((simulation.engine.taken .canProceed).withPeriods 0).progress =
      { progress with periodsLeft := 0 } := by
    rw [← stands.progress]
    rfl
  have policy : ((simulation.engine.taken .canProceed).withPeriods 0).policy =
      simulation.engine.policy := rfl
  have words : ((simulation.engine.taken .canProceed).withPeriods 0).words = ledger.words :=
    congrArg Ledger.words stands.shows
  have inRange : InClockRange (ledger.spend setting.transactionSymbols).clock.us := by
    have clock : (ledger.spend setting.transactionSymbols).clock = simulation.clock := by
      rw [← stands.shows]
      rfl
    rw [clock]
    exact stands.inRange
  rw [Handles,handle_timer stands.running armed]
  cases remaining : setting.superframe.timeLeftInCap ledger.clock setting.rate with
  | error failure =>
    simp only [Engine.checkTransaction_eq rated,directed,superframe,now,remaining,Setting.slottedCheck]
    exact .overflow failure
  | ok left =>
    have nonneg := Superframe.timeLeftInCap_nonneg remaining
    simp only [Engine.checkTransaction_eq rated,directed,superframe,now,remaining,Setting.slottedCheck,
      estimated']
    rw [except_ok_bind,except_ok_bind,except_ok_bind]
    by_cases long : left < setting.rate.spanOf cost.total
    · have exceeds := long
      rw [spent] at exceeds
      rw [if_pos long,if_pos exceeds,pure_bind]
      have waits := waits_spending progress.direction cost.total .capEnd left
        [.transactionTooLong cost.total left] stands empty policy stands.running words nonneg
      rw [← spent]
      rw [progressed] at waits
      apply Coupled.bind_right
      exact waits
    · have fits := long
      rw [spent] at fits
      rw [if_neg long,if_neg fits,pure_bind,← spent]
      have waits := waits_spending progress.direction cost.total .ccaRequest .zero [] stands empty policy
        stands.running words (Int.le_refl 0)
      rw [← spent] at inRange
      rw [progressed,Ledger.wait_zero inRange] at waits
      change Coupled _ _ (Except.ok (ledger.spend cost.total) >>= fun later => .ok (true,later))
      apply Coupled.bind_right
      exact waits

theorem handles_ccaRequest {number : UInt32}
    (stands : simulation.Stands setting seen progress ledger)
    (empty : simulation.queue.entries = [])
    (armed : simulation.engine.timers.armed .ccaRequest = some number) :
    simulation.Handles (.timer ⟨.ccaRequest,number⟩)
      (fun later => later.ExpectsStatus setting seen progress)
      (setting.request progress.exponent progress.backoffs progress.window ledger) := by
  have taken : { simulation with engine := (simulation.engine.taken .ccaRequest).requestCca.engine }.Stands
      setting seen progress ledger := by
    rw [← stands.progress]
    exact stands.handOver
      (rfl : (simulation.engine.taken .ccaRequest).requestCca.engine.policy = _) stands.running rfl
  have calls : (simulation.engine.taken .ccaRequest).requestCca.calls = [] ++ [.requestCca] := rfl
  rw [Handles,handle_timer stands.running armed,except_ok_bind,settle_requested rfl rfl calls]
  apply Coupled.map_left
  have begins := assess_coupled (show { simulation with
    engine := (simulation.engine.taken .ccaRequest).requestCca.engine }.queue.entries = [] from empty) taken
  apply begins.mono
  rintro outcome later ⟨succeeds,same,expects⟩
  refine ⟨succeeds,?_,expects⟩
  rw [same]
  rfl

theorem handle_assessmentDone (stands : simulation.Stands setting seen progress ledger) :
    simulation.handle .assessmentDone =
      ({ simulation with channel := (simulation.channel.assess simulation.clock).2 }.record
        (.ccaResult (simulation.channel.assess simulation.clock).1)).settle
          (simulation.engine.confirm ledger.listen.1) := by
  rw [← stands.shows]
  rfl

theorem handles_granted (stands : simulation.Stands setting seen progress ledger)
    (outstanding : simulation.engine.ccaOutstanding = true) (idle : ledger.listen.1.isIdle = true)
    (last : ¬ (setting.policy.isSlotted = true ∧ 0 < progress.window - 1)) :
    simulation.Handles .assessmentDone (fun later => later.Delivered seen)
      (.ok (ledger.listen.2.conclude .channelIdle 0)) := by
  have closed := last
  rw [← stands.policy,← stands.progress] at closed
  have stands' := stands.listened.handOver (rfl : simulation.engine.afterIdle.policy = _)
    stands.running rfl
  obtain ⟨outcome,settled,succeeds,delivered⟩ := settle_ended .channelIdle
    [.channelIdle simulation.engine.progress.backoffs,.concluded .channelIdle] stands'
  rw [Handles,handle_assessmentDone stands,Engine.confirm_idle outstanding stands.running idle,
    if_neg closed,settled]
  exact .done ⟨succeeds,delivered⟩

theorem handles_stillIdle (stands : simulation.Stands setting seen progress ledger)
    (empty : simulation.queue.entries = []) (outstanding : simulation.engine.ccaOutstanding = true)
    (idle : ledger.listen.1.isIdle = true) (slotted : setting.policy.isSlotted = true)
    (fresh : progress.window = 2) :
    simulation.Handles .assessmentDone
      (fun later => later.ExpectsTimer setting seen { progress with window := 1 } .ccaRequest)
      (.ok ledger.listen.2) := by
  have more : simulation.engine.policy.isSlotted = true ∧ 0 < simulation.engine.progress.window - 1 := by
    rw [stands.policy,stands.progress,fresh]
    exact ⟨slotted,Nat.zero_lt_one⟩
  have narrowed : simulation.engine.afterIdle.progress = { progress with window := 1 } := by
    simp only [Engine.afterIdle,more.1,if_true,stands.progress,fresh]
  rw [Handles,handle_assessmentDone stands,Engine.confirm_idle outstanding stands.running idle,
    if_pos more,← narrowed]
  exact waits_at_once .ccaRequest _ stands.listened empty rfl stands.running rfl

theorem handles_spent (stands : simulation.Stands setting seen progress ledger)
    (outstanding : simulation.engine.ccaOutstanding = true) (busy : ledger.listen.1.isIdle = false)
    (spent : setting.policy.maxBackoffs.toNat < progress.backoffs + 1) :
    simulation.Handles .assessmentDone (fun later => later.Delivered seen)
      (.ok (ledger.listen.2.conclude .accessFailure 0)) := by
  have exceeded := spent
  rw [← stands.policy,← stands.progress] at exceeded
  have stands' := stands.listened.handOver (rfl : simulation.engine.afterBusy.policy = _)
    stands.running rfl
  obtain ⟨outcome,settled,succeeds,delivered⟩ := settle_ended .accessFailure
    [.accessFailed (simulation.engine.progress.backoffs + 1),.concluded .accessFailure] stands'
  rw [Handles,handle_assessmentDone stands,Engine.confirm_busy outstanding stands.running busy,
    if_pos exceeded,settled]
  exact .done ⟨succeeds,delivered⟩

theorem handles_backsOff (stands : simulation.Stands setting seen progress ledger)
    (empty : simulation.queue.entries = []) (outstanding : simulation.engine.ccaOutstanding = true)
    (busy : ledger.listen.1.isIdle = false)
    (more : ¬ setting.policy.maxBackoffs.toNat < progress.backoffs + 1) :
    simulation.Handles .assessmentDone
      (fun later => later.ExpectsTimer setting seen
        { progress with
          exponent := min (progress.exponent + 1) setting.policy.maxExponent.toNat
          backoffs := progress.backoffs + 1
          window := if setting.policy.isSlotted then 2 else progress.window } .backoffStart)
      (.ok ledger.listen.2) := by
  have allowed := more
  rw [← stands.policy,← stands.progress] at allowed
  have backed : simulation.engine.afterBusy.progress = { progress with
      exponent := min (progress.exponent + 1) setting.policy.maxExponent.toNat
      backoffs := progress.backoffs + 1
      window := if setting.policy.isSlotted then 2 else progress.window } := by
    simp only [Engine.afterBusy,stands.progress,stands.policy,Engine.contentionWindow]
  rw [Handles,handle_assessmentDone stands,Engine.confirm_busy outstanding stands.running busy,
    if_neg allowed,← backed]
  exact waits_at_once .backoffStart _ stands.listened empty rfl stands.running rfl

theorem handles_capEnd {number : UInt32} (stands : simulation.Stands setting seen progress ledger)
    (armed : simulation.engine.timers.armed .capEnd = some number) :
    simulation.Handles (.timer ⟨.capEnd,number⟩) (fun later => later.Delivered seen)
      (.ok (ledger.conclude .deferred progress.periodsLeft)) := by
  have stands' := stands.handOver (rfl : (simulation.engine.taken .capEnd).policy = _) stands.running rfl
  obtain ⟨outcome,settled,succeeds,delivered⟩ := settle_ended .deferred
    [.capEnded,.concluded .deferred] stands'
  have left : (simulation.engine.taken .capEnd).progress.periodsLeft = progress.periodsLeft :=
    congrArg Progress.periodsLeft stands.progress
  rw [if_pos rfl,left] at delivered
  rw [Handles,handle_timer stands.running armed,except_ok_bind,settled]
  exact .done ⟨succeeds,delivered⟩

end

end Simulation

end ChannelAccess
