import ChannelAccess.Proofs.Simulation.Completion
import ChannelAccess.Proofs.Simulation.Refinement
import ChannelAccess.Simulation.Attempts

/-!
Attempt after attempt. One that finds the queue empty leaves it empty, and it changes neither the
policy nor what the simulation knows of its layer, so the next one can follow. Main statement:
`Rests.attempt_coupled`.
-/

namespace ChannelAccess.Simulation

variable {ρ : Type} {first simulation later : Simulation ρ} {rate : SymbolRate} {stage : Stage}

/-- A simulation in an attempt that `first` began with nothing queued. -/
structure Continues (first simulation : Simulation ρ) (rate : SymbolRate) (stage : Stage) : Prop where
  inside : simulation.engine.At stage
  rated : simulation.symbolsPerSecond = first.symbolsPerSecond
  within : simulation.setting rate = first.setting rate
  single : simulation.queue.size ≤ 1
  drained : stage = .concluded → simulation.queue.entries = []

theorem Settles.setting {reaction : Reaction ρ} {action : Action} {next : Stage}
    (settles : simulation.Settles rate reaction action next later)
    (policy : reaction.engine.policy = simulation.engine.policy) :
    later.setting rate = simulation.setting rate := by
  cases settles with
  | waits hears awaits armed scheduled nonneg reaches pushed =>
    rw [pushed,hears.same]
    simp only [Simulation.setting,push,policy]
  | assesses hears assessing lasts pushed =>
    rw [pushed,hears.same]
    simp only [Simulation.setting,push,requesting,record,policy]
  | concludes hears concluded told =>
    rw [told,hears.same]
    simp only [Simulation.setting,hearing,record,policy]

theorem Settles.drained {reaction : Reaction ρ} {action : Action} {next : Stage}
    (settles : simulation.Settles rate reaction action next later)
    (empty : simulation.queue.entries = []) (concluded : next = .concluded) :
    later.queue.entries = [] := by
  subst concluded
  rcases settles.queue_cases with ⟨due,timer,awaits,_⟩ | ⟨due,assessing,_⟩ | ⟨_,queue⟩
  · exact absurd rfl awaits
  · cases assessing
  · rw [queue,empty]

theorem informed_setting (simulation : Simulation ρ) (event : Event) (rate : SymbolRate) :
    (simulation.informed event).setting rate = simulation.setting rate := by
  cases event <;> rfl

namespace Continues

theorem start {begun : Outcome ρ Unit} (rated : SymbolRate.of simulation.symbolsPerSecond = .ok rate)
    (empty : simulation.queue.entries = []) (started : simulation.start = .ok begun) :
    simulation.Continues begun.simulation rate .backoffStart := by
  obtain ⟨_,reaction,_,arrives,policy,settles⟩ := start_settles rated started
  obtain ⟨engine,_,_,kept⟩ := settles.unchanged
  have size := settles.size_le
  refine ⟨engine ▸ arrives,kept,settles.setting policy,?_,nofun⟩
  simpa [record,tellTime,EventQueue.size,empty] using size

variable [WordSource ρ]

theorem step {outcome : Outcome ρ Bool} (rated : SymbolRate.of first.symbolsPerSecond = .ok rate)
    (continues : first.Continues simulation rate stage) (stepped : simulation.step = .ok outcome) :
    ∃ next, first.Continues outcome.simulation rate next := by
  have rated' : SymbolRate.of simulation.symbolsPerSecond = .ok rate := continues.rated ▸ rated
  have single := continues.single
  cases step_cases rated' continues.inside stepped with
  | idle empty same =>
    rw [same]
    exact ⟨stage,continues⟩
  | @ignored entry rest queued unheard result after =>
    have size := size_takes queued
    rw [after]
    refine ⟨stage,?inside,?rated,?within,?single,?drained⟩
    case inside =>
      rw [informed_engine]
      exact continues.inside
    case rated =>
      rw [informed_symbolsPerSecond]
      exact continues.rated
    case within =>
      rw [informed_setting]
      exact continues.within
    case single =>
      rw [informed_queue]
      omega
    case drained =>
      intro concluded
      simp [continues.drained concluded] at queued
  | @advanced entry rest action next reaction queued accepted reacts advances result settles =>
    have size := size_takes queued
    have empty : ((simulation.takes entry rest).informed entry.event).queue.entries = [] := by
      rw [informed_queue]
      exact List.eq_nil_of_length_eq_zero (by simp only [EventQueue.size] at size single; omega)
    obtain ⟨engine,_,_,kept⟩ := settles.unchanged
    rw [informed_symbolsPerSecond] at kept
    refine ⟨next,engine ▸ advances.arrives,kept.trans continues.rated,?within,?single,
      settles.drained empty⟩
    case within =>
      have policy : reaction.engine.policy =
          ((simulation.takes entry rest).informed entry.event).engine.policy := by
        rw [informed_engine]
        exact advances.policy
      rw [settles.setting policy,informed_setting]
      exact continues.within
    case single =>
      have grows := settles.size_le
      rw [informed_queue] at grows
      omega

theorem runUntil {finished : Simulation ρ → Option Verdict} {bound : Nat} {outcome : Outcome ρ Ending}
    (rated : SymbolRate.of first.symbolsPerSecond = .ok rate)
    (continues : first.Continues simulation rate stage)
    (ran : runUntil finished bound simulation = .ok outcome) :
    ∃ next, first.Continues outcome.simulation rate next := by
  induction bound generalizing simulation stage outcome with
  | zero =>
    rw [Simulation.runUntil.eq_def] at ran
    cases unfinished : finished simulation with
    | some verdict =>
      simp only [unfinished] at ran
      cases ran
      exact ⟨stage,continues⟩
    | none =>
      simp only [unfinished] at ran
      cases ran
      exact ⟨stage,continues⟩
  | succ bound ih =>
    cases unfinished : finished simulation with
    | some verdict =>
      rw [runUntil_finished unfinished] at ran
      cases ran
      exact ⟨stage,continues⟩
    | none =>
      rw [Simulation.runUntil.eq_def] at ran
      simp only [unfinished] at ran
      obtain ⟨⟨middle,notes,result⟩,stepped,ran⟩ := except_bind_eq_ok.mp ran
      obtain ⟨next,onward⟩ := continues.step rated stepped
      match result with
      | .error error | .ok false =>
        cases ran
        exact ⟨next,onward⟩
      | .ok true =>
        obtain ⟨rest,more,same⟩ := except_bind_eq_ok.mp ran
        cases same
        obtain ⟨last,ended⟩ := ih onward more
        exact ⟨last,ended⟩

end Continues

/-- Nothing is queued, and the backoff that is carried over is one that was chosen. -/
structure Rests (simulation : Simulation ρ) (phy : Phy) : Prop where
  rated : simulation.symbolsPerSecond = phy.symbolsPerSecond
  valid : simulation.engine.policy.validate = .ok ()
  empty : simulation.queue.entries = []
  inRange : InClockRange simulation.clock.us
  few : simulation.engine.carriedPeriods ≤ 255

/-- The attempt came to a conclusion and left the rest of the simulation as it was. -/
structure Attempted (simulation : Simulation ρ) (phy : Phy)
    (attempted : Simulation ρ × Except AccessError (Verdict × List TraceEvent))
    (conclusion : Conclusion ρ) : Prop where
  result : attempted.2 = .ok (conclusion.verdict,attempted.1.eventsSince simulation.trace.size)
  leaves : attempted.1.conclusion conclusion.verdict = conclusion
  rated : attempted.1.symbolsPerSecond = simulation.symbolsPerSecond
  within : attempted.1.setting (.ofPhy phy) = simulation.setting (.ofPhy phy)
  empty : attempted.1.queue.entries = []

variable [WordSource ρ]

theorem attempt_continues {phy : Phy} {verdict : Verdict} {events : List TraceEvent}
    (rests : simulation.Rests phy)
    (attempted : simulation.attempt = .ok (later,.ok (verdict,events))) :
    simulation.Continues later (.ofPhy phy) .concluded := by
  have rated := SymbolRate.of_phy rests.rated
  obtain ⟨⟨started,notes,result⟩,starts,attempted⟩ := except_bind_eq_ok.mp attempted
  have room : simulation.queue.size < EventQueue.capacity := by
    simp [EventQueue.size,rests.empty,EventQueue.capacity]
  obtain ⟨rfl,attempting,policy⟩ := Attempting.start rated room starts
  obtain ⟨⟨last,more,ending⟩,ran,attempted⟩ := except_bind_eq_ok.mp attempted
  obtain ⟨stage,continues⟩ := (Continues.start rated rests.empty starts).runUntil rated ran
  have seen : started.verdicts = simulation.verdicts := attempting.undecided (by simp)
  rw [runUntilVerdict,seen] at ran
  obtain ⟨given,rfl,_,stopped⟩ := attempting.decides (eventsLeft_le started) ran
  cases attempted
  have concluded : stage = .concluded := by
    apply Decidable.of_not_not
    intro going
    have running : later.engine.running = true := continues.inside.running.mpr going
    exact absurd (stopped.symm.trans running) Bool.false_ne_true
  exact concluded ▸ continues

theorem runUntilVerdict_coupled {setting : Setting} {seen resumed : Nat} {progress : Progress}
    {ledger : Ledger ρ}
    (expected : simulation.ExpectsTimer setting seen progress .backoffStart ledger)
    (slow : setting.policy.maxExponent.toNat ≤ 8) (begins : setting.Begins progress resumed)
    (fresh : progress.backoffs = 0) :
    Coupled Concludes simulation.runUntilVerdict
      (setting.rounds progress.exponent 0 resumed ledger) := by
  obtain ⟨number,armed,expects⟩ := expected
  have seen : simulation.verdicts.size = seen := expects.stands.verdicts
  have bound : simulation.eventBound = 1 + 6 * (setting.policy.maxBackoffs.toNat + 1) := by
    obtain ⟨order,queued⟩ := expects.queued
    have policy : simulation.engine.policy = setting.policy := expects.stands.policy
    rw [eventBound,EventQueue.size,queued,policy]
    rfl
  rw [runUntilVerdict,seen,bound]
  have simulated := simulates setting slow _ (Nat.zero_add _) (Nat.le_add_left _ 1)
    ⟨number,armed,expects⟩ begins fresh
  rw [fresh] at simulated
  exact simulated

theorem Rests.attempt_coupled {phy : Phy} (rests : simulation.Rests phy) :
    Coupled (simulation.Attempted phy) simulation.attempt
      ((simulation.setting (.ofPhy phy)).attempt simulation.engine.carriedPeriods
        simulation.ledger) := by
  obtain ⟨slow,low⟩ := Policy.exponents_le rests.valid
  have few := rests.few
  have unit := simulation.engine.policy.backoffPeriod.toNat_lt
  have word : simulation.engine.carriedPeriods < 4294967296 := by omega
  have exactly : InClockRange ((SymbolRate.ofPhy phy).microseconds
      (simulation.engine.carriedPeriods * simulation.engine.policy.backoffPeriod.toNat)) := by
    apply SymbolRate.microseconds_inRange
    calc simulation.engine.carriedPeriods * simulation.engine.policy.backoffPeriod.toNat
        ≤ 255 * 4294967296 := Nat.mul_le_mul few (Nat.le_of_lt unit)
      _ ≤ 1099511627776 := by decide
  have concludes : Coupled (fun attempted conclusion =>
      attempted.2 = .ok (conclusion.verdict,attempted.1.eventsSince simulation.trace.size) ∧
        attempted.1.conclusion conclusion.verdict = conclusion) simulation.attempt
      ((simulation.setting (.ofPhy phy)).attempt simulation.engine.carriedPeriods
        simulation.ledger) := by
    rw [Setting.attempt_eq _ _ _ rests.inRange]
    apply (start_coupled rests.rated rests.empty rests.inRange).bind
    rintro ⟨started,notes,result⟩ ledger ⟨rfl,expected⟩
    have ran := runUntilVerdict_coupled expected slow (begun_begins low word fun _ => exactly) rfl
    rw [← bind_pure (Setting.rounds _ _ _ _ _)]
    apply ran.bind
    rintro ⟨ended,more,result⟩ conclusion ⟨rfl,leaves⟩
    exact .done ⟨rfl,leaves⟩
  apply concludes.both
  rintro ⟨later,ending⟩ conclusion attempted ⟨result,leaves⟩
  obtain rfl : ending = .ok (conclusion.verdict,later.eventsSince simulation.trace.size) := result
  have continues := attempt_continues rests attempted
  exact ⟨rfl,leaves,continues.rated,continues.within,continues.drained rfl⟩

end ChannelAccess.Simulation
