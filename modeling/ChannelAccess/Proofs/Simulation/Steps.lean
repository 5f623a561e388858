import ChannelAccess.Proofs.Engine.Reactions
import ChannelAccess.Proofs.Simulation.Sequential
import ChannelAccess.Proofs.SymbolTime
import ChannelAccess.Simulation.Run

/-!
A simulation during an attempt expects a single event: the timer that its engine waits for, or the
end of an assessment. The ledger is what the simulation will show once the event is due.
-/

namespace ChannelAccess.Simulation

variable {ρ : Type}

/-- What there is to see. -/
def ledger (simulation : Simulation ρ) : Ledger ρ where
  clock := simulation.clock
  words := simulation.engine.words
  channel := simulation.channel
  ccaRequests := simulation.ccaRequests
  trace := simulation.trace
  costs := simulation.costs

def setting (simulation : Simulation ρ) (rate : SymbolRate) : Setting where
  policy := simulation.engine.policy
  rate
  layer := simulation.layer
  advice := simulation.advice

theorem ledger_record {simulation : Simulation ρ} (synced : simulation.layerClock = simulation.clock)
    (occurrence : Occurrence) :
    (simulation.record occurrence).ledger = simulation.ledger.record occurrence := by
  simp only [record,ledger,Ledger.record,synced]

/-- The simulation is within an attempt and shows the ledger. -/
structure Stands (simulation : Simulation ρ) (setting : Setting) (seen : Nat) (progress : Progress)
    (ledger : Ledger ρ) : Prop where
  shows : simulation.ledger = ledger
  within : simulation.setting setting.rate = setting
  rated : SymbolRate.of simulation.symbolsPerSecond = .ok setting.rate
  running : simulation.engine.running = true
  progress : simulation.engine.progress = progress
  verdicts : simulation.verdicts.size = seen
  inRange : InClockRange simulation.clock.us
  synced : simulation.layerClock = simulation.clock

/-- The next event is due when the ledger says, and the simulation shows the ledger then. -/
structure Expects (simulation : Simulation ρ) (setting : Setting) (seen : Nat) (progress : Progress)
    (event : Event) (ledger : Ledger ρ) : Prop where
  stands : { simulation with clock := ledger.clock }.tellTime.Stands setting seen progress ledger
  behind : simulation.clock ≤ ledger.clock
  queued : ∃ order, simulation.queue.entries = [⟨ledger.clock,order,event⟩]

/-- The next event is the armed timer of a kind. -/
def ExpectsTimer (simulation : Simulation ρ) (setting : Setting) (seen : Nat) (progress : Progress)
    (kind : TimerKind) (ledger : Ledger ρ) : Prop :=
  ∃ number, simulation.engine.timers.armed kind = some number ∧
    simulation.Expects setting seen progress (.timer ⟨kind,number⟩) ledger

def ExpectsStatus (simulation : Simulation ρ) (setting : Setting) (seen : Nat) (progress : Progress)
    (ledger : Ledger ρ) : Prop :=
  simulation.engine.ccaOutstanding = true ∧
    simulation.Expects setting seen progress .assessmentDone ledger

theorem hearAll_append (simulation : Simulation ρ) (calls more : List Call) :
    simulation.hearAll (calls ++ more) = (do
      let (heard,notes) ← simulation.hearAll calls
      let (heard,later) ← heard.hearAll more
      return (heard,notes ++ later)) := by
  induction calls generalizing simulation with
  | nil =>
    simp only [List.nil_append,hearAll,bind,Except.bind,pure,Except.pure]
    cases simulation.hearAll more <;> rfl
  | cons call calls ih =>
    simp only [List.cons_append,hearAll,bind,Except.bind,pure,Except.pure] at ih ⊢
    cases simulation.hear call with
    | error failure => rfl
    | ok heard =>
      simp only [ih]
      cases heard.1.hearAll calls with
      | error failure => rfl
      | ok later =>
        simp only
        cases later.1.hearAll more with
        | error failure => rfl
        | ok last => simp only [List.append_assoc]

theorem hearAll_snoc {simulation heard : Simulation ρ} {calls : List Call}
    (hears : simulation.hearAll calls = .ok (heard,[])) (call : Call) :
    simulation.hearAll (calls ++ [call]) = heard.hear call := by
  rw [hearAll_append,hears]
  cases hearing : heard.hear call with
  | error failure => simp [hearAll,hearing,bind,Except.bind]
  | ok later => simp [hearAll,hearing,bind,Except.bind,pure,Except.pure]

/-- A question for a superframe leaves a simulation as it is. -/
theorem hearAll_looks (simulation : Simulation ρ) (engine : Engine ρ) :
    simulation.hearAll engine.looks = .ok (simulation,[]) := by
  unfold Engine.looks
  split
  · rfl
  · rfl

theorem settle_closed {simulation heard : Simulation ρ} {reaction : Reaction ρ}
    {quiet : List Call} {call : Call} (accepted : reaction.result = .ok ())
    (hears : { simulation with engine := reaction.engine }.hearAll quiet = .ok (heard,[]))
    (calls : reaction.calls = quiet ++ [call]) (silent : .requestCca ∉ reaction.calls) :
    simulation.settle reaction = (heard.hear call).map fun answered =>
      { simulation := answered.1, notes := reaction.notes ++ answered.2, result := .ok () } := by
  simp only [settle,accepted,silent,if_false]
  rw [calls,hearAll_snoc hears]
  cases heard.hear call with
  | error failure => rfl
  | ok answered => rfl

theorem settle_requested {simulation heard : Simulation ρ} {reaction : Reaction ρ}
    {quiet : List Call} (accepted : reaction.result = .ok ())
    (hears : { simulation with engine := reaction.engine }.hearAll quiet = .ok (heard,[]))
    (calls : reaction.calls = quiet ++ [.requestCca]) :
    simulation.settle reaction = heard.assess.map fun outcome =>
      { outcome with notes := reaction.notes ++ outcome.notes } := by
  have asked : .requestCca ∈ reaction.calls := by simp [calls]
  simp only [settle,accepted,asked,if_true]
  rw [calls,hearAll_snoc hears]
  simp only [hear,bind,Except.bind,pure,Except.pure,List.append_nil]
  cases heard.assess with
  | error failure => rfl
  | ok outcome => rfl

theorem push_empty {simulation : Simulation ρ} (empty : simulation.queue.entries = [])
    (due : Instant) (event : Event) :
    (simulation.push due event) =
      ({ simulation with
        queue := ⟨simulation.queue.nextOrder + 1,[⟨due,simulation.queue.nextOrder,event⟩]⟩ },[]) := by
  simp [push,EventQueue.push,EventQueue.size,EventQueue.capacity,EventQueue.insert,empty]

theorem settle_waitFor {simulation heard : Simulation ρ} {engine : Engine ρ} {calls : List Call}
    {kind : TimerKind} {delay : Span} {notes : List Note}
    (hears : { simulation with engine := (engine.waitFor calls kind delay notes).engine }.hearAll calls =
      .ok (heard,[]))
    (quiet : Call.requestCca ∉ calls) (empty : heard.queue.entries = []) (nonneg : 0 ≤ delay.us) :
    simulation.settle (engine.waitFor calls kind delay notes) = (heard.clock.plus delay).map fun due =>
      { simulation := { heard with
          queue := ⟨heard.queue.nextOrder + 1,
            [⟨due,heard.queue.nextOrder,.timer ⟨kind,engine.timers.nextNumber⟩⟩]⟩ }
        notes
        result := .ok () } := by
  have closing : (engine.waitFor calls kind delay notes).calls =
      calls ++ [.schedule ⟨kind,engine.timers.nextNumber⟩ delay] := by
    simp only [Engine.waitFor,Span.clamp_of_nonneg nonneg]
  have silent : Call.requestCca ∉ (engine.waitFor calls kind delay notes).calls := by
    simp [closing,quiet]
  rw [settle_closed rfl hears closing silent]
  cases due : heard.clock.plus delay with
  | error failure => simp [hear,due,bind,Except.bind,Except.map]
  | ok due =>
    simp [hear,due,push_empty empty,bind,Except.bind,pure,Except.pure,Except.map,Engine.waitFor]

theorem waitFor_coupled {simulation heard : Simulation ρ} {setting : Setting} {seen : Nat}
    {ledger : Ledger ρ} {engine : Engine ρ} {calls : List Call} {kind : TimerKind} {delay : Span}
    {notes : List Note}
    (hears : { simulation with engine := (engine.waitFor calls kind delay notes).engine }.hearAll calls =
      .ok (heard,[]))
    (quiet : Call.requestCca ∉ calls) (empty : heard.queue.entries = []) (nonneg : 0 ≤ delay.us)
    (waits : heard.engine = (engine.waitFor calls kind delay notes).engine)
    (stands : heard.Stands setting seen engine.progress ledger) :
    Coupled (fun outcome later => outcome.result = .ok () ∧
        outcome.simulation.ExpectsTimer setting seen engine.progress kind later)
      (simulation.settle (engine.waitFor calls kind delay notes)) (ledger.wait delay) := by
  have shown : ledger.clock = heard.clock := by rw [← stands.shows]; rfl
  have armed : heard.engine.timers.armed kind = some engine.timers.nextNumber := by
    rw [waits]
    simp [Engine.waitFor]
  rw [settle_waitFor hears quiet empty nonneg,Ledger.wait,shown]
  cases reaches : heard.clock.plus delay with
  | error failure => exact .overflow failure
  | ok due =>
    obtain ⟨inRange,sum⟩ := Instant.plus_eq_ok.mp reaches
    refine .done ⟨rfl,_,armed,?_,?_,_,rfl⟩
    · refine ⟨?_,stands.within,stands.rated,stands.running,stands.progress,stands.verdicts,?_,rfl⟩
      · rw [← stands.shows]
        rfl
      · exact sum ▸ inRange
    · change heard.clock.us ≤ due.us
      omega

theorem assess_eq {simulation : Simulation ρ} {rate : SymbolRate}
    (rated : SymbolRate.of simulation.symbolsPerSecond = .ok rate)
    (empty : simulation.queue.entries = []) :
    simulation.assess = (do
      let ccaRequests ← wordValue .addition (simulation.ccaRequests + 1)
      let due ← simulation.clock.plus (rate.spanOf 8)
      return {
        simulation := { simulation with
          ccaRequests
          trace := simulation.trace.push ⟨simulation.layerClock,
            .ccaRequested simulation.engine.progress.exponent simulation.engine.progress.backoffs
              simulation.engine.progress.window⟩
          queue := ⟨simulation.queue.nextOrder + 1,
            [⟨due,simulation.queue.nextOrder,.assessmentDone⟩]⟩ }
        result := .ok () }) := by
  simp only [assess,rated,assessmentSymbols]
  cases wordValue .addition (simulation.ccaRequests + 1) with
  | error failure => rfl
  | ok counted =>
    simp only [bind,Except.bind,pure,Except.pure,record]
    cases simulation.clock.plus (rate.spanOf 8) with
    | error failure => rfl
    | ok due => simp [push,EventQueue.push,EventQueue.size,EventQueue.capacity,EventQueue.insert,empty]

theorem assess_coupled {simulation : Simulation ρ} {setting : Setting} {seen : Nat}
    {progress : Progress} {ledger : Ledger ρ} (empty : simulation.queue.entries = [])
    (stands : simulation.Stands setting seen progress ledger) :
    Coupled (fun outcome later => outcome.result = .ok () ∧
        outcome.simulation.engine = simulation.engine ∧
        outcome.simulation.Expects setting seen progress .assessmentDone later)
      simulation.assess
      (setting.request progress.exponent progress.backoffs progress.window ledger) := by
  have shows := stands.shows
  have progressed := stands.progress
  subst shows progressed
  have exactly : setting.rate.spanOf 8 = ⟨setting.rate.microseconds 8⟩ :=
    SymbolRate.spanOf_eq (SymbolRate.microseconds_inRange (by decide))
  rw [assess_eq stands.rated empty,stands.synced,Setting.request]
  apply Coupled.same_bind
  intro counted _
  apply Coupled.same_bind
  intro due reaches
  obtain ⟨inRange,sum⟩ := Instant.plus_eq_ok.mp reaches
  rw [exactly] at sum inRange
  rw [sum] at inRange
  refine .done ⟨rfl,rfl,?_,?_,_,rfl⟩
  · exact ⟨rfl,stands.within,stands.rated,stands.running,rfl,stands.verdicts,inRange,rfl⟩
  · change simulation.clock.us ≤ due.us
    simp only at sum
    omega

/-- The simulation once its next event, expected at an instant, is taken from the queue. -/
def arriveAt (simulation : Simulation ρ) (due : Instant) : Simulation ρ :=
  { simulation with clock := due, queue := ⟨simulation.queue.nextOrder,[]⟩ }.tellTime

/-- What a run leaves behind if it ends with a verdict. -/
def conclusion (simulation : Simulation ρ) (verdict : Verdict) : Conclusion ρ :=
  { simulation.ledger with verdict, carriedPeriods := simulation.engine.carriedPeriods }

/-- A verdict has followed those seen before, and this is what the attempt leaves behind. -/
structure Delivered (simulation : Simulation ρ) (seen : Nat) (conclusion : Conclusion ρ) : Prop where
  one : simulation.verdicts.size = seen + 1
  last : simulation.verdicts.back? = some conclusion.verdict
  leaves : simulation.conclusion conclusion.verdict = conclusion

theorem settle_ended {simulation : Simulation ρ} {setting : Setting} {seen : Nat}
    {progress : Progress} {ledger : Ledger ρ} {engine : Engine ρ} (verdict : Verdict)
    (notes : List Note) (stands : { simulation with engine }.Stands setting seen progress ledger) :
    ∃ outcome, simulation.settle { engine := engine.ended verdict, calls := [.verdict verdict], notes } =
        .ok outcome ∧ outcome.result = .ok () ∧
      outcome.simulation.Delivered seen
        (ledger.conclude verdict (if verdict = .deferred then progress.periodsLeft else 0)) := by
  have shows := stands.shows
  have progressed := stands.progress
  have verdicts := stands.verdicts
  subst shows progressed verdicts
  refine ⟨_,rfl,rfl,?_,?_,?_⟩
  · exact Array.size_push ..
  · exact Array.back?_push
  · have synced : ({ simulation with engine } : Simulation ρ).layerClock = simulation.clock :=
      stands.synced
    have told := ledger_record synced (.verdict verdict)
    exact congrArg (fun ledger : Ledger ρ => ({ ledger with
      verdict, carriedPeriods := (engine.ended verdict).carriedPeriods } : Conclusion ρ)) told

/-- The run ended with a verdict and left the conclusion behind. -/
def Concludes (outcome : Outcome ρ Ending) (conclusion : Conclusion ρ) : Prop :=
  outcome.result = .ok (.verdict conclusion.verdict) ∧
    outcome.simulation.conclusion conclusion.verdict = conclusion

/-- The verdict that follows those seen before. -/
def verdictAfter (seen : Nat) (later : Simulation ρ) : Option Verdict :=
  if later.verdicts.size = seen then none else later.verdicts.back?

variable [WordSource ρ]

/-- An event is handled without a refusal, in step with an expected computation. -/
def Handles {α : Type} (simulation : Simulation ρ) (event : Event)
    (reaches : Simulation ρ → α → Prop) (expected : Except Overflow α) : Prop :=
  Coupled (fun outcome value => outcome.result = .ok () ∧ reaches outcome.simulation value)
    (simulation.handle event) expected

theorem step_expected {simulation : Simulation ρ} {due : Instant} {event : Event}
    (behind : simulation.clock ≤ due)
    (queued : ∃ order, simulation.queue.entries = [⟨due,order,event⟩]) :
    simulation.step = ((simulation.arriveAt due).handle event).map fun outcome =>
      { simulation := outcome.simulation
        notes := outcome.notes
        result := outcome.result.map fun () => true } := by
  obtain ⟨order,queued⟩ := queued
  simp only [step,EventQueue.pop?,queued,advanceTo,Instant.later,behind,if_true]
  cases handled : (simulation.arriveAt due).handle event with
  | error failure =>
    simp only [arriveAt] at handled
    simp only [handled,bind,Except.bind,Except.map]
  | ok outcome =>
    simp only [arriveAt] at handled
    simp only [handled,bind,Except.bind,Except.map,pure,Except.pure]

/-- A run with an event to expect handles it and goes on. -/
theorem runUntil_coupled {α : Type} {simulation : Simulation ρ} {setting : Setting} {seen bound : Nat}
    {progress : Progress} {event : Event} {ledger : Ledger ρ} {reaches : Simulation ρ → α → Prop}
    {expected : Except Overflow α} {next : α → Except Overflow (Conclusion ρ)}
    (expects : simulation.Expects setting seen progress event ledger)
    (handles : (simulation.arriveAt ledger.clock).Handles event reaches expected)
    (goesOn : ∀ later value, reaches later value →
      Coupled Concludes (runUntil (verdictAfter seen) bound later) (next value)) :
    Coupled Concludes (runUntil (verdictAfter seen) (bound + 1) simulation) (expected >>= next) := by
  have unseen : verdictAfter seen simulation = none := if_pos expects.stands.verdicts
  rw [runUntil.eq_def]
  simp only [unseen]
  rw [step_expected expects.behind expects.queued]
  unfold Handles at handles
  generalize (simulation.arriveAt ledger.clock).handle event = handled at handles
  cases handles with
  | overflow failure => exact .overflow failure
  | @done outcome value agree =>
    obtain ⟨later,notes,result⟩ := outcome
    obtain ⟨rfl,reached⟩ := agree
    have rest := goesOn later value reached
    simp only [Except.map,bind,Except.bind,pure,Except.pure]
    generalize runUntil (verdictAfter seen) bound later = ran at rest
    generalize next value = concluded at rest
    cases rest with
    | overflow failure => exact .overflow failure
    | done agree => exact .done agree

theorem runUntil_delivered {simulation : Simulation ρ} {seen : Nat} {conclusion : Conclusion ρ}
    (delivered : simulation.Delivered seen conclusion) (bound : Nat) :
    Coupled Concludes (runUntil (verdictAfter seen) bound simulation) (.ok conclusion) := by
  have given : verdictAfter seen simulation = some conclusion.verdict := by
    rw [verdictAfter,if_neg (by rw [delivered.one]; omega),delivered.last]
  rw [runUntil.eq_def]
  simp only [given]
  exact .done ⟨rfl,delivered.leaves⟩

end ChannelAccess.Simulation
