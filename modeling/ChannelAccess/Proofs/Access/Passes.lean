import ChannelAccess.Proofs.Access.Lockstep

/-!
One step of a simulation is one pass of a session on a test rig. Main statement: `Expecting.pass`.
-/

namespace ChannelAccess

variable {ρ : Type} {phy : Phy} {first simulation : Simulation ρ} {session : Session ρ Rig}
  {made : List Call} {due : Instant}

/-- A sleep that is not too long ends when it should. -/
theorem Session.sleepUntil_exact (session : Session ρ Rig) (phy : Phy) (layer : LayerFacts)
    (advice : Option UInt32) (inRange : InClockRange due.us) (behind : session.host.clock ≤ due)
    (near : due.us - session.host.clock.us ≤ Session.longestSleep) :
    session.sleepUntil (Rig.host phy layer advice) due =
      .ok (true,{ session with host := { session.host with clock := due } }) := by
  have order : session.host.clock.us ≤ due.us := behind
  have close : due.us - session.host.clock.us ≤ 4294967295 := near
  have wait : due.since session.host.clock = .ok ⟨due.us - session.host.clock.us⟩ := by
    rw [Instant.since_eq_ok]
    refine ⟨⟨?_,?_⟩,rfl⟩ <;> omega
  simp only [sleepUntil,Rig.host,wait]
  rw [except_ok_bind]
  by_cases ahead : 0 < due.us - session.host.clock.us
  · have covered : min (due.us - session.host.clock.us).toNat longestSleep =
        (due.us - session.host.clock.us).toNat := by
      rw [longestSleep]
      omega
    have wakes : session.host.clock.plus ⟨((due.us - session.host.clock.us).toNat : Nat)⟩ =
        .ok due := by
      have sum : session.host.clock.us + ((due.us - session.host.clock.us).toNat : Nat) = due.us := by
        omega
      rw [Instant.plus_eq_ok,sum]
      exact ⟨inRange,rfl⟩
    rw [if_pos ahead,covered,Rig.sleep,wakes]
    rfl
  · have arrived : due = session.host.clock := Instant.us_inj.mp (by omega)
    rw [if_neg ahead,arrived]
    rfl

/-- The session once it has slept until its only timer is due. -/
def Session.arriveAt (session : Session ρ Rig) (phy : Phy) (due : Instant) : Session ρ Rig :=
  { session with
    host := { session.host with clock := due }
    agenda := { session.agenda with now := due, entries := [] }
    radio := { symbolsPerSecond := phy.symbolsPerSecond } }

/-- The session once an assessment is done. -/
def Session.assessedAt (session : Session ρ Rig) (due : Instant) : Session ρ Rig :=
  { session with
    host := {
      session.host with
      clock := due
      script := session.host.script.tail
      assessments := session.host.assessments ++ [session.host.clock] }
    agenda := { session.agenda with now := due }
    ccaRequested := false
    notes := session.notes ++ [.assessed (session.host.script.head?.getD .idle)] }

theorem Session.pass_assessed [WordSource ρ] {layer : LayerFacts} {advice : Option UInt32}
    (undecided : session.verdict = none) (request : session.ccaRequested = true)
    (lasts : session.host.clock.plus ((SymbolRate.ofPhy phy).spanOf assessmentSymbols) = .ok due) :
    session.pass (Rig.host phy layer advice) =
      ((session.assessedAt due).settle (Rig.host phy layer advice)
        (session.engine.confirm (session.host.script.head?.getD .idle))).map fun later =>
          (later,none) := by
  have answer : (Rig.host phy layer advice).assess session.host =
      .ok (some (session.host.script.head?.getD .idle),(session.assessedAt due).host) := by
    change Rig.assess phy session.host = _
    rw [Rig.assess,lasts]
    rfl
  have waits : session.pass (Rig.host phy layer advice) =
      { session with ccaRequested := false }.awaitAssessment (Rig.host phy layer advice) := by
    simp only [pass,undecided,request,if_true]
  rw [waits]
  simp only [awaitAssessment,answer]
  rw [except_ok_bind]
  change ((session.assessedAt due).settle (Rig.host phy layer advice)
    (session.engine.confirm (session.host.script.head?.getD .idle)) >>= _) = _
  cases (session.assessedAt due).settle (Rig.host phy layer advice)
    (session.engine.confirm (session.host.script.head?.getD .idle)) with
  | error failure => rfl
  | ok later => rfl

theorem Session.pass_fired [WordSource ρ] {layer : LayerFacts} {advice : Option UInt32}
    {timer : Timer} {reaction : Reaction ρ} {later : Session ρ Rig}
    (undecided : session.verdict = none) (request : session.ccaRequested = false)
    (noted : ∃ order, session.agenda.entries = [⟨due,order,timer⟩])
    (inRange : InClockRange due.us) (behind : session.host.clock ≤ due)
    (near : due.us - session.host.clock.us ≤ Session.longestSleep)
    (fired : session.engine.fire timer
      ((session.arriveAt phy due).surroundings (Rig.host phy layer advice)
        (session.engine.asksAdvice timer)) = .ok reaction)
    (settled : (session.arriveAt phy due).settle (Rig.host phy layer advice) reaction = .ok later)
    (accepted : reaction.result = .ok ()) :
    session.pass (Rig.host phy layer advice) = .ok (later,none) := by
  obtain ⟨order,noted⟩ := noted
  have taken : session.agenda.pop? =
      some (⟨due,order,timer⟩,{ session.agenda with entries := [] }) := by
    simp [Agenda.pop?,Agenda.first,Agenda.removeAt,noted]
  have slept := sleepUntil_exact
    { session with agenda := { session.agenda with entries := [] } } phy layer advice inRange behind near
  have waits : session.pass (Rig.host phy layer advice) =
      session.awaitTimer (Rig.host phy layer advice) := by
    simp only [pass,undecided,request,Bool.false_eq_true,if_false]
  rw [waits]
  simp only [awaitTimer,taken]
  rw [slept,except_ok_bind]
  change (session.engine.fire timer
    ((session.arriveAt phy due).surroundings (Rig.host phy layer advice)
      (session.engine.asksAdvice timer)) >>= _) = _
  rw [fired,except_ok_bind]
  change ((session.arriveAt phy due).settle (Rig.host phy layer advice) reaction >>= _) = _
  rw [settled,except_ok_bind,accepted]
  rfl

theorem Channel.assess_scripted (script : List ChannelStatus) (now : Instant) :
    (Channel.scripted script).assess now = (script.head?.getD .idle,.scripted script.tail) := by
  cases script with
  | nil => rfl
  | cons status script => rfl

namespace Undecided

theorem arrives (undecided : Undecided phy first made [] simulation session)
    (request : session.ccaRequested = false) (due : Instant) :
    Idle phy first made (simulation.arriveAt due) (session.arriveAt phy due) :=
  { undecided with
    clock := rfl
    radio := rfl
    now := rfl
    synced := rfl
    queue := rfl
    agenda := rfl
    request := request }

theorem listens [WordSource ρ]
    (undecided : Undecided phy first made [simulation.clock] simulation session)
    (agenda : session.agenda.entries = []) (due : Instant) :
    Idle phy first made ((simulation.arriveAt due).informed .assessmentDone)
      (session.assessedAt due) := by
  have answered := Channel.assess_scripted session.host.script due
  rw [← undecided.channel] at answered
  have unchanged := (simulation.arriveAt due).ccaInstants_push
    ⟨due,.ccaResult (simulation.channel.assess due).1⟩
  have began : (simulation.arriveAt due).ccaInstants =
      first.ccaInstants ++ (session.host.assessments ++ [session.host.clock]) := by
    rw [undecided.clock,← List.append_assoc]
    exact undecided.assessed
  exact { undecided with
    clock := rfl
    channel := congrArg Prod.snd answered
    assessed := by
      rw [List.append_nil]
      exact unchanged.trans ((List.append_nil _).trans began)
    now := rfl
    synced := rfl
    queue := rfl
    agenda := agenda
    request := rfl }

end Undecided

theorem Simulation.step_settles [WordSource ρ] {event : Event} {outcome : Outcome ρ Bool}
    (behind : simulation.clock ≤ due)
    (queued : ∃ order, simulation.queue.entries = [⟨due,order,event⟩])
    (stepped : simulation.step = .ok outcome) :
    ∃ reaction settled, (simulation.arriveAt due).reaction event = .ok reaction ∧
      simulation.nextCalls = reaction.calls ∧
      ((simulation.arriveAt due).informed event).settle reaction = .ok settled ∧
      outcome.simulation = settled.simulation ∧
      outcome.result = settled.result.map fun () => true := by
  rw [step_expected behind queued] at stepped
  obtain ⟨settled,handled,rfl⟩ := except_map_eq_ok.mp stepped
  rw [handle_eq] at handled
  obtain ⟨reaction,reacts,settles⟩ := except_bind_eq_ok.mp handled
  refine ⟨reaction,settled,reacts,?_,settles,rfl,rfl⟩
  rw [nextCalls_expected behind queued,reacts]
  rfl

/-- What a step that goes on leaves behind, and the pass that goes with it. -/
structure GoesOn [WordSource ρ] (phy : Phy) (first : Simulation ρ) (made : List Call)
    (session : Session ρ Rig) (left : Nat) (outcome : Outcome ρ Bool) : Prop where
  accepted : outcome.result = .ok true
  advances : ∃ next, outcome.simulation.engine.At next ∧
    outcome.simulation.engine.deliveriesLeft next < left
  passes : ∃ later, session.pass (first.rig phy) = .ok (later,none) ∧
    Expecting phy first made outcome.simulation later

theorem Idle.goesOn [WordSource ρ] {arrived : Simulation ρ} {awake : Session ρ Rig} {engine : Engine ρ}
    {stage next : Stage} {action : Action} {reaction : Reaction ρ} {settled : Outcome ρ Unit}
    {outcome : Outcome ρ Bool} (idle : Idle phy first made arrived awake) (inside : engine.At stage)
    (advances : Engine.Advances engine stage action reaction next)
    (served : reaction.Served first.advice) (brief : ∀ call ∈ reaction.calls, call.Brief)
    (settles : arrived.settle reaction = .ok settled)
    (leaves : outcome.simulation = settled.simulation)
    (result : outcome.result = settled.result.map fun () => true)
    (passes : ∀ later, awake.settle (first.rig phy) reaction = .ok later →
      session.pass (first.rig phy) = .ok (later,none)) :
    GoesOn phy first (made ++ reaction.calls) session (engine.deliveriesLeft stage) outcome := by
  obtain ⟨accepted,same,later,settles',expecting⟩ := idle.settles served (advances.able served.result)
    advances.arrives advances.calls brief settles
  rw [← leaves] at same expecting
  refine ⟨?_,⟨next,?_,?_⟩,later,passes later settles',expecting⟩
  · rw [result,accepted]
    rfl
  · rw [same]
    exact advances.arrives
  · rw [same]
    exact advances.fewer inside

/-- Advice leaves the layer of a rig as it is. -/
theorem InStep.around {requested : List Instant}
    (inStep : InStep phy first made requested simulation session) (due : Instant)
    (asksAdvice : Bool) :
    (session.arriveAt phy due).surroundings (first.rig phy) asksAdvice =
      (simulation.arriveAt due).surroundings := by
  change Surroundings.mk due { symbolsPerSecond := phy.symbolsPerSecond } first.layer first.advice =
    ⟨due,{ symbolsPerSecond := simulation.symbolsPerSecond },simulation.layer,simulation.advice⟩
  rw [inStep.rated,inStep.layer,inStep.advice]

namespace Expecting

variable [WordSource ρ]

theorem fires {stage : Stage} {kind : TimerKind} {number : UInt32} {outcome : Outcome ρ Bool}
    (undecided : Undecided phy first made [] simulation session)
    (inside : simulation.engine.At stage)
    (armed : simulation.engine.timers.armed kind = some number)
    (queued : ∃ order, simulation.queue.entries = [⟨due,order,.timer ⟨kind,number⟩⟩])
    (noted : ∃ order, session.agenda.entries = [⟨due,order,⟨kind,number⟩⟩])
    (request : session.ccaRequested = false) (inRange : InClockRange due.us)
    (behind : simulation.clock ≤ due)
    (near : due.us - simulation.clock.us ≤ Session.longestSleep)
    (brief : ∀ call ∈ simulation.nextCalls, call.Brief) (stepped : simulation.step = .ok outcome) :
    GoesOn phy first (made ++ simulation.nextCalls) session
      (simulation.engine.deliveriesLeft stage) outcome := by
  obtain ⟨reaction,settled,fired,calls,settles,leaves,result⟩ :=
    Simulation.step_settles behind queued stepped
  have awaits := inside.awaited_of_armed armed
  have running : simulation.engine.running = true :=
    inside.running.mpr fun stopped => by simp [stopped,Stage.awaited] at awaits
  have served : reaction.Served first.advice :=
    undecided.advice ▸ Engine.fire_served (SymbolRate.of_phy undecided.rated) running armed fired
  obtain ⟨next,advances⟩ := Engine.fire_advances inside armed fired
  have fired' : session.engine.fire ⟨kind,number⟩
      ((session.arriveAt phy due).surroundings (first.rig phy)
        (session.engine.asksAdvice ⟨kind,number⟩)) = .ok reaction := by
    rw [undecided.around due,undecided.engine]
    exact fired
  rw [calls] at brief ⊢
  apply (undecided.arrives request due).goesOn inside advances served brief settles leaves result
  intro later settles'
  rw [← undecided.clock] at behind near
  exact Session.pass_fired undecided.verdict request noted inRange behind near fired' settles'
    served.result

theorem confirms {stage : Stage} {outcome : Outcome ρ Bool}
    (undecided : Undecided phy first made [simulation.clock] simulation session)
    (inside : simulation.engine.At stage) (outstanding : simulation.engine.ccaOutstanding = true)
    (queued : ∃ order, simulation.queue.entries = [⟨due,order,.assessmentDone⟩])
    (agenda : session.agenda.entries = []) (request : session.ccaRequested = true)
    (behind : simulation.clock ≤ due)
    (lasts : simulation.clock.plus ((SymbolRate.ofPhy phy).spanOf assessmentSymbols) = .ok due)
    (brief : ∀ call ∈ simulation.nextCalls, call.Brief) (stepped : simulation.step = .ok outcome) :
    GoesOn phy first (made ++ simulation.nextCalls) session
      (simulation.engine.deliveriesLeft stage) outcome := by
  obtain ⟨reaction,settled,reacts,calls,settles,leaves,result⟩ :=
    Simulation.step_settles behind queued stepped
  have answered : (simulation.channel.assess due).1 = session.host.script.head?.getD .idle := by
    rw [undecided.channel,Channel.assess_scripted]
  have confirmed : reaction = simulation.engine.confirm (session.host.script.head?.getD .idle) := by
    rw [← answered]
    exact (Except.ok.inj reacts).symm
  subst confirmed
  have assessing : stage.assessing = true := inside.outstanding.symm.trans outstanding
  have running : simulation.engine.running = true :=
    inside.running.mpr fun stopped => by simp [stopped,Stage.assessing] at assessing
  have served := Engine.confirm_served (session.host.script.head?.getD .idle) first.advice
    outstanding running
  have confirmed : ∃ next, Engine.Advances simulation.engine stage
      (.assessed (session.host.script.head?.getD .idle))
      (simulation.engine.confirm (session.host.script.head?.getD .idle)) next :=
    Engine.confirm_advances inside outstanding
  obtain ⟨next,advances⟩ := confirmed
  rw [calls] at brief ⊢
  apply (undecided.listens agenda due).goesOn inside advances served brief settles leaves result
  intro later settles'
  rw [← undecided.clock] at lasts
  have passed : session.pass (first.rig phy) = _ :=
    Session.pass_assessed undecided.verdict request lasts
  rw [passed,undecided.engine]
  exact except_map_eq_ok.mpr ⟨later,settles',rfl⟩

/-- One step of the simulation is one pass of the session. -/
theorem pass {stage : Stage} {outcome : Outcome ρ Bool}
    (expecting : Expecting phy first made simulation session)
    (inside : simulation.engine.At stage)
    (going : simulation.verdicts.size = first.verdicts.size)
    (brief : ∀ call ∈ simulation.nextCalls, call.Brief) (stepped : simulation.step = .ok outcome) :
    GoesOn phy first (made ++ simulation.nextCalls) session
      (simulation.engine.deliveriesLeft stage) outcome := by
  cases expecting with
  | timer undecided armed queued noted request inRange behind near =>
    exact fires undecided inside armed queued noted request inRange behind near brief stepped
  | status undecided outstanding queued agenda request behind lasts =>
    exact confirms undecided inside outstanding queued agenda request behind lasts brief stepped
  | verdict inStep stopped given delivered =>
    rw [delivered,Array.size_push] at going
    exact absurd going (Nat.succ_ne_self _)

end Expecting

end ChannelAccess
