import ChannelAccess.Proofs.Access.Observed
import ChannelAccess.Proofs.Access.Rig
import ChannelAccess.Proofs.Engine.Bound
import ChannelAccess.Proofs.Simulation.Calls

/-!
A simulation and a session on a test rig go in step. Between two steps both wait for the same, and
`Expecting` says for what. Main statement: `Idle.settles`, both settle a reaction alike.
-/

namespace ChannelAccess

variable {ρ : Type}

/-- One sleep covers the wait that the call asks for. -/
def Call.Brief : Call → Prop
  | .schedule _ delay => delay.us ≤ Session.longestSleep
  | .requestCca | .verdict _ | .cost _ | .askAdvice _ _ _ | .askSuperframe _ => True

instance (call : Call) : Decidable call.Brief :=
  match call with
  | .schedule _ delay => inferInstanceAs (Decidable (delay.us ≤ Session.longestSleep))
  | .requestCca | .verdict _ | .cost _ | .askAdvice _ _ _ | .askSuperframe _ => isTrue trivial

/-- The host that does for a session what a simulation does by itself. -/
def Simulation.rig (simulation : Simulation ρ) (phy : Phy) : Host Rig :=
  Rig.host phy simulation.layer simulation.advice

/-- A session has come as far as a simulation that went on from the first one. The engine has made
some calls since, and assessments have been requested that the radio has not begun. -/
structure InStep (phy : Phy) (first : Simulation ρ) (made : List Call) (requested : List Instant)
    (simulation : Simulation ρ) (session : Session ρ Rig) : Prop where
  engine : session.engine = simulation.engine
  clock : session.host.clock = simulation.clock
  rated : simulation.symbolsPerSecond = phy.symbolsPerSecond
  radio : session.radio = { symbolsPerSecond := phy.symbolsPerSecond }
  layer : simulation.layer = first.layer
  advice : simulation.advice = first.advice
  channel : simulation.channel = .scripted session.host.script
  heard : session.host.heard = made.filter Call.forLayer
  costs : simulation.costs.toList = first.costs.toList ++ session.host.heard.filterMap Call.cost?
  assessed : simulation.ccaInstants = first.ccaInstants ++ session.host.assessments ++ requested

/-- In step, and there is no verdict yet. -/
structure Undecided (phy : Phy) (first : Simulation ρ) (made : List Call)
    (requested : List Instant) (simulation : Simulation ρ) (session : Session ρ Rig) : Prop
    extends InStep phy first made requested simulation session where
  verdict : session.verdict = none
  verdicts : simulation.verdicts = first.verdicts

/-- In step, and neither has anything to wait for. -/
structure Idle (phy : Phy) (first : Simulation ρ) (made : List Call) (simulation : Simulation ρ)
    (session : Session ρ Rig) : Prop extends Undecided phy first made [] simulation session where
  now : session.agenda.now = simulation.clock
  synced : simulation.layerClock = simulation.clock
  queue : simulation.queue.entries = []
  agenda : session.agenda.entries = []
  request : session.ccaRequested = false

/-- In step, and both wait for the same. -/
inductive Expecting (phy : Phy) (first : Simulation ρ) (made : List Call)
    (simulation : Simulation ρ) (session : Session ρ Rig) : Prop
  | timer {kind : TimerKind} {number : UInt32} {due : Instant}
      (undecided : Undecided phy first made [] simulation session)
      (armed : simulation.engine.timers.armed kind = some number)
      (queued : ∃ order, simulation.queue.entries = [⟨due,order,.timer ⟨kind,number⟩⟩])
      (noted : ∃ order, session.agenda.entries = [⟨due,order,⟨kind,number⟩⟩])
      (request : session.ccaRequested = false)
      (inRange : InClockRange due.us) (behind : simulation.clock ≤ due)
      (near : due.us - simulation.clock.us ≤ Session.longestSleep)
  | status {due : Instant}
      (undecided : Undecided phy first made [simulation.clock] simulation session)
      (outstanding : simulation.engine.ccaOutstanding = true)
      (queued : ∃ order, simulation.queue.entries = [⟨due,order,.assessmentDone⟩])
      (agenda : session.agenda.entries = [])
      (request : session.ccaRequested = true) (behind : simulation.clock ≤ due)
      (lasts : simulation.clock.plus ((SymbolRate.ofPhy phy).spanOf assessmentSymbols) = .ok due)
  | verdict {verdict : Verdict} (inStep : InStep phy first made [] simulation session)
      (stopped : simulation.engine.running = false)
      (given : session.verdict = some verdict)
      (delivered : simulation.verdicts = first.verdicts.push verdict)

theorem Call.filterMap_cost_snoc (calls : List Call) (call : Call) :
    (calls ++ [call]).filterMap Call.cost? = calls.filterMap Call.cost? ++ call.cost?.toList := by
  cases told : call.cost? <;> simp [List.filterMap_append,told]

theorem Call.filter_forLayer_snoc (calls : List Call) (call : Call) :
    (calls ++ [call]).filter Call.forLayer =
      calls.filter Call.forLayer ++ if call.forLayer then [call] else [] := by
  cases layer : call.forLayer <;> simp [List.filter_append,layer]

namespace Idle

variable {phy : Phy} {first simulation : Simulation ρ} {session : Session ρ Rig} {made : List Call}

theorem takeOver (idle : Idle phy first made simulation session) (engine : Engine ρ)
    (notes : List Note) :
    Idle phy first made { simulation with engine }
      ({ session with engine }.addNotes notes) :=
  { idle with engine := rfl }

theorem hears (idle : Idle phy first made simulation session) {call : Call}
    (quiet : call.isQuiet = true)
    (asked : ∀ exponent backoffs answer, call = .askAdvice exponent backoffs answer →
      answer = first.advice) :
    ∃ later later', simulation.hear call = .ok (later,[]) ∧
      session.hear (first.rig phy) call = .ok later' ∧ later.engine = simulation.engine ∧
      Idle phy first (made ++ [call]) later later' := by
  have told := Call.filter_forLayer_snoc made call
  rw [← idle.heard] at told
  have spent := Call.filterMap_cost_snoc session.host.heard call
  cases call with
  | askAdvice exponent backoffs answer =>
    obtain rfl := asked exponent backoffs answer rfl
    have costs := idle.costs
    rw [← List.append_nil (List.filterMap _ _)] at costs
    exact ⟨_,_,rfl,rfl,rfl,
      { idle with
        heard := told.symm
        costs := costs.trans (congrArg _ spent.symm) }⟩
  | cost symbols =>
    have costs : (simulation.costs.push symbols).toList = _ := Array.toList_push
    rw [idle.costs,List.append_assoc] at costs
    have unchanged := simulation.ccaInstants_push ⟨simulation.layerClock,.cost symbols⟩
    rw [idle.assessed,List.append_nil] at unchanged
    exact ⟨_,_,rfl,rfl,rfl,
      { idle with
        heard := told.symm
        costs := costs.trans (congrArg _ spent.symm)
        assessed := unchanged }⟩
  | askSuperframe direction =>
    exact ⟨_,_,rfl,rfl,rfl,{ idle with heard := by rw [told]; simp [Call.forLayer] }⟩
  | schedule timer delay | requestCca | verdict verdict => simp [Call.isQuiet] at quiet

theorem hearsAll (idle : Idle phy first made simulation session) {calls : List Call}
    (quiet : ∀ call ∈ calls, call.isQuiet = true)
    (asked : ∀ exponent backoffs answer, .askAdvice exponent backoffs answer ∈ calls →
      answer = first.advice) :
    ∃ later later', simulation.hearAll calls = .ok (later,[]) ∧
      session.hearAll (first.rig phy) calls = .ok later' ∧ later.engine = simulation.engine ∧
      Idle phy first (made ++ calls) later later' := by
  induction calls generalizing simulation session made with
  | nil => exact ⟨_,_,rfl,rfl,rfl,(List.append_nil made).symm ▸ idle⟩
  | cons call calls ih =>
    obtain ⟨heard,heard',hearing,hearing',same,after⟩ := idle.hears
      (quiet call List.mem_cons_self) fun exponent backoffs answer asks =>
        asked exponent backoffs answer (asks ▸ List.mem_cons_self)
    obtain ⟨later,later',rest,rest',same',last⟩ := ih after
      (fun call member => quiet call (List.mem_cons_of_mem _ member))
      (fun exponent backoffs answer member =>
        asked exponent backoffs answer (List.mem_cons_of_mem _ member))
    refine ⟨later,later',?_,?_,same'.trans same,?_⟩
    · simp only [Simulation.hearAll,hearing,rest,bind,Except.bind,pure,Except.pure,List.append_nil]
    · simp only [Session.hearAll,hearing',rest',bind,Except.bind]
    · rw [List.append_assoc] at last
      exact last

theorem schedules (idle : Idle phy first made simulation session) {kind : TimerKind}
    {number : UInt32} {delay : Span} {due : Instant}
    (armed : simulation.engine.timers.armed kind = some number) (nonneg : 0 ≤ delay.us)
    (short : delay.us ≤ Session.longestSleep) (reaches : simulation.clock.plus delay = .ok due) :
    ∃ later later', simulation.hear (.schedule ⟨kind,number⟩ delay) = .ok (later,[]) ∧
      session.hear (first.rig phy) (.schedule ⟨kind,number⟩ delay) = .ok later' ∧
      later.engine = simulation.engine ∧
      Expecting phy first (made ++ [.schedule ⟨kind,number⟩ delay]) later later' := by
  obtain ⟨inRange,sum⟩ := Instant.plus_eq_ok.mp reaches
  have told := Call.filter_forLayer_snoc made (.schedule ⟨kind,number⟩ delay)
  rw [← idle.heard] at told
  have hearing : simulation.hear (.schedule ⟨kind,number⟩ delay) =
      .ok (simulation.push due (.timer ⟨kind,number⟩)) := by
    simp only [Simulation.hear,reaches]
    rfl
  have hearing' : session.hear (first.rig phy) (.schedule ⟨kind,number⟩ delay) =
      .ok { session with agenda := {
        now := session.agenda.now
        nextOrder := session.agenda.nextOrder + 1
        entries := [⟨due,session.agenda.nextOrder,⟨kind,number⟩⟩] } } := by
    simp [Session.hear,Agenda.schedule,idle.now,reaches,idle.agenda,Agenda.capacity,bind,Except.bind,
      pure,Except.pure]
  rw [Simulation.push_empty idle.queue] at hearing
  refine ⟨_,_,hearing,hearing',rfl,.timer ?_ armed ⟨_,rfl⟩ ⟨_,rfl⟩ idle.request ?_ ?_ ?_⟩
  · exact { idle with heard := by rw [told]; simp [Call.forLayer] }
  · exact sum ▸ inRange
  · change simulation.clock.us ≤ due.us
    omega
  · change due.us - simulation.clock.us ≤ Session.longestSleep
    omega

theorem requests (idle : Idle phy first made simulation session) {outcome : Outcome ρ Unit}
    (outstanding : simulation.engine.ccaOutstanding = true)
    (assessed : simulation.assess = .ok outcome) :
    outcome.result = .ok () ∧ outcome.simulation.engine = simulation.engine ∧
      Expecting phy first (made ++ [.requestCca]) outcome.simulation
        { session with ccaRequested := true } := by
  rw [Simulation.assess_eq (SymbolRate.of_phy idle.rated) idle.queue] at assessed
  obtain ⟨counted,_,assessed⟩ := except_bind_eq_ok.mp assessed
  obtain ⟨due,reaches,assessed⟩ := except_bind_eq_ok.mp assessed
  cases assessed
  have later : simulation.clock.us ≤ due.us := by
    obtain ⟨_,sum⟩ := Instant.plus_eq_ok.mp reaches
    rw [SymbolRate.spanOf_eq (SymbolRate.microseconds_inRange (by decide))] at sum
    simp only at sum
    omega
  have told := Call.filter_forLayer_snoc made .requestCca
  rw [← idle.heard] at told
  have began := simulation.ccaInstants_push ⟨simulation.clock,
    .ccaRequested simulation.engine.progress.exponent simulation.engine.progress.backoffs
      simulation.engine.progress.window⟩
  rw [idle.assessed,List.append_nil,← idle.synced] at began
  refine ⟨rfl,rfl,.status ?_ outstanding ⟨_,rfl⟩ idle.agenda rfl later reaches⟩
  exact { idle with
    heard := by rw [told]; simp [Call.forLayer]
    assessed := by
      rw [← idle.synced]
      exact began }

theorem concludes (idle : Idle phy first made simulation session) (verdict : Verdict)
    (stopped : simulation.engine.running = false) :
    ∃ later later', simulation.hear (.verdict verdict) = .ok (later,[]) ∧
      session.hear (first.rig phy) (.verdict verdict) = .ok later' ∧
      later.engine = simulation.engine ∧
      Expecting phy first (made ++ [.verdict verdict]) later later' := by
  have told := Call.filter_forLayer_snoc made (.verdict verdict)
  rw [← idle.heard] at told
  have unchanged := simulation.ccaInstants_push ⟨simulation.layerClock,.verdict verdict⟩
  rw [idle.assessed,List.append_nil] at unchanged
  have spent := Call.filterMap_cost_snoc session.host.heard (.verdict verdict)
  have costs := idle.costs
  rw [← List.append_nil (List.filterMap _ _)] at costs
  refine ⟨_,_,rfl,rfl,rfl,.verdict ?_ stopped rfl ?_⟩
  · exact { idle with
      heard := told.symm
      costs := costs.trans (congrArg _ spent.symm)
      assessed := unchanged }
  · exact congrArg (Array.push · verdict) idle.verdicts

/-- A reaction that takes the engine to its next stage is settled alike. -/
theorem settles (idle : Idle phy first made simulation session) {reaction : Reaction ρ}
    {action : Action} {next : Stage} {outcome : Outcome ρ Unit}
    (served : reaction.Served first.advice) (able : next ≠ .stuck) (arrives : reaction.engine.At next)
    (calls : ∃ quiet closing, reaction.calls = quiet ++ closing ∧
      (∀ call ∈ quiet, call.isQuiet = true) ∧ Engine.Closing reaction.engine action next closing)
    (short : ∀ call ∈ reaction.calls, call.Brief) (settled : simulation.settle reaction = .ok outcome) :
    outcome.result = .ok () ∧ outcome.simulation.engine = reaction.engine ∧
      ∃ later, session.settle (first.rig phy) reaction = .ok later ∧
        Expecting phy first (made ++ reaction.calls) outcome.simulation later := by
  obtain ⟨quiet,closing,calls,silent,closes⟩ := calls
  have asked : ∀ exponent backoffs answer, .askAdvice exponent backoffs answer ∈ quiet →
      answer = first.advice := fun exponent backoffs answer member =>
    served.asked exponent backoffs answer (calls ▸ List.mem_append_left _ member)
  have unasked : .requestCca ∉ quiet := fun member => by simpa [Call.isQuiet] using silent _ member
  obtain ⟨heard,heard',hears,hears',same,after⟩ :=
    (idle.takeOver reaction.engine reaction.notes).hearsAll silent asked
  replace same : heard.engine = reaction.engine := same
  -- All calls but the last are answered at once; the last decides what both wait for.
  cases awaits : next.awaited with
  | some kind =>
    simp only [Engine.Closing,awaits] at closes
    obtain ⟨number,delay,armed,nonneg,rfl⟩ := closes
    have brief : delay.us ≤ Session.longestSleep :=
      short (.schedule ⟨kind,number⟩ delay) (by simp [calls])
    rw [Simulation.settle_closed served.result hears calls (by simp [calls,unasked])] at settled
    obtain ⟨answered,hearing,rfl⟩ := except_map_eq_ok.mp settled
    obtain ⟨due,reaches,_⟩ := except_bind_eq_ok.mp hearing
    rw [← same] at armed
    obtain ⟨later,later',scheduled,scheduled',kept,expecting⟩ :=
      after.schedules armed nonneg brief reaches
    rw [scheduled] at hearing
    cases hearing
    refine ⟨rfl,kept.trans same,later',?_,?_⟩
    · rw [Session.settle,calls,Session.hearAll_snoc hears',scheduled']
    · rw [calls,← List.append_assoc]
      exact expecting
  | none =>
    simp only [Engine.Closing,awaits] at closes
    cases next with
    | assessment idles =>
      have requested : closing = [.requestCca] := closes
      subst requested
      rw [Simulation.settle_requested served.result hears calls] at settled
      obtain ⟨began,assessed,rfl⟩ := except_map_eq_ok.mp settled
      have outstanding : heard.engine.ccaOutstanding = true := same ▸ arrives.outstanding
      obtain ⟨accepted,kept,expecting⟩ := after.requests outstanding assessed
      refine ⟨accepted,kept.trans same,{ heard' with ccaRequested := true },?_,?_⟩
      · rw [Session.settle,calls,Session.hearAll_snoc hears']
        rfl
      · rw [calls,← List.append_assoc]
        exact expecting
    | concluded =>
      have given : closing = [.verdict action.verdict] := closes
      subst given
      rw [Simulation.settle_closed served.result hears calls (by simp [calls,unasked])] at settled
      obtain ⟨answered,hearing,rfl⟩ := except_map_eq_ok.mp settled
      have stopped : heard.engine.running = false := by
        rw [same]
        exact Bool.eq_false_iff.mpr fun running => arrives.running.mp running rfl
      obtain ⟨later,later',told,told',kept,expecting⟩ := after.concludes action.verdict stopped
      rw [told] at hearing
      cases hearing
      refine ⟨rfl,kept.trans same,later',?_,?_⟩
      · rw [Session.settle,calls,Session.hearAll_snoc hears',told']
      · rw [calls,← List.append_assoc]
        exact expecting
    | stuck => exact absurd rfl able
    | backoffStart | canProceed | ccaRequest idles | capEnd => simp [Stage.awaited] at awaits

end Idle

end ChannelAccess
