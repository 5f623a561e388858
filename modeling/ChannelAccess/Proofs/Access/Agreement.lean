import ChannelAccess.Proofs.Access.Passes

/-!
A simulation of an attempt and an access on a test rig agree. Main statement:
`access_agrees`.
-/

namespace ChannelAccess

variable {ρ : Type} {phy : Phy} {first simulation : Simulation ρ}

namespace Simulation

/-- The rig before the attempt. -/
def idleRig (simulation : Simulation ρ) (script : List ChannelStatus) : Rig where
  clock := simulation.clock
  script

/-- The session before the engine's start. -/
def idleSession (simulation : Simulation ρ) (phy : Phy) (script : List ChannelStatus) :
    Session ρ Rig where
  engine := simulation.engine
  host := simulation.idleRig script
  agenda := { now := simulation.clock }
  radio := { symbolsPerSecond := phy.symbolsPerSecond }

theorem idleSession_idle {script : List ChannelStatus}
    (rated : simulation.symbolsPerSecond = phy.symbolsPerSecond)
    (scripted : simulation.channel = .scripted script)
    (empty : simulation.queue.entries = []) :
    Idle phy simulation [] (simulation.tellTime.record (.started simulation.engine.policy.mode))
      (simulation.idleSession phy script) := by
  have unchanged := simulation.tellTime.ccaInstants_push
    ⟨simulation.clock,.started simulation.engine.policy.mode⟩
  exact {
    engine := rfl
    clock := rfl
    rated := rated
    radio := rfl
    layer := rfl
    advice := rfl
    channel := scripted
    heard := rfl
    costs := (List.append_nil _).symm
    assessed := by
      rw [List.append_nil]
      exact unchanged
    verdict := rfl
    verdicts := rfl
    now := rfl
    synced := rfl
    queue := empty
    agenda := rfl
    request := rfl }

theorem begins {script : List ChannelStatus} {begun : Outcome ρ Unit}
    (rated : simulation.symbolsPerSecond = phy.symbolsPerSecond)
    (scripted : simulation.channel = .scripted script) (empty : simulation.queue.entries = [])
    (brief : ∀ call ∈ Reaction.callsOf (simulation.engine.start simulation.surroundings), call.Brief)
    (starts : simulation.start = .ok begun) :
    begun.result = .ok () ∧ begun.simulation.engine.At .backoffStart ∧
      begun.simulation.engine.policy = simulation.engine.policy ∧
      begun.simulation.engine.progress.backoffs = 0 ∧
      ∃ session, Session.begin simulation.engine (simulation.rig phy) (simulation.idleRig script) =
          .ok (session,none) ∧
        Expecting phy simulation
          (Reaction.callsOf (simulation.engine.start simulation.surroundings)) begun.simulation
          session := by
  obtain ⟨reaction,started,settles⟩ := except_bind_eq_ok.mp starts
  replace started : simulation.engine.start simulation.surroundings = .ok reaction := started
  have served : reaction.Served simulation.advice := Engine.start_served (SymbolRate.of_phy rated) started
  rw [started] at brief ⊢
  rcases Engine.start_cases started with refused |
    ⟨_,arrives,policy,backoffs,quiet,closing,calls,silent,closes⟩
  · rw [refused] at served
    exact absurd served.result nofun
  · have able : Stage.backoffStart ≠ .stuck := nofun
    obtain ⟨accepted,same,session,settles',expecting⟩ :=
      (idleSession_idle rated scripted empty).settles served able arrives
        ⟨quiet,closing,calls,silent,closes (.expired .backoffStart)⟩ brief settles
    rw [same]
    refine ⟨accepted,arrives,policy,backoffs,session,?_,expecting⟩
    have around : (simulation.idleSession phy script).surroundings (simulation.rig phy) false =
        simulation.surroundings := by
      change Surroundings.mk simulation.clock { symbolsPerSecond := phy.symbolsPerSecond } _ _ = _
      rw [← rated]
      rfl
    have started' : simulation.engine.start
        ((simulation.idleSession phy script).surroundings (simulation.rig phy) false) =
          .ok reaction := by
      rw [around]
      exact started
    change (simulation.engine.start
      ((simulation.idleSession phy script).surroundings (simulation.rig phy) false) >>= _) = _
    rw [started',except_ok_bind]
    change ((simulation.idleSession phy script).settle (simulation.rig phy) reaction >>= _) = _
    rw [settles',except_ok_bind,served.result]
    rfl

end Simulation

theorem Expecting.queued_one {session : Session ρ Rig} {made : List Call}
    (expecting : Expecting phy first made simulation session)
    (running : simulation.engine.running = true) :
    simulation.verdicts = first.verdicts ∧ simulation.queue.size = 1 := by
  cases expecting with
  | timer undecided armed queued =>
    obtain ⟨order,queued⟩ := queued
    exact ⟨undecided.verdicts,congrArg List.length queued⟩
  | status undecided outstanding queued =>
    obtain ⟨order,queued⟩ := queued
    exact ⟨undecided.verdicts,congrArg List.length queued⟩
  | verdict inStep stopped => exact absurd running (Bool.eq_false_iff.mp stopped)

variable [WordSource ρ]

open Simulation (verdictAfter callsUntil runUntil)

namespace Expecting

variable {session : Session ρ Rig} {made : List Call}

theorem reports (expecting : Expecting phy first made simulation session)
    (ended : simulation.verdicts.size ≠ first.verdicts.size) :
    ∃ verdict later, verdictAfter first.verdicts.size simulation = some verdict ∧
      simulation.verdicts = first.verdicts.push verdict ∧
      session.pass (first.rig phy) = .ok (later,some (.verdict verdict)) ∧
      InStep phy first made [] simulation later := by
  cases expecting with
  | timer undecided => exact absurd (congrArg Array.size undecided.verdicts) ended
  | status undecided => exact absurd (congrArg Array.size undecided.verdicts) ended
  | @verdict verdict inStep stopped given delivered =>
    refine ⟨verdict,{ session with verdict := none },?_,delivered,?_,{ inStep with }⟩
    · rw [verdictAfter,if_neg ended,delivered,Array.back?_push]
    · simp only [Session.pass,given]

/-- As many passes as events, and one to report the verdict. -/
theorem runs {bound : Nat} {stage : Stage} {ended : Outcome ρ Simulation.Ending}
    (expecting : Expecting phy first made simulation session)
    (inside : simulation.engine.At stage) (enough : simulation.engine.deliveriesLeft stage < bound)
    (brief : ∀ call ∈ callsUntil (verdictAfter first.verdicts.size) bound simulation, call.Brief)
    (ran : runUntil (verdictAfter first.verdicts.size) bound simulation = .ok ended) :
    ∃ verdict later, ended.result = .ok (.verdict verdict) ∧
      ended.simulation.verdicts = first.verdicts.push verdict ∧
      session.passes (first.rig phy) bound = .ok (later,some (.verdict verdict)) ∧
      InStep phy first (made ++ callsUntil (verdictAfter first.verdicts.size) bound simulation) []
        ended.simulation later := by
  -- On the bound. Each pass leaves fewer deliveries, and the last one needs a pass of its own.
  induction bound generalizing simulation session made stage ended with
  | zero => exact absurd enough (Nat.not_lt_zero _)
  | succ bound ih =>
    rw [Simulation.runUntil.eq_def] at ran
    by_cases going : simulation.verdicts.size = first.verdicts.size
    · have unseen : verdictAfter first.verdicts.size simulation = none := if_pos going
      simp only [unseen] at ran
      obtain ⟨⟨later,notes,result⟩,stepped,ran⟩ := except_bind_eq_ok.mp ran
      have calls : callsUntil (verdictAfter first.verdicts.size) (bound + 1) simulation =
          simulation.nextCalls ++ match result with
            | .ok true => callsUntil (verdictAfter first.verdicts.size) bound later
            | .ok false | .error _ => [] := by
        simp only [callsUntil,unseen,stepped]
        rcases result with error | (_ | _) <;> rfl
      rw [calls] at brief ⊢
      have goesOn := expecting.pass inside going
        (fun call member => brief call (List.mem_append_left _ member)) stepped
      obtain ⟨accepted,⟨next,arrives,fewer⟩,session',passed,expecting'⟩ := goesOn
      simp only at accepted
      subst accepted
      obtain ⟨rest,continued,ran⟩ := except_bind_eq_ok.mp ran
      cases ran
      obtain ⟨verdict,last,ending,told,passes,inStep⟩ := ih expecting' arrives (by omega)
        (fun call member => brief call (List.mem_append_right _ member)) continued
      refine ⟨verdict,last,ending,told,?_,?_⟩
      · rw [Session.passes,passed,except_ok_bind]
        exact passes
      · rw [← List.append_assoc]
        exact inStep
    · obtain ⟨verdict,last,seen,told,passed,inStep⟩ := expecting.reports going
      simp only [seen] at ran
      cases ran
      refine ⟨verdict,last,rfl,told,?_,?_⟩
      · rw [Session.passes,passed,except_ok_bind]
        rfl
      · simp only [callsUntil,seen,List.append_nil]
        exact inStep

end Expecting

/-- An access on a test rig ends as the simulation of the attempt does: with the same verdict at the
same instant, after assessments at the same instants, the same calls on the layer and the same draws.
-/
theorem access_agrees {script : List ChannelStatus} {begun : Outcome ρ Unit}
    {ended : Outcome ρ Simulation.Ending}
    (rated : simulation.symbolsPerSecond = phy.symbolsPerSecond)
    (scripted : simulation.channel = .scripted script) (empty : simulation.queue.entries = [])
    (starts : simulation.start = .ok begun)
    (ends : begun.simulation.runUntilVerdict = .ok ended)
    (brief : ∀ call ∈ simulation.attemptCalls, call.Brief) :
    begun.result = .ok () ∧ ∃ verdict session, ended.result = .ok (.verdict verdict) ∧
      ended.simulation.verdicts = simulation.verdicts.push verdict ∧
      simulation.engine.access (Rig.host phy simulation.layer simulation.advice)
        { clock := simulation.clock, script } = .ok (session,some (.verdict verdict)) ∧
      session.host.clock = ended.simulation.clock ∧
      ended.simulation.ccaInstants = simulation.ccaInstants ++ session.host.assessments ∧
      session.host.heard = simulation.attemptCalls.filter Call.forLayer ∧
      ended.simulation.costs.toList =
        simulation.costs.toList ++ session.host.heard.filterMap Call.cost? ∧
      session.engine = ended.simulation.engine := by
  have calls : simulation.attemptCalls =
      Reaction.callsOf (simulation.engine.start simulation.surroundings) ++
        callsUntil (verdictAfter begun.simulation.verdicts.size) begun.simulation.eventBound
          begun.simulation := by
    simp only [Simulation.attemptCalls,starts]
  rw [calls] at brief ⊢
  obtain ⟨accepted,inside,policy,backoffs,session,begins,expecting⟩ := Simulation.begins rated scripted
    empty (fun call member => brief call (List.mem_append_left _ member)) starts
  have running : begun.simulation.engine.running = true := inside.running.mpr nofun
  obtain ⟨seen,queued⟩ := expecting.queued_one running
  have bound : begun.simulation.eventBound = Session.passBound simulation.engine := by
    rw [Simulation.eventBound,Session.passBound,queued,policy,Nat.add_comm]
  have enough : begun.simulation.engine.deliveriesLeft .backoffStart <
      Session.passBound simulation.engine := by
    simp only [Engine.deliveriesLeft,reduceCtorEq,or_self,if_false,policy,backoffs,Stage.roundLeft,
      Session.passBound]
    omega
  rw [Simulation.runUntilVerdict,bound,seen] at ends
  rw [bound,seen] at brief ⊢
  obtain ⟨verdict,later,ending,told,passes,inStep⟩ := expecting.runs inside enough
    (fun call member => brief call (List.mem_append_right _ member)) ends
  refine ⟨accepted,verdict,later,ending,told,?_,inStep.clock,?_,inStep.heard,inStep.costs,
    inStep.engine⟩
  · change simulation.engine.access (simulation.rig phy) (simulation.idleRig script) = _
    rw [Engine.access,begins,except_ok_bind]
    exact passes
  · rw [inStep.assessed,List.append_nil]

/-- A slotted attempt on a channel that is idle only once and then busy. -/
def Simulation.disturbed : Simulation WordScript where
  engine := {
    policy := { mode := .slotted }
    words := ⟨[5,5]⟩
    progress := ⟨3,0,2,0,.outgoing⟩
    timers := {}
    ccaOutstanding := false
    carriedPeriods := 0
    running := false }
  layer := (Surroundings.plain 62500).layer
  symbolsPerSecond := 62500
  channel := .scripted [.idle,.busy]
  clock := ⟨1000⟩

theorem access_agrees_disturbed :
    ∃ session, Simulation.disturbed.engine.access
        (Rig.host .oqpsk2450 Simulation.disturbed.layer none)
        { clock := ⟨1000⟩, script := [.idle,.busy] } =
          .ok (session,some (.verdict .channelIdle)) ∧
      session.host.clock = ⟨4992⟩ ∧
      session.host.assessments = [⟨2880⟩,⟨3008⟩,⟨4736⟩,⟨4864⟩] := by
  obtain ⟨begun,starts,ended,ends,verdict,clock,instants⟩ :
      ∃ begun, Simulation.disturbed.start = .ok begun ∧
        ∃ ended, begun.simulation.runUntilVerdict = .ok ended ∧
          ended.result = .ok (.verdict .channelIdle) ∧ ended.simulation.clock = ⟨4992⟩ ∧
          ended.simulation.ccaInstants = [⟨2880⟩,⟨3008⟩,⟨4736⟩,⟨4864⟩] :=
    ⟨_,rfl,_,rfl,rfl,rfl,rfl⟩
  have rated : Simulation.disturbed.symbolsPerSecond = Phy.oqpsk2450.symbolsPerSecond := rfl
  obtain ⟨_,given,session,ending,_,accessed,same,assessed,_⟩ :=
    access_agrees rated rfl rfl starts ends (by decide)
  rw [verdict] at ending
  cases ending
  refine ⟨session,accessed,same.trans clock,?_⟩
  rw [instants] at assessed
  exact assessed.symm

end ChannelAccess
