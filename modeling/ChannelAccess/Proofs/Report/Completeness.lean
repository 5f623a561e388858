import ChannelAccess.Proofs.Report.Print
import ChannelAccess.Proofs.Report.Scenarios

/-!
Reports are complete. A valid scenario of the command line has a section for each attempt, and the
sections are all that the simulation records. Main statement: `report_complete`.
-/

namespace ChannelAccess

variable {ρ : Type}

theorem Superframe.next_total {superframe : Superframe} (phy : Phy)
    (announced : 0 ≤ superframe.beacon.us) (room : superframe.beacon.us + 800000000 ≤ farthest) :
    ∃ next, superframe.next (.ofPhy phy) = .ok next := by
  have short := superframe.duration_us_le phy
  simp only [farthest] at room
  have reaches : superframe.beacon.plus ((SymbolRate.ofPhy phy).spanOf superframe.duration) =
      .ok ⟨superframe.beacon.us + (superframe.duration * phy.symbolPeriod : Nat)⟩ := by
    rw [superframe.spanOf_duration]
    exact Instant.plus_total ⟨by dsimp only; omega,by dsimp only; omega⟩
  rw [next,reaches]
  exact ⟨_,rfl⟩

namespace Simulation

variable {simulation later onward : Simulation ρ} {phy : Phy} {left : Nat}

/-- There is time for so many attempts, each with the wait for a beacon, and for their requests. -/
structure HasRoom (simulation : Simulation ρ) (left : Nat) : Prop where
  begun : 0 ≤ simulation.clock.us
  announced : 0 ≤ simulation.layer.outgoing.beacon.us
  clock : simulation.clock.us + 800000000 * left ≤ farthest
  beacon : simulation.layer.outgoing.beacon.us + 800000000 * left ≤ farthest
  requests : simulation.ccaRequests + 12 * left < 4294967296

variable [WordSource ρ]

theorem attempt_total (prepared : simulation.Prepared phy) (room : simulation.HasRoom (left + 1)) :
    ∃ later result, simulation.attempt = .ok (later,result) := by
  obtain ⟨begun,announced,clock,beacon,requests⟩ := room
  have spares : simulation.ledger.Spares 2000000 12 := by
    refine ⟨begun,?_,?_⟩
    · change simulation.clock.us + _ ≤ _
      omega
    · change simulation.ccaRequests + _ < _
      omega
  have superframe := prepared.superframe (.ofPhy phy)
  have near : (simulation.setting (.ofPhy phy)).superframe.beacon.IsNear := by
    rw [superframe]
    exact ⟨announced,by omega⟩
  have soon : (simulation.setting (.ofPhy phy)).superframe.beacon.us + 2000000 ≤ farthest := by
    rw [superframe]
    omega
  obtain ⟨conclusion,ran⟩ := prepared.modest.attempt_total prepared.rests.few near soon spares
  have coupled := prepared.rests.attempt_coupled
  rw [ran] at coupled
  generalize attempted : simulation.attempt = attempt at coupled
  cases coupled with
  | @done value _ _ => exact ⟨value.1,value.2,rfl⟩

theorem HasRoom.goOn_total {trial : Trial ρ} (room : trial.before.HasRoom (left + 1))
    (faithful : trial.Faithful phy) :
    ∃ onward, trial.after.goOn (.ofPhy phy) trial.verdict = .ok onward := by
  have layer : trial.after.layer = trial.before.layer := congrArg Setting.layer faithful.within
  have announced := room.announced
  have beacon := room.beacon
  unfold goOn
  split
  · rw [awaitBeacon_eq faithful.kept.same,layer]
    obtain ⟨next,follows⟩ := Superframe.next_total phy announced (by omega)
    rw [follows]
    exact ⟨_,rfl⟩
  · exact ⟨_,rfl⟩

theorem HasRoom.next {trial : Trial ρ} (room : trial.before.HasRoom (left + 1))
    (faithful : trial.Faithful phy)
    (goesOn : trial.after.goOn (.ofPhy phy) trial.verdict = .ok onward) : onward.HasRoom left := by
  have layer : trial.after.layer = trial.before.layer := congrArg Setting.layer faithful.within
  obtain ⟨begun,announced,clock,beacon,requests⟩ := room
  obtain ⟨_,_,_,same,stays,follows⟩ := faithful.kept.goOn goesOn
  have later : trial.before.clock.us ≤ trial.after.clock.us := faithful.concludes.onward
  have soon : trial.after.clock.us ≤ max trial.before.clock.us _ + 2000000 := faithful.concludes.soon
  have asked : trial.after.ccaRequests ≤ trial.before.ccaRequests + 12 := faithful.concludes.requests
  rw [faithful.prepared.superframe] at soon
  by_cases deferred : trial.verdict = .deferred
  · obtain ⟨next,reaches⟩ := follows deferred
    rw [layer] at next
    have ahead := (Superframe.next_us next).2
    have short := trial.before.layer.outgoing.duration_us_le phy
    have clock' : onward.clock.us = max trial.after.clock.us onward.layer.outgoing.beacon.us := by
      rw [reaches,Instant.later_us]
    exact ⟨by omega,by omega,by omega,by omega,by omega⟩
  · obtain rfl := stays deferred
    rw [← layer] at announced beacon soon
    exact ⟨by omega,announced,by omega,by omega,by omega⟩

theorem series_total {count : Nat} (prepared : simulation.Prepared phy)
    (room : simulation.HasRoom count) :
    ∃ trials last, simulation.Series (.ofPhy phy) trials last ∧ trials.length = count := by
  induction count generalizing simulation with
  | zero => exact ⟨[],simulation,.done simulation,rfl⟩
  | succ count ih =>
    obtain ⟨later,result,attempted⟩ := attempt_total prepared room
    obtain ⟨verdict,events,rfl,faithful⟩ := prepared.attempted attempted
    obtain ⟨onward,goesOn⟩ := HasRoom.goOn_total room faithful
    have ready := (faithful.kept.goOn goesOn).1
    obtain ⟨trials,last,rest,length⟩ := ih ready (HasRoom.next room faithful goesOn)
    exact ⟨_,last,.next attempted goesOn rest,congrArg (· + 1) length⟩

end Simulation

theorem Scenario.Plain.room {scenario : Scenario} (plain : scenario.Plain)
    (few : scenario.attempts ≤ 268435456) (engine : Engine ρ) :
    (scenario.simulation engine).HasRoom scenario.attempts := by
  have begun := plain.begun
  have early := plain.early
  have clock : (scenario.simulation engine).clock = scenario.start := if_pos begun
  have beacon : (scenario.simulation engine).layer.outgoing.beacon.us = 0 :=
    congrArg Instant.us plain.beacon
  have requests : (scenario.simulation engine).ccaRequests = 0 := rfl
  rw [← clock] at begun early
  refine ⟨begun,by omega,?_,?_,by omega⟩
  · simp only [farthest]
    omega
  · simp only [farthest]
    omega

/-- A scenario of the command line with a valid policy and no more than 2^28 attempts has a report,
and only an invalid policy is refused. The report prints the configuration and then, numbered from one
on, a section for each attempt, which begins with the start of the attempt, ends with its verdict and
holds no other start or verdict. The sections together are the trace of the whole simulation. What is
printed is spelled out by `Report.Prints`. -/
theorem report_complete [WordSource ρ] {scenario : Scenario} (plain : scenario.Plain)
    (few : scenario.attempts ≤ 268435456) (words : ρ) :
    (∀ error, scenario.report words = .ok (.error error) ↔ scenario.policy.validate = .error error) ∧
    (scenario.policy.validate = .ok () → ∃ engine trials last,
      Engine.new scenario.policy words = .ok engine ∧
      (scenario.simulation engine).Series (.ofPhy scenario.phy) trials last ∧
      trials.length = scenario.attempts ∧
      scenario.report words = .ok (.ok ⟨scenario,trials.map Trial.events⟩) ∧
      (∀ trial ∈ trials, trial.Complete scenario.policy.mode) ∧
      (trials.map Trial.events).flatten = last.trace.toList ∧
      ∀ colour text, (Report.mk scenario (trials.map Trial.events)).text colour = text ↔
        (Report.mk scenario (trials.map Trial.events)).Prints colour text) := by
  have reports : scenario.policy.validate = .ok () → ∃ engine trials last,
      Engine.new scenario.policy words = .ok engine ∧
      (scenario.simulation engine).Series (.ofPhy scenario.phy) trials last ∧
      trials.length = scenario.attempts ∧
      scenario.report words = .ok (.ok ⟨scenario,trials.map Trial.events⟩) := by
    intro valid
    obtain ⟨engine,made⟩ : ∃ engine, Engine.new scenario.policy words = .ok engine := by
      rw [Engine.new,valid]
      exact ⟨_,rfl⟩
    have prepared := plain.prepared made
    obtain ⟨trials,last,series,length⟩ := Simulation.series_total prepared (plain.room few engine)
    have reported := Scenario.report_eq_ok.mpr ⟨engine,trials,last,made,series,length,rfl⟩
    exact ⟨engine,trials,last,made,series,length,reported⟩
  constructor
  · intro error
    cases validated : scenario.policy.validate with
    | error refusal =>
      have refused : Engine.new scenario.policy words = .error refusal := by
        rw [Engine.new,validated]
        rfl
      rw [Scenario.report,refused]
      simp
    | ok _ =>
      obtain ⟨_,_,_,_,_,_,reported⟩ := reports validated
      rw [reported]
      simp
  · intro valid
    obtain ⟨engine,trials,last,made,series,length,reported⟩ := reports valid
    have policy : engine.policy = scenario.policy := by
      rw [Engine.new,valid] at made
      cases made
      rfl
    obtain ⟨faithful,recorded⟩ := series.faithful (plain.prepared made)
    refine ⟨engine,trials,last,made,series,length,reported,?_,?_,?_⟩
    · intro trial member
      obtain ⟨attempt,same⟩ := faithful trial member
      have complete := attempt.complete
      rw [same] at complete
      exact policy ▸ complete
    · rw [recorded]
      rfl
    · intro colour text
      rw [Report.prints_iff,eq_comm]

/-- Two attempts in CAPs of one slot, which are too short for the transaction. -/
def Scenario.crowded : Scenario where
  policy := { mode := .slotted }
  superframe := ⟨.zero,0,0⟩
  ackRequested := true
  attempts := 2

/-- The report of the two attempts, plain and in colour. -/
theorem report_complete_crowded :
    ∃ (engine : Engine WordScript) (trials : List (Trial WordScript)) (last : Simulation WordScript),
      Invocation.ofArguments ["--slotted","--superframe-order","0","--final-cap-slot=0","--ack",
        "--attempts","2"] = .ok { scenario := .crowded } ∧
      Engine.new Scenario.crowded.policy (WordScript.mk []) = .ok engine ∧
      (Scenario.crowded.simulation engine).Series (.ofPhy .oqpsk2450) trials last ∧
      trials.map Trial.events =
        [[⟨⟨0⟩,.started .slotted⟩,⟨⟨320⟩,.cost 162⟩,⟨⟨960⟩,.verdict .deferred⟩],
          [⟨⟨15360⟩,.started .slotted⟩,⟨⟨15680⟩,.cost 162⟩,⟨⟨16320⟩,.verdict .deferred⟩]] ∧
      (trials.map Trial.events).flatten = last.trace.toList ∧
      (Report.mk .crowded (trials.map Trial.events)).text false = String.join [
        "Configuration\n",
        "  mode: slotted\n",
        "  macMinBE: 3\n",
        "  macMaxBE: 5\n",
        "  macMaxCSMABackoffs: 4\n",
        "  unit backoff period: 20 symbols\n",
        "  battery life extension: off\n",
        "  phy: Oqpsk2450 (62500 symbols/s)\n",
        "  frame: 20 octets, 52 symbols, ack requested\n",
        "  superframe: SO 0, final CAP slot 0, beacon at 0.000ms\n",
        "Attempt 1\n",
        "  0.000ms started (slotted)\n",
        "  0.320ms transaction needs 162 symbols\n",
        "  0.960ms verdict: deferred\n",
        "Attempt 2\n",
        "  15.360ms started (slotted)\n",
        "  15.680ms transaction needs 162 symbols\n",
        "  16.320ms verdict: deferred\n"] ∧
      (Report.mk .crowded (trials.map Trial.events)).text true = String.join [
        "\x1b[1;4mConfiguration\x1b[0m\n",
        "  \x1b[1mmode\x1b[0m: slotted\n",
        "  \x1b[1mmacMinBE\x1b[0m: 3\n",
        "  \x1b[1mmacMaxBE\x1b[0m: 5\n",
        "  \x1b[1mmacMaxCSMABackoffs\x1b[0m: 4\n",
        "  \x1b[1munit backoff period\x1b[0m: 20 symbols\n",
        "  \x1b[1mbattery life extension\x1b[0m: off\n",
        "  \x1b[1mphy\x1b[0m: Oqpsk2450 (62500 symbols/s)\n",
        "  \x1b[1mframe\x1b[0m: 20 octets, 52 symbols, ack requested\n",
        "  \x1b[1msuperframe\x1b[0m: SO 0, final CAP slot 0, beacon at 0.000ms\n",
        "\x1b[1;4mAttempt 1\x1b[0m\n",
        "  \x1b[2m0.000ms\x1b[0m started (slotted)\n",
        "  \x1b[2m0.320ms\x1b[0m transaction needs 162 symbols\n",
        "  \x1b[2m0.960ms\x1b[0m \x1b[1;94mverdict: deferred\x1b[0m\n",
        "\x1b[1;4mAttempt 2\x1b[0m\n",
        "  \x1b[2m15.360ms\x1b[0m started (slotted)\n",
        "  \x1b[2m15.680ms\x1b[0m transaction needs 162 symbols\n",
        "  \x1b[2m16.320ms\x1b[0m \x1b[1;94mverdict: deferred\x1b[0m\n"] ∧
      ∀ colour, (Report.mk .crowded (trials.map Trial.events)).Prints colour
        ((Report.mk .crowded (trials.map Trial.events)).text colour) := by
  have read : Invocation.ofArguments ["--slotted","--superframe-order","0","--final-cap-slot=0","--ack",
      "--attempts","2"] = .ok { scenario := .crowded } := by decide +kernel
  have computed : Scenario.crowded.report (WordScript.mk []) = .ok (.ok ⟨.crowded,
      [[⟨⟨0⟩,.started .slotted⟩,⟨⟨320⟩,.cost 162⟩,⟨⟨960⟩,.verdict .deferred⟩],
        [⟨⟨15360⟩,.started .slotted⟩,⟨⟨15680⟩,.cost 162⟩,⟨⟨16320⟩,.verdict .deferred⟩]]⟩) := by
    decide +kernel
  have plain : Scenario.crowded.Plain := Invocation.ofArguments_plain read
  obtain ⟨engine,trials,last,made,series,_,reported,_,whole,printed⟩ :=
    (report_complete plain (by decide) (WordScript.mk [])).2 rfl
  have sections := reported.symm.trans computed
  simp only [Except.ok.injEq,Report.mk.injEq,true_and] at sections
  refine ⟨engine,trials,last,read,made,series,sections,whole,?plain,?coloured,
    fun colour => (printed colour _).mp rfl⟩
  case plain =>
    rw [sections]
    decide +kernel
  case coloured =>
    rw [sections]
    decide +kernel

end ChannelAccess
