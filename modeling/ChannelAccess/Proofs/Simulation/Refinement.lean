import ChannelAccess.Proofs.Engine.Counters
import ChannelAccess.Proofs.Simulation.Rounds

/-!
A simulation of an attempt computes what the sequential algorithm computes. Main statement:
`attempt_eq_sequential`.
-/

namespace ChannelAccess

variable {ρ : Type}

namespace Setting

/-- How long an attempt waits before its first round. -/
def firstWait (setting : Setting) (now : Instant) : Except Overflow Span :=
  if setting.policy.isSlotted then
    setting.superframe.timeToBoundary now setting.policy.backoffPeriod.toNat setting.rate
  else .ok .zero

theorem firstWait_nonneg {simulation : Simulation ρ} {phy : Phy} {wait : Span}
    (computed : (simulation.setting (.ofPhy phy)).firstWait simulation.clock = .ok wait) :
    0 ≤ wait.us := by
  unfold firstWait at computed
  split at computed
  · exact Superframe.timeToBoundary_nonneg computed
  · cases computed
    exact Int.le_refl 0

theorem attempt_eq [WordSource ρ] (setting : Setting) (carriedPeriods : Nat) (ledger : Ledger ρ)
    (inRange : InClockRange ledger.clock.us) :
    setting.attempt carriedPeriods ledger = (do
      let wait ← setting.firstWait ledger.clock
      (ledger.record (.started setting.policy.mode)).wait wait) >>=
        setting.rounds setting.policy.initialExponent.toNat 0
          (if setting.policy.isSlotted then carriedPeriods else 0) := by
  cases slotted : setting.policy.isSlotted with
  | true =>
    simp only [attempt,firstWait,slotted,if_true,bind_assoc]
    rfl
  | false =>
    have unmoved : (ledger.record (.started setting.policy.mode)).wait .zero =
        .ok (ledger.record (.started setting.policy.mode)) := Ledger.wait_zero inRange
    simp only [attempt,firstWait,slotted,Bool.false_eq_true,if_false]
    rw [except_ok_bind,unmoved,except_ok_bind]

end Setting

namespace Simulation

theorem begun_begins {simulation : Simulation ρ} {rate : SymbolRate}
    (low : simulation.engine.policy.initialExponent.toNat ≤ 8)
    (word : simulation.engine.carriedPeriods < 4294967296)
    (exactly : simulation.engine.policy.mode = .slotted → InClockRange (rate.microseconds
      (simulation.engine.carriedPeriods * simulation.engine.policy.backoffPeriod.toNat))) :
    (simulation.setting rate).Begins
      (simulation.engine.begun (.ofDestination simulation.layer.frame.toCoordinator)).progress
      (if simulation.engine.policy.isSlotted then simulation.engine.carriedPeriods else 0) := by
  cases mode : simulation.engine.policy.mode with
  | slotted =>
    have slotted := Policy.isSlotted_eq_true.mpr mode
    rw [if_pos slotted]
    exact ⟨low,rfl,rfl,fun _ => if_pos slotted,word,exactly mode⟩
  | unslotted =>
    have plain := Policy.isSlotted_eq_false.mpr mode
    rw [plain,if_neg Bool.false_ne_true]
    exact ⟨low,rfl,rfl,fun slotted => absurd slotted (ne_true_of_eq_false plain),by decide,
      (simulation.setting rate).zero_exactly⟩

theorem start_coupled [WordSource ρ] {simulation : Simulation ρ} {phy : Phy}
    (rated : simulation.symbolsPerSecond = phy.symbolsPerSecond)
    (empty : simulation.queue.entries = []) (inRange : InClockRange simulation.clock.us) :
    Coupled (fun outcome later => outcome.result = .ok () ∧
        outcome.simulation.ExpectsTimer (simulation.setting (.ofPhy phy)) simulation.verdicts.size
          (simulation.engine.begun (.ofDestination simulation.layer.frame.toCoordinator)).progress
          .backoffStart later)
      simulation.start
      (do
        let wait ← (simulation.setting (.ofPhy phy)).firstWait simulation.clock
        (simulation.ledger.record (.started simulation.engine.policy.mode)).wait wait) := by
  have rate := SymbolRate.of_phy rated
  have around : SymbolRate.of
      (simulation.tellTime.record
        (.started simulation.engine.policy.mode)).surroundings.radio.symbolsPerSecond =
          .ok (.ofPhy phy) := rate
  have waits : (simulation.tellTime.record (.started simulation.engine.policy.mode)).engine.firstWait
      (simulation.tellTime.record (.started simulation.engine.policy.mode)).surroundings (.ofPhy phy) =
        (simulation.setting (.ofPhy phy)).firstWait simulation.clock := rfl
  rw [start,Engine.start_eq around,waits]
  cases computed : (simulation.setting (.ofPhy phy)).firstWait simulation.clock with
  | error failure => exact .overflow failure
  | ok wait =>
    rw [except_ok_map_bind,except_ok_bind]
    refine waitFor_coupled (hearAll_looks _ _) (Engine.looks_request_nothing _) ?_
      (Setting.firstWait_nonneg computed) rfl ?_
    · exact empty
    · exact ⟨rfl,rfl,rate,rfl,rfl,rfl,inRange,rfl⟩

end Simulation

/-- What a run leaves behind, if it ends with a verdict. -/
def Outcome.conclusion? (outcome : Outcome ρ Simulation.Ending) : Option (Conclusion ρ) :=
  match outcome.result with
  | .ok (.verdict verdict) => some (outcome.simulation.conclusion verdict)
  | .ok .idle | .ok .unfinished | .error _ => none

/-- A simulation of an attempt ends with the verdict of the sequential algorithm, at its instant,
with its trace, costs, assessments, random words and left over periods, and overflows where it does.
-/
theorem attempt_eq_sequential [WordSource ρ] {simulation : Simulation ρ} {phy : Phy}
    (rated : simulation.symbolsPerSecond = phy.symbolsPerSecond)
    (valid : simulation.engine.policy.validate = .ok ()) (empty : simulation.queue.entries = [])
    (inRange : InClockRange simulation.clock.us)
    (word : simulation.engine.carriedPeriods < 4294967296)
    (exactly : simulation.engine.policy.mode = .slotted →
      InClockRange ((SymbolRate.ofPhy phy).microseconds
        (simulation.engine.carriedPeriods * simulation.engine.policy.backoffPeriod.toNat))) :
    (do
      let started ← simulation.start
      let outcome ← started.simulation.runUntilVerdict
      return (started.result,outcome.conclusion?)) =
    ((simulation.setting (.ofPhy phy)).attempt simulation.engine.carriedPeriods
      simulation.ledger).map fun conclusion => (.ok (),some conclusion) := by
  obtain ⟨slow,low⟩ := Policy.exponents_le valid
  rw [Setting.attempt_eq _ _ _ inRange]
  apply Coupled.eq_map
  apply (Simulation.start_coupled rated empty inRange).bind
  rintro ⟨started,notes,result⟩ ledger ⟨rfl,expected⟩
  apply Coupled.bind_left
  have seen : started.verdicts.size = simulation.verdicts.size := by
    obtain ⟨number,armed,expects⟩ := expected
    exact expects.stands.verdicts
  have bound : started.eventBound = 1 + 6 * (simulation.engine.policy.maxBackoffs.toNat + 1) := by
    obtain ⟨number,armed,expects⟩ := expected
    obtain ⟨order,queued⟩ := expects.queued
    have policy : started.engine.policy = simulation.engine.policy := expects.stands.policy
    rw [Simulation.eventBound,EventQueue.size,queued,policy]
    rfl
  rw [Simulation.runUntilVerdict,bound,seen]
  have simulated := Simulation.simulates (simulation.setting (.ofPhy phy)) slow _ (Nat.zero_add _)
    (Nat.le_add_left _ 1) expected (Simulation.begun_begins low word exactly) rfl
  apply simulated.mono
  rintro outcome conclusion ⟨ending,leaves⟩
  rw [Outcome.conclusion?,ending]
  exact congrArg (fun conclusion => (_,some conclusion)) leaves

theorem concluded_of_map {result : Except AccessError Unit} {conclusion : Conclusion ρ}
    {attempt : Except Overflow (Conclusion ρ)}
    (same : .ok (result,some conclusion) = attempt.map fun conclusion => (.ok (),some conclusion)) :
    attempt = .ok conclusion := by
  obtain ⟨other,attempted,equal⟩ := except_map_eq_ok.mp same.symm
  cases equal
  exact attempted

/-- A slotted attempt that resumes seven periods shortly before the end of the CAP. -/
def Simulation.late : Simulation WordScript where
  engine := {
    policy := { mode := .slotted }
    words := ⟨[5]⟩
    progress := ⟨3,0,2,0,.outgoing⟩
    timers := {}
    ccaOutstanding := false
    carriedPeriods := 7
    running := false }
  layer := (Surroundings.plain 62500).layer
  symbolsPerSecond := 62500
  channel := .idle
  clock := ⟨14000⟩

/-- A slotted attempt that draws both its backoffs, since the channel is busy when it is assessed for
the second time. -/
def Simulation.drawing : Simulation WordScript :=
  { Simulation.late with
    engine := { Simulation.late.engine with words := ⟨[5,11]⟩, carriedPeriods := 0 }
    channel := .scripted [.idle,.busy]
    clock := ⟨1000⟩ }

/-- Four of the seven periods fit, and the next attempt has to resume three. The other attempt goes
round again after the busy assessment. -/
theorem attempt_eq_sequential_late :
    (∃ conclusion, (Simulation.late.setting (.ofPhy .oqpsk2450)).attempt 7 Simulation.late.ledger =
        .ok conclusion ∧
      conclusion.verdict = .deferred ∧ conclusion.clock = ⟨15360⟩ ∧ conclusion.carriedPeriods = 3) ∧
    ∃ conclusion, (Simulation.drawing.setting (.ofPhy .oqpsk2450)).attempt 0
        Simulation.drawing.ledger = .ok conclusion ∧
      conclusion.verdict = .channelIdle ∧ conclusion.clock = ⟨6912⟩ ∧ conclusion.ccaRequests = 4 ∧
      conclusion.words = ⟨[]⟩ ∧ conclusion.costs = #[132,132] ∧ conclusion.carriedPeriods = 0 := by
  constructor
  · have rated : Simulation.late.symbolsPerSecond = Phy.oqpsk2450.symbolsPerSecond := rfl
    have same := attempt_eq_sequential rated rfl rfl (by decide) (by decide) fun _ => by decide
    obtain ⟨conclusion,ran,result⟩ : ∃ conclusion, (do
          let started ← Simulation.late.start
          let outcome ← started.simulation.runUntilVerdict
          return (started.result,outcome.conclusion?)) = .ok (.ok (),some conclusion) ∧
        conclusion.verdict = .deferred ∧ conclusion.clock = ⟨15360⟩ ∧
        conclusion.carriedPeriods = 3 := ⟨_,rfl,rfl,rfl,rfl⟩
    rw [ran] at same
    exact ⟨conclusion,concluded_of_map same,result⟩
  · have rated : Simulation.drawing.symbolsPerSecond = Phy.oqpsk2450.symbolsPerSecond := rfl
    have same := attempt_eq_sequential rated rfl rfl (by decide) (by decide) fun _ => by decide
    obtain ⟨conclusion,ran,result⟩ : ∃ conclusion, (do
          let started ← Simulation.drawing.start
          let outcome ← started.simulation.runUntilVerdict
          return (started.result,outcome.conclusion?)) = .ok (.ok (),some conclusion) ∧
        conclusion.verdict = .channelIdle ∧ conclusion.clock = ⟨6912⟩ ∧ conclusion.ccaRequests = 4 ∧
        conclusion.words = ⟨[]⟩ ∧ conclusion.costs = #[132,132] ∧ conclusion.carriedPeriods = 0 :=
      ⟨_,rfl,rfl,rfl,rfl,rfl,rfl,rfl⟩
    rw [ran] at same
    exact ⟨conclusion,concluded_of_map same,result⟩

end ChannelAccess
