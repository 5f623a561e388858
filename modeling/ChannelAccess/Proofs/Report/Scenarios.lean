import ChannelAccess.CommandLine.Basic
import ChannelAccess.Proofs.Report.Series

/-!
The scenarios that arguments can describe, and the simulations that they begin with.
-/

namespace ChannelAccess

/-- Within the limits of the options. Any policy, PHY and channel will do. -/
structure Scenario.Plain (scenario : Scenario) : Prop where
  unit : scenario.policy.backoffPeriod = 20
  octets : scenario.payloadOctets.toNat ≤ 127
  beacon : scenario.superframe.beacon = .zero
  order : scenario.superframe.order.toNat ≤ 14
  finalSlot : scenario.superframe.finalSlot.toNat ≤ 15
  begun : 0 ≤ scenario.start.us
  early : scenario.start.us < 4294967296

namespace Invocation

variable {invocation changed : Invocation}

theorem bounded_le {limit value : Nat} {text : String} (read : bounded? limit text = some value) :
    value ≤ limit := by
  obtain ⟨number,_,kept⟩ := Option.bind_eq_some_iff.mp read
  split at kept
  · cases kept
    omega
  · cases kept

theorem toNat_ofNat_le (value : Nat) : (UInt8.ofNat value).toNat ≤ value := by
  rw [UInt8.toNat_ofNat']
  exact Nat.mod_le _ _

theorem setValue_plain {name : OptionName} {value : String} (plain : invocation.scenario.Plain)
    (set : invocation.setValue? name value = some changed) : changed.scenario.Plain := by
  obtain ⟨unit,octets,beacon,order,finalSlot,begun,early⟩ := plain
  cases name with
  | minBe | maxBe | maxBackoffs | phy | seed | attempts =>
    obtain ⟨_,_,same⟩ := Option.bind_eq_some_iff.mp set
    cases same
    exact ⟨unit,octets,beacon,order,finalSlot,begun,early⟩
  | mpduOctets =>
    obtain ⟨given,read,same⟩ := Option.bind_eq_some_iff.mp set
    cases same
    have few := bounded_le read
    have kept : (UInt32.ofNat given).toNat ≤ given := by
      rw [UInt32.toNat_ofNat']
      exact Nat.mod_le _ _
    exact ⟨unit,Nat.le_trans kept few,beacon,order,finalSlot,begun,early⟩
  | superframeOrder =>
    obtain ⟨given,read,same⟩ := Option.bind_eq_some_iff.mp set
    cases same
    have low := bounded_le read
    have kept := toNat_ofNat_le given
    exact ⟨unit,octets,beacon,Nat.le_trans kept low,finalSlot,begun,early⟩
  | finalCapSlot =>
    obtain ⟨given,read,same⟩ := Option.bind_eq_some_iff.mp set
    cases same
    have low := bounded_le read
    have kept := toNat_ofNat_le given
    exact ⟨unit,octets,beacon,order,Nat.le_trans kept low,begun,early⟩
  | beaconOffsetUs =>
    obtain ⟨given,read,same⟩ := Option.bind_eq_some_iff.mp set
    cases same
    have low := bounded_le read
    exact ⟨unit,octets,beacon,order,finalSlot,Int.natCast_nonneg given,by dsimp only; omega⟩
  | channel =>
    simp only [setValue?] at set
    split at set
    · cases set
      exact ⟨unit,octets,beacon,order,finalSlot,begun,early⟩
    · cases set
  | slotted | batteryLifeExtension | ack | toCoordinator => cases set

theorem setSwitch_plain (name : OptionName) (plain : invocation.scenario.Plain) :
    (invocation.setSwitch name).scenario.Plain := by
  obtain ⟨unit,octets,beacon,order,finalSlot,begun,early⟩ := plain
  cases name <;> exact ⟨unit,octets,beacon,order,finalSlot,begun,early⟩

theorem set_plain {given : GivenOption} (plain : invocation.scenario.Plain)
    (set : invocation.set given = .ok changed) : changed.scenario.Plain := by
  unfold Invocation.set at set
  split at set
  · cases set
    exact setSwitch_plain given.name plain
  · split at set
    · rename_i value _ read
      cases set
      exact setValue_plain plain read
    · cases set

theorem foldlM_plain {given : List GivenOption} (plain : invocation.scenario.Plain)
    (read : given.foldlM Invocation.set invocation = .ok changed) : changed.scenario.Plain := by
  induction given generalizing invocation with
  | nil =>
    cases read
    exact plain
  | cons option given ih =>
    rw [List.foldlM_cons] at read
    obtain ⟨first,set,read⟩ := except_bind_eq_ok.mp read
    exact ih (set_plain plain set) read

/-- Whatever the arguments are, their scenario keeps to the limits. -/
theorem ofArguments_plain {arguments : List String} (read : ofArguments arguments = .ok invocation) :
    invocation.scenario.Plain := by
  obtain ⟨given,_,read⟩ := except_bind_eq_ok.mp read
  split at read
  · cases read
  · have initial : ({} : Invocation).scenario.Plain := by
      refine ⟨rfl,by decide,rfl,by decide,by decide,by decide,by decide⟩
    exact foldlM_plain initial read

end Invocation

namespace Scenario

variable {ρ : Type} {scenario : Scenario} {engine : Engine ρ} {words : ρ}

theorem spacing_bounds (scenario : Scenario) :
    12 ≤ scenario.frame.spacing.toNat ∧ scenario.frame.spacing.toNat ≤ 40 := by
  change 12 ≤ (UInt32.ofNat (Frame.spacingSymbols scenario.payloadOctets)).toNat ∧
    (UInt32.ofNat (Frame.spacingSymbols scenario.payloadOctets)).toNat ≤ 40
  unfold Frame.spacingSymbols
  split <;> decide

/-- The frame of a command line takes at most 1064 symbols, and the wait for its reply 120. -/
theorem Plain.transaction_bounds (plain : scenario.Plain) :
    16 < ((scenario.simulation engine).setting (.ofPhy scenario.phy)).transactionSymbols ∧
      ((scenario.simulation engine).setting (.ofPhy scenario.phy)).transactionSymbols ≤ 1240 := by
  have octets := plain.octets
  have dense : scenario.phy.symbolsPerOctet ≤ 8 := by cases scenario.phy <;> decide
  have whole : (scenario.payloadOctets.toNat + 6) * scenario.phy.symbolsPerOctet ≤ 133 * 8 :=
    Nat.mul_le_mul (by omega) dense
  have symbols : scenario.frame.symbols.toNat ≤ 1064 := by
    have kept : scenario.frame.symbols.toNat ≤
        Frame.transmissionSymbols scenario.phy scenario.payloadOctets := by
      unfold frame Frame.ofPayload
      rw [UInt32.toNat_ofNat']
      exact Nat.mod_le _ _
    rw [Frame.transmissionSymbols_eq] at kept
    omega
  obtain ⟨spaced,spacing⟩ := scenario.spacing_bounds
  have reply : (ackWaitSymbols scenario.phy).toNat ≤ 120 := by
    cases scenario.phy <;> decide
  have sum : ((scenario.simulation engine).setting (.ofPhy scenario.phy)).transactionSymbols =
      min (16 + scenario.frame.symbols.toNat + (if scenario.frame.ackRequested then
        (ackWaitSymbols scenario.phy).toNat else 24) + scenario.frame.spacing.toNat) largestWord := rfl
  rw [sum,largestWord]
  split <;> omega

theorem Plain.prepared (plain : scenario.Plain)
    (made : Engine.new scenario.policy words = .ok engine) :
    (scenario.simulation engine).Prepared scenario.phy := by
  obtain ⟨⟨⟩,valid,same⟩ := except_bind_eq_ok.mp made
  have fresh : engine.policy = scenario.policy ∧ engine.carriedPeriods = 0 := by
    cases same
    exact ⟨rfl,rfl⟩
  have clock : (scenario.simulation engine).clock = scenario.start := if_pos plain.begun
  have valid : (scenario.simulation engine).engine.policy.validate = .ok () :=
    (congrArg Policy.validate fresh.1).trans valid
  have rests : (scenario.simulation engine).Rests scenario.phy := by
    refine ⟨rfl,valid,rfl,?_,?_⟩
    · have begun := plain.begun
      have early := plain.early
      rw [clock]
      exact ⟨by omega,by omega⟩
    · change engine.carriedPeriods ≤ 255
      omega
  have unit : engine.policy.backoffPeriod = 20 := fresh.1 ▸ plain.unit
  obtain ⟨weighty,light⟩ := plain.transaction_bounds
  exact ⟨rests,⟨rfl,valid,unit,light,weighty⟩,rfl⟩

theorem report_eq_ok [WordSource ρ] {report : Report} :
    scenario.report words = .ok (.ok report) ↔ ∃ engine trials last,
      Engine.new scenario.policy words = .ok engine ∧
      (scenario.simulation engine).Series (.ofPhy scenario.phy) trials last ∧
      trials.length = scenario.attempts ∧ report = ⟨scenario,trials.map Trial.events⟩ := by
  unfold Scenario.report
  cases Engine.new scenario.policy words with
  | error error => simp
  | ok engine =>
    constructor
    · intro reported
      obtain ⟨sections,ran,same⟩ := except_bind_eq_ok.mp reported
      cases sections with
      | error error => cases same
      | ok sections =>
        cases same
        obtain ⟨trials,last,series,length,rfl⟩ := Simulation.attempts_eq_ok.mp ran
        exact ⟨engine,trials,last,rfl,series,length,rfl⟩
    · rintro ⟨_,trials,last,⟨⟩,series,length,rfl⟩
      dsimp only
      rw [Simulation.attempts_eq_ok.mpr ⟨trials,last,series,length,rfl⟩]
      rfl

end Scenario

end ChannelAccess
