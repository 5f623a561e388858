import ChannelAccess.Proofs.Report.Scenarios
import ChannelAccess.Proofs.Simulation.Landing

/-!
Deferred attempts and beacons. After a deferred attempt the superframe moves on by one duration, so
the next attempt begins with a beacon only if the deferred one began before that beacon. Main
statement: `deferral_resumes`.
-/

namespace ChannelAccess

variable {ρ : Type}

/-- Microseconds from a beacon to the following one. -/
def Superframe.interval (superframe : Superframe) (phy : Phy) : Int :=
  ((SymbolRate.ofPhy phy).spanOf superframe.duration).us

theorem Superframe.nextBeaconUs_eq (superframe : Superframe) (phy : Phy) :
    superframe.nextBeaconUs phy = superframe.beacon.us + superframe.interval phy := by
  rw [nextBeaconUs,interval,spanOf_duration]

theorem Superframe.interval_pos (superframe : Superframe) (phy : Phy) : 0 < superframe.interval phy := by
  have fast := phy.symbolPeriod_bounds.1
  have power : 0 < 2 ^ min superframe.order.toNat 14 := Nat.two_pow_pos _
  have some : 0 < superframe.duration * phy.symbolPeriod := by
    apply Nat.mul_pos
    · rw [duration_eq]
      omega
    · omega
  rw [interval,spanOf_duration]
  exact Int.natCast_pos.mpr some

/-- If some beacon is due one interval after another, every earlier one is not later than that other. -/
theorem Superframe.earlier_beacon {count fewer : Nat} {interval first beacon : Int}
    (nonneg : 0 ≤ interval) (less : fewer < count)
    (following : first + count * interval = beacon + interval) : first + fewer * interval ≤ beacon := by
  have ahead : fewer * interval + interval ≤ count * interval := by
    calc fewer * interval + interval
        = (fewer + 1 : Nat) * interval := by rw [Int.natCast_succ,Int.add_mul,Int.one_mul]
      _ ≤ count * interval := Int.mul_le_mul_of_nonneg_right (by omega) nonneg
  omega

theorem Superframe.next_beacon {superframe next : Superframe} {phy : Phy}
    (follows : superframe.next (.ofPhy phy) = .ok next) :
    next = { superframe with beacon := ⟨superframe.beacon.us + superframe.interval phy⟩ } := by
  obtain ⟨same,beacon⟩ := next_us follows
  have placed : next.beacon = ⟨superframe.beacon.us + superframe.interval phy⟩ := by
    rw [interval,spanOf_duration,← beacon]
  rw [same,placed]

namespace Simulation

/-- The superframe that the next attempt is measured against. -/
def superframe (simulation : Simulation ρ) : Superframe :=
  simulation.layer.superframe (.ofDestination simulation.layer.frame.toCoordinator)

/-- The beacon that follows the superframe of the next attempt is still to come. -/
def Timely (simulation : Simulation ρ) (phy : Phy) : Prop :=
  simulation.clock.us < simulation.superframe.beacon.us + simulation.superframe.interval phy

end Simulation

/-- The attempt starts with the beacon of its superframe, and among the beacons that come every
superframe duration from the first on, that is the first one not earlier than the verdict of the
attempt before. -/
structure Trial.Resumes (next trial : Trial ρ) (first : Superframe) (phy : Phy) : Prop where
  start : next.before.clock = next.before.superframe.beacon
  beacon : ∃ count : Nat,
    next.before.superframe.beacon.us = first.beacon.us + count * first.interval phy ∧
    trial.after.clock ≤ next.before.superframe.beacon ∧
    ∀ fewer < count, first.beacon.us + fewer * first.interval phy < trial.after.clock.us

namespace Simulation

variable {simulation onward last : Simulation ρ} {rate : SymbolRate} {scenario : Scenario}
  {trial next : Trial ρ} {earlier trials : List (Trial ρ)}

/-- Between two attempts of a slotted scenario, some superframe durations after its first beacon. -/
structure Keeps (scenario : Scenario) (simulation : Simulation ρ) : Prop where
  prepared : simulation.Prepared scenario.phy
  slotted : simulation.engine.policy.mode = .slotted
  superframe : ∃ count : Nat, simulation.layer.outgoing = { scenario.superframe with
    beacon := ⟨scenario.superframe.beacon.us + count * scenario.superframe.interval scenario.phy⟩ }

theorem Keeps.superframe_eq (keeps : simulation.Keeps scenario) :
    simulation.superframe = simulation.layer.outgoing :=
  keeps.prepared.superframe (.ofPhy scenario.phy)

theorem Keeps.beacon_eq (keeps : simulation.Keeps scenario) : ∃ count : Nat,
    simulation.superframe.beacon.us =
      scenario.superframe.beacon.us + count * scenario.superframe.interval scenario.phy := by
  obtain ⟨count,same⟩ := keeps.superframe
  refine ⟨count,?_⟩
  rw [keeps.superframe_eq,same]

theorem Keeps.interval_eq (keeps : simulation.Keeps scenario) :
    simulation.superframe.interval scenario.phy = scenario.superframe.interval scenario.phy := by
  obtain ⟨count,same⟩ := keeps.superframe
  rw [keeps.superframe_eq,same]
  rfl

variable [WordSource ρ]

theorem Series.split (series : simulation.Series rate (earlier ++ trials) last) :
    ∃ middle, simulation.Series rate earlier middle ∧ middle.Series rate trials last := by
  induction earlier generalizing simulation with
  | nil => exact ⟨simulation,.done simulation,series⟩
  | cons trial earlier ih =>
    cases series with
    | next attempted goesOn rest =>
      obtain ⟨middle,before,after⟩ := ih rest
      exact ⟨middle,.next attempted goesOn before,after⟩

namespace Keeps

theorem lands (keeps : trial.before.Keeps scenario) (plain : scenario.Plain)
    (faithful : trial.Faithful scenario.phy) :
    (trial.before.setting (.ofPhy scenario.phy)).AttemptLands scenario.phy trial.before.clock
      (trial.after.conclusion trial.verdict) := by
  have slotted : trial.before.engine.policy.isSlotted = true :=
    Policy.isSlotted_eq_true.mpr keeps.slotted
  have final : trial.before.superframe.finalSlot.toNat ≤ 15 := by
    obtain ⟨count,same⟩ := keeps.superframe
    rw [keeps.superframe_eq,same]
    exact plain.finalSlot
  exact Setting.attempt_lands keeps.prepared.modest slotted final keeps.prepared.rests.few
    keeps.prepared.rests.inRange faithful.ran

theorem goOn (keeps : trial.before.Keeps scenario) (faithful : trial.Faithful scenario.phy)
    (goesOn : trial.after.goOn (.ofPhy scenario.phy) trial.verdict = .ok onward) :
    onward.Keeps scenario := by
  obtain ⟨prepared,engine,_,_,stays,follows⟩ := faithful.kept.goOn goesOn
  have layer : trial.after.layer = trial.before.layer := congrArg Setting.layer faithful.within
  have policy : trial.after.engine.policy = trial.before.engine.policy :=
    congrArg Setting.policy faithful.within
  obtain ⟨count,same⟩ := keeps.superframe
  refine ⟨prepared,?slotted,?superframe⟩
  case slotted =>
    rw [engine,policy]
    exact keeps.slotted
  case superframe =>
    by_cases deferred : trial.verdict = .deferred
    · have following := Superframe.next_beacon (follows deferred).1
      rw [layer,same] at following
      refine ⟨count + 1,following.trans ?_⟩
      have later : scenario.superframe.beacon.us +
          count * scenario.superframe.interval scenario.phy +
            scenario.superframe.interval scenario.phy =
          scenario.superframe.beacon.us +
            (count + 1 : Nat) * scenario.superframe.interval scenario.phy := by
        rw [Int.natCast_succ,Int.add_mul]
        omega
      rw [← later]
      rfl
    · rw [stays deferred,layer]
      exact ⟨count,same⟩

/-- After a deferred attempt the beacon is one superframe duration later, and the clock no earlier. -/
theorem deferred (keeps : trial.before.Keeps scenario) (faithful : trial.Faithful scenario.phy)
    (goesOn : trial.after.goOn (.ofPhy scenario.phy) trial.verdict = .ok onward)
    (defers : trial.verdict = .deferred) :
    onward.superframe.beacon.us =
        trial.before.superframe.beacon.us + trial.before.superframe.interval scenario.phy ∧
      onward.clock.us = max trial.after.clock.us onward.superframe.beacon.us := by
  obtain ⟨_,_,_,_,_,follows⟩ := faithful.kept.goOn goesOn
  have layer : trial.after.layer = trial.before.layer := congrArg Setting.layer faithful.within
  obtain ⟨following,reaches⟩ := follows defers
  rw [layer,← keeps.superframe_eq,← (keeps.goOn faithful goesOn).superframe_eq] at following
  rw [← (keeps.goOn faithful goesOn).superframe_eq] at reaches
  constructor
  · rw [Superframe.next_beacon following]
  · rw [reaches,Instant.later_us]

/-- The attempt after a deferred one resumes with a beacon if and only if the deferred one was timely.
-/
theorem resumes_iff (keeps : trial.before.Keeps scenario) (plain : scenario.Plain)
    (faithful : trial.Faithful scenario.phy)
    (goesOn : trial.after.goOn (.ofPhy scenario.phy) trial.verdict = .ok next.before)
    (defers : trial.verdict = .deferred) :
    next.Resumes trial scenario.superframe scenario.phy ↔ trial.before.Timely scenario.phy := by
  have lands := keeps.lands plain faithful
  obtain ⟨beacon,clock⟩ := keeps.deferred faithful goesOn defers
  rw [← Superframe.nextBeaconUs_eq] at beacon
  rw [Timely,← Superframe.nextBeaconUs_eq]
  constructor
  · intro resumes
    -- A late attempt ends behind the beacon that follows, and the clock does not go back to it.
    apply Int.not_le.mp
    intro late
    obtain ⟨_,passed⟩ : _ ∧ trial.before.clock.us < trial.after.clock.us := lands.late late
    have start : next.before.clock.us = _ := congrArg Instant.us resumes.start
    omega
  · intro timely
    obtain ⟨above,below⟩ := lands.deferred defers timely
    replace above : trial.before.superframe.beacon.us < trial.after.clock.us := above
    replace below : trial.after.clock.us ≤ trial.before.superframe.nextBeaconUs scenario.phy := below
    have ready := keeps.goOn faithful goesOn
    obtain ⟨count,counted⟩ := ready.beacon_eq
    have start : next.before.clock.us = next.before.superframe.beacon.us := by omega
    refine ⟨congrArg Instant.mk start,count,counted,?_,?_⟩
    · rw [Instant.le_def]
      omega
    · intro fewer less
      -- Every beacon before that one is no later than the beacon of the deferred attempt.
      have positive := scenario.superframe.interval_pos scenario.phy
      rw [counted,Superframe.nextBeaconUs_eq,keeps.interval_eq] at beacon
      exact Int.lt_of_le_of_lt
        (Superframe.earlier_beacon (Int.le_of_lt positive) less beacon) above

theorem timely (keeps : trial.before.Keeps scenario) (plain : scenario.Plain)
    (faithful : trial.Faithful scenario.phy)
    (goesOn : trial.after.goOn (.ofPhy scenario.phy) trial.verdict = .ok onward)
    (before : trial.before.Timely scenario.phy) : onward.Timely scenario.phy := by
  have lands := keeps.lands plain faithful
  have ready := keeps.goOn faithful goesOn
  have ahead := scenario.superframe.interval_pos scenario.phy
  by_cases defers : trial.verdict = .deferred
  · obtain ⟨beacon,clock⟩ := keeps.deferred faithful goesOn defers
    rw [Timely,← Superframe.nextBeaconUs_eq] at before
    obtain ⟨_,below⟩ := lands.deferred defers before
    replace below : trial.after.clock.us ≤ trial.before.superframe.nextBeaconUs scenario.phy := below
    rw [Superframe.nextBeaconUs_eq] at below
    rw [Timely,ready.interval_eq]
    omega
  · obtain ⟨_,_,_,_,stays,_⟩ := faithful.kept.goOn goesOn
    have layer : trial.after.layer = trial.before.layer := congrArg Setting.layer faithful.within
    have within : trial.after.clock.us < trial.before.superframe.nextBeaconUs scenario.phy :=
      lands.decided defers
    rw [stays defers,Timely,← Superframe.nextBeaconUs_eq,Simulation.superframe,layer]
    exact within

end Keeps

theorem Series.keeps (series : simulation.Series (.ofPhy scenario.phy) trials last)
    (plain : scenario.Plain) (keeps : simulation.Keeps scenario) :
    ∀ trial ∈ trials, trial.before.Keeps scenario ∧
      (simulation.Timely scenario.phy → trial.before.Timely scenario.phy) := by
  induction series with
  | done simulation => exact fun _ member => absurd member List.not_mem_nil
  | @next simulation later onward last verdict events trials attempted goesOn rest ih =>
    obtain ⟨_,_,given,faithful⟩ := keeps.prepared.attempted attempted
    cases given
    have ready : onward.Keeps scenario := by
      refine Keeps.goOn ?_ faithful goesOn
      exact keeps
    intro trial member
    rcases List.mem_cons.mp member with rfl | member
    · exact ⟨keeps,id⟩
    · obtain ⟨kept,timely⟩ := ih ready trial member
      refine ⟨kept,fun before => timely ?_⟩
      refine Keeps.timely ?_ plain faithful goesOn before
      exact keeps

theorem Series.head (series : simulation.Series rate (trial :: trials) last) :
    trial.before = simulation := by
  cases series
  rfl

theorem Series.goesOn {later : List (Trial ρ)}
    (series : simulation.Series rate (earlier ++ trial :: next :: later) last) :
    trial.after.goOn rate trial.verdict = .ok next.before := by
  obtain ⟨middle,_,rest⟩ := series.split
  cases rest with
  | next _ goesOn rest =>
    cases rest with
    | next => exact goesOn

end Simulation

theorem Scenario.Plain.keeps {scenario : Scenario} {engine : Engine ρ} {words : ρ}
    (plain : scenario.Plain) (slotted : scenario.policy.mode = .slotted)
    (made : Engine.new scenario.policy words = .ok engine) :
    (scenario.simulation engine).Keeps scenario := by
  obtain ⟨⟨⟩,valid,same⟩ := except_bind_eq_ok.mp made
  cases same
  refine ⟨plain.prepared made,slotted,0,?_⟩
  rw [Int.natCast_zero,Int.zero_mul,Int.add_zero]
  rfl

theorem Scenario.Plain.first_beacon {scenario : Scenario} (plain : scenario.Plain)
    (engine : Engine ρ) : (scenario.simulation engine).superframe.beacon.us = 0 := by
  have same : (scenario.simulation engine).superframe = scenario.superframe := by
    unfold Simulation.superframe
    cases Direction.ofDestination (scenario.simulation engine).layer.frame.toCoordinator <;> rfl
  rw [same,plain.beacon]
  rfl

/-- The two attempts of a report whose first section ends with a deferral. -/
theorem Scenario.Plain.defers_first [WordSource ρ] {scenario : Scenario} {words : ρ}
    {first second : List TraceEvent} {instant : Instant} (plain : scenario.Plain)
    (reported : scenario.report words = .ok (.ok ⟨scenario,[first,second]⟩))
    (ends : first.getLast? = some ⟨instant,.verdict .deferred⟩) :
    ∃ engine trial next last, Engine.new scenario.policy words = .ok engine ∧
      (scenario.simulation engine).Series (.ofPhy scenario.phy) [trial,next] last ∧
      trial.Faithful scenario.phy ∧ trial.verdict = .deferred ∧ trial.after.clock = instant := by
  obtain ⟨engine,trials,last,made,series,_,same⟩ := Scenario.report_eq_ok.mp reported
  have sections : [first,second] = trials.map Trial.events := congrArg Report.sections same
  rcases trials with _ | ⟨trial,_ | ⟨next,_ | _⟩⟩
  · cases sections
  · cases sections
  · cases sections
    obtain ⟨faithful,_⟩ := (series.faithful (plain.prepared made)).1 trial (by simp)
    have told := faithful.complete.ends
    rw [ends] at told
    obtain ⟨clock,defers⟩ : instant = trial.after.clock ∧ .deferred = trial.verdict := by
      simpa using told
    exact ⟨engine,trial,next,last,made,series,faithful,defers.symm,clock.symm⟩
  · cases sections

/-- Reports of a slotted scenario, with any number of attempts. When an attempt is deferred and another
one follows, the beacon moves on by one superframe duration, and the next attempt starts at the beacon
or, if that has passed, at the verdict. It resumes as it should, with the first beacon that is not
earlier than the verdict, if and only if the deferred attempt was timely. All are, if the first attempt
starts less than a superframe duration after its beacon. -/
theorem deferral_resumes [WordSource ρ] {scenario : Scenario} {words : ρ} {engine : Engine ρ}
    {trials : List (Trial ρ)} {last : Simulation ρ} (plain : scenario.Plain)
    (slotted : scenario.policy.mode = .slotted) (made : Engine.new scenario.policy words = .ok engine)
    (series : (scenario.simulation engine).Series (.ofPhy scenario.phy) trials last) :
    Scenario.report { scenario with attempts := trials.length } words =
      .ok (.ok ⟨{ scenario with attempts := trials.length },trials.map Trial.events⟩) ∧
    (∀ trial ∈ trials, trial.Complete .slotted) ∧
    ∀ earlier trial next later, trials = earlier ++ trial :: next :: later →
      trial.verdict = .deferred →
      next.before.superframe.beacon.us =
        trial.before.superframe.beacon.us + scenario.superframe.interval scenario.phy ∧
      next.before.clock.us = max trial.after.clock.us next.before.superframe.beacon.us ∧
      (next.Resumes trial scenario.superframe scenario.phy ↔ trial.before.Timely scenario.phy) ∧
      (scenario.start.us < scenario.superframe.interval scenario.phy →
        next.Resumes trial scenario.superframe scenario.phy) := by
  have keeps := plain.keeps slotted made
  have faithful := (series.faithful (plain.prepared made)).1
  refine ⟨?reported,?complete,?resumes⟩
  case reported =>
    apply Scenario.report_eq_ok.mpr
    exact ⟨engine,trials,last,made,series,rfl,rfl⟩
  case complete =>
    intro trial member
    obtain ⟨attempt,same⟩ := faithful trial member
    have complete := attempt.complete
    rw [same,keeps.slotted] at complete
    exact complete
  case resumes =>
    rintro earlier trial next later rfl defers
    have member : trial ∈ earlier ++ trial :: next :: later := by simp
    obtain ⟨kept,timely⟩ := series.keeps plain keeps trial member
    have attempt := (faithful trial member).1
    obtain ⟨beacon,clock⟩ := kept.deferred attempt series.goesOn defers
    have resumes := kept.resumes_iff plain attempt series.goesOn defers
    rw [kept.interval_eq] at beacon
    refine ⟨beacon,clock,resumes,?_⟩
    intro soon
    apply resumes.mpr
    apply timely
    have clock : (scenario.simulation engine).clock = scenario.start := if_pos plain.begun
    have first := plain.first_beacon engine
    rw [Simulation.Timely,keeps.interval_eq,clock,first]
    omega

/-- Two attempts that begin some time after a beacon, with superframes of 15360 µs. -/
def Scenario.joining (offset : Int) : Scenario where
  policy := { mode := .slotted }
  superframe := ⟨.zero,0,15⟩
  start := ⟨offset⟩
  attempts := 2

theorem deferral_resumes_early :
    ∃ (engine : Engine WordScript) (trial next : Trial WordScript) (last : Simulation WordScript),
      Invocation.ofArguments ["--slotted","--superframe-order","0","--beacon-offset-us","15000",
        "--attempts","2"] = .ok { scenario := .joining 15000 } ∧
      Engine.new (Scenario.joining 15000).policy (WordScript.mk [5]) = .ok engine ∧
      ((Scenario.joining 15000).simulation engine).Series (.ofPhy .oqpsk2450) [trial,next] last ∧
      trial.verdict = .deferred ∧ trial.after.clock = ⟨15360⟩ ∧
      next.Resumes trial (Scenario.joining 15000).superframe .oqpsk2450 := by
  have read : Invocation.ofArguments ["--slotted","--superframe-order","0","--beacon-offset-us","15000",
      "--attempts","2"] = .ok { scenario := .joining 15000 } := by decide +kernel
  have computed : (Scenario.joining 15000).report (WordScript.mk [5]) = .ok (.ok ⟨.joining 15000,
      [[⟨⟨15000⟩,.started .slotted⟩,⟨⟨15360⟩,.verdict .deferred⟩],
        [⟨⟨15360⟩,.started .slotted⟩,⟨⟨16960⟩,.cost 132⟩,⟨⟨16960⟩,.ccaRequested 3 0 2⟩,
          ⟨⟨17088⟩,.ccaResult .idle⟩,⟨⟨17088⟩,.ccaRequested 3 0 1⟩,⟨⟨17216⟩,.ccaResult .idle⟩,
          ⟨⟨17216⟩,.verdict .channelIdle⟩]]⟩) := by decide +kernel
  have plain : (Scenario.joining 15000).Plain := Invocation.ofArguments_plain read
  obtain ⟨engine,trial,next,last,made,series,_,defers,ends⟩ := plain.defers_first computed rfl
  obtain ⟨_,_,follows⟩ := deferral_resumes plain rfl made series
  obtain ⟨_,_,_,resumes⟩ := follows [] trial next [] rfl defers
  exact ⟨engine,trial,next,last,read,made,series,defers,ends,resumes (by decide)⟩

/-- The first attempt begins after the beacon that follows. It is deferred at once, and the second
attempt begins there and then, 4800 µs after the beacon of its superframe. -/
theorem deferral_misses_beacon :
    ∃ (engine : Engine WordScript) (trial next : Trial WordScript) (last : Simulation WordScript),
      Invocation.ofArguments ["--slotted","--superframe-order","0","--beacon-offset-us","20000",
        "--attempts","2"] = .ok { scenario := .joining 20000 } ∧
      Engine.new (Scenario.joining 20000).policy (WordScript.mk [7]) = .ok engine ∧
      ((Scenario.joining 20000).simulation engine).Series (.ofPhy .oqpsk2450) [trial,next] last ∧
      trial.verdict = .deferred ∧ trial.after.clock = ⟨20160⟩ ∧
      next.before.clock.us = 20160 ∧ next.before.superframe.beacon.us = 15360 ∧
      ¬ next.Resumes trial (Scenario.joining 20000).superframe .oqpsk2450 := by
  have read : Invocation.ofArguments ["--slotted","--superframe-order","0","--beacon-offset-us","20000",
      "--attempts","2"] = .ok { scenario := .joining 20000 } := by decide +kernel
  have computed : (Scenario.joining 20000).report (WordScript.mk [7]) = .ok (.ok ⟨.joining 20000,
      [[⟨⟨20000⟩,.started .slotted⟩,⟨⟨20160⟩,.verdict .deferred⟩],
        [⟨⟨20160⟩,.started .slotted⟩,⟨⟨22720⟩,.cost 132⟩,⟨⟨22720⟩,.ccaRequested 3 0 2⟩,
          ⟨⟨22848⟩,.ccaResult .idle⟩,⟨⟨22848⟩,.ccaRequested 3 0 1⟩,⟨⟨22976⟩,.ccaResult .idle⟩,
          ⟨⟨22976⟩,.verdict .channelIdle⟩]]⟩) := by decide +kernel
  have plain : (Scenario.joining 20000).Plain := Invocation.ofArguments_plain read
  obtain ⟨engine,trial,next,last,made,series,faithful,defers,ends⟩ := plain.defers_first computed rfl
  have keeps := plain.keeps rfl made
  rw [← series.head] at keeps
  have first := plain.first_beacon engine
  rw [← series.head] at first
  have goesOn : trial.after.goOn _ trial.verdict = .ok next.before :=
    Simulation.Series.goesOn (show Simulation.Series _ _ ([] ++ trial :: next :: []) last from series)
  obtain ⟨beacon,clock⟩ := keeps.deferred faithful goesOn defers
  have interval : (Scenario.joining 20000).superframe.interval (Scenario.joining 20000).phy = 15360 := by
    decide
  have moved : next.before.superframe.beacon.us = 15360 := by
    rw [beacon,first,keeps.interval_eq,interval]
    rfl
  have begins : next.before.clock.us = 20160 := by
    rw [clock,ends,moved]
    rfl
  refine ⟨engine,trial,next,last,read,made,series,defers,ends,begins,moved,?_⟩
  intro resumes
  have start := congrArg Instant.us resumes.start
  rw [begins,moved] at start
  exact absurd start (by decide)

end ChannelAccess
