import ChannelAccess.Proofs.Simulation.Consecutive
import ChannelAccess.Proofs.Simulation.Headroom
import ChannelAccess.Report.Basic

/-!
The attempts of a report, one by one, with the simulation before and after each. Main statements:
`attempts_eq_ok` and `Prepared.attempted`.
-/

namespace ChannelAccess

variable {ρ : Type}

theorem Instant.earlier_self (t : Instant) : t.earlier t = t := by
  unfold Instant.earlier
  split <;> rfl

theorem Instant.later_us (t u : Instant) : (t.later u).us = max t.us u.us := by
  unfold Instant.later
  split
  · rename_i behind
    rw [Instant.le_def] at behind
    omega
  · rename_i ahead
    rw [Instant.le_def] at ahead
    omega

theorem Superframe.next_eq_ok {superframe next : Superframe} {rate : SymbolRate}
    (follows : superframe.next rate = .ok next) :
    next = { superframe with beacon := next.beacon } ∧
      superframe.beacon.plus (rate.spanOf superframe.duration) = .ok next.beacon := by
  obtain ⟨beacon,reaches,rfl⟩ := except_map_eq_ok.mp follows
  exact ⟨rfl,reaches⟩

theorem Superframe.duration_us_le (superframe : Superframe) (phy : Phy) :
    superframe.duration * phy.symbolPeriod ≤ 786432000 := by
  have order : min superframe.order.toNat 14 ≤ 14 := Nat.min_le_right _ _
  have power := Nat.pow_le_pow_right Nat.zero_lt_two order
  have symbols : superframe.duration ≤ 15728640 := by
    rw [duration,Nat.shiftLeft_eq]
    omega
  calc superframe.duration * phy.symbolPeriod
      ≤ 15728640 * 50 := Nat.mul_le_mul symbols phy.symbolPeriod_bounds.2
    _ = 786432000 := rfl

theorem Superframe.spanOf_duration (superframe : Superframe) (phy : Phy) :
    (SymbolRate.ofPhy phy).spanOf superframe.duration =
      ⟨(superframe.duration * phy.symbolPeriod : Nat)⟩ := by
  have few : superframe.duration ≤ superframe.duration * phy.symbolPeriod :=
    Nat.le_mul_of_pos_right _ (by have fast := phy.symbolPeriod_bounds.1; omega)
  have short := superframe.duration_us_le phy
  rw [SymbolRate.spanOf_ofPhy (by omega),← Int.natCast_mul]

theorem Superframe.next_us {superframe next : Superframe} {phy : Phy}
    (follows : superframe.next (.ofPhy phy) = .ok next) :
    next = { superframe with beacon := next.beacon } ∧
      next.beacon.us = superframe.beacon.us + (superframe.duration * phy.symbolPeriod : Nat) := by
  obtain ⟨same,reaches⟩ := next_eq_ok follows
  obtain ⟨_,sum⟩ := Instant.plus_eq_ok.mp reaches
  rw [superframe.spanOf_duration] at sum
  exact ⟨same,sum.symm⟩

structure Trial (ρ : Type) where
  before : Simulation ρ
  verdict : Verdict
  events : List TraceEvent
  after : Simulation ρ

namespace Trial

/-- The events begin with the start of an attempt and end with its verdict, and nothing else begins
or ends an attempt. -/
def Complete (trial : Trial ρ) (mode : Mode) : Prop :=
  ∃ told, trial.events = ⟨trial.before.clock,.started mode⟩ :: told ++
      [⟨trial.after.clock,.verdict trial.verdict⟩] ∧
    ∀ event ∈ told, event.occurrence.isMark = false

variable {trial : Trial ρ} {mode : Mode}

theorem Complete.ends (complete : trial.Complete mode) :
    trial.events.getLast? = some ⟨trial.after.clock,.verdict trial.verdict⟩ := by
  obtain ⟨told,events,_⟩ := complete
  rw [events,List.getLast?_concat]

end Trial

namespace Simulation

variable {simulation later onward last : Simulation ρ} {rate : SymbolRate} {phy : Phy}

/-- Between two attempts of a report. -/
structure Prepared (simulation : Simulation ρ) (phy : Phy) : Prop where
  rests : simulation.Rests phy
  modest : (simulation.setting (.ofPhy phy)).Modest phy
  /-- The superframes of both directions are the same. -/
  same : simulation.layer.incoming = simulation.layer.outgoing

theorem eventsSince_eq {told : List TraceEvent}
    (trace : later.trace.toList = simulation.trace.toList ++ told) :
    later.eventsSince simulation.trace.size = told := by
  have size : simulation.trace.size = simulation.trace.toList.length := rfl
  have size' : later.trace.size = later.trace.toList.length := rfl
  rw [eventsSince,Array.toList_extract,size',size,trace]
  simp

theorem Prepared.superframe (prepared : simulation.Prepared phy) (rate : SymbolRate) :
    (simulation.setting rate).superframe = simulation.layer.outgoing := by
  unfold Setting.superframe
  cases Direction.ofDestination (simulation.setting rate).layer.frame.toCoordinator with
  | incoming => exact prepared.same
  | outgoing => rfl

theorem awaitBeacon_eq (same : simulation.layer.incoming = simulation.layer.outgoing)
    (rate : SymbolRate) :
    simulation.awaitBeacon rate = (simulation.layer.outgoing.next rate).map fun next =>
      { simulation with
        layer := { simulation.layer with outgoing := next, incoming := next }
        clock := simulation.clock.later next.beacon }.tellTime := by
  rw [awaitBeacon,nextSuperframes,same]
  cases simulation.layer.outgoing.next rate with
  | error failure => rfl
  | ok next =>
    simp only [bind,Except.bind,pure,Except.pure,Except.map,advanceTo,Instant.earlier_self]

/-- The simulation as the next attempt finds it. -/
def goOn (simulation : Simulation ρ) (rate : SymbolRate) (verdict : Verdict) :
    Except Overflow (Simulation ρ) :=
  if verdict = .deferred then simulation.awaitBeacon rate else .ok simulation

theorem Prepared.goOn {verdict : Verdict} (prepared : simulation.Prepared phy)
    (goesOn : simulation.goOn (.ofPhy phy) verdict = .ok onward) :
    onward.Prepared phy ∧ onward.engine = simulation.engine ∧ onward.trace = simulation.trace ∧
      onward.ccaRequests = simulation.ccaRequests ∧
      (verdict ≠ .deferred → onward = simulation) ∧
      (verdict = .deferred →
        simulation.layer.outgoing.next (.ofPhy phy) = .ok onward.layer.outgoing ∧
        onward.clock = simulation.clock.later onward.layer.outgoing.beacon) := by
  by_cases deferred : verdict = .deferred
  · rw [Simulation.goOn,if_pos deferred,awaitBeacon_eq prepared.same] at goesOn
    obtain ⟨next,follows,rfl⟩ := except_map_eq_ok.mp goesOn
    obtain ⟨reached,sum⟩ := Instant.plus_eq_ok.mp (Superframe.next_eq_ok follows).2
    rw [sum] at reached
    have inRange : InClockRange (simulation.clock.later next.beacon).us := by
      obtain ⟨_,_⟩ := prepared.rests.inRange
      obtain ⟨_,_⟩ := reached
      rw [Instant.later_us]
      exact ⟨by omega,by omega⟩
    have modest := prepared.modest
    refine ⟨⟨?rests,?modest,rfl⟩,rfl,rfl,rfl,fun going => absurd deferred going,fun _ => ⟨follows,rfl⟩⟩
    case rests =>
      exact ⟨prepared.rests.rated,prepared.rests.valid,prepared.rests.empty,inRange,prepared.rests.few⟩
    case modest => exact ⟨modest.rate,modest.valid,modest.unit,modest.light,modest.weighty⟩
  · rw [Simulation.goOn,if_neg deferred] at goesOn
    cases goesOn
    exact ⟨prepared,rfl,rfl,rfl,fun _ => rfl,fun follows => absurd follows deferred⟩

variable [WordSource ρ]

/-- Attempt after attempt, each with the next beacon if the one before was deferred. -/
inductive Series (rate : SymbolRate) : Simulation ρ → List (Trial ρ) → Simulation ρ → Prop
  | done (simulation : Simulation ρ) : Series rate simulation [] simulation
  | next {simulation later onward last : Simulation ρ} {verdict : Verdict}
      {events : List TraceEvent} {trials : List (Trial ρ)}
      (attempted : simulation.attempt = .ok (later,.ok (verdict,events)))
      (goesOn : later.goOn rate verdict = .ok onward) (rest : Series rate onward trials last) :
      Series rate simulation (⟨simulation,verdict,events,later⟩ :: trials) last

theorem attempts_succ (rate : SymbolRate) (count : Nat) {verdict : Verdict}
    {events : List TraceEvent} (attempted : simulation.attempt = .ok (later,.ok (verdict,events))) :
    attempts rate (count + 1) simulation = (do
      let onward ← later.goOn rate verdict
      let rest ← attempts rate count onward
      return rest.map (events :: ·)) := by
  rw [attempts,attempted]
  cases verdict <;> rfl

theorem attempts_eq_ok {count : Nat} {sections : List (List TraceEvent)} :
    attempts rate count simulation = .ok (.ok sections) ↔
      ∃ trials last, simulation.Series rate trials last ∧ trials.length = count ∧
        trials.map Trial.events = sections := by
  induction count generalizing simulation sections with
  | zero =>
    constructor
    · intro ran
      cases ran
      exact ⟨[],simulation,.done simulation,rfl,rfl⟩
    · rintro ⟨trials,last,series,none,rfl⟩
      obtain rfl := List.eq_nil_of_length_eq_zero none
      rfl
  | succ count ih =>
    constructor
    · intro ran
      obtain ⟨⟨later,ending⟩,attempted,ran'⟩ := except_bind_eq_ok.mp ran
      cases ending with
      | error error => cases ran'
      | ok ending =>
        obtain ⟨verdict,events⟩ := ending
        rw [attempts_succ rate count attempted] at ran
        obtain ⟨onward,goesOn,ran⟩ := except_bind_eq_ok.mp ran
        obtain ⟨rest,more,same⟩ := except_bind_eq_ok.mp ran
        cases rest with
        | error error => cases same
        | ok rest =>
          cases same
          obtain ⟨trials,last,series,length,rfl⟩ := ih.mp more
          exact ⟨_,last,.next attempted goesOn series,congrArg (· + 1) length,rfl⟩
    · rintro ⟨trials,last,series,length,rfl⟩
      cases series with
      | done => cases length
      | @next _ later onward _ verdict events trials attempted goesOn rest =>
        have more := ih.mpr ⟨trials,last,rest,Nat.succ.inj length,rfl⟩
        rw [attempts_succ rate count attempted,goesOn,except_ok_bind,more]
        rfl

end Simulation

/-- The attempt of a trial, as the sequential algorithm has it. -/
structure Trial.Faithful [WordSource ρ] (trial : Trial ρ) (phy : Phy) : Prop where
  prepared : trial.before.Prepared phy
  kept : trial.after.Prepared phy
  within : trial.after.setting (.ofPhy phy) = trial.before.setting (.ofPhy phy)
  ran : (trial.before.setting (.ofPhy phy)).attempt trial.before.engine.carriedPeriods
    trial.before.ledger = .ok (trial.after.conclusion trial.verdict)
  concludes : trial.before.ledger.Concludes (trial.before.setting (.ofPhy phy))
    (trial.after.conclusion trial.verdict)
  trace : trial.after.trace.toList = trial.before.trace.toList ++ trial.events
  complete : trial.Complete trial.before.engine.policy.mode

namespace Simulation

variable [WordSource ρ] {simulation later onward last : Simulation ρ} {phy : Phy}

namespace Prepared

theorem attempted {result : Except AccessError (Verdict × List TraceEvent)}
    (prepared : simulation.Prepared phy) (attempted : simulation.attempt = .ok (later,result)) :
    ∃ verdict events, result = .ok (verdict,events) ∧
      (Trial.mk simulation verdict events later).Faithful phy := by
  have coupled := prepared.rests.attempt_coupled
  generalize ran : (simulation.setting (.ofPhy phy)).attempt simulation.engine.carriedPeriods
    simulation.ledger = sequential at coupled
  rw [attempted] at coupled
  cases coupled with
  | @done _ conclusion attempts =>
    obtain ⟨given,leaves,rated,within,empty⟩ := attempts
    dsimp only at given leaves rated within empty
    generalize told : conclusion.verdict = verdict at given leaves
    subst leaves
    have policy : later.engine.policy = simulation.engine.policy := congrArg Setting.policy within
    have layer : later.layer = simulation.layer := congrArg Setting.layer within
    have concludes := Setting.attempt_records prepared.modest prepared.rests.few
      prepared.rests.inRange ran
    obtain ⟨told,trace,inside⟩ := concludes.trace
    replace trace : later.trace.toList = simulation.trace.toList ++ _ := trace
    rw [eventsSince_eq trace] at given
    have rests : later.Rests phy := by
      refine ⟨rated.trans prepared.rests.rated,?_,empty,concludes.inRange,concludes.few⟩
      rw [policy]
      exact prepared.rests.valid
    have kept : later.Prepared phy := by
      refine ⟨rests,?_,?_⟩
      · rw [within]
        exact prepared.modest
      · rw [layer]
        exact prepared.same
    exact ⟨verdict,_,given,prepared,kept,within,ran,concludes,trace,told,rfl,inside⟩

end Prepared

theorem Series.faithful {trials : List (Trial ρ)} (series : simulation.Series (.ofPhy phy) trials last)
    (prepared : simulation.Prepared phy) :
    (∀ trial ∈ trials, trial.Faithful phy ∧
      trial.before.engine.policy = simulation.engine.policy) ∧
    last.trace.toList = simulation.trace.toList ++ (trials.map Trial.events).flatten := by
  induction series with
  | done simulation => simp
  | @next simulation later onward last verdict events trials attempted goesOn rest ih =>
    obtain ⟨_,_,given,faithful⟩ := prepared.attempted attempted
    cases given
    obtain ⟨ready,engine,trace,_⟩ := faithful.kept.goOn goesOn
    obtain ⟨others,ended⟩ := ih ready
    have policy : onward.engine.policy = simulation.engine.policy := by
      rw [engine]
      exact congrArg Setting.policy faithful.within
    constructor
    · intro trial member
      rcases List.mem_cons.mp member with rfl | member
      · exact ⟨faithful,rfl⟩
      · exact ⟨(others trial member).1,(others trial member).2.trans policy⟩
    · have told : later.trace.toList = simulation.trace.toList ++ events := faithful.trace
      rw [ended,trace,told,List.append_assoc]
      rfl

end Simulation

end ChannelAccess
