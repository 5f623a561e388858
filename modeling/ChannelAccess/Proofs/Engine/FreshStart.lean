import ChannelAccess.Proofs.Engine.Renumbering
import ChannelAccess.Proofs.Engine.Tallies

/-!
An engine that carries no periods over starts an attempt just as a new engine does, whatever it went
through before: from then on only the numbers of timers tell the two apart. Main statement:
`start_forgets`.
-/

namespace ChannelAccess

variable {ρ : Type}

/-- What can be read off an engine. -/
structure View where
  policy : Policy
  exponent : Nat
  backoffs : Nat
  window : Nat
  periodsLeft : Nat
  running : Bool
  ccaOutstanding : Bool
  deriving DecidableEq

def Engine.view (engine : Engine ρ) : View where
  policy := engine.policy
  exponent := engine.progress.exponent
  backoffs := engine.progress.backoffs
  window := engine.progress.window
  periodsLeft := engine.progress.periodsLeft
  running := engine.running
  ccaOutstanding := engine.ccaOutstanding

def Call.unnumbered : Call → Call
  | .schedule timer delay => .schedule ⟨timer.kind,0⟩ delay
  | .requestCca => .requestCca
  | .verdict given => .verdict given
  | .cost symbols => .cost symbols
  | .askAdvice exponent backoffs answer => .askAdvice exponent backoffs answer
  | .askSuperframe direction => .askSuperframe direction

def Call.timer? : Call → Option Timer
  | .schedule timer _ => some timer
  | .requestCca | .verdict _ | .cost _ | .askAdvice _ _ _ | .askSuperframe _ => none

/-- What an operation shows of itself. The numbers of timers are left out. -/
structure Sight where
  result : Except AccessError Unit
  calls : List Call
  notes : List Note
  view : View

namespace Reaction

def sight (reaction : Reaction ρ) : Sight where
  result := reaction.result
  calls := reaction.calls.map Call.unnumbered
  notes := reaction.notes
  view := reaction.engine.view

def issued (reaction : Reaction ρ) : List Timer := reaction.calls.filterMap Call.timer?

end Reaction

/-- An operation that names a timer by its place among those handed out. -/
inductive Errand where
  | start (around : Surroundings)
  | fire (place : Nat) (around : Surroundings)
  | confirm (status : ChannelStatus)
  | cancel
  | setPolicy (policy : Policy)
  | setMode (mode : Mode)

def Errand.operation? (issued : List Timer) : Errand → Option Operation
  | .start around => some (.start around)
  | .fire place around => issued[place]?.map fun timer => .fire timer around
  | .confirm status => some (.confirm status)
  | .cancel => some .cancel
  | .setPolicy policy => some (.setPolicy policy)
  | .setMode mode => some (.setMode mode)

/-- All that the operations show, one after the other, up to an overflow. A timer that was not handed
out yet is left alone. -/
def Engine.transcript [WordSource ρ] (engine : Engine ρ) (issued : List Timer) :
    List Errand → List (Except Overflow Sight)
  | [] => []
  | errand :: errands =>
    match errand.operation? issued with
    | none => engine.transcript issued errands
    | some operation =>
      match engine.perform operation with
      | .error overflow => [.error overflow]
      | .ok reaction =>
        .ok reaction.sight :: reaction.engine.transcript (issued ++ reaction.issued) errands

section

variable (distance : UInt32)

theorem Call.unnumbered_renumber (call : Call) : (call.renumber distance).unnumbered = call.unnumbered := by
  cases call <;> rfl

theorem Call.timer?_renumber (call : Call) :
    (call.renumber distance).timer? = call.timer?.map (Timer.renumber distance) := by
  cases call <;> rfl

namespace Reaction

variable (reaction : Reaction ρ)

theorem sight_renumber : (reaction.renumber distance).sight = reaction.sight := by
  have calls : (reaction.calls.map (Call.renumber distance)).map Call.unnumbered =
      reaction.calls.map Call.unnumbered := by
    rw [List.map_map]
    exact List.map_congr_left fun call _ => call.unnumbered_renumber distance
  simp only [sight,renumber,calls]
  rfl

theorem issued_renumber :
    (reaction.renumber distance).issued = reaction.issued.map (Timer.renumber distance) := by
  rw [issued,renumber,List.filterMap_map,issued,List.map_filterMap]
  congr 1
  funext call
  exact call.timer?_renumber distance

end Reaction

theorem Errand.operation?_renumber (issued : List Timer) (errand : Errand) :
    errand.operation? (issued.map (Timer.renumber distance)) =
      (errand.operation? issued).map (Operation.renumber distance) := by
  cases errand with
  | fire place around =>
    rw [operation?,operation?,List.getElem?_map]
    cases issued[place]? <;> rfl
  | _ => rfl

/-- Engines whose timers are numbered otherwise show the same from then on. -/
theorem Engine.transcript_renumber [WordSource ρ] (engine : Engine ρ) (issued : List Timer)
    (errands : List Errand) :
    (engine.renumber distance).transcript (issued.map (Timer.renumber distance)) errands =
      engine.transcript issued errands := by
  -- On the errands. Both lists of timers grow alike, so a place names the same timer in both.
  induction errands generalizing engine issued with
  | nil => rfl
  | cons errand errands ih =>
    rw [transcript,transcript,errand.operation?_renumber distance]
    cases errand.operation? issued with
    | none => exact ih engine issued
    | some operation =>
      simp only [Option.map_some]
      rw [engine.perform_renumber distance]
      cases engine.perform operation with
      | error failure => rfl
      | ok reaction =>
        simp only [Except.map]
        rw [reaction.sight_renumber,reaction.issued_renumber,← List.map_append]
        exact congrArg _ (ih reaction.engine (issued ++ reaction.issued))

end

/-- The deed leaves no periods to the next attempt. -/
def Deed.Clears (deed : Deed ρ) : Prop :=
  deed.operation = .cancel ∨ .channelIdle ∈ deed.reaction.verdicts ∨
    .accessFailure ∈ deed.reaction.verdicts ∨
    ((∃ policy, deed.operation = .setPolicy policy) ∨ ∃ mode, deed.operation = .setMode mode) ∧
      deed.reaction.result = .ok ()

/-- A start and the start of a new engine, which only the numbers of timers and a warning tell apart
unless both are refused. -/
structure Indistinct [WordSource ρ] (engine fresh : Engine ρ) (started other : Reaction ρ) : Prop where
  result : started.result = other.result
  calls : started.calls.map Call.unnumbered = other.calls.map Call.unnumbered
  notes : started.notes = other.notes ∨ started.notes = .restarted :: other.notes
  accepted : started.result = .ok () → started.engine.view = other.engine.view ∧
    ∀ errands, started.engine.transcript started.issued errands =
      other.engine.transcript other.issued errands
  refused : started.result ≠ .ok () → started.engine = engine ∧ other.engine = fresh

theorem Run.of_nil [WordSource ρ] {first last : Engine ρ} (run : Run first [] last) :
    last = first := by
  generalize none : ([] : List (Deed ρ)) = deeds at run
  cases run with
  | start => rfl
  | step before performed => simp at none

namespace Engine

theorem change_carried {engine : Engine ρ} {policy : Policy}
    (accepted : (engine.change (engine.setPolicy policy)).result = .ok ()) :
    (engine.change (engine.setPolicy policy)).engine.carriedPeriods = 0 := by
  cases made : engine.setPolicy policy with
  | error error =>
    rw [made] at accepted
    cases accepted
  | ok changed =>
    obtain ⟨_,_,rfl⟩ := setPolicy_eq_ok.mp made
    rfl

theorem new_fresh {engine : Engine ρ} (valid : engine.policy.validate = .ok ()) :
    ∃ fresh, Engine.new engine.policy engine.words = .ok fresh := by
  simp [Engine.new,valid,bind,Except.bind,pure,Except.pure]

variable [WordSource ρ]

theorem Reacts.carried {engine : Engine ρ} {stage next : Stage} {operation : Operation}
    {reaction : Reaction ρ} (reacts : engine.Reacts stage operation reaction next)
    (ends : next = .concluded) (undeferred : .deferred ∉ reaction.verdicts) :
    reaction.engine.carriedPeriods = 0 := by
  cases reacts with
  | granted => rfl
  | fails => rfl
  | capEnds => simp [Reaction.verdicts,Call.verdict?] at undeferred
  | _ => cases ends

theorem carried_of_clears {engine : Engine ρ} {stage : Stage} {operation : Operation}
    {reaction : Reaction ρ} (inside : engine.At stage)
    (performed : engine.perform operation = .ok reaction)
    (clears : (Deed.mk engine operation reaction).Clears) : reaction.engine.carriedPeriods = 0 := by
  have granted_or_failed : ∀ verdict ∈ reaction.verdicts, verdict ≠ .deferred →
      reaction.engine.carriedPeriods = 0 := by
    intro verdict given undeferred
    cases perform_effect inside performed with
    | ignored unheard same silent fruitless unrefused => simp [Reaction.verdicts,silent] at given
    | advanced accepted advances =>
      have gives := advances.verdicts
      split at gives
      · rename_i ends
        rw [gives,List.mem_singleton] at given
        refine (advances.reacts inside accepted performed).carried ends ?_
        rw [gives,List.mem_singleton,← given]
        exact undeferred.symm
      · simp [gives] at given
    | begun starts succeeds arrives policy =>
      subst starts
      rw [(Since.start performed succeeds).2] at given
      cases given
    | cancelled cancels abandoned => simp [Reaction.verdicts,abandoned] at given
    | reconfigured configures idle valid changed => simp [Reaction.verdicts,changed] at given
  rcases clears with cancels | granted | failed | ⟨⟨policy,configures⟩ | ⟨mode,configures⟩,accepted⟩
  · subst cancels
    cases performed
    rfl
  · exact granted_or_failed .channelIdle granted (by simp)
  · exact granted_or_failed .accessFailure failed (by simp)
  · subst configures
    cases performed
    exact change_carried accepted
  · subst configures
    cases performed
    exact change_carried accepted

omit [WordSource ρ] in
theorem begun_eq_fresh {engine fresh : Engine ρ} (empty : engine.carriedPeriods = 0)
    (made : Engine.new engine.policy engine.words = .ok fresh) (direction : Direction) :
    engine.begun direction = (fresh.begun direction).renumber engine.timers.nextNumber := by
  obtain ⟨_,_,same⟩ := except_bind_eq_ok.mp made
  cases same
  simp [begun,cancel,renumber,TimerTable.disarmAll,TimerTable.renumber,empty]

omit [WordSource ρ] in
theorem start_eq_fresh {engine fresh : Engine ρ} {around : Surroundings} {rate : SymbolRate}
    (empty : engine.carriedPeriods = 0) (made : Engine.new engine.policy engine.words = .ok fresh)
    (rated : SymbolRate.of around.radio.symbolsPerSecond = .ok rate) :
    engine.start around = (fresh.start around).map fun other =>
      { other.renumber engine.timers.nextNumber with
        notes := (if engine.running then [Note.restarted] else []) ++ other.notes } := by
  obtain ⟨inside,_,policy⟩ := new_at made
  have idle : fresh.running = false := by simpa using inside.running
  have waits : fresh.firstWait around rate = engine.firstWait around rate := by
    rw [firstWait,firstWait,policy]
  rw [start_eq rated,start_eq rated,waits,begun_eq_fresh empty made]
  cases engine.firstWait around rate with
  | error failure => rfl
  | ok wait =>
    simp only [Except.map,idle,policy]
    refine congrArg Except.ok ?_
    exact waitFor_looks_renumber engine.timers.nextNumber (fresh.begun _) .backoffStart wait _

theorem start_indistinct {engine fresh : Engine ρ} (empty : engine.carriedPeriods = 0)
    (made : Engine.new engine.policy engine.words = .ok fresh) (around : Surroundings) :
    Coupled (Indistinct engine fresh) (engine.start around) (fresh.start around) := by
  rcases SymbolRate.of_cases around.radio.symbolsPerSecond with refused | ⟨rate,rated⟩
  · rw [start_refused refused,start_refused refused]
    exact .done ⟨rfl,rfl,.inl rfl,nofun,fun _ => ⟨rfl,rfl⟩⟩
  · rw [start_eq_fresh empty made rated]
    cases begun : fresh.start around with
    | error failure => exact .overflow failure
    | ok other =>
      refine .done ⟨rfl,?calls,?notes,?accepted,?refused⟩
      case calls => exact congrArg Sight.calls (other.sight_renumber engine.timers.nextNumber)
      case notes =>
        cases engine.running with
        | true => exact .inr rfl
        | false => exact .inl rfl
      case accepted =>
        intro _
        refine ⟨rfl,fun errands => ?_⟩
        refine Eq.trans ?_ (transcript_renumber engine.timers.nextNumber other.engine other.issued errands)
        rw [← other.issued_renumber]
        rfl
      case refused =>
        intro refused
        have served : other.Served none := start_served rated begun
        exact absurd served.result refused

end Engine

variable [WordSource ρ]

/-- An engine that runs, was just cancelled or reconfigured, or gave a verdict other than a deferral
carries no periods. An engine that carries none is started as a new one is: both overflow, or both
are refused and left as they are, or both begin an attempt, and then the same operations with the
timers that were handed out since show the same. -/
theorem start_forgets {policy : Policy} {words : ρ} {first engine : Engine ρ}
    {deeds : List (Deed ρ)} (made : Engine.new policy words = .ok first)
    (run : Run first deeds engine) :
    (engine.running = true ∨ (∃ earlier deed, deeds = earlier ++ [deed] ∧ deed.Clears) →
      engine.carriedPeriods = 0) ∧
    (engine.carriedPeriods = 0 → ∃ fresh, Engine.new engine.policy engine.words = .ok fresh ∧
      ∀ around, Coupled (Indistinct engine fresh) (engine.start around) (fresh.start around)) := by
  obtain ⟨stage,counted⟩ := Engine.Counted.run made run
  constructor
  · rintro (running | ⟨earlier,⟨before,operation,reaction⟩,rfl,clears⟩)
    · exact counted.kept (counted.inside.running.mp running)
    · obtain ⟨sofar,performed,after⟩ := run.split
      obtain rfl := after.of_nil
      obtain ⟨_,earlier⟩ := Engine.Counted.run made sofar
      exact Engine.carried_of_clears earlier.inside performed clears
  · intro empty
    obtain ⟨fresh,new⟩ := Engine.new_fresh counted.valid
    exact ⟨fresh,new,Engine.start_indistinct empty new⟩

/-- An attempt is abandoned while its second assessment is outstanding. The next one hands out other
numbers than a new engine, and shows the same. -/
theorem start_forgets_abandoned :
    ∃ (first engine fresh : Engine WordScript) (deeds : List (Deed WordScript))
        (started other : Reaction WordScript),
      Engine.new {} ⟨[3,9,4]⟩ = .ok first ∧ Run first deeds engine ∧
        engine.ccaOutstanding = true ∧ engine.progress.backoffs = 1 ∧
        Engine.new engine.policy engine.words = .ok fresh ∧
        engine.start (.plain 62500) = .ok started ∧ fresh.start (.plain 62500) = .ok other ∧
        started.issued = [⟨.backoffStart,4⟩] ∧ other.issued = [⟨.backoffStart,0⟩] ∧
        ∀ errands, started.engine.transcript started.issued errands =
          other.engine.transcript other.issued errands := by
  obtain ⟨first,made⟩ : ∃ first, Engine.new {} (⟨[3,9,4]⟩ : WordScript) = .ok first := ⟨_,rfl⟩
  obtain ⟨deeds,engine,started,fresh,other,run,running,outstanding,backoffs,starts,accepted,issued,
      new,starts',issued'⟩ :
      ∃ deeds engine started fresh other, Run first deeds engine ∧ engine.running = true ∧
        engine.ccaOutstanding = true ∧ engine.progress.backoffs = 1 ∧
        engine.start (.plain 62500) = .ok started ∧ started.result = .ok () ∧
        started.issued = [⟨.backoffStart,4⟩] ∧
        Engine.new engine.policy engine.words = .ok fresh ∧ fresh.start (.plain 62500) = .ok other ∧
        other.issued = [⟨.backoffStart,0⟩] := by
    cases made
    exact ⟨_,_,_,_,_,.step (.step (.step (.step (.step (.step .start
        (rfl : Engine.perform _ (.start (.plain 62500)) = _))
        (rfl : Engine.perform _ (.fire ⟨.backoffStart,0⟩ (.plain 62500)) = _))
        (rfl : Engine.perform _ (.fire ⟨.ccaRequest,1⟩ (.plain 62500)) = _))
        (rfl : Engine.perform _ (.confirm .busy) = _))
        (rfl : Engine.perform _ (.fire ⟨.backoffStart,2⟩ (.plain 62500)) = _))
        (rfl : Engine.perform _ (.fire ⟨.ccaRequest,3⟩ (.plain 62500)) = _),
      rfl,rfl,rfl,rfl,rfl,rfl,rfl,rfl,rfl⟩
  obtain ⟨clears,forgets⟩ := start_forgets made run
  obtain ⟨fresh,new',coupled⟩ := forgets (clears (.inl running))
  cases new.symm.trans new'
  have couples := coupled (.plain 62500)
  rw [starts,starts'] at couples
  cases couples with
  | done agree =>
    exact ⟨first,engine,fresh,deeds,started,other,made,run,outstanding,backoffs,new,starts,starts',
      issued,issued',(agree.accepted accepted).2⟩

/-- A start without a symbol rate is refused on both, and then the engine that was running still runs
while the new one takes another mode. -/
theorem start_forgets_refused :
    ∃ (first engine fresh : Engine WordScript) (deeds : List (Deed WordScript))
        (started other : Reaction WordScript),
      Engine.new {} ⟨[]⟩ = .ok first ∧ Run first deeds engine ∧ engine.carriedPeriods = 0 ∧
        Engine.new engine.policy engine.words = .ok fresh ∧
        engine.start (.plain 0) = .ok started ∧ fresh.start (.plain 0) = .ok other ∧
        started.result = other.result ∧ started.engine.view ≠ other.engine.view ∧
        started.engine.transcript started.issued [.setMode .slotted] ≠
          other.engine.transcript other.issued [.setMode .slotted] := by
  refine ⟨_,_,_,_,_,_,rfl,.step .start (rfl : Engine.perform _ (.start (.plain 62500)) = _),
    rfl,rfl,rfl,rfl,rfl,?view,?transcript⟩
  case view =>
    intro same
    cases congrArg View.running same
  case transcript =>
    intro same
    cases same

end ChannelAccess
