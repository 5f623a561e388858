import ChannelAccess.Proofs.Engine.Counters

/-!
Backoffs that the end of the CAP cuts short. The periods that fit the CAP are served, the others are
carried over by the deferred attempt, and the next attempt resumes them without asking or drawing
anew. Over attempt after attempt that the CAP cuts short no period is lost and none is added. Main
statement: `deferral_conserves_periods`.
-/

namespace ChannelAccess

/-- A backoff as it begins. -/
structure Spell where
  periods : Nat
  leftOver : Nat
  deriving DecidableEq, Repr

def Spell.served (spell : Spell) : Nat := spell.periods - spell.leftOver

namespace Deed

variable {ρ : Type}

/-- The backoff that begins with a deed: the armed timer came back and was not refused. -/
def spell? [WordSource ρ] (deed : Deed ρ) : Option Spell :=
  match deed.operation, deed.action?, deed.reaction.result with
  | .fire _ around, some (.expired .backoffStart), .ok () =>
    some {
      periods := (deed.before.takeBackoff around.advice).1.progress.periodsLeft
      leftOver := if deed.reaction.engine.timers.armed .capEnd = none then 0
        else deed.reaction.engine.progress.periodsLeft }
  | _, _, _ => none

/-- The deed makes the engine forget the periods that it owes: a cancellation, also the one in a start
that abandons a running attempt, or a change of the policy. -/
def forgets (deed : Deed ρ) : Bool :=
  match deed.operation, deed.reaction.result with
  | .cancel, _ => true
  | .setPolicy _, .ok () | .setMode _, .ok () => true
  | .start _, .ok () => deed.before.running
  | _, _ => false

/-- The backoff that begins is one of just these periods, and the engine neither asks for advice nor
uses a random word. -/
inductive Resumes [WordSource ρ] (deed : Deed ρ) (owed : Nat) : Prop
  | whole {timer : Timer} {around : Surroundings} {rate : SymbolRate} {number : UInt32}
      (fires : deed.operation = .fire timer around)
      (rated : SymbolRate.of around.radio.symbolsPerSecond = .ok rate)
      (begins : deed.spell? = some ⟨owed,0⟩)
      (words : deed.reaction.engine.words = deed.before.words)
      (calls : deed.reaction.calls = [.askSuperframe deed.before.progress.direction,
        .schedule ⟨.canProceed,number⟩
          (rate.spanOf (owed * deed.before.policy.backoffPeriod.toNat))])
  | partly {leftOver : Nat} {number : UInt32} {delay : Span}
      (begins : deed.spell? = some ⟨owed,leftOver⟩) (positive : leftOver ≠ 0)
      (fewer : leftOver ≤ owed)
      (words : deed.reaction.engine.words = deed.before.words)
      (calls : deed.reaction.calls = [.askSuperframe deed.before.progress.direction,
        .schedule ⟨.capEnd,number⟩ delay])

theorem spell?_eq_none [WordSource ρ] {deed : Deed ρ}
    (other : deed.action? ≠ some (.expired .backoffStart)) : deed.spell? = none := by
  unfold spell?
  split
  · contradiction
  · rfl

theorem spell?_begun [WordSource ρ] {engine : Engine ρ} {timer : Timer} {around : Surroundings}
    {reaction : Reaction ρ}
    (accepted : engine.accepts (.fire timer around) = some (.expired .backoffStart))
    (succeeds : reaction.result = .ok ()) :
    spell? ⟨engine,.fire timer around,reaction⟩ = some {
      periods := (engine.takeBackoff around.advice).1.progress.periodsLeft
      leftOver := if reaction.engine.timers.armed .capEnd = none then 0
        else reaction.engine.progress.periodsLeft } := by
  simp [spell?,action?,accepted,succeeds]

end Deed

def spells {ρ : Type} [WordSource ρ] (deeds : List (Deed ρ)) : List Spell :=
  deeds.filterMap Deed.spell?

def periodsServed {ρ : Type} [WordSource ρ] (deeds : List (Deed ρ)) : Nat :=
  (spells deeds).foldl (fun total spell => total + spell.served) 0

@[simp] theorem spells_append {ρ : Type} [WordSource ρ] (deeds : List (Deed ρ)) (deed : Deed ρ) :
    spells (deeds ++ [deed]) = spells deeds ++ deed.spell?.toList := by
  simp only [spells,List.filterMap_append]
  cases begun : deed.spell? <;> simp [begun]

@[simp] theorem periodsServed_append {ρ : Type} [WordSource ρ] (deeds : List (Deed ρ))
    (deed : Deed ρ) :
    periodsServed (deeds ++ [deed]) = periodsServed deeds + (deed.spell?.map Spell.served).getD 0 := by
  rw [periodsServed,spells_append,List.foldl_append]
  cases deed.spell? <;> rfl

/-- What is left over of a backoff of some periods, of `unit` symbols each, when the CAP ends after
`left`: the periods that are not complete by then. -/
structure Residue (periods unit : Nat) (rate : SymbolRate) (left : Span) (residue : Nat) : Prop where
  complete : rate.symbolsIn left = left.us.toNat * rate.perSecond.toNat / 1000000
  narrow : rate.symbolsIn left / unit < 4294967296
  exactly : (residue : Int) = periods - (rate.symbolsIn left / unit : Nat)
  positive : 1 ≤ residue
  fewer : residue ≤ periods

namespace Engine

variable {ρ : Type} {engine source : Engine ρ} {owed : Nat}

/-- Where an engine keeps the periods that it owes: in an attempt, or between two of them. An attempt
that was refused its backoff is stuck and can only be abandoned. -/
inductive Keeps (engine : Engine ρ) (owed : Nat) : Prop
  | ending (counted : engine.Counted .capEnd) (left : engine.progress.periodsLeft = owed)
  | between (counted : engine.Counted .concluded) (carried : engine.carriedPeriods = owed)
  | begun (counted : engine.Counted .backoffStart) (left : engine.progress.periodsLeft = owed)
  | stuck (counted : engine.Counted .stuck)

/-- A slotted engine owes periods of a backoff that the end of the CAP cut short. -/
structure Owes (engine : Engine ρ) (owed : Nat) : Prop where
  slotted : engine.policy.mode = .slotted
  positive : owed ≠ 0
  keeps : engine.Keeps owed

theorem Counted.symbols_le {stage : Stage} (counted : engine.Counted stage) {periods : Nat}
    (few : periods ≤ Backoff.maxPeriods engine.policy.maxExponent.toNat) :
    periods ≤ 255 ∧ periods * engine.policy.backoffPeriod.toNat ≤ 1099511627776 := by
  have largest := Backoff.maxPeriods_le (Policy.exponents_le counted.valid).1
  have few := Nat.le_trans few largest
  have unit := engine.policy.backoffPeriod.toNat_lt
  refine ⟨few,?_⟩
  calc periods * engine.policy.backoffPeriod.toNat
      ≤ 255 * 4294967296 := Nat.mul_le_mul few (Nat.le_of_lt unit)
    _ ≤ 1099511627776 := by decide

section

variable [WordSource ρ] {advice : Option UInt32} {asked : List Call}

theorem takeBackoff_taken (kind : TimerKind) (drawn : engine.takeBackoff advice = (source,asked)) :
    (engine.taken kind).takeBackoff advice = (source.taken kind,asked) := by
  by_cases fresh : engine.progress.periodsLeft = 0 ∨ ¬ engine.policy.isSlotted
  · have fresh' : (engine.taken kind).progress.periodsLeft = 0 ∨
        ¬ (engine.taken kind).policy.isSlotted := fresh
    rw [takeBackoff,if_pos fresh] at drawn
    rw [takeBackoff,if_pos fresh']
    cases advice <;> cases drawn <;> rfl
  · have resumes : ¬ ((engine.taken kind).progress.periodsLeft = 0 ∨
        ¬ (engine.taken kind).policy.isSlotted) := fresh
    rw [takeBackoff,if_neg fresh] at drawn
    rw [takeBackoff,if_neg resumes]
    cases drawn
    rfl

theorem takeBackoff_resumed (slotted : engine.policy.mode = .slotted)
    (owed : engine.progress.periodsLeft ≠ 0) (advice : Option UInt32) :
    engine.takeBackoff advice = (engine,[]) := by
  have aligned := Policy.isSlotted_eq_true.mpr slotted
  simp [takeBackoff,owed,aligned]

/-- Fewer periods are complete than were to be waited for, so one at least is left over. -/
theorem Counted.residue {rate : SymbolRate} {left : Span} (counted : engine.Counted .backoffStart)
    (drawn : (engine.taken .backoffStart).takeBackoff advice = (source,asked))
    (nonneg : 0 ≤ left.us) (short : left < source.backoffSpan rate) :
    Residue source.progress.periodsLeft engine.policy.backoffPeriod.toNat rate left
      (source.periodsBeyond rate left) := by
  have policy : source.policy = engine.policy := (takeBackoff_eq drawn).symm ▸ rfl
  obtain ⟨few,symbols⟩ := counted.symbols_le (counted.drawn drawn)
  rw [← policy] at symbols ⊢
  have exactly : InClockRange (rate.microseconds _) := SymbolRate.microseconds_inRange symbols
  have fewer := SymbolRate.symbolsIn_lt exactly nonneg short
  have used := Nat.div_lt_of_lt_mul (Nat.mul_comm _ _ ▸ fewer)
  have complete := SymbolRate.symbolsIn_eq symbols nonneg short
  rw [periodsBeyond_eq (by omega) exactly nonneg short]
  exact ⟨complete,by omega,Int.ofNat_sub (Nat.le_of_lt used),Nat.sub_pos_of_lt used,Nat.sub_le _ _⟩

end

/-- What a deed makes of the periods that are owed: it leaves them alone, or begins a backoff of just
these. -/
inductive Carries [WordSource ρ] (deed : Deed ρ) (owed : Nat) : Prop
  | untouched (unbegun : deed.spell? = none) (owes : deed.reaction.engine.Owes owed)
  | resumed (resumes : deed.Resumes owed)
      (owes : ∀ spell, deed.spell? = some spell → spell.leftOver ≠ 0 →
        deed.reaction.engine.Owes spell.leftOver)

namespace Owes

variable {operation : Operation} {action : Action} {reaction : Reaction ρ} {stage next : Stage}

theorem counted (owes : engine.Owes owed) : ∃ stage, engine.Counted stage := by
  cases owes.keeps with
  | ending counted | between counted | begun counted | stuck counted => exact ⟨_,counted⟩

theorem begin {around : Surroundings} (owes : engine.Owes owed) (idle : engine.running = false)
    (started : engine.start around = .ok reaction) (succeeds : reaction.result = .ok ()) :
    reaction.engine.Owes owed := by
  have aligned := Policy.isSlotted_eq_true.mpr owes.slotted
  obtain ⟨counted,carried⟩ : engine.Counted .concluded ∧ engine.carriedPeriods = owed := by
    cases owes.keeps with
    | between counted carried => exact ⟨counted,carried⟩
    | ending counted | begun counted | stuck counted =>
      have running := counted.inside.running.mpr (by simp)
      simp [idle] at running
  have begun := counted.start started succeeds
  obtain ⟨wait,notes,rfl⟩ := start_begun started succeeds
  refine ⟨owes.slotted,owes.positive,.begun begun ?_⟩
  change (if engine.policy.isSlotted then engine.carriedPeriods else 0) = owed
  rw [if_pos aligned,carried]

section

variable [WordSource ρ]

theorem resume (owes : engine.Owes engine.progress.periodsLeft)
    (counted : engine.Counted .backoffStart) (accepted : engine.accepts operation = some action)
    (performed : engine.perform operation = .ok reaction)
    (advances : Advances engine .backoffStart action reaction next) :
    Carries ⟨engine,operation,reaction⟩ engine.progress.periodsLeft := by
  have reacts := advances.reacts counted.inside accepted performed
  have arrives := counted.advance accepted performed advances
  obtain rfl : action = .expired .backoffStart := by
    have follows := advances.follows
    cases follows <;> rfl
  have resumes : ∀ advice, (engine.taken .backoffStart).takeBackoff advice =
      (engine.taken .backoffStart,[]) := takeBackoff_resumed owes.slotted owes.positive
  cases reacts with
  | refused awaits unrated =>
    refine .untouched ?_ ⟨owes.slotted,owes.positive,.stuck arrives⟩
    simp [Deed.spell?]
  | drawn unslotted => simp [owes.slotted] at unslotted
  | @fits number around rate _ _ _ slotted rated drawn remains enough =>
    obtain ⟨rfl,rfl⟩ := Prod.mk.inj ((resumes _).symm.trans drawn)
    have kept := Span.clamp_of_nonneg (rate.spanOf_nonneg
      (counted.symbols_le (counted.periods (by simp))).2)
    have begins := Deed.spell?_begun accepted advances.result
    rw [takeBackoff_resumed owes.slotted owes.positive,
      if_pos (advances.arrives.unarmed (by simp [Stage.awaited]))] at begins
    have calls := congrArg (fun delay => [Call.askSuperframe engine.progress.direction,
      .schedule ⟨.canProceed,engine.timers.nextNumber⟩ delay]) kept
    refine .resumed (.whole rfl rated begins rfl calls) fun spell others more => ?_
    cases begins.symm.trans others
    exact absurd rfl more
  | cutShort slotted rated drawn remains short =>
    have residue := counted.residue drawn (Superframe.timeLeftInCap_nonneg remains) short
    obtain ⟨rfl,rfl⟩ := Prod.mk.inj ((resumes _).symm.trans drawn)
    have begins := Deed.spell?_begun accepted advances.result
    have armed := (advances.arrives.armed .capEnd).mpr rfl
    rw [takeBackoff_resumed owes.slotted owes.positive,
      if_neg (Option.ne_none_iff_isSome.mpr armed)] at begins
    have positive := Nat.ne_of_gt residue.positive
    refine .resumed (.partly begins positive residue.fewer rfl rfl) fun spell others _ => ?_
    cases begins.symm.trans others
    exact ⟨owes.slotted,positive,.ending arrives rfl⟩

theorem conclude (owes : engine.Owes engine.progress.periodsLeft) (counted : engine.Counted .capEnd)
    (accepted : engine.accepts operation = some action)
    (performed : engine.perform operation = .ok reaction)
    (advances : Advances engine .capEnd action reaction next) :
    Carries ⟨engine,operation,reaction⟩ engine.progress.periodsLeft := by
  have reacts := advances.reacts counted.inside accepted performed
  have arrives := counted.advance accepted performed advances
  have follows := advances.follows
  cases follows with
  | capEnds =>
    cases reacts with
    | capEnds =>
      refine .untouched (Deed.spell?_eq_none ?_) ⟨owes.slotted,owes.positive,.between arrives rfl⟩
      simp [Deed.action?,accepted]

/-- An operation that is no delivery leaves the periods alone, unless it makes the engine forget them. -/
theorem keep (owes : engine.Owes owed) (inside : engine.At stage)
    (performed : engine.perform operation = .ok reaction)
    (remembers : (Deed.mk engine operation reaction).forgets = false)
    (unheard : engine.accepts operation = none) :
    Carries ⟨engine,operation,reaction⟩ owed := by
  refine .untouched (Deed.spell?_eq_none (by simp [Deed.action?,unheard])) ?_
  cases perform_effect inside performed with
  | ignored unheard same => exact same ▸ owes
  | advanced accepted => simp [unheard] at accepted
  | begun starts succeeds =>
    subst starts
    simp only [Deed.forgets,succeeds] at remembers
    exact owes.begin remembers performed succeeds
  | cancelled cancels =>
    subst cancels
    simp [Deed.forgets] at remembers
  | reconfigured configures idle valid changed =>
    subst changed
    rcases configures with rfl | ⟨mode,rfl⟩ <;> simp [Deed.forgets] at remembers

theorem perform (owes : engine.Owes owed) (performed : engine.perform operation = .ok reaction)
    (remembers : (Deed.mk engine operation reaction).forgets = false) :
    Carries ⟨engine,operation,reaction⟩ owed := by
  cases accepted : engine.accepts operation with
  | none =>
    obtain ⟨stage,counted⟩ := owes.counted
    exact owes.keep counted.inside performed remembers accepted
  | some action =>
    cases owes.keeps with
    | ending counted left =>
      subst left
      obtain ⟨next,advances⟩ := accepts_advances counted.inside accepted performed
      exact owes.conclude counted accepted performed advances
    | begun counted left =>
      subst left
      obtain ⟨next,advances⟩ := accepts_advances counted.inside accepted performed
      exact owes.resume counted accepted performed advances
    | between counted | stuck counted =>
      obtain ⟨next,advances⟩ := accepts_advances counted.inside accepted performed
      have follows := advances.follows
      cases follows

theorem run {deeds : List (Deed ρ)} {last : Engine ρ} (owes : engine.Owes owed)
    (run : Run engine deeds last) (remembers : ∀ deed ∈ deeds, deed.forgets = false)
    (cut : ∀ spell ∈ spells deeds, spell.leftOver ≠ 0) :
    ∃ left, periodsServed deeds + left = owed ∧ last.Owes left := by
  induction run with
  | start => exact ⟨owed,Nat.zero_add owed,owes⟩
  | @step deeds last operation reaction before performed ih =>
    simp only [spells_append,List.mem_append,List.mem_singleton] at remembers cut
    obtain ⟨left,sum,owes⟩ := ih (fun deed member => remembers deed (.inl member))
      fun spell member => cut spell (.inl member)
    cases owes.perform performed (remembers _ (.inr rfl)) with
    | untouched unbegun owes =>
      refine ⟨left,?_,owes⟩
      rw [periodsServed_append,unbegun]
      exact sum
    | resumed resumes owes =>
      cases resumes with
      | whole fires rated begins =>
        exact absurd rfl (cut ⟨left,0⟩ (.inr (by simp [begins])))
      | @partly leftOver number delay begins positive fewer =>
        refine ⟨leftOver,?_,owes _ begins positive⟩
        rw [periodsServed_append,begins]
        simp only [Option.map_some,Option.getD_some,Spell.served]
        omega

end

end Owes

variable [WordSource ρ]

/-- The end of the CAP is waited for with nothing else to do, and gives the verdict. -/
theorem At.perform_capEnd {operation : Operation} {reaction : Reaction ρ} (inside : engine.At .capEnd)
    (performed : engine.perform operation = .ok reaction)
    (remembers : (Deed.mk engine operation reaction).forgets = false) :
    (reaction.engine = engine ∧ reaction.verdicts = []) ∨
      (reaction.verdicts = [.deferred] ∧ ∃ number there, operation = .fire ⟨.capEnd,number⟩ there ∧
        engine.timers.armed .capEnd = some number) := by
  have running := inside.running.mpr (by simp)
  cases perform_effect inside performed with
  | ignored unheard same silent =>
    exact .inl ⟨same,by simp [Reaction.verdicts,silent]⟩
  | advanced accepted advances =>
    right
    have verdicts := advances.verdicts
    have follows := advances.follows
    cases follows with
    | capEnds =>
      refine ⟨verdicts,?_⟩
      rcases accepts_of_eq_some accepted with
        ⟨⟨kind,number⟩,there,rfl,same,armed⟩ | ⟨status,_,other,_⟩
      · cases same
        exact ⟨number,there,rfl,armed⟩
      · cases other
  | begun starts succeeds =>
    subst starts
    simp [Deed.forgets,succeeds,running] at remembers
  | cancelled cancels =>
    subst cancels
    simp [Deed.forgets] at remembers
  | reconfigured configures idle => simp [idle] at running

theorem At.run_capEnd {deeds : List (Deed ρ)} {last : Engine ρ} (inside : engine.At .capEnd)
    (run : Run engine deeds last) (remembers : ∀ deed ∈ deeds, deed.forgets = false)
    (undecided : verdicts deeds = []) : last = engine := by
  induction run with
  | start => rfl
  | step before performed ih =>
    simp only [List.mem_append,List.mem_singleton] at remembers
    rw [verdicts_append,List.append_eq_nil_iff] at undecided
    obtain rfl := ih (fun deed member => remembers deed (.inl member)) undecided.1
    rcases inside.perform_capEnd performed (remembers _ (.inr rfl)) with ⟨same,_⟩ | ⟨given,_⟩
    · exact same
    · rw [given] at undecided
      cases undecided.2

theorem Counted.cutShort {number : UInt32} {around : Surroundings} {rate : SymbolRate}
    {asked : List Call} {left : Span} {reaction : Reaction ρ} (counted : engine.Counted .backoffStart)
    (slotted : engine.policy.mode = .slotted)
    (armed : engine.timers.armed .backoffStart = some number)
    (rated : SymbolRate.of around.radio.symbolsPerSecond = .ok rate)
    (drawn : engine.takeBackoff around.advice = (source,asked))
    (remains : (around.layer.superframe engine.progress.direction).timeLeftInCap around.now rate =
      .ok left)
    (short : left < rate.spanOf (source.progress.periodsLeft * engine.policy.backoffPeriod.toNat))
    (fired : engine.fire ⟨.backoffStart,number⟩ around = .ok reaction) :
    ∃ capNumber,
      Residue source.progress.periodsLeft engine.policy.backoffPeriod.toNat rate left
        reaction.engine.progress.periodsLeft ∧
      reaction.calls = asked ++
        [.askSuperframe engine.progress.direction,.schedule ⟨.capEnd,capNumber⟩ left] ∧
      reaction.engine.timers.armed .capEnd = some capNumber ∧ reaction.engine.At .capEnd ∧
      reaction.engine.Owes reaction.engine.progress.periodsLeft := by
  have accepted : engine.accepts (.fire ⟨.backoffStart,number⟩ around) =
      some (.expired .backoffStart) := if_pos armed
  have taken := takeBackoff_taken .backoffStart drawn
  have policy : (source.taken .backoffStart).policy = engine.policy := (takeBackoff_eq drawn).symm ▸ rfl
  have nonneg := Superframe.timeLeftInCap_nonneg remains
  have short : left < (source.taken .backoffStart).backoffSpan rate := by
    rw [backoffSpan,policy]
    exact short
  have residue := counted.residue taken nonneg short
  obtain ⟨next,advances⟩ := accepts_advances counted.inside accepted fired
  have arrives := counted.advance accepted fired advances
  cases advances.reacts counted.inside accepted fired with
  | refused awaits unrated =>
    rw [rated] at unrated
    cases unrated
  | drawn unslotted => simp [slotted] at unslotted
  | fits _ rated' drawn' remains' enough =>
    cases rated.symm.trans rated'
    cases remains.symm.trans remains'
    cases taken.symm.trans drawn'
    exact absurd short enough
  | cutShort _ rated' drawn' remains' =>
    cases rated.symm.trans rated'
    cases remains.symm.trans remains'
    cases taken.symm.trans drawn'
    refine ⟨(source.taken .backoffStart).timers.nextNumber,residue,?_,?_,arrives.inside,?_⟩
    · rw [waitFor,Span.clamp_of_nonneg nonneg,List.append_assoc]
      rfl
    · exact TimerTable.armed_arm _ _ _
    · exact ⟨policy ▸ slotted,Nat.ne_of_gt residue.positive,.ending arrives rfl⟩

end Engine

/-- In every run of a slotted engine, a backoff that is longer than what is left of the CAP leaves over
exactly the periods that are not complete, at least one, and the end of the CAP is waited for. What
follows until the engine is made to forget gives no verdict but the deferral, and begins no backoff but
of the periods left over, as often as the CAP cuts it short again: those served and those still owed
are together those that were left over. -/
theorem deferral_conserves_periods {ρ : Type} [WordSource ρ] {policy : Policy} {words : ρ}
    {first engine source : Engine ρ} {earlier : List (Deed ρ)} {number : UInt32}
    {around : Surroundings} {rate : SymbolRate} {asked : List Call} {left : Span}
    {reaction : Reaction ρ} (made : Engine.new policy words = .ok first)
    (run : Run first earlier engine) (slotted : engine.policy.mode = .slotted)
    (armed : engine.timers.armed .backoffStart = some number)
    (rated : SymbolRate.of around.radio.symbolsPerSecond = .ok rate)
    (drawn : engine.takeBackoff around.advice = (source,asked))
    (remains : (around.layer.superframe engine.progress.direction).timeLeftInCap around.now rate =
      .ok left)
    (short : left < rate.spanOf (source.progress.periodsLeft * engine.policy.backoffPeriod.toNat))
    (fired : engine.fire ⟨.backoffStart,number⟩ around = .ok reaction) :
    ∃ capNumber capEnd,
      Residue source.progress.periodsLeft engine.policy.backoffPeriod.toNat rate left
        reaction.engine.progress.periodsLeft ∧
      reaction.calls = asked ++
        [.askSuperframe engine.progress.direction,.schedule ⟨.capEnd,capNumber⟩ left] ∧
      (around.layer.superframe engine.progress.direction).capEnd rate = .ok capEnd ∧
      ∀ {before : List (Deed ρ)} {deed : Deed ρ} {last : Engine ρ},
        Run reaction.engine (before ++ [deed]) last →
        (∀ other ∈ before ++ [deed], other.forgets = false) →
        (verdicts before = [] → deed.reaction.verdicts ≠ [] →
          deed.reaction.verdicts = [.deferred] ∧
            ∃ there, deed.operation = .fire ⟨.capEnd,capNumber⟩ there ∧
              (around.now.us + left.us ≤ there.now.us → capEnd ≤ there.now)) ∧
        ((∀ spell ∈ spells before, spell.leftOver ≠ 0) → deed.spell? ≠ none →
          ∃ owed, periodsServed before + owed = reaction.engine.progress.periodsLeft ∧
            deed.Resumes owed) := by
  obtain ⟨stage,counted⟩ := Engine.Counted.run made run
  obtain rfl : stage = .backoffStart := by
    have awaits := counted.inside.awaited_of_armed armed
    cases stage <;> simp [Stage.awaited] at awaits ⊢
  obtain ⟨capNumber,residue,calls,awaits,inside,owes⟩ :=
    counted.cutShort slotted armed rated drawn remains short fired
  obtain ⟨capEnd,ends,leftUs⟩ := Superframe.timeLeftInCap_eq remains
  refine ⟨capNumber,capEnd,residue,calls,ends,?_⟩
  intro before deed last run remembers
  obtain ⟨run,performed,_⟩ := run.split
  simp only [List.mem_append,List.mem_singleton] at remembers
  have remembered := remembers deed (.inr rfl)
  have remembers : ∀ other ∈ before, other.forgets = false :=
    fun other member => remembers other (.inl member)
  constructor
  · intro undecided given
    have same := inside.run_capEnd run remembers undecided
    rw [← same] at inside awaits
    rcases inside.perform_capEnd performed remembered with ⟨_,none⟩ | ⟨deferred,number,there,fires,waited⟩
    · exact absurd none given
    · cases awaits.symm.trans waited
      refine ⟨deferred,there,fires,fun late => ?_⟩
      rw [Instant.le_def]
      omega
  · intro cut begun
    obtain ⟨owed,sum,owes⟩ := owes.run run remembers cut
    refine ⟨owed,sum,?_⟩
    cases owes.perform performed remembered with
    | untouched unbegun => exact absurd unbegun begun
    | resumed resumes => exact resumes

def Surroundings.since (beacon now : Instant) : Surroundings :=
  let plain := Surroundings.plain 62500
  { plain with
    now
    layer := { plain.layer with outgoing := Superframe.capped beacon 0 15 }
    advice := some 7 }

/-- Of seven periods four fit the first CAP, two the next and the last one the third. -/
theorem deferral_conserves_periods_twice :
    ∃ (reaction : Reaction WordScript) (before : List (Deed WordScript)) (deed : Deed WordScript)
      (last : Engine WordScript),
      Run reaction.engine (before ++ [deed]) last ∧
        reaction.calls = [.askAdvice 3 0 (some 7),.askSuperframe .outgoing,
          .schedule ⟨.capEnd,1⟩ ⟨1280⟩] ∧
        Residue 7 20 (.ofPhy .oqpsk2450) ⟨1280⟩ (periodsServed before + 1) ∧
        verdicts before = [.deferred,.deferred] ∧ spells before = [⟨3,1⟩] ∧ deed.Resumes 1 := by
  obtain ⟨first,made⟩ :
    ∃ first, Engine.new { mode := .slotted } (⟨[]⟩ : WordScript) = .ok first := ⟨_,rfl⟩
  have rated : SymbolRate.of (Surroundings.since .zero ⟨14080⟩).radio.symbolsPerSecond =
    .ok (.ofPhy .oqpsk2450) := rfl
  obtain ⟨begun,source,reaction,started,slotted,armed,drawn,remains,periods,unit,fired,calls,
      before,deed,last,run,remembers,given,earlier,begins⟩ :
      ∃ begun source reaction, first.perform (.start (.since .zero ⟨14000⟩)) = .ok begun ∧
        begun.engine.policy.mode = .slotted ∧
        begun.engine.timers.armed .backoffStart = some 0 ∧
        begun.engine.takeBackoff (some 7) = (source,[.askAdvice 3 0 (some 7)]) ∧
        ((Surroundings.since .zero ⟨14080⟩).layer.superframe
          begun.engine.progress.direction).timeLeftInCap ⟨14080⟩ (.ofPhy .oqpsk2450) = .ok ⟨1280⟩ ∧
        source.progress.periodsLeft = 7 ∧ begun.engine.policy.backoffPeriod.toNat = 20 ∧
        begun.engine.fire ⟨.backoffStart,0⟩ (.since .zero ⟨14080⟩) = .ok reaction ∧
        reaction.calls = [.askAdvice 3 0 (some 7),.askSuperframe .outgoing,
          .schedule ⟨.capEnd,1⟩ ⟨1280⟩] ∧
        ∃ before deed last, Run reaction.engine (before ++ [deed]) last ∧
          (∀ other ∈ before ++ [deed], other.forgets = false) ∧
          verdicts before = [.deferred,.deferred] ∧ spells before = [⟨3,1⟩] ∧
          deed.spell? = some ⟨1,0⟩ := by
    cases made
    exact ⟨_,_,_,rfl,rfl,rfl,rfl,by decide,by decide,by decide,rfl,by decide,_,_,_,
      .step (.step (.step (.step (.step (.step .start
        (rfl : Engine.perform _ (.fire ⟨.capEnd,1⟩ (.since .zero ⟨15360⟩)) = _))
        (rfl : Engine.perform _ (.start (.since ⟨15360⟩ ⟨30000⟩)) = _))
        (rfl : Engine.perform _ (.fire ⟨.backoffStart,2⟩ (.since ⟨15360⟩ ⟨30080⟩)) = _))
        (rfl : Engine.perform _ (.fire ⟨.capEnd,3⟩ (.since ⟨15360⟩ ⟨30720⟩)) = _))
        (rfl : Engine.perform _ (.start (.since ⟨30720⟩ ⟨31000⟩)) = _))
        (rfl : Engine.perform _ (.fire ⟨.backoffStart,4⟩ (.since ⟨30720⟩ ⟨31040⟩)) = _),
      by decide,rfl,rfl,rfl⟩
  have short : ⟨1280⟩ < (SymbolRate.ofPhy .oqpsk2450).spanOf
      (source.progress.periodsLeft * begun.engine.policy.backoffPeriod.toNat) := by
    rw [periods,unit]
    decide
  obtain ⟨_,_,residue,_,_,follows⟩ := deferral_conserves_periods made
    (.step .start started) slotted armed rated drawn remains short fired
  rw [periods,unit] at residue
  obtain ⟨owed,sum,resumes⟩ := (follows run remembers).2 (by simp [earlier]) (by simp [begins])
  obtain rfl : owed = 1 := by
    cases resumes with
    | whole fires rated same | partly same =>
      cases begins.symm.trans same
      rfl
  exact ⟨reaction,before,deed,last,run,calls,sum ▸ residue,given,earlier,resumes⟩

end ChannelAccess
