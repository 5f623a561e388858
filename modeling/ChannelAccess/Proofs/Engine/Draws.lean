import ChannelAccess.Proofs.Engine.Deferral
import ChannelAccess.Proofs.Engine.Tallies
import ChannelAccess.Proofs.UniformDraws

/-!
Backoffs draw once a round. Each backoff of an attempt asks the layer for advice and uses a random
word if there is none, but the first backoff of an attempt that resumes what the one before it left
over does neither. The periods left tell the two apart only because they are spent whenever a further
round begins. Main statement: `one_draw_a_round`.
-/

namespace ChannelAccess

variable {ρ : Type}

def Call.asks : Call → Bool
  | .askAdvice _ _ _ => true
  | .schedule _ _ | .requestCca | .verdict _ | .cost _ | .askSuperframe _ => false

theorem Engine.looks_unasked (engine : Engine ρ) : engine.looks.countP Call.asks = 0 := by
  rw [List.countP_eq_zero]
  intro call member
  rw [eq_of_mem_looks member,Call.asks]
  exact Bool.false_ne_true

/-- How often the layer was asked for advice. -/
def timesAsked (deeds : List (Deed ρ)) : Nat :=
  (deeds.flatMap fun deed => deed.reaction.calls).countP Call.asks

@[simp] theorem timesAsked_append (deeds : List (Deed ρ)) (deed : Deed ρ) :
    timesAsked (deeds ++ [deed]) = timesAsked deeds + deed.reaction.calls.countP Call.asks := by
  simp [timesAsked]

/-- The attempt that begins resumes periods that the one before it left over. -/
def Deed.inherits (opening : Deed ρ) : Prop :=
  opening.before.policy.mode = .slotted ∧ opening.before.carriedPeriods ≠ 0

instance (opening : Deed ρ) : Decidable opening.inherits := inferInstanceAs (Decidable (_ ∧ _))

theorem Deed.starts_of_begins {deed : Deed ρ} (begins : deed.begins = true) :
    ∃ around, deed.operation = .start around ∧ deed.reaction.result = .ok () := by
  unfold Deed.begins at begins
  split at begins
  · exact ⟨_,‹_›,‹_›⟩
  · cases begins

namespace Engine

variable [WordSource ρ]

/-- The periods of a new backoff and the words that are left: the advice, held to the exponent, or the
next word. -/
def chosen (engine : Engine ρ) : Option UInt32 → Nat × ρ
  | some advised => (min advised.toNat (2 ^ engine.progress.exponent - 1),engine.words)
  | none => ((WordSource.next engine.words).1.toNat % 2 ^ engine.progress.exponent,
      (WordSource.next engine.words).2)

theorem chosen_le (engine : Engine ρ) (advice : Option UInt32) :
    (engine.chosen advice).1 ≤ 2 ^ engine.progress.exponent - 1 := by
  cases advice with
  | some advised => exact Nat.min_le_right _ _
  | none => exact Nat.le_sub_one_of_lt (Nat.mod_lt _ (Nat.two_pow_pos _))

theorem takeBackoff_new (engine : Engine ρ)
    (fresh : ¬ (engine.policy.mode = .slotted ∧ engine.progress.periodsLeft ≠ 0))
    (advice : Option UInt32) : engine.takeBackoff advice =
      ((engine.chooseBackoff advice).1,[(engine.chooseBackoff advice).2]) := by
  have draws : engine.progress.periodsLeft = 0 ∨ ¬ engine.policy.isSlotted = true := by
    rw [Policy.isSlotted_eq_true]
    tauto
  rw [takeBackoff,if_pos draws]

theorem chooseBackoff_asks (engine : Engine ρ) (advice : Option UInt32) :
    (engine.chooseBackoff advice).2 =
      .askAdvice engine.progress.exponent engine.progress.backoffs advice := by
  cases advice <;> rfl

theorem chooseBackoff_chosen (engine : Engine ρ) (low : engine.progress.exponent ≤ 31)
    (advice : Option UInt32) :
    (engine.chooseBackoff advice).1.progress.periodsLeft = (engine.chosen advice).1 ∧
      (engine.chooseBackoff advice).1.words = (engine.chosen advice).2 := by
  cases advice with
  | some advised => simp only [chooseBackoff,chosen,Backoff.maxPeriods_eq low,and_self]
  | none => simp only [chooseBackoff,chosen,Backoff.draw_eq,Nat.min_eq_left low,and_self]

/-- What the engine does when a backoff begins: whatever was asked, a look at the superframe, then one
timer, for the whole backoff or for the rest of a CAP that is too short for it. -/
structure BeginsBackoff (engine : Engine ρ) (rate : SymbolRate) (source : Engine ρ)
    (asked : List Call) (reaction : Reaction ρ) (next : Stage) : Prop where
  result : reaction.result = .ok ()
  words : reaction.engine.words = source.words
  calls : ∃ timer delay, reaction.calls = asked ++ engine.looks ++ [.schedule timer delay] ∧
    if timer.kind = .capEnd then delay < source.backoffSpan rate
    else delay = (source.backoffSpan rate).clampNonNegative
  arrives : next = .canProceed ∨ next = .capEnd ∨
    engine.policy.mode = .unslotted ∧ next = .ccaRequest 0

omit [WordSource ρ] in
theorem waitFor_calls (engine : Engine ρ) {calls asked : List Call} (same : calls = asked)
    {kind : TimerKind} {delay : Span} {notes : List Note} :
    (engine.waitFor calls kind delay notes).calls =
      asked ++ [.schedule ⟨kind,engine.timers.nextNumber⟩ delay.clampNonNegative] := by
  rw [waitFor,same]

theorem Reacts.begins {engine : Engine ρ} {timer : Timer} {around : Surroundings}
    {rate : SymbolRate} {reaction : Reaction ρ} {next : Stage}
    (reacts : engine.Reacts .backoffStart (.fire timer around) reaction next)
    (rated : SymbolRate.of around.radio.symbolsPerSecond = .ok rate) :
    ∃ source asked, (engine.taken .backoffStart).takeBackoff around.advice = (source,asked) ∧
      engine.BeginsBackoff rate source asked reaction next := by
  cases reacts with
  | refused awaits unrated =>
    rw [rated] at unrated
    cases unrated
  | @drawn _ _ _ source asked unslotted rated' drawn =>
    cases rated.symm.trans rated'
    have looked : asked = asked ++ engine.looks := by
      rw [looks_unslotted unslotted,List.append_nil]
    exact ⟨_,_,drawn,rfl,rfl,⟨_,_,waitFor_calls _ looked,rfl⟩,.inr (.inr ⟨unslotted,rfl⟩)⟩
  | @fits _ _ _ source asked _ slotted rated' drawn remains enough =>
    cases rated.symm.trans rated'
    have looked := congrArg (asked ++ ·) (looks_slotted slotted).symm
    exact ⟨_,_,drawn,rfl,rfl,⟨_,_,waitFor_calls _ looked,rfl⟩,.inl rfl⟩
  | @cutShort _ _ _ source asked _ slotted rated' drawn remains short =>
    cases rated.symm.trans rated'
    have looked := congrArg (asked ++ ·) (looks_slotted slotted).symm
    rw [← Span.clamp_of_nonneg (Superframe.timeLeftInCap_nonneg remains)] at short
    exact ⟨_,_,drawn,rfl,rfl,⟨_,_,waitFor_calls _ looked,short⟩,.inr (.inl rfl)⟩

theorem Reacts.refuses {engine : Engine ρ} {next : Stage} {timer : Timer}
    {around : Surroundings} {reaction : Reaction ρ}
    (reacts : engine.Reacts .backoffStart (.fire timer around) reaction next)
    (unrated : SymbolRate.of around.radio.symbolsPerSecond = .error .zeroSymbolRate) :
    next = .stuck ∧ reaction.result = .error .zeroSymbolRate ∧ reaction.calls = [] ∧
      reaction.engine.words = engine.words := by
  cases reacts with
  | refused => exact ⟨rfl,rfl,rfl,rfl⟩
  | drawn unslotted rated => cases unrated.symm.trans rated
  | fits slotted rated => cases unrated.symm.trans rated
  | cutShort slotted rated => cases unrated.symm.trans rated

/-- A backoff begins only in the first stage of a round. -/
theorem At.unbegun {engine : Engine ρ} {stage : Stage} (inside : engine.At stage)
    (other : stage ≠ .backoffStart) (operation : Operation) (reaction : Reaction ρ) :
    (Deed.mk engine operation reaction).spell? = none := by
  apply Deed.spell?_eq_none
  intro acted
  rcases accepts_of_eq_some acted with ⟨⟨kind,number⟩,_,_,same,armed⟩ | ⟨_,_,same,_⟩
  · cases same
    exact other (inside.stage_of_armed armed rfl (by simp))
  · cases same

theorem Reacts.unasked {engine : Engine ρ} {stage next : Stage} {operation : Operation}
    {reaction : Reaction ρ} (reacts : engine.Reacts stage operation reaction next)
    (other : stage ≠ .backoffStart) :
    reaction.calls.countP Call.asks = 0 ∧ reaction.engine.words = engine.words := by
  cases reacts with
  | drawn => exact absurd rfl other
  | fits => exact absurd rfl other
  | cutShort => exact absurd rfl other
  | _ => exact ⟨rfl,rfl⟩

/-- The rounds of an attempt since its opening. -/
structure Rounds (engine : Engine ρ) (stage : Stage) (opening : Deed ρ) (since : List (Deed ρ)) :
    Prop where
  policy : engine.policy = opening.before.policy
  begun : stage ≠ .stuck →
    (spells since).length = engine.progress.backoffs + if stage = .backoffStart then 0 else 1
  asked : timesAsked since + (if opening.inherits ∧ spells since ≠ [] then 1 else 0) =
    (spells since).length
  owed : engine.policy.mode = .slotted → stage = .backoffStart →
    engine.progress.periodsLeft = if spells since = [] then opening.before.carriedPeriods else 0
  served : engine.policy.mode = .slotted →
    stage.awaited = some .ccaRequest ∨ stage.assessing = true → engine.progress.periodsLeft = 0

namespace Rounds

variable {engine source : Engine ρ} {stage next : Stage} {opening deed : Deed ρ}
  {since : List (Deed ρ)} {operation : Operation} {action : Action} {reaction : Reaction ρ}
  {advice : Option UInt32} {asked : List Call}

theorem resumes_iff (rounds : engine.Rounds .backoffStart opening since) :
    engine.policy.mode = .slotted ∧ engine.progress.periodsLeft ≠ 0 ↔
      opening.inherits ∧ spells since = [] := by
  have policy := rounds.policy
  rw [Deed.inherits,← policy]
  constructor
  · rintro ⟨slotted,left⟩
    rw [rounds.owed slotted rfl] at left
    by_cases first : spells since = []
    · rw [if_pos first] at left
      exact ⟨⟨slotted,left⟩,first⟩
    · rw [if_neg first] at left
      exact absurd rfl left
  · rintro ⟨⟨slotted,left⟩,first⟩
    rw [rounds.owed slotted rfl,if_pos first]
    exact ⟨slotted,left⟩

theorem resumes (rounds : engine.Rounds .backoffStart opening since)
    (drawn : (engine.taken .backoffStart).takeBackoff advice = (source,asked))
    (first : opening.inherits ∧ spells since = []) :
    source = engine.taken .backoffStart ∧ asked = [] := by
  obtain ⟨slotted,left⟩ := rounds.resumes_iff.mpr first
  have resumed := (engine.taken .backoffStart).takeBackoff_resumed slotted left advice
  exact Prod.mk.inj (drawn.symm.trans resumed)

theorem chooses (rounds : engine.Rounds .backoffStart opening since)
    (drawn : (engine.taken .backoffStart).takeBackoff advice = (source,asked))
    (further : ¬ (opening.inherits ∧ spells since = [])) :
    source = ((engine.taken .backoffStart).chooseBackoff advice).1 ∧
      asked = [.askAdvice engine.progress.exponent engine.progress.backoffs advice] := by
  have fresh := (not_congr rounds.resumes_iff).mpr further
  have new := (engine.taken .backoffStart).takeBackoff_new fresh advice
  rw [chooseBackoff_asks] at new
  exact Prod.mk.inj (drawn.symm.trans new)

/-- A backoff that begins asks once, unless it is the first of an attempt that resumes one. -/
theorem asks (rounds : engine.Rounds .backoffStart opening since)
    (drawn : (engine.taken .backoffStart).takeBackoff advice = (source,asked)) :
    asked = if opening.inherits ∧ spells since = [] then []
      else [.askAdvice engine.progress.exponent engine.progress.backoffs advice] := by
  split
  · exact (rounds.resumes drawn ‹_›).2
  · exact (rounds.chooses drawn ‹_›).2

/-- One backoff more has begun, and one question more was asked unless it resumes. -/
theorem counts (rounds : engine.Rounds .backoffStart opening since)
    (drawn : (engine.taken .backoffStart).takeBackoff advice = (source,asked))
    {timer : Timer} {delay : Span}
    (calls : reaction.calls = asked ++ engine.looks ++ [.schedule timer delay]) :
    timesAsked since + reaction.calls.countP Call.asks + (if opening.inherits then 1 else 0) =
      (spells since).length + 1 := by
  have counted := rounds.asked
  have times : reaction.calls.countP Call.asks =
      if opening.inherits ∧ spells since = [] then 0 else 1 := by
    rw [calls,rounds.asks drawn,List.countP_append,List.countP_append,engine.looks_unasked]
    split <;> rfl
  rw [times]
  by_cases inherits : opening.inherits
  · by_cases first : spells since = []
    · simp only [inherits,first,ne_eq,not_true_eq_false,and_false,and_true,if_true,if_false,
        List.length_nil] at counted ⊢
      omega
    · simp only [inherits,first,ne_eq,not_false_eq_true,and_self,and_false,if_true,if_false]
        at counted ⊢
      omega
  · simp only [inherits,false_and,if_false] at counted ⊢
    omega

theorem ignored (rounds : engine.Rounds stage opening since) (unbegun : deed.spell? = none)
    (silent : deed.reaction.calls = []) : engine.Rounds stage opening (since ++ [deed]) := by
  obtain ⟨policy,begun,asked,owed,served⟩ := rounds
  exact ⟨policy,by simpa [unbegun] using begun,by simpa [unbegun,silent] using asked,
    by simpa [unbegun] using owed,served⟩

theorem backoff {timer : Timer} {around : Surroundings}
    (rounds : engine.Rounds .backoffStart opening since)
    (accepted : engine.accepts (.fire timer around) = some (.expired .backoffStart))
    (advances : Advances engine .backoffStart (.expired .backoffStart) reaction next)
    (reacts : engine.Reacts .backoffStart (.fire timer around) reaction next) :
    reaction.engine.Rounds next opening (since ++ [⟨engine,.fire timer around,reaction⟩]) := by
  have policy := advances.policy.trans rounds.policy
  rcases SymbolRate.of_cases around.radio.symbolsPerSecond with unrated | ⟨rate,rated⟩
  · obtain ⟨rfl,refused,silent,_⟩ := reacts.refuses unrated
    have unbegun : (Deed.mk engine (.fire timer around) reaction).spell? = none := by
      simp [Deed.spell?,refused]
    refine ⟨policy,absurd rfl,?asked,by simp,by simp [Stage.awaited,Stage.assessing]⟩
    case asked => simpa [unbegun,silent] using rounds.asked
  · obtain ⟨source,asked,drawn,begins⟩ := reacts.begins rated
    obtain ⟨timer',delay,calls,_⟩ := begins.calls
    have begun := Deed.spell?_begun accepted begins.result
    have counted := rounds.counts drawn calls
    have rounded := rounds.begun (by simp)
    refine ⟨policy,?begun,?asked,?owed,?served⟩
    case begun =>
      intro _
      rw [spells_append,begun,advances.backoffs]
      rcases begins.arrives with rfl | rfl | ⟨_,rfl⟩ <;> simpa [Action.busy] using rounded
    case asked => simpa [begun] using counted
    case owed =>
      rintro _ rfl
      have arrives := begins.arrives
      simp at arrives
    case served =>
      intro slotted assesses
      rw [advances.policy] at slotted
      rcases begins.arrives with rfl | rfl | ⟨unslotted,_⟩
      · simp [Stage.awaited,Stage.assessing] at assesses
      · simp [Stage.awaited,Stage.assessing] at assesses
      · simp [slotted] at unslotted

theorem further (rounds : engine.Rounds stage opening since) (inside : engine.At stage)
    (advances : Advances engine stage action reaction next)
    (reacts : engine.Reacts stage operation reaction next) (other : stage ≠ .backoffStart)
    (more : next ≠ .concluded) :
    reaction.engine.Rounds next opening (since ++ [⟨engine,operation,reaction⟩]) := by
  have unbegun := inside.unbegun other operation reaction
  have going : stage ≠ .stuck := by
    have follows := advances.follows
    rintro rfl
    cases follows
  have begun := rounds.begun going
  rw [if_neg other] at begun
  refine ⟨advances.policy.trans rounds.policy,?begun,?asked,?owed,?served⟩
  case begun =>
    intro able
    have backoffs := advances.backoffs
    have follows := advances.follows
    rw [spells_append,unbegun,backoffs]
    cases follows <;> simp_all [Action.busy]
  case asked => simpa [unbegun,(reacts.unasked other).1] using rounds.asked
  case owed =>
    rintro slotted rfl
    rw [advances.policy] at slotted
    have nonempty : spells since ≠ [] := List.ne_nil_of_length_eq_add_one begun
    cases reacts with
    | backsOff busy allowed =>
      -- The next round finds no periods left: its predecessor got as far as an assessment.
      rw [spells_append,unbegun,Option.toList_none,List.append_nil,if_neg nonempty]
      exact rounds.served slotted (.inr rfl)
  case served =>
    intro slotted assesses
    rw [advances.policy] at slotted
    cases reacts with
    | proceeds => rfl
    | requested => exact rounds.served slotted (.inl rfl)
    | stillIdle => exact rounds.served slotted (.inr rfl)
    | drawn => exact absurd rfl other
    | _ => simp [Stage.awaited,Stage.assessing] at assesses

theorem start {around : Surroundings} (started : engine.start around = .ok reaction)
    (succeeds : reaction.result = .ok ()) : reaction.engine.At .backoffStart ∧
      reaction.engine.Rounds .backoffStart ⟨engine,.start around,reaction⟩ [] := by
  rcases start_cases started with rfl | ⟨_,inside,_⟩
  · cases succeeds
  · obtain ⟨wait,notes,rfl⟩ := start_begun started succeeds
    refine ⟨inside,rfl,fun _ => rfl,by simp [timesAsked,spells],?owed,
      by simp [Stage.awaited,Stage.assessing]⟩
    case owed =>
      intro slotted _
      exact if_pos (Policy.isSlotted_eq_true.mpr slotted)

theorem advance (rounds : engine.Rounds stage opening since) (inside : engine.At stage)
    (accepted : engine.accepts operation = some action)
    (performed : engine.perform operation = .ok reaction)
    (advances : Advances engine stage action reaction next) (more : next ≠ .concluded) :
    reaction.engine.Rounds next opening (since ++ [⟨engine,operation,reaction⟩]) := by
  have reacts := advances.reacts inside accepted performed
  by_cases first : stage = .backoffStart
  · subst first
    rcases accepts_of_eq_some accepted with ⟨⟨kind,number⟩,around,rfl,rfl,armed⟩ | ⟨status,rfl,rfl,_⟩
    · obtain rfl : .backoffStart = kind := Option.some.inj (inside.awaited_of_armed armed)
      exact rounds.backoff accepted advances reacts
    · cases reacts
  · exact rounds.further inside advances reacts first more

theorem perform (rounds : stage ≠ .concluded → engine.Rounds stage opening since)
    (inside : engine.At stage) (performed : engine.perform operation = .ok reaction)
    (continues : (Deed.mk engine operation reaction).begins = false) :
    ∃ next, reaction.engine.At next ∧ (next ≠ .concluded →
      reaction.engine.Rounds next opening (since ++ [⟨engine,operation,reaction⟩])) := by
  cases perform_effect inside performed with
  | ignored unheard same silent fruitless unrefused =>
    have unbegun : (Deed.mk engine operation reaction).spell? = none :=
      Deed.spell?_eq_none (by simp [Deed.action?,unheard])
    refine ⟨stage,same ▸ inside,fun going => ?_⟩
    rw [same]
    exact (rounds going).ignored unbegun silent
  | @advanced action next accepted advances =>
    have going := advances.follows.going
    exact ⟨next,advances.arrives,(rounds going).advance inside accepted performed advances⟩
  | begun starts succeeds => simp [Deed.begins,starts,succeeds] at continues
  | cancelled cancels abandoned =>
    rw [abandoned]
    exact ⟨.concluded,engine.cancel_at,absurd rfl⟩
  | reconfigured configures idle valid changed =>
    obtain rfl := inside.concluded_of_idle idle
    rw [changed]
    exact ⟨.concluded,inside.reconfigured _,absurd rfl⟩

theorem run {first last : Engine ρ}
    (rounds : stage ≠ .concluded → first.Rounds stage opening []) (inside : first.At stage)
    (run : Run first since last) (continues : ∀ deed ∈ since, deed.begins = false) :
    ∃ stage, last.At stage ∧ (stage ≠ .concluded → last.Rounds stage opening since) := by
  induction run with
  | start => exact ⟨stage,inside,rounds⟩
  | step before performed ih =>
    obtain ⟨now,arrives,sofar⟩ := ih fun deed member => continues deed (List.mem_append_left _ member)
    exact perform sofar arrives performed
      (continues _ (List.mem_append_right _ (List.mem_singleton_self _)))

/-- Before a backoff, the history shows where the attempt began and what it has asked since. -/
theorem of_armed {policy : Policy} {words : ρ} {first last : Engine ρ} {deeds : List (Deed ρ)}
    {number : UInt32} (made : Engine.new policy words = .ok first) (run : Run first deeds last)
    (armed : last.timers.armed .backoffStart = some number) :
    ∃ earlier opening since, deeds = earlier ++ opening :: since ∧ opening.begins = true ∧
      (∀ deed ∈ since, deed.begins = false) ∧ last.Rounds .backoffStart opening since := by
  obtain ⟨stage,balanced⟩ := Balanced.run made run
  obtain rfl : stage = .backoffStart :=
    balanced.counted.inside.stage_of_armed armed rfl (by simp)
  obtain ⟨since,begun,_⟩ := balanced.opened (by simp)
  obtain ⟨earlier,opening,rfl,begins,_⟩ := begun.opening
  obtain ⟨_,performed,after⟩ := run.split
  refine ⟨earlier,opening,since,rfl,begins,begun.last,?_⟩
  obtain ⟨around,starts,succeeds⟩ := Deed.starts_of_begins begins
  rw [starts] at performed
  obtain ⟨inside,opened⟩ := start performed succeeds
  obtain ⟨stage,inside,rounds⟩ := Rounds.run (fun _ => opened) inside after begun.last
  obtain rfl : stage = .backoffStart := inside.stage_of_armed armed rfl (by simp)
  have same : Deed.mk opening.before (.start around) opening.reaction = opening := by rw [← starts]
  exact same ▸ rounds (by simp)

end Rounds

/-- What a backoff of some periods asks and draws as it begins, in an attempt that began with
`opening`. It is resumed if it is the first of an attempt that inherits one. -/
structure Draws (engine : Engine ρ) (around : Surroundings) (rate : SymbolRate)
    (reaction : Reaction ρ) (opening : Deed ρ) (since : List (Deed ρ)) (periods : Nat) : Prop where
  result : reaction.result = .ok ()
  calls : ∃ timer delay,
    reaction.calls =
      (if opening.inherits ∧ spells since = [] then []
        else [.askAdvice engine.progress.exponent engine.progress.backoffs around.advice]) ++
          engine.looks ++ [.schedule timer delay] ∧
    if timer.kind = .capEnd then delay < rate.spanOf (periods * engine.policy.backoffPeriod.toNat)
    else delay = rate.spanOf (periods * engine.policy.backoffPeriod.toNat)
  resumed : opening.inherits ∧ spells since = [] →
    periods = opening.before.carriedPeriods ∧ reaction.engine.words = engine.words
  advised : ¬ (opening.inherits ∧ spells since = []) → ∀ advised, around.advice = some advised →
    periods = min advised.toNat (2 ^ engine.progress.exponent - 1) ∧
      reaction.engine.words = engine.words
  drawn : ¬ (opening.inherits ∧ spells since = []) → around.advice = none →
    periods = (WordSource.next engine.words).1.toNat % 2 ^ engine.progress.exponent ∧
      reaction.engine.words = (WordSource.next engine.words).2
  range : ¬ (opening.inherits ∧ spells since = []) → periods ≤ 2 ^ engine.progress.exponent - 1
  rounds : (spells since).length = engine.progress.backoffs
  asked : timesAsked since + reaction.calls.countP Call.asks + (if opening.inherits then 1 else 0) =
    engine.progress.backoffs + 1

theorem Rounds.draws {engine : Engine ρ} {timer : Timer} {around : Surroundings}
    {rate : SymbolRate} {reaction : Reaction ρ} {next : Stage} {opening : Deed ρ}
    {since : List (Deed ρ)} (rounds : engine.Rounds .backoffStart opening since)
    (counted : engine.Counted .backoffStart)
    (reacts : engine.Reacts .backoffStart (.fire timer around) reaction next)
    (rated : SymbolRate.of around.radio.symbolsPerSecond = .ok rate) :
    ∃ periods, engine.Draws around rate reaction opening since periods := by
  obtain ⟨source,asked,drawn,begins⟩ := reacts.begins rated
  obtain ⟨timer',delay,calls,waits⟩ := begins.calls
  have policy : source.policy = engine.policy := (takeBackoff_policy drawn :)
  have rounded := rounds.begun (by simp)
  have low : engine.progress.exponent ≤ 31 := by
    have exponent := counted.exponent_le (by simp)
    have largest := (Policy.exponents_le counted.valid).1
    omega
  have span : source.backoffSpan rate =
      rate.spanOf (source.progress.periodsLeft * engine.policy.backoffPeriod.toNat) := by
    rw [backoffSpan,policy]
  have nonneg : 0 ≤ (source.backoffSpan rate).us := by
    rw [span]
    exact rate.spanOf_nonneg (counted.symbols_le (counted.drawn drawn)).2
  have chosen (further : ¬ (opening.inherits ∧ spells since = [])) :
      source.progress.periodsLeft = (engine.chosen around.advice).1 ∧
        reaction.engine.words = (engine.chosen around.advice).2 := by
    rw [begins.words,(rounds.chooses drawn further).1]
    exact (engine.taken .backoffStart).chooseBackoff_chosen low around.advice
  refine ⟨source.progress.periodsLeft,begins.result,?calls,?resumed,?advised,?drawn,?range,?rounds,
    ?asked⟩
  case calls =>
    rw [Span.clamp_of_nonneg nonneg,span] at waits
    exact ⟨timer',delay,by rw [calls,rounds.asks drawn],waits⟩
  case resumed =>
    intro first
    have left := rounds.owed (rounds.resumes_iff.mpr first).1 rfl
    rw [if_pos first.2] at left
    rw [begins.words,(rounds.resumes drawn first).1]
    exact ⟨left,rfl⟩
  case advised =>
    intro further advised advice
    have periods := chosen further
    rwa [advice] at periods
  case drawn =>
    intro further advice
    have periods := chosen further
    rwa [advice] at periods
  case range =>
    intro further
    rw [(chosen further).1]
    exact engine.chosen_le around.advice
  case rounds => simpa using rounded
  case asked => rw [rounds.counts drawn calls,rounded]; rfl

/-- Whatever does not begin a backoff asks nothing and uses no word. -/
theorem At.perform_unasked {engine : Engine ρ} {stage : Stage} {operation : Operation}
    {reaction : Reaction ρ} (inside : engine.At stage)
    (performed : engine.perform operation = .ok reaction)
    (idle : ∀ number around, operation = .fire ⟨.backoffStart,number⟩ around →
      engine.timers.armed .backoffStart = some number → around.radio.symbolsPerSecond = 0) :
    reaction.calls.countP Call.asks = 0 ∧ reaction.engine.words = engine.words := by
  cases perform_effect inside performed with
  | ignored unheard same silent fruitless unrefused => exact ⟨by rw [silent]; rfl,by rw [same]⟩
  | advanced accepted advances =>
    have reacts := advances.reacts inside accepted performed
    by_cases first : stage = .backoffStart
    · subst first
      rcases accepts_of_eq_some accepted with ⟨⟨kind,number⟩,around,rfl,rfl,armed⟩ | ⟨_,rfl,rfl,_⟩
      · obtain rfl : .backoffStart = kind := Option.some.inj (inside.awaited_of_armed armed)
        have unrated := SymbolRate.of_eq_error_iff.mpr ⟨idle number around rfl armed,rfl⟩
        obtain ⟨_,_,silent,kept⟩ := reacts.refuses unrated
        exact ⟨by rw [silent]; rfl,kept⟩
      · cases reacts
    · exact reacts.unasked first
  | begun starts succeeds =>
    subst starts
    obtain ⟨wait,notes,rfl⟩ := start_begun performed succeeds
    refine ⟨?_,rfl⟩
    rw [waitFor,List.countP_append,looks_unasked]
    rfl
  | cancelled cancels abandoned =>
    rw [abandoned]
    exact ⟨rfl,rfl⟩
  | reconfigured configures running valid changed =>
    rw [changed]
    exact ⟨rfl,rfl⟩

end Engine

variable [WordSource ρ]

/-- In every run, a backoff that begins asks for advice once and uses a word only if there is none,
but does neither if it is the first of an attempt that inherits one; nothing else asks or uses a
word. A draw depends on the next word alone, and each number of periods from zero to the largest is
drawn for equally many words. -/
theorem one_draw_a_round {policy : Policy} {words : ρ} {first last : Engine ρ}
    {deeds : List (Deed ρ)} (made : Engine.new policy words = .ok first)
    (run : Run first deeds last) :
    (∀ number around rate reaction, last.timers.armed .backoffStart = some number →
      SymbolRate.of around.radio.symbolsPerSecond = .ok rate →
      last.perform (.fire ⟨.backoffStart,number⟩ around) = .ok reaction →
      ∃ earlier opening since periods, deeds = earlier ++ opening :: since ∧
        opening.begins = true ∧ (∀ deed ∈ since, deed.begins = false) ∧
        last.Draws around rate reaction opening since periods) ∧
    (∀ operation reaction, last.perform operation = .ok reaction →
      (∀ number around, operation = .fire ⟨.backoffStart,number⟩ around →
        last.timers.armed .backoffStart = some number → around.radio.symbolsPerSecond = 0) →
      reaction.calls.countP Call.asks = 0 ∧ reaction.engine.words = last.words) ∧
    ∀ exponent, (∀ source : ρ, Backoff.draw source exponent =
        ((WordSource.next source).1.toNat % 2 ^ min exponent 31,(WordSource.next source).2)) ∧
      ∀ periods, Nat.card {word : UInt32 // (Backoff.draw (⟨[word]⟩ : WordScript) exponent).1 = periods} =
        if periods ≤ 2 ^ min exponent 31 - 1 then 2 ^ (32 - min exponent 31) else 0 := by
  obtain ⟨stage,counted⟩ := Engine.Counted.run made run
  have inside := counted.inside
  refine ⟨?backoff,fun operation reaction => inside.perform_unasked,fun exponent => ⟨?draw,?uniform⟩⟩
  case backoff =>
    intro number around rate reaction armed rated performed
    obtain rfl : stage = .backoffStart := inside.stage_of_armed armed rfl (by simp)
    have accepted : last.accepts (.fire ⟨.backoffStart,number⟩ around) = some _ := if_pos armed
    obtain ⟨next,advances⟩ := Engine.accepts_advances inside accepted performed
    have reacts := advances.reacts inside accepted performed
    obtain ⟨earlier,opening,since,split,begins,continues,rounds⟩ :=
      Engine.Rounds.of_armed made run armed
    obtain ⟨periods,draws⟩ := rounds.draws counted reacts rated
    exact ⟨earlier,opening,since,periods,split,begins,continues,draws⟩
  case draw =>
    intro source
    exact Backoff.draw_eq source exponent
  case uniform =>
    intro periods
    have positive := Nat.two_pow_pos (min exponent 31)
    rw [Backoff.card_draw]
    congr 1
    exact propext (by omega)

/-- An attempt that resumes three periods asks for the first time when its second backoff begins, and
draws three from the next word. -/
theorem one_draw_a_round_resumed :
    ∃ (first last : Engine WordScript) (deeds since : List (Deed WordScript))
      (opening : Deed WordScript) (reaction : Reaction WordScript) (periods : Nat),
      Engine.new { mode := .slotted } ⟨[5,3]⟩ = .ok first ∧ Run first deeds last ∧
        last.perform (.fire ⟨.backoffStart,5⟩ (.plain 62500)) = .ok reaction ∧
        reaction.calls = [.askAdvice 4 1 none,.askSuperframe .outgoing,
          .schedule ⟨.canProceed,6⟩ ⟨960⟩] ∧
        (spells since).length = 1 ∧ periods = 3 ∧
        timesAsked since + (if opening.inherits then 1 else 0) = 1 ∧
        Nat.card {word : UInt32 // (Backoff.draw (⟨[word]⟩ : WordScript) 4).1 = periods} = 2 ^ 28 := by
  obtain ⟨first,made⟩ :
    ∃ first, Engine.new { mode := .slotted } (⟨[5,3]⟩ : WordScript) = .ok first := ⟨_,rfl⟩
  obtain ⟨deeds,last,reaction,run,armed,performed,calls,backoffs,exponent,word⟩ :
      ∃ deeds last reaction, Run first deeds last ∧
        last.timers.armed .backoffStart = some 5 ∧
        last.perform (.fire ⟨.backoffStart,5⟩ (.plain 62500)) = .ok reaction ∧
        reaction.calls = [.askAdvice 4 1 none,.askSuperframe .outgoing,
          .schedule ⟨.canProceed,6⟩ ⟨960⟩] ∧
        last.progress.backoffs = 1 ∧ last.progress.exponent = 4 ∧
        (WordSource.next last.words).1.toNat = 3 := by
    cases made
    exact ⟨_,_,_,.step (.step (.step (.step (.step (.step (.step (.step .start
        (rfl : Engine.perform _ (.start (.plain 62500)) = _))
        (rfl : Engine.perform _ (.fire ⟨.backoffStart,0⟩
          { Surroundings.plain 62500 with now := ⟨14720⟩ }) = _))
        (rfl : Engine.perform _ (.fire ⟨.capEnd,1⟩ (.plain 62500)) = _))
        (rfl : Engine.perform _ (.start (.plain 62500)) = _))
        (rfl : Engine.perform _ (.fire ⟨.backoffStart,2⟩ (.plain 62500)) = _))
        (rfl : Engine.perform _ (.fire ⟨.canProceed,3⟩ (.plain 62500)) = _))
        (rfl : Engine.perform _ (.fire ⟨.ccaRequest,4⟩ (.plain 62500)) = _))
        (rfl : Engine.perform _ (.confirm .busy) = _),
      rfl,rfl,by decide,rfl,rfl,rfl⟩
  obtain ⟨begins,_,uniform⟩ := one_draw_a_round made run
  obtain ⟨_,opening,since,periods,_,_,_,draws⟩ := begins _ _ ⟨62500,by decide⟩ _ armed rfl performed
  have rounds := draws.rounds
  have asked := draws.asked
  have fresh : ¬ (opening.inherits ∧ spells since = []) := by
    rintro ⟨_,none⟩
    simp [none,backoffs] at rounds
  have three : periods = 3 := by
    rw [(draws.drawn fresh rfl).1,word,exponent]
    rfl
  rw [calls,backoffs] at asked
  refine ⟨first,last,deeds,since,opening,reaction,periods,made,run,performed,calls,
    rounds.trans backoffs,three,?_,?_⟩
  · have once : [Call.askAdvice 4 1 none,.askSuperframe .outgoing,
      .schedule ⟨.canProceed,6⟩ ⟨960⟩].countP Call.asks = 1 := rfl
    omega
  · rw [(uniform 4).2,three]
    rfl

end ChannelAccess
