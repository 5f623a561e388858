import Mathlib.Data.List.Forall2
import ChannelAccess.Proofs.Engine.Runs

/-!
Between a successful start and the next start or cancellation an engine gives at most one verdict,
and the verdict is what the accepted assessments and the armed timers call for. Main statement:
`one_exact_verdict`.
-/

namespace ChannelAccess

variable {ρ : Type}

/-- Operations that make the engine give up a running attempt. -/
def Operation.abandons : Operation → Bool
  | .start _ | .cancel => true
  | .fire _ _ | .confirm _ | .setPolicy _ | .setMode _ => false

/-- The same operation, up to the reason why an assessment was not idle. -/
inductive Operation.Alike : Operation → Operation → Prop
  | same (operation : Operation) : Alike operation operation
  | occupied {status other : ChannelStatus} (busy : status.isIdle = false)
      (likewise : other.isIdle = false) : Alike (.confirm status) (.confirm other)

def Call.verdict? : Call → Option Verdict
  | .verdict given => some given
  | .schedule _ _ | .requestCca | .cost _ | .askAdvice _ _ _ | .askSuperframe _ => none

def Reaction.verdicts (reaction : Reaction ρ) : List Verdict := reaction.calls.filterMap Call.verdict?

def Action.status? : Action → Option ChannelStatus
  | .assessed status => some status
  | .expired _ => none

namespace Deed

/-- The status of an assessment that was outstanding as it came. -/
def assessment? (deed : Deed ρ) : Option ChannelStatus := deed.action?.bind Action.status?

structure Alike (deed other : Deed ρ) : Prop where
  before : other.before = deed.before
  operation : deed.operation.Alike other.operation
  reaction : other.reaction = deed.reaction

end Deed

/-- The accepted assessments, oldest first. -/
def assessments (deeds : List (Deed ρ)) : List ChannelStatus := deeds.filterMap Deed.assessment?

def verdicts (deeds : List (Deed ρ)) : List Verdict :=
  deeds.flatMap fun deed => deed.reaction.verdicts

def busyCount (statuses : List ChannelStatus) : Nat := statuses.countP fun status => ! status.isIdle

/-- How many assessments were idle since the last one that was not. -/
def idleRow (statuses : List ChannelStatus) : Nat :=
  (statuses.reverse.takeWhile ChannelStatus.isIdle).length

@[simp] theorem assessments_append (deeds : List (Deed ρ)) (deed : Deed ρ) :
    assessments (deeds ++ [deed]) = assessments deeds ++ deed.assessment?.toList := by
  simp only [assessments,List.filterMap_append]
  cases noted : deed.assessment? <;> simp [noted]

@[simp] theorem verdicts_append (deeds : List (Deed ρ)) (deed : Deed ρ) :
    verdicts (deeds ++ [deed]) = verdicts deeds ++ deed.reaction.verdicts := by
  simp [verdicts]

theorem busyCount_append (statuses : List ChannelStatus) (action : Action) :
    busyCount (statuses ++ action.status?.toList) =
      busyCount statuses + if action.busy then 1 else 0 := by
  cases action with
  | expired kind => simp [Action.status?,Action.busy]
  | assessed status => cases idle : status.isIdle <;> simp [busyCount,Action.status?,Action.busy,idle]

@[simp] theorem idleRow_append (statuses : List ChannelStatus) (status : ChannelStatus) :
    idleRow (statuses ++ [status]) = if status.isIdle then idleRow statuses + 1 else 0 := by
  cases idle : status.isIdle <;> simp [idleRow,idle]

theorem Run.split [WordSource ρ] {first last : Engine ρ} {earlier later : List (Deed ρ)}
    {deed : Deed ρ} (run : Run first (earlier ++ deed :: later) last) :
    Run first earlier deed.before ∧ deed.before.perform deed.operation = .ok deed.reaction ∧
      Run deed.reaction.engine later last := by
  generalize whole : earlier ++ deed :: later = deeds at run
  induction run generalizing later with
  | start => simp at whole
  | step before performed ih =>
    rcases List.eq_nil_or_concat later with rfl | ⟨front,final,rfl⟩
    · obtain ⟨rfl,same⟩ := List.append_inj' whole rfl
      cases same
      exact ⟨before,performed,.start⟩
    · rw [List.concat_eq_append,← List.cons_append,← List.append_assoc] at whole
      obtain ⟨front,same⟩ := List.append_inj' whole rfl
      cases same
      obtain ⟨begun,done,after⟩ := ih front
      rw [List.concat_eq_append]
      exact ⟨begun,done,after.step performed⟩

theorem Engine.perform_alike [WordSource ρ] (engine : Engine ρ) {operation other : Operation}
    (alike : operation.Alike other) : engine.perform other = engine.perform operation := by
  cases alike with
  | same => rfl
  | occupied busy likewise => simp [Engine.perform,Engine.confirm,busy,likewise]

theorem forall₂_concat_left {α β : Type} {related : α → β → Prop} {front : List α} {final : α}
    {others : List β} (pairs : List.Forall₂ related (front ++ [final]) others) :
    ∃ front' final', others = front' ++ [final'] ∧ List.Forall₂ related front front' ∧
      related final final' := by
  have reversed := List.forall₂_reverse_iff.mpr pairs
  rw [List.reverse_append,List.reverse_singleton,List.singleton_append] at reversed
  obtain ⟨final',rest,ends,fronts,same⟩ := List.forall₂_cons_left_iff.mp reversed
  refine ⟨rest.reverse,final',?_,?_,ends⟩
  · rw [← List.reverse_cons,← same,List.reverse_reverse]
  · rw [← List.forall₂_reverse_iff,List.reverse_reverse]
    exact fronts

/-- Reasons for not being idle can be exchanged throughout a run. -/
theorem Run.alike [WordSource ρ] {first last : Engine ρ} {deeds others : List (Deed ρ)}
    (run : Run first deeds last) (alike : List.Forall₂ Deed.Alike deeds others) :
    Run first others last := by
  induction run generalizing others with
  | start =>
    cases alike
    exact .start
  | step before performed ih =>
    obtain ⟨front,⟨engine,other,reaction⟩,rfl,fronts,ends⟩ := forall₂_concat_left alike
    obtain ⟨rfl,likewise,rfl⟩ := ends
    exact (ih fronts).step ((Engine.perform_alike _ likewise).trans performed)

namespace Engine

theorem Closing.verdicts {reaction : Reaction ρ} {action : Action} {next : Stage}
    {quiet closing : List Call} (closes : Closing reaction.engine action next closing)
    (asked : ∀ call ∈ quiet, call.isQuiet = true) (calls : reaction.calls = quiet ++ closing) :
    reaction.verdicts = if next = .concluded then [action.verdict] else [] := by
  have silent : quiet.filterMap Call.verdict? = [] := by
    rw [List.filterMap_eq_nil_iff]
    intro call member
    have unheard := asked call member
    cases call <;> first | rfl | simp [Call.isQuiet] at unheard
  rw [Reaction.verdicts,calls,List.filterMap_append,silent,List.nil_append]
  cases next <;>
    simp only [Closing,Stage.awaited,Stage.assessing,reduceCtorEq,if_true,if_false,
      Bool.false_eq_true] at closes ⊢
  case concluded | stuck | assessment =>
    rw [closes]
    rfl
  all_goals
    obtain ⟨number,delay,_,_,rfl⟩ := closes
    rfl

theorem Advances.verdicts {engine : Engine ρ} {stage next : Stage} {action : Action}
    {reaction : Reaction ρ} (advances : Advances engine stage action reaction next) :
    reaction.verdicts = if next = .concluded then [action.verdict] else [] := by
  obtain ⟨quiet,closing,calls,asked,closes⟩ := advances.calls
  exact closes.verdicts asked calls

/-- What holds of an engine when no operation has abandoned the attempt since its start. -/
structure Since (engine : Engine ρ) (policy : Policy) (deeds : List (Deed ρ)) (stage : Stage) :
    Prop where
  inside : engine.At stage
  unchanged : stage ≠ .concluded → engine.policy = policy
  backoffs : engine.progress.backoffs = busyCount (assessments deeds)
  bound : stage ≠ .concluded → engine.progress.backoffs ≤ policy.maxBackoffs.toNat
  row : stage ≠ .concluded → idleRow (assessments deeds) = stage.idles
  given : (verdicts deeds).length = if stage = .concluded then 1 else 0

end Engine

/-- The verdicts that an operation gives are due to the accepted deliveries up to it. -/
structure Exact (policy : Policy) (earlier : List (Deed ρ)) (deed : Deed ρ) : Prop where
  once : (verdicts (earlier ++ [deed])).length ≤ 1
  running : deed.reaction.engine.running = true ↔ verdicts (earlier ++ [deed]) = []
  backoffs : deed.reaction.engine.progress.backoffs = busyCount (assessments (earlier ++ [deed]))
  accessFailure : .accessFailure ∈ deed.reaction.verdicts ↔
    (∃ status, deed.assessment? = some status ∧ status.isIdle = false) ∧
      busyCount (assessments (earlier ++ [deed])) = policy.maxBackoffs.toNat + 1
  channelIdle : .channelIdle ∈ deed.reaction.verdicts ↔
    (∃ status, deed.assessment? = some status ∧ status.isIdle = true) ∧
      idleRow (assessments (earlier ++ [deed])) = policy.mode.needed
  deferred : .deferred ∈ deed.reaction.verdicts ↔ deed.action? = some (.expired .capEnd)
  slotted : deed.action? = some (.expired .capEnd) → policy.mode = .slotted

namespace Engine

theorem Since.running_iff {engine : Engine ρ} {policy : Policy} {deeds : List (Deed ρ)} {stage : Stage}
    (since : engine.Since policy deeds stage) : engine.running = true ↔ verdicts deeds = [] := by
  rw [since.inside.running,← List.length_eq_zero_iff,since.given]
  simp

theorem Since.once {engine : Engine ρ} {policy : Policy} {deeds : List (Deed ρ)} {stage : Stage}
    (since : engine.Since policy deeds stage) : (verdicts deeds).length ≤ 1 := by
  rw [since.given]
  split <;> simp

theorem Follows.row {mode : Mode} {stage next : Stage} {action : Action} {deeds : List (Deed ρ)}
    {deed : Deed ρ} (follows : Follows mode stage action next)
    (noted : deed.assessment? = action.status?) (row : idleRow (assessments deeds) = stage.idles)
    (more : next ≠ .concluded) : idleRow (assessments (deeds ++ [deed])) = next.idles := by
  rw [assessments_append,noted]
  cases follows <;> simp_all [Action.status?,Stage.idles]

theorem Since.advance {engine : Engine ρ} {policy : Policy} {deeds : List (Deed ρ)}
    {stage next : Stage} {operation : Operation} {action : Action} {reaction : Reaction ρ}
    (since : engine.Since policy deeds stage) (accepted : engine.accepts operation = some action)
    (advances : Advances engine stage action reaction next) :
    reaction.engine.Since policy (deeds ++ [⟨engine,operation,reaction⟩]) next := by
  have follows := advances.follows
  have going := follows.going
  have noted : (Deed.mk engine operation reaction).assessment? = action.status? :=
    congrArg (Option.bind · Action.status?) accepted
  have row := since.row going
  have bound := since.bound going
  refine ⟨advances.arrives,?unchanged,?backoffs,?bound,?row,?given⟩
  case unchanged =>
    intro _
    rw [advances.policy]
    exact since.unchanged going
  case backoffs =>
    rw [advances.backoffs,since.backoffs,assessments_append,noted,busyCount_append]
  case bound =>
    intro more
    rw [← since.unchanged going] at bound ⊢
    exact advances.backoffs_le bound more
  case row =>
    intro more
    exact Follows.row follows noted row more
  case given =>
    rw [verdicts_append,List.length_append,since.given,advances.verdicts,if_neg going]
    split <;> rfl

theorem Since.advance_exact {engine : Engine ρ} {policy : Policy} {deeds : List (Deed ρ)}
    {stage next : Stage} {operation : Operation} {action : Action} {reaction : Reaction ρ}
    (since : engine.Since policy deeds stage) (accepted : engine.accepts operation = some action)
    (advances : Advances engine stage action reaction next) :
    Exact policy deeds ⟨engine,operation,reaction⟩ := by
  have after := since.advance accepted advances
  have follows := advances.follows
  have going := follows.going
  have unchanged := since.unchanged going
  have noted : (Deed.mk engine operation reaction).assessment? = action.status? :=
    congrArg (Option.bind · Action.status?) accepted
  have acted : (Deed.mk engine operation reaction).action? = some action := accepted
  have row := since.row going
  have gives := advances.verdicts
  refine ⟨after.once,after.running_iff,after.backoffs,?accessFailure,?channelIdle,?deferred,?slotted⟩
  case accessFailure =>
    have bound := since.bound going
    have gaveUp := advances.gaveUp
    rw [← after.backoffs,advances.backoffs,noted,gives]
    rw [unchanged] at gaveUp
    cases follows with
    | fails idles busy =>
      have spent := (gaveUp (by simp [Action.busy,busy])).mp rfl
      simp [Action.verdict,Action.status?,Action.busy,busy]
      omega
    | backsOff idles busy =>
      have kept := (not_congr (gaveUp (by simp [Action.busy,busy]))).mp (by simp)
      simp [Action.status?,Action.busy,busy]
      omega
    | _ => simp_all [Action.verdict,Action.status?]
  case channelIdle =>
    rw [assessments_append,noted,gives]
    rw [unchanged] at follows
    cases follows <;> simp_all [Action.verdict,Action.status?,Stage.idles]
    omega
  case deferred =>
    rw [acted,gives]
    cases follows <;> simp_all [Action.verdict]
  case slotted =>
    intro ends
    rw [acted] at ends
    have allowed := since.inside.allowed
    rw [unchanged] at allowed
    cases follows <;> simp_all [Stage.Allowed]

/-- An operation that delivers nothing and calls nobody. -/
theorem Since.pass {engine : Engine ρ} {policy : Policy} {deeds : List (Deed ρ)} {stage : Stage}
    {operation : Operation} {reaction : Reaction ρ} (since : engine.Since policy deeds stage)
    (unheard : engine.accepts operation = none) (silent : reaction.calls = [])
    (inside : reaction.engine.At stage) (progress : reaction.engine.progress = engine.progress)
    (unchanged : stage ≠ .concluded → reaction.engine.policy = engine.policy) :
    reaction.engine.Since policy (deeds ++ [⟨engine,operation,reaction⟩]) stage ∧
      Exact policy deeds ⟨engine,operation,reaction⟩ := by
  have unacted : (Deed.mk engine operation reaction).action? = none := unheard
  have unnoted : (Deed.mk engine operation reaction).assessment? = none :=
    congrArg (Option.bind · Action.status?) unheard
  have mute : reaction.verdicts = [] := by simp [Reaction.verdicts,silent]
  have after : reaction.engine.Since policy (deeds ++ [⟨engine,operation,reaction⟩]) stage := by
    refine ⟨inside,fun going => (unchanged going).trans (since.unchanged going),?_,?_,?_,?_⟩
    · simpa [progress,unnoted] using since.backoffs
    · simpa [progress] using since.bound
    · simpa [unnoted] using since.row
    · simpa [mute] using since.given
  refine ⟨after,after.once,after.running_iff,after.backoffs,?_,?_,?_,?_⟩ <;> simp [mute,unacted,unnoted]

/-- Every operation but a start or a cancellation keeps count of the attempt. -/
theorem Since.step [WordSource ρ] {engine : Engine ρ} {policy : Policy} {deeds : List (Deed ρ)}
    {stage : Stage} {operation : Operation} {reaction : Reaction ρ}
    (since : engine.Since policy deeds stage)
    (performed : engine.perform operation = .ok reaction) (undisturbed : operation.abandons = false) :
    ∃ next, reaction.engine.Since policy (deeds ++ [⟨engine,operation,reaction⟩]) next ∧
      Exact policy deeds ⟨engine,operation,reaction⟩ := by
  cases perform_effect since.inside performed with
  | ignored unheard same silent fruitless unrefused =>
    exact ⟨stage,since.pass unheard silent (same ▸ since.inside) (by rw [same]) fun _ => by rw [same]⟩
  | advanced accepted advances =>
    exact ⟨_,since.advance accepted advances,since.advance_exact accepted advances⟩
  | begun starts => simp [starts,Operation.abandons] at undisturbed
  | cancelled cancels => simp [cancels,Operation.abandons] at undisturbed
  | @reconfigured policy configures idle valid changed =>
    subst changed
    obtain rfl := since.inside.concluded_of_idle idle
    have unheard : engine.accepts operation = none := by
      rcases configures with rfl | ⟨mode,rfl⟩ <;> rfl
    exact ⟨.concluded,since.pass unheard rfl (since.inside.reconfigured policy) rfl (absurd rfl)⟩

theorem Since.start [WordSource ρ] {engine : Engine ρ} {around : Surroundings}
    {started : Reaction ρ} (begun : engine.start around = .ok started)
    (succeeds : started.result = .ok ()) :
    started.engine.Since engine.policy [] .backoffStart ∧ started.verdicts = [] := by
  rcases start_cases begun with rfl | ⟨_,inside,policy,backoffs,quiet,closing,calls,asked,closes⟩
  · cases succeeds
  · refine ⟨⟨inside,fun _ => policy,backoffs,fun _ => ?_,fun _ => rfl,rfl⟩,?_⟩
    · rw [backoffs]
      exact Nat.zero_le _
    · rw [(closes (.expired .backoffStart)).verdicts asked calls]
      rfl

theorem Since.run [WordSource ρ] {first last : Engine ρ} {policy : Policy} {deeds : List (Deed ρ)}
    (since : first.Since policy [] .backoffStart) (run : Run first deeds last)
    (undisturbed : ∀ deed ∈ deeds, deed.operation.abandons = false) :
    ∃ stage, last.Since policy deeds stage := by
  induction run with
  | start => exact ⟨_,since⟩
  | step before performed ih =>
    obtain ⟨stage,sofar⟩ := ih fun deed member => undisturbed deed (List.mem_append_left _ member)
    obtain ⟨next,after,_⟩ := sofar.step performed
      (undisturbed _ (List.mem_append_right _ (List.mem_singleton_self _)))
    exact ⟨next,after⟩

end Engine

/-- After a successful start, and until the next start or cancellation, an engine gives no verdict
or one and stops running with it; its backoffs count the accepted assessments that were not idle;
each verdict is given by the operation that calls for it and by no other; and it makes no difference
why an assessment was not idle. -/
theorem one_exact_verdict [WordSource ρ] {engine last : Engine ρ} {around : Surroundings}
    {started : Reaction ρ} {deeds : List (Deed ρ)} (begun : engine.start around = .ok started)
    (succeeds : started.result = .ok ()) (run : Run started.engine deeds last)
    (undisturbed : ∀ deed ∈ deeds, deed.operation.abandons = false) :
    started.verdicts = [] ∧ (verdicts deeds).length ≤ 1 ∧
    (last.running = true ↔ verdicts deeds = []) ∧
    last.progress.backoffs = busyCount (assessments deeds) ∧
    (∀ earlier deed later, deeds = earlier ++ deed :: later → Exact engine.policy earlier deed) ∧
    ∀ others, List.Forall₂ Deed.Alike deeds others → Run started.engine others last := by
  obtain ⟨fresh,silent⟩ := Engine.Since.start begun succeeds
  obtain ⟨stage,since⟩ := fresh.run run undisturbed
  refine ⟨silent,since.once,since.running_iff,since.backoffs,?_,fun others => run.alike⟩
  rintro earlier ⟨before,operation,reaction⟩ later rfl
  obtain ⟨onset,performed,_⟩ := run.split
  obtain ⟨stage,sofar⟩ := fresh.run onset fun deed member =>
    undisturbed deed (List.mem_append_left _ member)
  obtain ⟨_,_,exact⟩ := sofar.step performed (undisturbed _ (by simp))
  exact exact

/-- Without backoffs the first busy assessment gives the verdict, and a second result finds no
assessment outstanding. -/
theorem one_exact_verdict_no_backoffs :
    ∃ (engine last : Engine WordScript) (deeds : List (Deed WordScript)),
      Engine.new { maxBackoffs := 0 } ⟨[5]⟩ = .ok engine ∧ verdicts deeds = [.accessFailure] ∧
        assessments deeds = [.busy] ∧ last.running = false ∧ last.progress.backoffs = 1 := by
  obtain ⟨engine,made⟩ :
    ∃ engine, Engine.new { maxBackoffs := 0 } (⟨[5]⟩ : WordScript) = .ok engine := ⟨_,rfl⟩
  obtain ⟨started,deeds,last,begun,succeeds,run,undisturbed,given,heard⟩ :
      ∃ started deeds last, engine.start (.plain 62500) = .ok started ∧ started.result = .ok () ∧
        Run started.engine deeds last ∧ (∀ deed ∈ deeds, deed.operation.abandons = false) ∧
        verdicts deeds = [.accessFailure] ∧ assessments deeds = [.busy] := by
    cases made
    exact ⟨_,_,_,rfl,rfl,
      .step (.step (.step (.step .start
        (rfl : Engine.perform _ (.fire ⟨.backoffStart,0⟩ (.plain 62500)) = _))
        (rfl : Engine.perform _ (.fire ⟨.ccaRequest,1⟩ (.plain 62500)) = _))
        (rfl : Engine.perform _ (.confirm .busy) = _))
        (rfl : Engine.perform _ (.confirm .idle) = _),
      by simp [Operation.abandons],rfl,rfl⟩
  obtain ⟨_,_,running,backoffs,_⟩ := one_exact_verdict begun succeeds run undisturbed
  rw [given] at running
  rw [heard] at backoffs
  exact ⟨engine,last,deeds,made,given,heard,by simpa using running,backoffs⟩

end ChannelAccess
