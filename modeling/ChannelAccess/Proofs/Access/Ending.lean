import ChannelAccess.Proofs.Access.Observed
import ChannelAccess.Proofs.Access.Rig
import ChannelAccess.Proofs.Engine.Bound
import ChannelAccess.Proofs.Engine.Counters

/-!
How an access ends. At every point of its loop a session waits for exactly what its engine waits for,
so nothing is lost, nothing comes that is not expected, and every pass brings the end nearer. Main
statement: `access_ends`.
-/

namespace ChannelAccess

variable {ρ σ : Type}

/-- Something was lost or came when it was not expected. -/
def Note.mishap : Note → Bool
  | staleTimer _ | unexpectedConfirm | agendaFull _ | nothingToWaitFor | queueFull => true
  | restarted | slottedStarted _ | unslottedStarted | capEnded | assessing | stillIdle _
  | channelIdle _ | accessFailed _ | backingOff _ _ | assessmentAfter _ _ | carriedOver _ _
  | proceedingAfter _ | transactionTooLong _ _ | concluded _ | assessed _ | aborted _ => false

theorem Engine.Reacts.smooth [WordSource ρ] {engine : Engine ρ} {stage next : Stage}
    {operation : Operation} {reaction : Reaction ρ}
    (reacts : engine.Reacts stage operation reaction next) :
    ∀ note ∈ reaction.notes, note.mishap = false := by
  cases reacts <;> simp [waitFor,requestCca,Note.mishap]

theorem Engine.start_smooth {engine : Engine ρ} {around : Surroundings} {reaction : Reaction ρ}
    (started : engine.start around = .ok reaction) : ∀ note ∈ reaction.notes, note.mishap = false := by
  rcases SymbolRate.of_cases around.radio.symbolsPerSecond with unrated | ⟨rate,rated⟩
  · rw [start_refused unrated] at started
    cases started
    simp
  · rw [start_eq rated] at started
    obtain ⟨wait,_,rfl⟩ := except_map_eq_ok.mp started
    cases engine.running <;> cases engine.policy.isSlotted <;> simp [waitFor,Note.mishap]

theorem Agenda.pop?_single {agenda : Agenda} {entry : AgendaEntry} (single : agenda.entries = [entry]) :
    agenda.pop? = some (entry,{ agenda with entries := [] }) := by
  simp [pop?,first,removeAt,single]

namespace Session

/-- What the next pass of a session that is in a stage deals with. -/
inductive Expects (session : Session ρ σ) : Stage → Prop
  | timer {stage : Stage} (entry : AgendaEntry) (awaits : stage.awaited = some entry.timer.kind)
      (armed : session.engine.timers.armed entry.timer.kind = some entry.timer.number)
      (noted : session.agenda.entries = [entry])
      (request : session.ccaRequested = false) (undecided : session.verdict = none) : Expects session stage
  | status {idles : Nat} (noted : session.agenda.entries = [])
      (request : session.ccaRequested = true) (undecided : session.verdict = none) :
      Expects session (.assessment idles)
  | verdict {verdict : Verdict} (noted : session.agenda.entries = [])
      (given : session.verdict = some verdict) : Expects session .concluded

/-- A session that has taken what it waited for and not yet handed it to the engine. -/
structure Free (session : Session ρ σ) : Prop where
  agenda : session.agenda.entries = []
  request : session.ccaRequested = false
  verdict : session.verdict = none

structure Settled (session later : Session ρ σ) (reaction : Reaction ρ) (next : Stage) : Prop where
  engine : later.engine = reaction.engine
  expects : later.Expects next
  notes : later.notes = session.notes ++ reaction.notes
  verdict : later.verdict.toList = reaction.verdicts

theorem Free.settles {host : Host σ} {session later : Session ρ σ} {reaction : Reaction ρ}
    {action : Action} {next : Stage} (free : session.Free) (able : next ≠ .stuck)
    (calls : ∃ quiet closing, reaction.calls = quiet ++ closing ∧
      (∀ call ∈ quiet, call.isQuiet = true) ∧ Engine.Closing reaction.engine action next closing)
    (settled : session.settle host reaction = .ok later) : session.Settled later reaction next := by
  obtain ⟨quiet,closing,calls,silent,closes⟩ := calls
  have verdicts := closes.verdicts silent calls
  obtain ⟨state,hears⟩ := hearAll_quiet host
    (({ session with engine := reaction.engine } : Session ρ σ).addNotes reaction.notes) silent
  rw [settle,calls] at settled
  cases awaits : next.awaited with
  | some kind =>
    have going : next ≠ .concluded := fun concluded => by simp [concluded,Stage.awaited] at awaits
    simp only [Engine.Closing,awaits] at closes
    obtain ⟨number,delay,armed,_,rfl⟩ := closes
    rw [hearAll_snoc hears] at settled
    obtain ⟨⟨kept,agenda⟩,scheduled,settled⟩ := except_bind_eq_ok.mp settled
    obtain ⟨due,_,scheduled⟩ := except_bind_eq_ok.mp scheduled
    have room : session.agenda.entries.length < Agenda.capacity := by simp [free.agenda,Agenda.capacity]
    change (if session.agenda.entries.length < Agenda.capacity then _ else _) = _ at scheduled
    rw [if_pos room] at scheduled
    cases scheduled
    cases settled
    refine ⟨rfl,.timer ⟨due,session.agenda.nextOrder,⟨kind,number⟩⟩ awaits armed ?_ free.request
      free.verdict,rfl,?_⟩
    · change session.agenda.entries ++ [_] = _
      rw [free.agenda]
      rfl
    · rw [verdicts,if_neg going]
      change session.verdict.toList = []
      rw [free.verdict]
      rfl
  | none =>
    simp only [Engine.Closing,awaits] at closes
    cases next with
    | assessment idles =>
      obtain rfl : closing = [.requestCca] := closes
      rw [hearAll_snoc hears] at settled
      cases settled
      refine ⟨rfl,.status free.agenda rfl free.verdict,rfl,?_⟩
      rw [verdicts]
      change session.verdict.toList = []
      rw [free.verdict]
      rfl
    | concluded =>
      obtain rfl : closing = [.verdict action.verdict] := closes
      rw [hearAll_snoc hears] at settled
      cases settled
      refine ⟨rfl,.verdict free.agenda rfl,rfl,?_⟩
      rw [verdicts]
      rfl
    | stuck => exact absurd rfl able
    | backoffStart | canProceed | ccaRequest idles | capEnd => simp [Stage.awaited] at awaits

end Session

/-- The assessments since the last busy one, with one that is under way, never exceed those needed. -/
theorem Stage.Allowed.idles_le {mode : Mode} {stage : Stage} (allowed : stage.Allowed mode) :
    stage.idles + (if stage.assessing then 1 else 0) ≤ mode.needed := by
  cases stage with
  | ccaRequest idles => exact Nat.le_of_lt allowed
  | assessment idles => exact allowed
  | backoffStart | canProceed | capEnd | concluded | stuck => exact Nat.zero_le _

namespace Engine

/-- Assessments that an attempt can have had when it comes to a stage. -/
def assessedBy (engine : Engine ρ) (stage : Stage) : Nat :=
  if stage = .concluded then engine.policy.mode.needed * (engine.policy.maxBackoffs.toNat + 1)
  else engine.policy.mode.needed * engine.progress.backoffs + stage.idles

theorem At.assessedBy_le {engine : Engine ρ} {stage : Stage} (inside : engine.At stage)
    (bound : stage ≠ .concluded → engine.progress.backoffs ≤ engine.policy.maxBackoffs.toNat) :
    engine.assessedBy stage + (if stage.assessing then 1 else 0) ≤
      engine.policy.mode.needed * (engine.policy.maxBackoffs.toNat + 1) := by
  by_cases concluded : stage = .concluded
  · subst concluded
    exact Nat.le_refl _
  · have rounds := Nat.mul_le_mul_left engine.policy.mode.needed (bound concluded)
    have row := inside.allowed.idles_le
    rw [assessedBy,if_neg concluded,Nat.mul_succ]
    omega

theorem Advances.assessedBy_le {engine : Engine ρ} {stage next : Stage} {action : Action}
    {reaction : Reaction ρ} (inside : engine.At stage)
    (bound : engine.progress.backoffs ≤ engine.policy.maxBackoffs.toNat)
    (advances : Advances engine stage action reaction next) :
    engine.assessedBy stage + (if stage.assessing then 1 else 0) ≤ reaction.engine.assessedBy next := by
  have follows := advances.follows
  have row := inside.allowed.idles_le
  by_cases concluded : next = .concluded
  · have most := inside.assessedBy_le fun _ => bound
    rw [assessedBy.eq_def reaction.engine,if_pos concluded,advances.policy]
    exact most
  · rw [assessedBy,assessedBy,if_neg follows.going,if_neg concluded,advances.policy,
      advances.backoffs]
    cases follows with
    | backsOff idles busy =>
      simp only [Action.busy,busy,Bool.not_false,if_true,Nat.mul_succ]
      omega
    | stillIdle idles idle =>
      simp only [Action.busy,idle,Bool.not_true,Bool.false_eq_true,if_true,if_false,Nat.add_zero,
        Stage.idles,Stage.assessing]
      omega
    | granted | fails | capEnds => exact absurd rfl concluded
    | drawn | fits | cutShort | backoffRefused | proceeds | tooLong | checkRefused | requested =>
      simp [Action.busy,Stage.idles,Stage.assessing]

end Engine

def AccessEnding.verdict? : AccessEnding → Option Verdict
  | verdict given => some given
  | refused _ | pending => none

namespace Session

/-- The session is in a stage of its access, and nothing went amiss so far. -/
structure Attends (policy : Policy) (session : Session ρ (Observed σ)) (stage : Stage) : Prop where
  inside : session.engine.At stage
  unchanged : session.engine.policy = policy
  expects : session.Expects stage
  smooth : ∀ note ∈ session.notes, note.mishap = false
  told : session.host.verdicts = session.verdict.toList
  bound : stage ≠ .concluded → session.engine.progress.backoffs ≤ policy.maxBackoffs.toNat
  assessed : session.host.assessments ≤ session.engine.assessedBy stage

structure Ends (policy : Policy) (session : Session ρ (Observed σ)) (ending : AccessEnding) : Prop where
  told : session.host.verdicts = ending.verdict?.toList
  refused : ∀ error, ending = .refused error → error = .zeroSymbolRate
  idle : ending ≠ .pending → session.engine.At .concluded
  smooth : ∀ note ∈ session.notes, note.mishap = false
  assessed : session.host.assessments ≤ policy.mode.needed * (policy.maxBackoffs.toNat + 1)

/-- What a pass leaves: a session that has fewer deliveries ahead, or the end. -/
inductive Onward (policy : Policy) (left : Nat) : Session ρ (Observed σ) × Option AccessEnding → Prop
  | goesOn {later : Session ρ (Observed σ)} {next : Stage} (attends : later.Attends policy next)
      (fewer : later.engine.deliveriesLeft next < left) : Onward policy left (later,none)
  | ends {later : Session ρ (Observed σ)} {ending : AccessEnding} (ended : later.Ends policy ending) :
      Onward policy left (later,some ending)

/-- The session has slept or assessed the channel, and its engine does not know yet. -/
structure Woke (session awake : Session ρ (Observed σ)) (assessments : Nat) : Prop extends Free awake where
  engine : awake.engine = session.engine
  silent : awake.host.verdicts = []
  assessed : awake.host.assessments = session.host.assessments + assessments
  smooth : ∀ note ∈ awake.notes, note.mishap = false

variable {policy : Policy} {host : Host σ} {session awake later : Session ρ (Observed σ)}
  {stage : Stage}

theorem Attends.assessed_le (attends : session.Attends policy stage) :
    session.host.assessments + (if stage.assessing then 1 else 0) ≤
      policy.mode.needed * (policy.maxBackoffs.toNat + 1) := by
  have most := attends.inside.assessedBy_le (attends.unchanged ▸ attends.bound)
  have assessed := attends.assessed
  rw [attends.unchanged] at most
  omega

theorem sleepUntil_seen {due : Instant} {woke : Bool}
    (slept : session.sleepUntil host.observed due = .ok (woke,later)) :
    ∃ state, later = { session with host := { session.host with state } } := by
  obtain ⟨wait,_,slept⟩ := except_bind_eq_ok.mp slept
  split at slept
  · obtain ⟨⟨woken,seen⟩,sleeps,slept⟩ := except_bind_eq_ok.mp slept
    obtain ⟨⟨_,state⟩,_,same⟩ := except_map_eq_ok.mp sleeps
    cases same
    cases slept
    exact ⟨state,rfl⟩
  · cases slept
    exact ⟨_,rfl⟩

theorem Attends.hangs (attends : session.Attends policy stage) (silent : later.host.verdicts = [])
    (notes : later.notes = session.notes)
    (assessed : later.host.assessments ≤
      session.host.assessments + if stage.assessing then 1 else 0) : later.Ends policy .pending := by
  refine ⟨silent,?_,absurd rfl,notes ▸ attends.smooth,Nat.le_trans assessed attends.assessed_le⟩
  intro error same
  cases same

variable [WordSource ρ]

theorem Attends.goesOn {operation : Operation} {action : Action} {reaction : Reaction ρ}
    (attends : session.Attends policy stage)
    (woke : session.Woke awake (if stage.assessing then 1 else 0))
    (accepted : session.engine.accepts operation = some action)
    (performed : session.engine.perform operation = .ok reaction)
    (settled : awake.settle host.observed reaction = .ok later) (succeeds : reaction.result = .ok ()) :
    Onward policy (session.engine.deliveriesLeft stage) (later,none) := by
  obtain ⟨next,advances⟩ := Engine.accepts_advances attends.inside accepted performed
  have reacts := advances.reacts attends.inside accepted performed
  have left := woke.toFree.settles (advances.able succeeds) advances.calls settled
  obtain ⟨told,assessed⟩ := hearAll_seen settled
  have going := advances.follows.going
  have bound := attends.bound going
  rw [← attends.unchanged] at bound
  refine .goesOn ⟨?inside,?unchanged,left.expects,?smooth,?told,?bound,?assessed⟩ ?fewer
  case inside => exact left.engine ▸ advances.arrives
  case unchanged => exact left.engine ▸ advances.policy.trans attends.unchanged
  case smooth =>
    rw [left.notes]
    intro note member
    rcases List.mem_append.mp member with earlier | new
    · exact woke.smooth note earlier
    · exact reacts.smooth note new
  case told =>
    rw [told,left.verdict]
    change awake.host.verdicts ++ _ = _
    rw [woke.silent]
    rfl
  case bound =>
    intro more
    rw [left.engine,← attends.unchanged]
    exact advances.backoffs_le bound more
  case assessed =>
    have most := advances.assessedBy_le attends.inside bound
    have before := attends.assessed
    rw [left.engine,assessed]
    change awake.host.assessments ≤ _
    rw [woke.assessed]
    omega
  case fewer =>
    rw [left.engine]
    exact advances.fewer attends.inside

theorem Attends.givesUp {operation : Operation} {action : Action} {reaction : Reaction ρ}
    {error : AccessError} (attends : session.Attends policy stage)
    (woke : session.Woke awake 0) (accepted : session.engine.accepts operation = some action)
    (performed : session.engine.perform operation = .ok reaction)
    (settled : awake.settle host.observed reaction = .ok later)
    (refused : reaction.result = .error error) :
    (later.abort (.aborted error)).Ends policy (.refused error) := by
  obtain ⟨next,advances⟩ := Engine.accepts_advances attends.inside accepted performed
  have reacts := advances.reacts attends.inside accepted performed
  have most := attends.assessed_le
  cases reacts with
  | refused awaits unrated =>
    cases refused
    cases settled
    refine ⟨woke.silent,?only,fun _ => Engine.cancel_at _,?smooth,?assessed⟩
    case only =>
      intro error same
      cases same
      rfl
    case smooth =>
      intro note member
      simp only [abort,addNotes,List.append_nil,List.mem_append,List.mem_singleton] at member
      rcases member with earlier | rfl
      · exact woke.smooth note earlier
      · rfl
    case assessed =>
      change awake.host.assessments ≤ _
      rw [woke.assessed]
      omega
  | _ => cases refused

/-- One pass answers the assessment or the timer that the session waits for, or reports the verdict. -/
theorem Attends.pass {result : Session ρ (Observed σ) × Option AccessEnding}
    (attends : session.Attends policy stage) (passed : session.pass host.observed = .ok result) :
    Onward policy (session.engine.deliveriesLeft stage) result := by
  have told := attends.told
  cases attends.expects with
  | verdict noted given =>
    simp only [Session.pass,given] at passed
    cases passed
    rw [given] at told
    refine .ends ⟨told,?_,fun _ => attends.inside,attends.smooth,attends.assessed_le⟩
    intro error same
    cases same
  | @status idles noted request undecided =>
    rw [undecided] at told
    simp only [Session.pass,undecided,request,if_true] at passed
    obtain ⟨⟨answer,seen⟩,assessed,passed⟩ := except_bind_eq_ok.mp passed
    obtain ⟨⟨_,state⟩,_,same⟩ := except_map_eq_ok.mp assessed
    cases same
    cases answer with
    | none =>
      cases passed
      exact .ends (attends.hangs told rfl (Nat.le_refl _))
    | some status =>
      obtain ⟨later,settled,passed⟩ := except_bind_eq_ok.mp passed
      cases passed
      have outstanding : session.engine.ccaOutstanding = true := attends.inside.outstanding
      have running := attends.inside.running.mpr (by simp)
      have accepted : session.engine.accepts (.confirm status) = some (.assessed status) :=
        if_pos outstanding
      refine attends.goesOn ?_ accepted rfl settled
        (Engine.confirm_served status none outstanding running).result
      refine ⟨⟨noted,rfl,rfl⟩,rfl,told,rfl,?_⟩
      intro note member
      rcases List.mem_append.mp member with earlier | new
      · exact attends.smooth note earlier
      · rw [List.mem_singleton.mp new]
        rfl
  | timer entry awaits armed noted request undecided =>
    rw [undecided] at told
    have taken := Agenda.pop?_single noted
    have waiting : stage.assessing = false := by
      cases stage <;> simp [Stage.awaited,Stage.assessing] at awaits ⊢
    simp only [Session.pass,undecided,request,Bool.false_eq_true,if_false,awaitTimer,taken] at passed
    obtain ⟨⟨woke,slept⟩,sleeps,passed⟩ := except_bind_eq_ok.mp passed
    obtain ⟨state,rfl⟩ := sleepUntil_seen sleeps
    cases woke with
    | false =>
      cases passed
      exact .ends (attends.hangs told rfl (Nat.le_add_right _ _))
    | true =>
      obtain ⟨reaction,fired,passed⟩ := except_bind_eq_ok.mp passed
      obtain ⟨later,settled,passed⟩ := except_bind_eq_ok.mp passed
      have accepted : ∀ around, session.engine.accepts (.fire entry.timer around) =
          some (.expired entry.timer.kind) := fun around => if_pos armed
      cases succeeds : reaction.result with
      | ok =>
        rw [succeeds] at passed
        cases passed
        refine attends.goesOn ?_ (accepted _) fired settled succeeds
        rw [waiting]
        exact ⟨⟨rfl,rfl,rfl⟩,rfl,told,rfl,attends.smooth⟩
      | error error =>
        rw [succeeds] at passed
        cases passed
        refine .ends (attends.givesUp ?_ (accepted _) fired settled succeeds)
        exact ⟨⟨rfl,rfl,rfl⟩,rfl,told,rfl,attends.smooth⟩

/-- As many passes as deliveries, and one to report the verdict. -/
theorem Attends.passes {bound : Nat} {result : Session ρ (Observed σ) × Option AccessEnding}
    (attends : session.Attends policy stage) (enough : session.engine.deliveriesLeft stage < bound)
    (passed : Session.passes host.observed bound session = .ok result) :
    ∃ ending, result.2 = some ending ∧ result.1.Ends policy ending := by
  induction bound generalizing session stage with
  | zero => exact absurd enough (Nat.not_lt_zero _)
  | succ bound ih =>
    obtain ⟨⟨later,ending⟩,first,rest⟩ := except_bind_eq_ok.mp passed
    cases attends.pass first with
    | goesOn attends fewer => exact ih attends (by omega) rest
    | ends ended =>
      cases rest
      exact ⟨_,rfl,ended⟩

end Session

/-- The points of an access's loop: after its start and after each pass that does not end it. -/
inductive Session.Loop [WordSource ρ] (host : Host σ) (begun : Session ρ σ) : Session ρ σ → Prop
  | start : Loop host begun begun
  | next {session later : Session ρ σ} (before : Loop host begun session)
      (passed : session.pass host = .ok (later,none)) : Loop host begun later

namespace Session

variable {policy : Policy} {host : Host σ} {engine : Engine ρ}

theorem begin_onward {state : σ} {result : Session ρ (Observed σ) × Option AccessEnding}
    (inside : engine.At .concluded)
    (begun : Session.begin engine host.observed { state } = .ok result) :
    Onward engine.policy (passBound engine) result := by
  obtain ⟨reaction,started,begun⟩ := except_bind_eq_ok.mp begun
  obtain ⟨session,settled,begun⟩ := except_bind_eq_ok.mp begun
  have smooth := Engine.start_smooth started
  rcases Engine.start_cases started with refused | ⟨succeeds,arrives,policy,backoffs,quiet,closing,calls,silent,closes⟩
  · subst refused
    cases settled
    cases begun
    refine .ends ⟨rfl,?_,fun _ => inside,by simp [addNotes],Nat.zero_le _⟩
    intro error same
    cases same
    rfl
  · rw [succeeds] at begun
    cases begun
    have left := Free.settles ⟨rfl,rfl,rfl⟩ (by simp)
      ⟨quiet,closing,calls,silent,closes (.expired .backoffStart)⟩ settled
    obtain ⟨told,assessed⟩ := hearAll_seen settled
    have fresh : session.engine.progress.backoffs = 0 := left.engine ▸ backoffs
    have unchanged : session.engine.policy = engine.policy := left.engine ▸ policy
    refine .goesOn ⟨left.engine ▸ arrives,unchanged,left.expects,?smooth,?told,?bound,?assessed⟩ ?fewer
    case smooth =>
      rw [left.notes]
      exact smooth
    case told =>
      rw [told,left.verdict]
      rfl
    case bound =>
      intro _
      rw [fresh]
      exact Nat.zero_le _
    case assessed =>
      rw [assessed]
      exact Nat.zero_le _
    case fewer =>
      simp only [Engine.deliveriesLeft,reduceCtorEq,or_self,if_false,unchanged,fresh,Stage.roundLeft,
        passBound]
      omega

theorem Expects.takes {session : Session ρ σ} {stage : Stage} (expects : session.Expects stage) :
    session.agenda.entries.length ≤ 1 ∧ ∀ entry rest, session.agenda.pop? = some (entry,rest) →
      ∀ around, session.engine.accepts (.fire entry.timer around) =
        some (.expired entry.timer.kind) := by
  cases expects with
  | timer entry awaits armed noted =>
    refine ⟨by simp [noted],fun other rest popped around => ?_⟩
    cases (Agenda.pop?_single noted).symm.trans popped
    exact if_pos armed
  | status noted | verdict noted =>
    refine ⟨by simp [noted],fun other rest popped => ?_⟩
    simp [Agenda.pop?,Agenda.first,noted] at popped

variable [WordSource ρ]

theorem Loop.watched {begun : Session ρ (Observed σ)} {point : Session ρ σ}
    (loop : Loop host begun.unobserved point) :
    ∃ watched, Loop host.observed begun watched ∧ watched.unobserved = point := by
  induction loop with
  | start => exact ⟨begun,.start,rfl⟩
  | next before passed ih =>
    obtain ⟨session,loop,rfl⟩ := ih
    rw [pass_unobserved] at passed
    obtain ⟨⟨later,ending⟩,watches,same⟩ := except_map_eq_ok.mp passed
    cases same
    exact ⟨later,loop.next watches,rfl⟩

theorem Loop.attends {begun point : Session ρ (Observed σ)} {stage : Stage}
    (loop : Loop host.observed begun point) (attends : begun.Attends policy stage) :
    ∃ stage, point.Attends policy stage := by
  induction loop with
  | start => exact ⟨stage,attends⟩
  | next before passed ih =>
    obtain ⟨stage,attends⟩ := ih
    cases attends.pass passed with
    | goesOn attends => exact ⟨_,attends⟩

theorem access_watched {state : σ} {result : Session ρ (Observed σ) × Option AccessEnding}
    (inside : engine.At .concluded) (accessed : engine.access host.observed { state } = .ok result) :
    ∃ ending, result.2 = some ending ∧ result.1.Ends engine.policy ending := by
  obtain ⟨⟨begun,ending⟩,begins,rest⟩ := except_bind_eq_ok.mp accessed
  cases begin_onward inside begins with
  | goesOn attends fewer => exact attends.passes fewer rest
  | ends ended =>
    cases rest
    exact ⟨_,rfl,ended⟩

end Session

/-- An access by an idle engine ends with a verdict or because the radio has no symbol rate, unless the
host never comes back. The layer is told the verdict, once, and no other. The engine is idle again and
waits for nothing. No mishap is noted, at every point of the loop the only timer is the armed one, and
the channel is assessed at most once, in slotted mode twice, for the first backoff and each further one
that the policy allows. -/
theorem access_ends [WordSource ρ] {policy : Policy} {words : ρ} {first engine : Engine ρ}
    {deeds : List (Deed ρ)} {host : Host σ} {state : σ} {session : Session ρ σ}
    {ending : Option AccessEnding} (made : Engine.new policy words = .ok first)
    (run : Run first deeds engine) (idle : engine.running = false)
    (accessed : engine.access host state = .ok (session,ending)) :
    ∃ (watched : Session ρ (Observed σ)) (how : AccessEnding),
      engine.access host.observed { state } = .ok (watched,some how) ∧
      watched.unobserved = session ∧ ending = some how ∧
      watched.host.verdicts = how.verdict?.toList ∧
      (∀ error, how = .refused error → error = .zeroSymbolRate) ∧
      (how ≠ .pending → session.engine.running = false ∧
        (∀ kind, session.engine.timers.armed kind = none) ∧ session.engine.ccaOutstanding = false) ∧
      watched.host.assessments ≤
        engine.policy.mode.needed * (engine.policy.maxBackoffs.toNat + 1) ∧
      (∀ note ∈ session.notes, note.mishap = false) ∧
      ∀ begun point, Session.begin engine host state = .ok (begun,none) → begun.Loop host point →
        point.agenda.entries.length ≤ 1 ∧ ∀ entry rest, point.agenda.pop? = some (entry,rest) →
          ∀ around, point.engine.accepts (.fire entry.timer around) =
            some (.expired entry.timer.kind) := by
  obtain ⟨stage,counted⟩ := Engine.Counted.run made run
  obtain rfl := counted.inside.concluded_of_idle idle
  have unobserved := engine.access_unobserved host { state }
  rw [accessed] at unobserved
  obtain ⟨⟨watched,ended⟩,watches,same⟩ := except_map_eq_ok.mp unobserved.symm
  cases same
  obtain ⟨how,rfl,ends⟩ := Session.access_watched counted.inside watches
  refine ⟨watched,how,watches,rfl,rfl,ends.told,ends.refused,?idle,ends.assessed,ends.smooth,?loop⟩
  case idle =>
    intro comes
    have inside := ends.idle comes
    exact ⟨Bool.eq_false_iff.mpr fun running => inside.running.mp running rfl,
      inside.armed_none rfl,inside.outstanding⟩
  case loop =>
    intro begun point begins loop
    have unobserved : Session.begin engine host state = _ := Session.begin_unobserved engine { state }
    rw [begins] at unobserved
    obtain ⟨⟨seen,beginning⟩,observed,same⟩ := except_map_eq_ok.mp unobserved.symm
    cases same
    obtain ⟨point,inside,rfl⟩ := loop.watched
    cases Session.begin_onward counted.inside observed with
    | goesOn attends =>
      obtain ⟨stage,attends⟩ := inside.attends attends
      exact attends.expects.takes

/-- A test rig whose radio is switched off as soon as it has assessed the channel. -/
def Rig.fading : Host Rig :=
  { Rig.host .oqpsk2450 (Surroundings.plain 62500).layer none with
    radio := fun rig => { symbolsPerSecond := if rig.assessments = [] then 62500 else 0 } }

/-- The channel is busy, and the next backoff finds the radio without a symbol rate. -/
theorem access_ends_refused :
    ∃ (engine : Engine WordScript) (watched : Session WordScript (Observed Rig)),
      Engine.new {} ⟨[5]⟩ = .ok engine ∧
      engine.access Rig.fading.observed { state := { clock := .zero, script := [.busy] } } =
        .ok (watched,some (.refused .zeroSymbolRate)) ∧
      watched.host.verdicts = [] ∧ watched.host.assessments = 1 ∧ watched.engine.running = false := by
  obtain ⟨engine,made⟩ : ∃ engine, Engine.new {} (⟨[5]⟩ : WordScript) = .ok engine := ⟨_,rfl⟩
  obtain ⟨session,seen,idle,accessed,observed,once⟩ : ∃ session seen, engine.running = false ∧
      engine.access Rig.fading { clock := .zero, script := [.busy] } =
        .ok (session,some (.refused .zeroSymbolRate)) ∧
      engine.access Rig.fading.observed { state := { clock := .zero, script := [.busy] } } =
        .ok (seen,some (.refused .zeroSymbolRate)) ∧ seen.host.assessments = 1 := by
    cases made
    exact ⟨_,_,rfl,rfl,rfl,rfl⟩
  obtain ⟨watched,how,watches,rfl,same,told,_,ended,_⟩ := access_ends made .start idle accessed
  cases same
  cases observed.symm.trans watches
  exact ⟨engine,seen,made,watches,told,once,(ended (by simp)).1⟩

end ChannelAccess
