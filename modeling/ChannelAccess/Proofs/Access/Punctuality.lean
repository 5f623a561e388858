import ChannelAccess.Proofs.Access.Ending

/-!
When an access hands timers to its engine. A session sleeps until the earliest timer is due, but only
once and no longer than one sleep can last, so a timer is handed over in time unless it is due later
than that. Main statement: `timers_wait`.
-/

namespace ChannelAccess

variable {ρ σ : Type}

/-- A sleep lasts at least as long as it should, and a second look at the clock shows no earlier
time. -/
structure Host.Patient (host : Host σ) : Prop where
  rereads : ∀ state, (host.readClock state).1.us ≤ (host.readClock (host.readClock state).2).1.us
  lasts : ∀ us state later, host.sleep us state = .ok (true,later) →
    (host.readClock state).1.us + us ≤ (host.readClock later).1.us

theorem Rig.patient (phy : Phy) (layer : LayerFacts) (advice : Option UInt32) :
    (Rig.host phy layer advice).Patient where
  rereads state := Int.le_refl _
  lasts us state later slept := by
    obtain ⟨clock,wakes,slept⟩ := except_bind_eq_ok.mp slept
    cases slept
    exact Int.le_of_eq (Instant.plus_eq_ok.mp wakes).2

/-- What an engine was handed, and what the clock showed then. -/
structure Encounter (ρ : Type) extends Deed ρ where
  now : Instant

namespace Agenda

theorem schedule_eq_ok {agenda later : Agenda} {delay : Span} {timer : Timer} {kept : Bool}
    (scheduled : agenda.schedule delay timer = .ok (kept,later)) :
    later.now = agenda.now ∧ ∀ entry ∈ later.entries, entry ∈ agenda.entries ∨
      entry.timer = timer ∧ agenda.now.plus delay = .ok entry.due := by
  obtain ⟨due,reaches,scheduled⟩ := except_bind_eq_ok.mp scheduled
  by_cases room : agenda.entries.length < capacity
  · rw [if_pos room] at scheduled
    cases scheduled
    refine ⟨rfl,fun entry member => ?_⟩
    rcases List.mem_append.mp member with member | member
    · exact .inl member
    · rw [List.mem_singleton.mp member]
      exact .inr ⟨rfl,reaches⟩
  · rw [if_neg room] at scheduled
    cases scheduled
    exact ⟨rfl,fun entry member => .inl member⟩

end Agenda

namespace Engine

theorem conclude_accepted (engine : Engine ρ) (verdict : Verdict) :
    (engine.conclude verdict).result = .ok () := by
  unfold conclude
  split <;> rfl

theorem confirm_accepted (engine : Engine ρ) (status : ChannelStatus) :
    (engine.confirm status).result = .ok () := by
  cases outstanding : engine.ccaOutstanding with
  | false => rw [confirm_unexpected status outstanding]
  | true =>
    cases idle : status.isIdle with
    | true =>
      simp [confirm,outstanding,idle,confirmIdle,apply_ite Reaction.result,conclude_accepted]
    | false =>
      simp [confirm,outstanding,idle,confirmBusy,apply_ite Reaction.result,conclude_accepted]

end Engine

namespace Session

variable {host : Host σ} {session awake later : Session ρ σ}

theorem hearAll_agenda {calls : List Call} (heard : session.hearAll host calls = .ok later) :
    later.agenda.now = session.agenda.now ∧ ∀ entry ∈ later.agenda.entries,
      entry ∈ session.agenda.entries ∨ ∃ delay, Call.schedule entry.timer delay ∈ calls ∧
        session.agenda.now.plus delay = .ok entry.due := by
  induction calls generalizing session with
  | nil =>
    cases heard
    exact ⟨rfl,fun entry member => .inl member⟩
  | cons call calls ih =>
    obtain ⟨middle,hears,heard⟩ := except_bind_eq_ok.mp heard
    obtain ⟨now,entries⟩ := ih heard
    have first : middle.agenda.now = session.agenda.now ∧ ∀ entry ∈ middle.agenda.entries,
        entry ∈ session.agenda.entries ∨ ∃ delay, Call.schedule entry.timer delay = call ∧
          session.agenda.now.plus delay = .ok entry.due := by
      cases call with
      | schedule timer delay =>
        obtain ⟨⟨kept,agenda⟩,scheduled,hears⟩ := except_bind_eq_ok.mp hears
        obtain ⟨same,added⟩ := Agenda.schedule_eq_ok scheduled
        have agenda_eq : middle.agenda = agenda := by cases kept <;> cases hears <;> rfl
        rw [agenda_eq]
        refine ⟨same,fun entry member => ?_⟩
        rcases added entry member with old | ⟨rfl,reaches⟩
        · exact .inl old
        · exact .inr ⟨delay,rfl,reaches⟩
      | requestCca | verdict verdict | cost symbols | askAdvice exponent backoffs answer
      | askSuperframe direction =>
        cases hears
        exact ⟨rfl,fun entry member => .inl member⟩
    refine ⟨now.trans first.1,fun entry member => ?_⟩
    rcases entries entry member with member | ⟨delay,scheduled,reaches⟩
    · rcases first.2 entry member with old | ⟨delay,rfl,reaches⟩
      · exact .inl old
      · exact .inr ⟨delay,List.mem_cons_self,reaches⟩
    · rw [first.1] at reaches
      exact .inr ⟨delay,List.mem_cons_of_mem _ scheduled,reaches⟩

theorem sleepUntil_same {due : Instant} {woke : Bool}
    (slept : session.sleepUntil host due = .ok (woke,later)) :
    ∃ state, later = { session with host := state } := by
  obtain ⟨wait,_,slept⟩ := except_bind_eq_ok.mp slept
  split at slept
  · obtain ⟨⟨woken,state⟩,_,slept⟩ := except_bind_eq_ok.mp slept
    cases slept
    exact ⟨state,rfl⟩
  · cases slept
    exact ⟨_,rfl⟩

/-- A session sleeps until a timer is due or as long as one sleep can last. -/
theorem sleepUntil_wakes (patient : host.Patient) {due : Instant}
    (slept : session.sleepUntil host due = .ok (true,later)) :
    min due.us ((host.readClock session.host).1.us + longestSleep) ≤
      (host.readClock later.host).1.us := by
  obtain ⟨wait,remains,slept⟩ := except_bind_eq_ok.mp slept
  have waitUs : due.us - (host.readClock session.host).1.us = wait.us :=
    (Instant.since_eq_ok.mp remains).2
  by_cases ahead : 0 < wait.us
  · rw [if_pos ahead] at slept
    obtain ⟨⟨woke,state⟩,sleeps,slept⟩ := except_bind_eq_ok.mp slept
    cases slept
    have rereads := patient.rereads session.host
    have lasts := patient.lasts _ _ _ sleeps
    change min due.us ((host.readClock session.host).1.us + longestSleep) ≤
      (host.readClock state).1.us
    change (host.readClock (host.readClock session.host).2).1.us +
      (min wait.us.toNat longestSleep : Nat) ≤ (host.readClock state).1.us at lasts
    omega
  · rw [if_neg ahead] at slept
    cases slept
    have rereads := patient.rereads session.host
    change min due.us ((host.readClock session.host).1.us + longestSleep) ≤
      (host.readClock (host.readClock session.host).2).1.us
    omega

def awaken (session : Session ρ σ) (host : Host σ) : Session ρ σ :=
  { session.readClock host with radio := host.radio (session.readClock host).host }

/-- The session hands an operation to its engine in the next pass. -/
inductive Hands (host : Host σ) (session : Session ρ σ) : Operation → Session ρ σ → Prop
  | timer {entry : AgendaEntry} {agenda : Agenda} {slept : Session ρ σ}
      (undecided : session.verdict = none) (unasked : session.ccaRequested = false)
      (taken : session.agenda.pop? = some (entry,agenda))
      (sleeps : { session with agenda }.sleepUntil host entry.due = .ok (true,slept)) :
      Hands host session
        (.fire entry.timer ((slept.awaken host).surroundings host (slept.engine.asksAdvice entry.timer)))
        (slept.awaken host)
  | status {status : ChannelStatus} {state : σ} (undecided : session.verdict = none)
      (asked : session.ccaRequested = true)
      (assessed : host.assess session.host = .ok (some status,state)) :
      Hands host session (.confirm status)
        (({ session with ccaRequested := false, host := state }.addNotes
          [.assessed status]).readClock host)

/-- The session of an access before its engine is started. -/
def opening (engine : Engine ρ) (host : Host σ) (state : σ) : Session ρ σ where
  engine
  host := (host.readClock state).2
  agenda := { now := (host.readClock state).1 }
  radio := host.radio (host.readClock state).2

section

variable [WordSource ρ]

/-- All that an engine was handed in an access, oldest first, up to a point of its loop. -/
inductive Course (host : Host σ) (engine : Engine ρ) (state : σ) :
    List (Encounter ρ) → Session ρ σ → Prop
  | begin {around : Surroundings} {reaction : Reaction ρ} {session : Session ρ σ}
      (finds : (opening engine host state).surroundings host false = around)
      (performed : engine.perform (.start around) = .ok reaction)
      (settled : (opening engine host state).settle host reaction = .ok session)
      (succeeds : reaction.result = .ok ()) :
      Course host engine state [⟨⟨engine,.start around,reaction⟩,around.now⟩] session
  | next {encounters : List (Encounter ρ)} {session awake later : Session ρ σ}
      {operation : Operation} {reaction : Reaction ρ} (before : Course host engine state encounters session)
      (hands : Hands host session operation awake)
      (performed : session.engine.perform operation = .ok reaction)
      (settled : awake.settle host reaction = .ok later) (succeeds : reaction.result = .ok ()) :
      Course host engine state
        (encounters ++ [⟨⟨session.engine,operation,reaction⟩,awake.agenda.now⟩]) later

/-- A pass in which something is handed to the engine. -/
theorem Hands.pass_eq {operation : Operation} (hands : session.Hands host operation awake) :
    session.pass host = (do
      let reaction ← session.engine.perform operation
      let settled ← awake.settle host reaction
      match reaction.result with
      | .ok () => return (settled,none)
      | .error error => return (settled.abort (.aborted error),some (.refused error))) := by
  rcases session with ⟨engine,state,agenda,radio,request,verdict,notes⟩
  cases hands with
  | @timer entry rest slept undecided unasked taken sleeps =>
    obtain ⟨state,rfl⟩ := sleepUntil_same sleeps
    cases undecided
    cases unasked
    change Session.awaitTimer _ host = _
    change agenda.pop? = _ at taken
    simp only [awaitTimer,taken]
    rw [sleeps]
    rfl
  | @status status state undecided asked assessed =>
    cases undecided
    cases asked
    change Session.awaitAssessment _ host = _
    change host.assess _ = _ at assessed
    simp only [awaitAssessment,assessed,Engine.perform,except_ok_bind,Engine.confirm_accepted]
    rfl

theorem hands_of_pass (passed : session.pass host = .ok (later,none)) :
    ∃ operation awake, Hands host session operation awake := by
  rcases session with ⟨engine,state,agenda,radio,request,verdict,notes⟩
  cases verdict with
  | some verdict => cases passed
  | none =>
    cases request with
    | true =>
      obtain ⟨⟨answer,awake⟩,assessed,passed⟩ := except_bind_eq_ok.mp passed
      cases answer with
      | none => cases passed
      | some status => exact ⟨_,_,.status rfl rfl assessed⟩
    | false =>
      change Session.awaitTimer _ host = _ at passed
      cases taken : agenda.pop? with
      | none =>
        simp only [awaitTimer,taken] at passed
        cases passed
      | some first =>
        obtain ⟨entry,rest⟩ := first
        simp only [awaitTimer,taken] at passed
        obtain ⟨⟨woke,slept⟩,sleeps,passed⟩ := except_bind_eq_ok.mp passed
        cases woke with
        | false => cases passed
        | true => exact ⟨_,_,.timer rfl rfl taken sleeps⟩

/-- A pass that does not end the access hands something to the engine and answers its calls. -/
theorem pass_hands (passed : session.pass host = .ok (later,none)) :
    ∃ operation awake reaction, Hands host session operation awake ∧
      session.engine.perform operation = .ok reaction ∧ awake.settle host reaction = .ok later ∧
      reaction.result = .ok () := by
  obtain ⟨operation,awake,hands⟩ := hands_of_pass passed
  rw [hands.pass_eq] at passed
  obtain ⟨reaction,performed,passed⟩ := except_bind_eq_ok.mp passed
  obtain ⟨settled,settles,passed⟩ := except_bind_eq_ok.mp passed
  cases succeeds : reaction.result with
  | error error =>
    rw [succeeds] at passed
    cases passed
  | ok =>
    rw [succeeds] at passed
    cases passed
    exact ⟨operation,awake,reaction,hands,performed,settles,succeeds⟩

theorem begin_course {engine : Engine ρ} {state : σ} {begun : Session ρ σ}
    (begins : Session.begin engine host state = .ok (begun,none)) :
    ∃ encounters, Course host engine state encounters begun := by
  obtain ⟨reaction,started,begins⟩ := except_bind_eq_ok.mp begins
  obtain ⟨settled,settles,begins⟩ := except_bind_eq_ok.mp begins
  cases succeeds : reaction.result with
  | error error =>
    rw [succeeds] at begins
    cases begins
  | ok =>
    rw [succeeds] at begins
    cases begins
    exact ⟨_,.begin rfl started settles succeeds⟩

theorem Loop.course {engine : Engine ρ} {state : σ} {begun : Session ρ σ}
    (begins : Session.begin engine host state = .ok (begun,none)) (loop : begun.Loop host session) :
    ∃ encounters, Course host engine state encounters session := by
  induction loop with
  | start => exact begin_course begins
  | next before passed ih =>
    obtain ⟨encounters,course⟩ := ih
    obtain ⟨operation,awake,reaction,hands,performed,settles,succeeds⟩ := pass_hands passed
    exact ⟨_,course.next hands performed settles succeeds⟩

end

end Session

theorem Engine.mem_waitFor {engine : Engine ρ} {calls : List Call} {kind : TimerKind}
    {wait delay : Span} {notes : List Note} {timer : Timer}
    (quiet : ∀ call ∈ calls, call.isQuiet = true)
    (scheduled : .schedule timer delay ∈ (engine.waitFor calls kind wait notes).calls) :
    timer.kind = kind ∧ delay = wait.clampNonNegative := by
  rcases List.mem_append.mp scheduled with earlier | final
  · cases quiet _ earlier
  · cases List.mem_singleton.mp final
    exact ⟨rfl,rfl⟩

theorem Span.le_clampNonNegative (wait : Span) : wait.us ≤ wait.clampNonNegative.us := by
  rw [clampNonNegative_us]
  exact Int.le_max_left _ _

theorem Superframe.capEnd_passed {superframe : Superframe} {now later : Instant} {rate : SymbolRate}
    {left : Span} (remains : superframe.timeLeftInCap now rate = .ok left)
    (waits : now.us + left.clampNonNegative.us ≤ later.us) :
    ∃ capEnd, superframe.capEnd rate = .ok capEnd ∧ capEnd.us ≤ later.us := by
  obtain ⟨capEnd,ends,leftUs⟩ := timeLeftInCap_eq remains
  have whole := left.le_clampNonNegative
  exact ⟨capEnd,ends,by omega⟩

/-- What has passed by the time a timer comes back: the whole backoff, the CAP that was found too
short, or the time until the boundary. -/
structure InTime (last : Encounter ρ) (timer : Timer) (now : Instant) : Prop where
  backoff : ∀ number around rate, last.operation = .fire ⟨.backoffStart,number⟩ around →
    SymbolRate.of around.radio.symbolsPerSecond = .ok rate → timer.kind ≠ .capEnd →
      last.now.us + (last.reaction.engine.backoffSpan rate).us ≤ now.us
  capEnd : timer.kind = .capEnd → ∃ earlier around rate capEnd, last.operation = .fire earlier around ∧
    SymbolRate.of around.radio.symbolsPerSecond = .ok rate ∧
    (around.layer.superframe last.before.progress.direction).capEnd rate = .ok capEnd ∧
    capEnd.us ≤ now.us
  boundary : ∀ around, last.operation = .start around → last.before.policy.mode = .slotted →
    ∃ rate wait, SymbolRate.of around.radio.symbolsPerSecond = .ok rate ∧
      (around.layer.superframe (.ofDestination around.layer.frame.toCoordinator)).timeToBoundary
        around.now last.before.policy.backoffPeriod.toNat rate = .ok wait ∧
      around.now.us + wait.us ≤ now.us

namespace Encounter

variable [WordSource ρ]

/-- The encounter takes an attempt to a stage. -/
inductive Sound (encounter : Encounter ρ) : Stage → Prop
  | started {around : Surroundings} (starts : encounter.operation = .start around)
      (performed : encounter.before.start around = .ok encounter.reaction)
      (succeeds : encounter.reaction.result = .ok ()) (clock : around.now = encounter.now) :
      Sound encounter .backoffStart
  | reacted {stage next : Stage}
      (reacts : encounter.before.Reacts stage encounter.operation encounter.reaction next)
      (clock : ∀ timer around, encounter.operation = .fire timer around →
        around.now = encounter.now) : Sound encounter next

variable {last : Encounter ρ} {next : Stage} {timer : Timer} {delay : Span} {now : Instant}

omit [WordSource ρ] in
theorem started_inTime {around : Surroundings} (starts : last.operation = .start around)
    (performed : last.before.start around = .ok last.reaction)
    (succeeds : last.reaction.result = .ok ()) (clock : around.now = last.now)
    (scheduled : .schedule timer delay ∈ last.reaction.calls)
    (due : last.now.us + delay.us ≤ now.us) : InTime last timer now := by
  rcases SymbolRate.of_cases around.radio.symbolsPerSecond with unrated | ⟨rate,rated⟩
  · rw [Engine.start_refused unrated] at performed
    rw [← Except.ok.inj performed] at succeeds
    cases succeeds
  · rw [Engine.start_eq rated] at performed
    obtain ⟨wait,waits,reacts⟩ := except_map_eq_ok.mp performed
    rw [← reacts] at scheduled
    obtain ⟨kind,rfl⟩ := Engine.mem_waitFor (Engine.looks_quiet _) scheduled
    refine ⟨?backoff,?capEnd,?boundary⟩
    case backoff =>
      intro number other otherRate fires
      rw [starts] at fires
      cases fires
    case capEnd =>
      intro ends
      rw [kind] at ends
      cases ends
    case boundary =>
      intro other same slotted
      rw [starts] at same
      cases same
      rw [Engine.firstWait,if_pos (Policy.isSlotted_eq_true.mpr slotted)] at waits
      have whole := wait.le_clampNonNegative
      rw [clock]
      exact ⟨rate,wait,rated,clock ▸ waits,by omega⟩

theorem reacted_inTime {before : Engine ρ} {stage : Stage} {operation : Operation}
    {reaction : Reaction ρ} {began : Instant} (reacts : before.Reacts stage operation reaction next)
    (clock : ∀ timer around, operation = .fire timer around → around.now = began)
    (scheduled : .schedule timer delay ∈ reaction.calls) (due : began.us + delay.us ≤ now.us) :
    InTime ⟨⟨before,operation,reaction⟩,began⟩ timer now := by
  cases reacts with
  | refused | requested | granted | fails | capEnds => simp [Engine.requestCca] at scheduled
  | @drawn number around rate source asked unslotted rated drawn
  | @fits number around rate source asked left slotted rated drawn =>
    have quiet := Engine.takeBackoff_quiet drawn
    obtain ⟨kind,waits⟩ :=
      Engine.mem_waitFor (by simpa [Call.isQuiet,or_imp,forall_and] using quiet) scheduled
    have whole := (source.backoffSpan rate).le_clampNonNegative
    rw [← waits] at whole
    refine ⟨?_,fun ends => ?_,fun other starts => ?_⟩
    · intro number other otherRate fires otherRated _
      cases fires
      cases rated.symm.trans otherRated
      change began.us + (source.backoffSpan rate).us ≤ now.us
      omega
    · rw [kind] at ends
      cases ends
    · cases starts
  | @cutShort number around rate source asked left slotted rated drawn remains =>
    have quiet := Engine.takeBackoff_quiet drawn
    obtain ⟨kind,rfl⟩ := Engine.mem_waitFor (Engine.quiet_asking quiet) scheduled
    rw [← clock _ _ rfl] at due
    obtain ⟨capEnd,ends,passed⟩ := Superframe.capEnd_passed remains due
    refine ⟨fun _ _ _ _ _ going => absurd kind going,fun _ => ?_,fun other starts => ?_⟩
    · exact ⟨_,around,rate,capEnd,rfl,rated,ends,passed⟩
    · cases starts
  | @tooLong number around rate left cost rated remains =>
    obtain ⟨kind,rfl⟩ := Engine.mem_waitFor (by simp [Call.isQuiet]) scheduled
    rw [← clock _ _ rfl] at due
    obtain ⟨capEnd,ends,passed⟩ := Superframe.capEnd_passed remains due
    refine ⟨fun _ _ _ _ _ going => absurd kind going,fun _ => ?_,fun other starts => ?_⟩
    · exact ⟨_,around,rate,capEnd,rfl,rated,ends,passed⟩
    · cases starts
  | proceeds | stillIdle | backsOff =>
    obtain ⟨kind,_⟩ := Engine.mem_waitFor (by simp [Call.isQuiet]) scheduled
    refine ⟨fun number other otherRate fires => ?_,fun ends => ?_,fun other starts => ?_⟩
    · cases fires
    · rw [kind] at ends
      cases ends
    · cases starts

theorem Sound.inTime (sound : last.Sound next) (scheduled : .schedule timer delay ∈ last.reaction.calls)
    (due : last.now.us + delay.us ≤ now.us) : InTime last timer now := by
  cases sound with
  | started starts performed succeeds clock =>
    exact started_inTime starts performed succeeds clock scheduled due
  | reacted reacts clock => exact reacted_inTime reacts clock scheduled due

end Encounter

namespace Session

/-- Where an access stands: what it waits for is what its last encounter scheduled. -/
structure Recalls (session : Session ρ σ) (stage : Stage) (last : Encounter ρ) [WordSource ρ] :
    Prop where
  inside : session.engine.At stage
  expects : session.Expects stage
  sound : last.Sound stage
  noted : ∀ entry ∈ session.agenda.entries, ∃ delay,
    .schedule entry.timer delay ∈ last.reaction.calls ∧ last.now.plus delay = .ok entry.due

variable [WordSource ρ] {host : Host σ} {session awake later : Session ρ σ} {stage next : Stage}
  {last : Encounter ρ}

omit [WordSource ρ] in
theorem Free.noted {reaction : Reaction ρ} (free : awake.Free)
    (settled : awake.settle host reaction = .ok later) :
    ∀ entry ∈ later.agenda.entries, ∃ delay, .schedule entry.timer delay ∈ reaction.calls ∧
      awake.agenda.now.plus delay = .ok entry.due := by
  intro entry member
  rcases (hearAll_agenda settled).2 entry member with old | new
  · change entry ∈ awake.agenda.entries at old
    rw [free.agenda] at old
    cases old
  · exact new

theorem Recalls.goesOn {operation : Operation} {action : Action} {reaction : Reaction ρ}
    (recalls : session.Recalls stage last) (free : awake.Free)
    (accepted : session.engine.accepts operation = some action)
    (clock : ∀ timer around, operation = .fire timer around → around.now = awake.agenda.now)
    (performed : session.engine.perform operation = .ok reaction)
    (settled : awake.settle host reaction = .ok later) (succeeds : reaction.result = .ok ()) :
    ∃ next, later.Recalls next ⟨⟨session.engine,operation,reaction⟩,awake.agenda.now⟩ := by
  obtain ⟨next,advances⟩ := Engine.accepts_advances recalls.inside accepted performed
  have reacts := advances.reacts recalls.inside accepted performed
  have left := free.settles (advances.able succeeds) advances.calls settled
  exact ⟨next,left.engine ▸ advances.arrives,left.expects,.reacted reacts clock,free.noted settled⟩

omit [WordSource ρ] in
theorem Hands.takes {operation : Operation} (hands : session.Hands host operation awake)
    (inside : session.engine.At stage) (expects : session.Expects stage) :
    awake.Free ∧ (∃ action, session.engine.accepts operation = some action) ∧
      ∀ timer around, operation = .fire timer around → around.now = awake.agenda.now := by
  cases hands with
  | @timer entry agenda slept undecided unasked taken sleeps =>
    obtain ⟨state,rfl⟩ := sleepUntil_same sleeps
    cases expects with
    | timer first awaits armed noted =>
      rw [Agenda.pop?_single noted] at taken
      cases taken
      refine ⟨⟨rfl,unasked,undecided⟩,⟨_,if_pos armed⟩,fun timer around same => ?_⟩
      cases same
      rfl
    | status noted request => cases unasked.symm.trans request
    | verdict noted given => cases undecided.symm.trans given
  | @status status state undecided asked assessed =>
    cases expects with
    | timer first awaits armed noted unasked => cases unasked.symm.trans asked
    | status noted request =>
      refine ⟨⟨noted,rfl,undecided⟩,⟨_,if_pos inside.outstanding⟩,fun timer around same => ?_⟩
      cases same
    | verdict noted given => cases undecided.symm.trans given

theorem Course.recalls {engine : Engine ρ} {state : σ} {encounters : List (Encounter ρ)}
    (course : Course host engine state encounters session) :
    ∃ earlier last stage, encounters = earlier ++ [last] ∧ session.Recalls stage last := by
  -- On the encounters. Each leaves one thing to wait for, which is what the next one deals with.
  induction course with
  | begin finds performed settled succeeds =>
    subst finds
    rcases Engine.start_cases performed with
      refused | ⟨_,arrives,policy,backoffs,quiet,closing,calls,silent,closes⟩
    · subst refused
      cases succeeds
    · have free : (opening engine host state).Free := ⟨rfl,rfl,rfl⟩
      have left := free.settles (by simp)
        ⟨quiet,closing,calls,silent,closes (.expired .backoffStart)⟩ settled
      exact ⟨[],_,.backoffStart,rfl,left.engine ▸ arrives,left.expects,
        .started rfl performed succeeds rfl,free.noted settled⟩
  | @next encounters session awake later operation reaction before hands performed settled succeeds
      ih =>
    obtain ⟨_,last,stage,_,recalls⟩ := ih
    obtain ⟨free,⟨action,accepted⟩,clock⟩ := hands.takes recalls.inside recalls.expects
    obtain ⟨next,recalls⟩ := recalls.goesOn free accepted clock performed settled succeeds
    exact ⟨encounters,_,next,rfl,recalls⟩

/-- A timer that is handed over is scheduled by the last encounter, and its time has come unless one
sleep was too short. -/
theorem Recalls.hands {timer : Timer} {around : Surroundings} (patient : host.Patient)
    (recalls : session.Recalls stage last) (hands : session.Hands host (.fire timer around) awake) :
    ∃ delay due, .schedule timer delay ∈ last.reaction.calls ∧
      last.now.us + delay.us = due ∧
      min due ((host.readClock session.host).1.us + longestSleep) ≤ around.now.us := by
  cases hands with
  | @timer entry agenda slept undecided unasked taken sleeps =>
    cases recalls.expects with
    | timer first awaits armed noted =>
      rw [Agenda.pop?_single noted] at taken
      cases taken
      obtain ⟨delay,scheduled,reaches⟩ := recalls.noted entry (by simp [noted])
      have wakes := sleepUntil_wakes patient sleeps
      exact ⟨delay,entry.due.us,scheduled,(Instant.plus_eq_ok.mp reaches).2,wakes⟩
    | status noted request => cases unasked.symm.trans request
    | verdict noted given => cases undecided.symm.trans given

end Session

/-- Only the end of a CAP defers an attempt. -/
theorem Engine.At.deferred [WordSource ρ] {engine : Engine ρ} {stage : Stage} {timer : Timer}
    {around : Surroundings} {reaction : Reaction ρ} {action : Action} (inside : engine.At stage)
    (accepted : engine.accepts (.fire timer around) = some action)
    (fired : engine.fire timer around = .ok reaction) (deferred : .deferred ∈ reaction.verdicts) :
    timer.kind = .capEnd := by
  obtain ⟨next,advances⟩ := accepts_advances inside accepted fired
  have follows := advances.follows
  rw [advances.verdicts] at deferred
  rcases accepts_of_eq_some accepted with ⟨other,_,same,expires,_⟩ | ⟨_,same,_⟩
  · cases same
    cases follows with
    | capEnds => exact (Action.expired.inj expires).symm
    | granted | fails => cases expires
    | _ => cases deferred
  · cases same

/-- A timer is handed to its engine once the time for which it was scheduled has passed or one sleep
has been as long as it can be. So while no timer is due later than that, every backoff is waited out,
an attempt is only deferred when the CAP has ended, and the first backoff begins at its boundary. -/
theorem timers_wait [WordSource ρ] {host : Host σ} {engine : Engine ρ} {state : σ}
    {begun session awake : Session ρ σ} {timer : Timer} {around : Surroundings}
    (patient : host.Patient) (begins : Session.begin engine host state = .ok (begun,none))
    (loop : begun.Loop host session) (hands : session.Hands host (.fire timer around) awake) :
    ∃ earlier last delay due, Session.Course host engine state (earlier ++ [last]) session ∧
      .schedule timer delay ∈ last.reaction.calls ∧ last.now.us + delay.us = due ∧
      min due ((host.readClock session.host).1.us + Session.longestSleep) ≤ around.now.us ∧
      (due - (host.readClock session.host).1.us ≤ Session.longestSleep →
        due ≤ around.now.us ∧ InTime last timer around.now) ∧
      ∀ reaction, session.engine.fire timer around = .ok reaction →
        .deferred ∈ reaction.verdicts → timer.kind = .capEnd := by
  obtain ⟨encounters,course⟩ := loop.course begins
  obtain ⟨earlier,last,stage,rfl,recalls⟩ := course.recalls
  obtain ⟨delay,due,scheduled,sum,wakes⟩ := recalls.hands patient hands
  obtain ⟨_,⟨action,accepted⟩,_⟩ := hands.takes recalls.inside recalls.expects
  refine ⟨earlier,last,delay,due,course,scheduled,sum,wakes,fun short => ?_,?_⟩
  · have passed : due ≤ around.now.us := by omega
    exact ⟨passed,recalls.sound.inTime scheduled (sum ▸ passed)⟩
  · intro reaction fired deferred
    exact recalls.inside.deferred accepted fired deferred

/-- A test rig that starts its own superframes, the next one at the beacon. -/
def Rig.beaconed (beacon : Instant) : Host Rig :=
  Rig.host .oqpsk2450
    { (Surroundings.plain 62500).layer with outgoing := Superframe.capped beacon 0 15 } none

/-- Five periods of backoff begin with the superframe and are waited out. -/
theorem timers_wait_backoff :
    ∃ (engine : Engine WordScript) (begun session awake : Session WordScript Rig)
      (around : Surroundings) (last : Encounter WordScript) (delay : Span),
      Engine.new { mode := .slotted } ⟨[5]⟩ = .ok engine ∧
      Session.begin engine (Rig.beaconed ⟨1000⟩) ⟨.zero,[],[],[]⟩ = .ok (begun,none) ∧
      begun.Loop (Rig.beaconed ⟨1000⟩) session ∧
      session.Hands (Rig.beaconed ⟨1000⟩) (.fire ⟨.canProceed,1⟩ around) awake ∧
      around.now = ⟨2600⟩ ∧ .schedule ⟨.canProceed,1⟩ delay ∈ last.reaction.calls ∧
      last.now.us + delay.us ≤ 2600 ∧ InTime last ⟨.canProceed,1⟩ around.now := by
  obtain ⟨engine,made⟩ :
    ∃ engine, Engine.new { mode := .slotted } (⟨[5]⟩ : WordScript) = .ok engine := ⟨_,rfl⟩
  obtain ⟨begun,session,awake,around,begins,passes,hands,clock,now⟩ :
      ∃ begun session awake around,
        Session.begin engine (Rig.beaconed ⟨1000⟩) ⟨.zero,[],[],[]⟩ = .ok (begun,none) ∧
        begun.pass (Rig.beaconed ⟨1000⟩) = .ok (session,none) ∧
        session.Hands (Rig.beaconed ⟨1000⟩) (.fire ⟨.canProceed,1⟩ around) awake ∧
        session.host.clock = ⟨1000⟩ ∧ around.now = ⟨2600⟩ := by
    cases made
    exact ⟨_,_,_,_,rfl,rfl,@Session.Hands.timer _ _ _ _ ⟨⟨2600⟩,1,⟨.canProceed,1⟩⟩ _ _ rfl rfl rfl rfl,
      rfl,rfl⟩
  obtain ⟨earlier,last,delay,due,course,scheduled,sum,wakes,timely,_⟩ :=
    timers_wait (Rig.patient _ _ _) begins (.next .start passes) hands
  change min due (session.host.clock.us + Session.longestSleep) ≤ _ at wakes
  change due - session.host.clock.us ≤ Session.longestSleep → _ at timely
  rw [clock,now] at wakes timely
  change min due (1000 + 4294967295) ≤ 2600 at wakes
  change due - 1000 ≤ 4294967295 → due ≤ 2600 ∧ _ at timely
  obtain ⟨passed,inTime⟩ := timely (by omega)
  exact ⟨engine,begun,session,awake,around,last,delay,made,begins,.next .start passes,hands,now,
    scheduled,by omega,now ▸ inTime⟩

/-- When the superframe begins 5000 seconds after the start, one sleep is too short, and the first
backoff begins, and even the channel is granted, before the superframe does. -/
theorem timer_comes_early :
    ∃ (engine : Engine WordScript) (begun awake later : Session WordScript Rig)
      (around : Surroundings) (first : Encounter WordScript) (delay : Span),
      Engine.new { mode := .slotted } ⟨[0]⟩ = .ok engine ∧ (Rig.beaconed ⟨5000000000⟩).Patient ∧
      Session.begin engine (Rig.beaconed ⟨5000000000⟩) ⟨.zero,[],[],[]⟩ = .ok (begun,none) ∧
      Session.Course (Rig.beaconed ⟨5000000000⟩) engine ⟨.zero,[],[],[]⟩ [first] begun ∧
      begun.Hands (Rig.beaconed ⟨5000000000⟩) (.fire ⟨.backoffStart,0⟩ around) awake ∧
      .schedule ⟨.backoffStart,0⟩ delay ∈ first.reaction.calls ∧
      around.now.us < first.now.us + delay.us ∧
      engine.access (Rig.beaconed ⟨5000000000⟩) ⟨.zero,[],[],[]⟩ =
        .ok (later,some (.verdict .channelIdle)) ∧
      later.host.clock < ⟨5000000000⟩ := by
  obtain ⟨engine,made⟩ :
    ∃ engine, Engine.new { mode := .slotted } (⟨[0]⟩ : WordScript) = .ok engine := ⟨_,rfl⟩
  cases made
  refine ⟨_,_,_,_,_,⟨⟨_,_,_⟩,_⟩,⟨5000000000⟩,rfl,Rig.patient _ _ _,rfl,.begin rfl rfl rfl rfl,
    @Session.Hands.timer _ _ _ _ ⟨⟨5000000000⟩,0,⟨.backoffStart,0⟩⟩ _ _ rfl rfl rfl rfl,?_,?_,rfl,?_⟩
  · exact List.mem_cons_of_mem _ (List.mem_singleton_self _)
  · decide
  · decide

end ChannelAccess
