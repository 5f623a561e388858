import ChannelAccess.Access.Rehearsal
import ChannelAccess.Access.Session
import ChannelAccess.Proofs.Engine.Epochs

/-!
A whole access in another epoch. The clock of one host is ahead of that of another by a fixed offset,
and so are its beacons; in all else the two answer alike. Then the sessions on them go the same way,
and only what is due is due later by the offset. Main statement: `epoch_is_arbitrary`, about the runs
of an engine and about accesses.
-/

namespace ChannelAccess

variable (offset : Int)

def AgendaEntry.shift (entry : AgendaEntry) : AgendaEntry :=
  { entry with due := entry.due.shift offset }

theorem AgendaEntry.precedes_shift (a b : AgendaEntry) :
    (a.shift offset).precedes (b.shift offset) = a.precedes b := by
  have sooner : (a.shift offset).due < (b.shift offset).due ↔ a.due < b.due := Instant.shift_lt offset
  have together : (a.shift offset).due = (b.shift offset).due ↔ a.due = b.due :=
    Instant.shift_inj offset
  rw [precedes,precedes,decide_eq_decide.mpr sooner,decide_eq_decide.mpr together]
  rfl

namespace Agenda

def shift (agenda : Agenda) : Agenda :=
  { agenda with
    now := agenda.now.shift offset
    entries := agenda.entries.map (·.shift offset) }

theorem first_shift (entries : List AgendaEntry) :
    first (entries.map (·.shift offset)) =
      (first entries).map fun (position,best) => (position,best.shift offset) := by
  induction entries with
  | nil => rfl
  | cons entry entries ih =>
    rw [List.map_cons,first,first,ih]
    rcases first entries with _ | ⟨position,best⟩
    · rfl
    · simp only [Option.map_some,AgendaEntry.precedes_shift]
      split <;> rfl

theorem removeAt_shift (entries : List AgendaEntry) (position : Nat) :
    removeAt (entries.map (·.shift offset)) position =
      (removeAt entries position).map (·.shift offset) := by
  unfold removeAt
  rw [List.getLast?_map]
  cases entries.getLast? with
  | none => rfl
  | some last =>
    simp only [Option.map_some]
    rw [← List.map_set,List.map_dropLast]

theorem pop?_shift (agenda : Agenda) :
    (agenda.shift offset).pop? =
      agenda.pop?.map fun (entry,left) => (entry.shift offset,left.shift offset) := by
  simp only [pop?,shift,first_shift]
  rcases first agenda.entries with _ | ⟨position,entry⟩
  · rfl
  · simp only [Option.map_some,removeAt_shift]

theorem schedule_shift (agenda : Agenda) (delay : Span) (timer : Timer) :
    Alike (fun (kept,later) (kept',later') => kept' = kept ∧ later' = later.shift offset)
      (agenda.schedule delay timer) ((agenda.shift offset).schedule delay timer) := by
  refine (Instant.plus_shift offset agenda.now delay).bind fun due moved same => ?_
  simp only [shift,List.length_map]
  split
  · refine .done ⟨rfl,?_⟩
    simp [AgendaEntry.shift,same]
  · exact .done ⟨rfl,rfl⟩

end Agenda

variable {ρ σ τ : Type}

/-- The second host has a clock and beacons that are ahead by the offset. In all else the two answer
alike in related states, and sleep and assess alike unless one of them overflows. -/
structure Host.Ahead (related : σ → τ → Prop) (host : Host σ) (other : Host τ) : Prop where
  readClock : ∀ state state', related state state' →
    (other.readClock state').1 = (host.readClock state).1.shift offset ∧
      related (host.readClock state).2 (other.readClock state').2
  radio : ∀ state state', related state state' → other.radio state' = host.radio state
  layer : ∀ state state', related state state' →
    other.layer state' = (host.layer state).shift offset
  advise : ∀ exponent backoffs state state', related state state' →
    (other.advise exponent backoffs state').1 = (host.advise exponent backoffs state).1 ∧
      related (host.advise exponent backoffs state).2 (other.advise exponent backoffs state').2
  hearCost : ∀ symbols state state', related state state' →
    related (host.hearCost symbols state) (other.hearCost symbols state')
  hearVerdict : ∀ verdict state state', related state state' →
    related (host.hearVerdict verdict state) (other.hearVerdict verdict state')
  sleep : ∀ us state state', related state state' →
    Alike (fun (woke,later) (woke',later') => woke' = woke ∧ related later later')
      (host.sleep us state) (other.sleep us state')
  assess : ∀ state state', related state state' →
    Alike (fun (answer,later) (answer',later') => answer' = answer ∧ related later later')
      (host.assess state) (other.assess state')

/-- The host in another epoch. -/
def Host.shift (host : Host σ) : Host σ :=
  { host with
    readClock := fun state => ((host.readClock state).1.shift offset,(host.readClock state).2)
    layer := fun state => (host.layer state).shift offset }

theorem Host.shift_ahead (host : Host σ) : Host.Ahead offset Eq host (host.shift offset) where
  readClock state _ := by
    rintro rfl
    exact ⟨rfl,rfl⟩
  radio state _ := by
    rintro rfl
    rfl
  layer state _ := by
    rintro rfl
    rfl
  advise exponent backoffs state _ := by
    rintro rfl
    exact ⟨rfl,rfl⟩
  hearCost symbols state _ := congrArg _
  hearVerdict verdict state _ := congrArg _
  sleep us state _ := by
    rintro rfl left right slept slept'
    cases slept.symm.trans slept'
    exact ⟨rfl,rfl⟩
  assess state _ := by
    rintro rfl left right assessed assessed'
    cases assessed.symm.trans assessed'
    exact ⟨rfl,rfl⟩

namespace Session

/-- The session on the other host is the same, but for a clock and timers that are ahead. -/
structure Ahead (related : σ → τ → Prop) (session : Session ρ σ) (other : Session ρ τ) : Prop where
  engine : other.engine = session.engine
  host : related session.host other.host
  agenda : other.agenda = session.agenda.shift offset
  radio : other.radio = session.radio
  ccaRequested : other.ccaRequested = session.ccaRequested
  verdict : other.verdict = session.verdict
  notes : other.notes = session.notes

/-- The second session is the same with a later clock, and both have come to the same ending or to
none. -/
def EndsAhead (related : σ → τ → Prop) (first : Session ρ σ × Option AccessEnding)
    (second : Session ρ τ × Option AccessEnding) : Prop :=
  first.1.Ahead offset related second.1 ∧ second.2 = first.2

variable {offset} {related : σ → τ → Prop} {host : Host σ} {host' : Host τ}
  {session : Session ρ σ} {other : Session ρ τ}

theorem Ahead.addNotes (ahead : session.Ahead offset related other) (notes : List Note) :
    (session.addNotes notes).Ahead offset related (other.addNotes notes) :=
  { ahead with notes := congrArg (· ++ notes) ahead.notes }

theorem Ahead.abort (ahead : session.Ahead offset related other) (note : Note) :
    (session.abort note).Ahead offset related (other.abort note) :=
  { ahead with
    engine := congrArg Engine.cancel ahead.engine
    notes := congrArg (· ++ [note]) ahead.notes }

variable (hosts : Host.Ahead offset related host host') (ahead : session.Ahead offset related other)
include hosts ahead

theorem Ahead.surroundings (asksAdvice : Bool) :
    other.surroundings host' asksAdvice = (session.surroundings host asksAdvice).shift offset := by
  obtain ⟨advice,advised⟩ := hosts.advise session.engine.progress.exponent
    session.engine.progress.backoffs _ _ ahead.host
  have layer : host'.layer (if asksAdvice then (host'.advise session.engine.progress.exponent
        session.engine.progress.backoffs other.host).2 else other.host) =
      (host.layer (if asksAdvice then (host.advise session.engine.progress.exponent
        session.engine.progress.backoffs session.host).2 else session.host)).shift offset := by
    cases asksAdvice with
    | true => exact hosts.layer _ _ advised
    | false => exact hosts.layer _ _ ahead.host
  simp only [Session.surroundings,Surroundings.shift,ahead.engine,ahead.agenda,ahead.radio,layer,advice]
  rfl

theorem Ahead.readClock : (session.readClock host).Ahead offset related (other.readClock host') := by
  obtain ⟨now,state⟩ := hosts.readClock _ _ ahead.host
  refine { ahead with host := state, agenda := ?_ }
  simp only [Session.readClock,ahead.agenda,now]
  rfl

theorem Ahead.hear (call : Call) :
    Alike (Ahead offset related) (session.hear host call) (other.hear host' call) := by
  cases call with
  | schedule timer delay =>
    have schedules := Agenda.schedule_shift offset session.agenda delay timer
    rw [← ahead.agenda] at schedules
    refine schedules.bind fun ⟨_,agenda⟩ ⟨kept,agenda'⟩ ⟨same,moved⟩ => ?_
    subst same
    have armed : ({ session with agenda } : Session ρ σ).Ahead offset related
        { other with agenda := agenda' } := { ahead with agenda := moved }
    cases kept with
    | true => exact .done armed
    | false => exact .done (armed.addNotes [.agendaFull timer.kind])
  | requestCca => exact .done { ahead with ccaRequested := rfl }
  | verdict verdict =>
    exact .done { ahead with host := hosts.hearVerdict verdict _ _ ahead.host, verdict := rfl }
  | cost symbols => exact .done { ahead with host := hosts.hearCost symbols _ _ ahead.host }
  | askAdvice exponent backoffs answer =>
    exact .done { ahead with host := (hosts.advise exponent backoffs _ _ ahead.host).2 }
  | askSuperframe direction => exact .done ahead

theorem Ahead.hearAll (calls : List Call) :
    Alike (Ahead offset related) (session.hearAll host calls) (other.hearAll host' calls) := by
  induction calls generalizing session other with
  | nil => exact .done ahead
  | cons call calls ih =>
    exact (ahead.hear hosts call).bind fun later later' ahead => ih ahead

theorem Ahead.settle (reaction : Reaction ρ) :
    Alike (Ahead offset related) (session.settle host reaction) (other.settle host' reaction) := by
  have taken : ({ session with engine := reaction.engine } : Session ρ σ).Ahead offset related
      { other with engine := reaction.engine } := { ahead with engine := rfl }
  exact (taken.addNotes reaction.notes).hearAll hosts reaction.calls

theorem Ahead.awaitAssessment :
    Alike (EndsAhead offset related) (session.awaitAssessment host) (other.awaitAssessment host') := by
  refine (hosts.assess _ _ ahead.host).bind
    fun ⟨_,state⟩ ⟨answer,state'⟩ ⟨same,states⟩ => ?_
  subst same
  have answered : ({ session with host := state } : Session ρ σ).Ahead offset related
      { other with host := state' } := { ahead with host := states }
  cases answer with
  | none => exact .done ⟨answered,rfl⟩
  | some status =>
    have awake := (answered.addNotes [.assessed status]).readClock hosts
    dsimp only
    rw [awake.engine]
    exact (awake.settle hosts _).bind fun later later' ahead => .done ⟨ahead,rfl⟩

/-- What is due is as far away from the one clock as from the other. -/
theorem Ahead.sleepUntil (due : Instant) :
    Alike (fun (woke,later) (woke',later') => woke' = woke ∧ later.Ahead offset related later')
      (session.sleepUntil host due) (other.sleepUntil host' (due.shift offset)) := by
  obtain ⟨now,states⟩ := hosts.readClock _ _ ahead.host
  simp only [Session.sleepUntil,now,Instant.since_shift]
  refine (Alike.refl _).bind fun wait wait' same => ?_
  rw [same]
  split
  · refine (hosts.sleep _ _ _ states).bind
      fun ⟨woke,state⟩ ⟨woke',state'⟩ ⟨same,states⟩ => .done ⟨same,{ ahead with host := states }⟩
  · exact .done ⟨rfl,{ ahead with host := states }⟩

variable [WordSource ρ]

theorem Ahead.fire (timer : Timer) :
    Alike Eq
      (session.engine.fire timer (session.surroundings host (session.engine.asksAdvice timer)))
      (other.engine.fire timer (other.surroundings host' (other.engine.asksAdvice timer))) := by
  rw [ahead.engine,ahead.surroundings hosts]
  exact Engine.fire_shift offset _ _ timer

theorem Ahead.awaitTimer :
    Alike (EndsAhead offset related) (session.awaitTimer host) (other.awaitTimer host') := by
  unfold Session.awaitTimer
  rw [ahead.agenda,Agenda.pop?_shift]
  rcases session.agenda.pop? with _ | ⟨entry,agenda⟩
  · exact .done ⟨ahead.abort .nothingToWaitFor,rfl⟩
  · have popped : ({ session with agenda } : Session ρ σ).Ahead offset related
        { other with agenda := agenda.shift offset } := { ahead with agenda := rfl }
    refine (popped.sleepUntil hosts entry.due).bind
      fun ⟨_,slept⟩ ⟨woke,slept'⟩ ⟨same,ahead⟩ => ?_
    subst same
    cases woke with
    | false => exact .done ⟨ahead,rfl⟩
    | true =>
      have awake := ahead.readClock hosts
      have radio := hosts.radio _ _ awake.host
      have tuned : ({ slept.readClock host with radio := host.radio (slept.readClock host).host } :
          Session ρ σ).Ahead offset related
          { slept'.readClock host' with radio := host'.radio (slept'.readClock host').host } :=
        { awake with radio }
      refine (tuned.fire hosts entry.timer).bind fun reaction _ same => ?_
      subst same
      refine (tuned.settle hosts reaction).bind fun later later' ahead => ?_
      cases reaction.result with
      | ok done => exact .done ⟨ahead,rfl⟩
      | error error => exact .done ⟨ahead.abort (.aborted error),rfl⟩

theorem Ahead.pass : Alike (EndsAhead offset related) (session.pass host) (other.pass host') := by
  obtain ⟨engine,state,agenda,radio,request,verdict,notes⟩ := session
  obtain ⟨engine',state',agenda',radio',request',verdict',notes'⟩ := other
  obtain rfl : request' = request := ahead.ccaRequested
  obtain rfl : verdict' = verdict := ahead.verdict
  cases verdict' with
  | some verdict => exact .done ⟨{ ahead with verdict := rfl },rfl⟩
  | none =>
    cases request' with
    | true => exact Ahead.awaitAssessment hosts { ahead with ccaRequested := rfl }
    | false => exact ahead.awaitTimer hosts

theorem Ahead.passes (bound : Nat) :
    Alike (EndsAhead offset related) (passes host bound session) (passes host' bound other) := by
  induction bound generalizing session other with
  | zero => exact .done ⟨ahead,rfl⟩
  | succ bound ih =>
    refine (ahead.pass hosts).bind fun ⟨later,_⟩ ⟨later',ending⟩ ⟨ahead,same⟩ => ?_
    subst same
    cases ending with
    | none => exact ih ahead
    | some ending => exact .done ⟨ahead,rfl⟩

omit ahead [WordSource ρ] in
theorem begin_ahead {state : σ} {state' : τ} (engine : Engine ρ) (states : related state state') :
    Alike (EndsAhead offset related) (begin engine host state) (begin engine host' state') := by
  obtain ⟨now,states⟩ := hosts.readClock _ _ states
  let session : Session ρ σ := {
    engine
    host := (host.readClock state).2
    agenda := { now := (host.readClock state).1 }
    radio := host.radio (host.readClock state).2 }
  let other : Session ρ τ := {
    engine
    host := (host'.readClock state').2
    agenda := { now := (host'.readClock state').1 }
    radio := host'.radio (host'.readClock state').2 }
  have ahead : session.Ahead offset related other := {
    engine := rfl
    host := states
    agenda := congrArg (fun now => ({ now } : Agenda)) now
    radio := hosts.radio _ _ states
    ccaRequested := rfl
    verdict := rfl
    notes := rfl }
  change Alike _ (engine.start (session.surroundings host false) >>= _)
    (engine.start (other.surroundings host' false) >>= _)
  rw [ahead.surroundings hosts,Engine.start_shift]
  refine (Alike.refl _).bind fun reaction _ same => ?_
  subst same
  refine (ahead.settle hosts reaction).bind fun later later' ahead => ?_
  cases reaction.result with
  | ok done => exact .done ⟨ahead,rfl⟩
  | error error => exact .done ⟨ahead,rfl⟩

end Session

section

variable {offset : Int} {related : σ → τ → Prop} {host : Host σ} {host' : Host τ}
  [WordSource ρ]

/-- Accesses on two hosts, the second with a later clock, go the same way. -/
theorem Engine.access_ahead (hosts : Host.Ahead offset related host host') (engine : Engine ρ)
    {state : σ} {state' : τ} (states : related state state') :
    Alike (Session.EndsAhead offset related) (engine.access host state)
      (engine.access host' state') := by
  refine (Session.begin_ahead hosts engine states).bind
    fun ⟨later,_⟩ ⟨later',ending⟩ ⟨ahead,same⟩ => ?_
  subst same
  cases ending with
  | none => exact ahead.passes hosts _
  | some ending => exact .done ⟨ahead,rfl⟩

end

def Session.shift (session : Session ρ σ) : Session ρ σ :=
  { session with agenda := session.agenda.shift offset }

theorem Session.Ahead.eq_shift {session other : Session ρ σ} (ahead : session.Ahead offset Eq other) :
    other = session.shift offset := by
  obtain ⟨engine,state,agenda,radio,request,verdict,notes⟩ := other
  obtain ⟨rfl,rfl,rfl,rfl,rfl,rfl,rfl⟩ := ahead
  rfl

namespace Rehearsal

/-- The rehearsal with its clock and its beacons in another epoch, and the same scripts. -/
def shift (rehearsal : Rehearsal) : Rehearsal :=
  { rehearsal with bench := { rehearsal.bench with
      clock := rehearsal.bench.clock.shift offset
      layer := rehearsal.bench.layer.shift offset } }

theorem elapse_shift (rehearsal : Rehearsal) (us : Int) (retuning : Retuning) :
    Alike (fun later later' => later' = later.shift offset) (rehearsal.elapse us retuning)
      ((rehearsal.shift offset).elapse us retuning) := by
  refine (Instant.plus_shift offset rehearsal.bench.clock ⟨us⟩).bind fun clock moved same => ?_
  subst same
  exact .done rfl

theorem host_ahead :
    Host.Ahead offset (fun rehearsal moved => moved = rehearsal.shift offset) host host where
  readClock rehearsal _ := by
    rintro rfl
    exact ⟨rfl,rfl⟩
  radio rehearsal _ := by
    rintro rfl
    rfl
  layer rehearsal _ := by
    rintro rfl
    rfl
  advise exponent backoffs rehearsal _ := by
    rintro rfl
    obtain ⟨⟨clock,radio,layer,advice,minimal⟩,assessments,sleeps,sightings⟩ := rehearsal
    cases minimal <;> cases advice <;> exact ⟨rfl,rfl⟩
  hearCost symbols rehearsal _ := by
    rintro rfl
    obtain ⟨⟨clock,radio,layer,advice,minimal⟩,assessments,sleeps,sightings⟩ := rehearsal
    cases minimal <;> rfl
  hearVerdict verdict rehearsal _ := by
    rintro rfl
    rfl
  sleep us rehearsal _ := by
    rintro rfl
    change Alike _ (sleep us rehearsal) (sleep us (rehearsal.shift offset))
    unfold sleep
    dsimp only [shift]
    split
    · exact .done ⟨rfl,rfl⟩
    · refine (elapse_shift offset _ us {}).bind fun onTime onTime' same => ?_
      subst same
      refine (elapse_shift offset onTime _ _).bind fun late late' same => ?_
      exact .done ⟨rfl,same⟩
  assess rehearsal _ := by
    rintro rfl
    change Alike _ (assess rehearsal) (assess (rehearsal.shift offset))
    unfold assess
    dsimp only [shift]
    split
    · exact .done ⟨rfl,rfl⟩
    · refine (elapse_shift offset { rehearsal with assessments := rehearsal.assessments.tail } _ _).bind
        fun later later' same => ?_
      subst same
      exact .done ⟨rfl,rfl⟩

end Rehearsal

/-- The epoch is arbitrary. Where nothing overflows in either of two epochs, a run of an engine gives
the same engines, with the words that they have left, and the same calls, notes and results. An access
on any host, whatever it keeps of what it was told, leaves the host as it does in the other epoch, with
the same ending; only the clock and the timers of its agenda have moved. On a host that writes down
how long it sleeps, what it assesses, hears and is asked, all that is the same. -/
theorem epoch_is_arbitrary [WordSource ρ] (engine : Engine ρ) :
    (∀ operations : List Operation,
      (∀ result ∈ engine.record operations, result.isOk = true) →
      (∀ result ∈ engine.record (operations.map (·.shift offset)), result.isOk = true) →
      engine.record (operations.map (·.shift offset)) = engine.record operations) ∧
    (∀ (σ : Type) (host : Host σ) (state : σ) (later later' : Session ρ σ)
        (ending ending' : Option AccessEnding),
      engine.access host state = .ok (later,ending) →
      engine.access (host.shift offset) state = .ok (later',ending') →
      ending' = ending ∧ later' = later.shift offset) ∧
    ∀ (rehearsal : Rehearsal) (later later' : Session ρ Rehearsal)
        (ending ending' : Option AccessEnding),
      engine.access Rehearsal.host rehearsal = .ok (later,ending) →
      engine.access Rehearsal.host (rehearsal.shift offset) = .ok (later',ending') →
      ending' = ending ∧ later'.engine = later.engine ∧ later'.notes = later.notes ∧
        later'.host.sightings = later.host.sightings ∧ later'.host = later.host.shift offset := by
  refine ⟨engine.record_shift offset,?hosts,?rehearsals⟩
  case hosts =>
    intro σ host state later later' ending ending' ends ends'
    obtain ⟨ahead,same⟩ := engine.access_ahead (host.shift_ahead offset) rfl _ _ ends ends'
    exact ⟨same,ahead.eq_shift⟩
  case rehearsals =>
    intro rehearsal later later' ending ending' ends ends'
    obtain ⟨ahead,same⟩ := engine.access_ahead (Rehearsal.host_ahead offset) rfl _ _ ends ends'
    refine ⟨same,ahead.engine,ahead.notes,?_,ahead.host⟩
    rw [ahead.host]
    rfl

/-- The superframe begins in a millisecond. The channel is busy and then idle, and the first sleep takes
longer than asked. -/
def Rehearsal.awaiting : Rehearsal where
  bench := {
    radio := { symbolsPerSecond := 62500 }
    layer := { (Surroundings.plain 62500).layer with outgoing := .capped ⟨1000⟩ 0 15 } }
  assessments := [{ status := .busy, takes := 128 }]
  sleeps := [{ extra := 7 }]

/-- An attempt that starts before the beacon. -/
def Operation.awaiting : List Operation := [
  .start { Surroundings.plain 62500 with now := ⟨-300⟩ },
  .fire ⟨.backoffStart,0⟩ { Surroundings.plain 62500 with now := ⟨5⟩ },
  .fire ⟨.canProceed,1⟩ { Surroundings.plain 62500 with now := ⟨1605⟩ }]

/-- Five seconds earlier the clock reads less than zero, and the beacon still comes in a millisecond. -/
theorem epoch_is_arbitrary_before_zero :
    ∃ (engine : Engine WordScript) (later later' : Session WordScript Rehearsal),
      Engine.new { mode := .slotted } ⟨[5,2]⟩ = .ok engine ∧
      engine.record (Operation.awaiting.map (·.shift (-5000000))) =
        engine.record Operation.awaiting ∧
      engine.access Rehearsal.host Rehearsal.awaiting =
        .ok (later,some (.verdict .channelIdle)) ∧
      engine.access (Rehearsal.host.shift (-5000000)) Rehearsal.awaiting =
        .ok (later.shift (-5000000),some (.verdict .channelIdle)) ∧
      engine.access Rehearsal.host (Rehearsal.awaiting.shift (-5000000)) =
        .ok (later',some (.verdict .channelIdle)) ∧
      later'.host.sightings = later.host.sightings ∧
      later.host.sightings.toList.head? = some (.slept 1000) := by
  obtain ⟨engine,made,ends,ends',later,accessed,slept,⟨moved,ending⟩,accessed',
      ⟨later',ending'⟩,rehearsed⟩ :
      ∃ engine : Engine WordScript, Engine.new { mode := .slotted } ⟨[5,2]⟩ = .ok engine ∧
        (∀ result ∈ engine.record Operation.awaiting, result.isOk = true) ∧
        (∀ result ∈ engine.record (Operation.awaiting.map (·.shift (-5000000))),
          result.isOk = true) ∧
        ∃ later, engine.access Rehearsal.host Rehearsal.awaiting =
            .ok (later,some (.verdict .channelIdle)) ∧
          later.host.sightings.toList.head? = some (.slept 1000) ∧
          ∃ moved, engine.access (Rehearsal.host.shift (-5000000)) Rehearsal.awaiting = .ok moved ∧
          ∃ rehearsed, engine.access Rehearsal.host (Rehearsal.awaiting.shift (-5000000)) =
            .ok rehearsed :=
    ⟨_,rfl,by decide,by decide,_,rfl,rfl,_,rfl,_,rfl⟩
  have ⟨records,hosts,rehearsals⟩ := epoch_is_arbitrary (-5000000) engine
  obtain ⟨rfl,rfl⟩ := hosts _ _ _ _ _ _ _ accessed accessed'
  obtain ⟨rfl,_,_,sightings,_⟩ := rehearsals _ _ _ _ _ accessed rehearsed
  exact ⟨engine,later,later',made,records _ ends ends',accessed,accessed',rehearsed,sightings,slept⟩

end ChannelAccess
