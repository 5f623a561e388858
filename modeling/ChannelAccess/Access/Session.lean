import ChannelAccess.Access.Host
import ChannelAccess.Agenda
import ChannelAccess.Engine.Operations

/-!
One access to the channel from start to verdict. The session keeps the timers of the attempt and
sleeps between them, so the host only has to sleep and to assess the channel. Each pass of the
loop reports the verdict, or waits for one assessment, or waits for the earliest timer.
-/

namespace ChannelAccess

structure Session (ρ σ : Type) where
  engine : Engine ρ
  host : σ
  agenda : Agenda
  /-- The radio as it was when the attempt started or the last timer came back. -/
  radio : RadioFacts
  ccaRequested : Bool := false
  /-- The verdict that the layer has received and the session has not yet reported. -/
  verdict : Option Verdict := none
  notes : List Note := []

/-- How an access ends. -/
inductive AccessEnding where
  | verdict (verdict : Verdict)
  | refused (error : AccessError)
  /-- The host never comes back. -/
  | pending
  deriving DecidableEq, Repr

namespace Session

variable {ρ σ : Type}

def addNotes (session : Session ρ σ) (notes : List Note) : Session ρ σ :=
  { session with notes := session.notes ++ notes }

/-- What the engine finds around it: the agenda's clock, the remembered radio, and the layer. An
engine that asks for advice looks at the layer when it has been given. -/
def surroundings (session : Session ρ σ) (host : Host σ) (asksAdvice : Bool) : Surroundings :=
  let progress := session.engine.progress
  let (advice, advised) := host.advise progress.exponent progress.backoffs session.host
  { now := session.agenda.now
    radio := session.radio
    layer := host.layer (if asksAdvice then advised else session.host)
    advice }

/-- Answer one call of the engine. A request for an assessment is noted for the next pass. -/
def hear (session : Session ρ σ) (host : Host σ) : Call → Except Overflow (Session ρ σ)
  | .schedule timer delay => do
    let (kept, agenda) ← session.agenda.schedule delay timer
    let session := { session with agenda }
    return if kept then session else session.addNotes [.agendaFull timer.kind]
  | .requestCca => .ok { session with ccaRequested := true }
  | .verdict verdict =>
    .ok { session with verdict := some verdict, host := host.hearVerdict verdict session.host }
  | .cost symbols => .ok { session with host := host.hearCost symbols session.host }
  | .askAdvice exponent backoffs _ =>
    .ok { session with host := (host.advise exponent backoffs session.host).2 }
  | .askSuperframe _ => .ok session

def hearAll (session : Session ρ σ) (host : Host σ) :
    List Call → Except Overflow (Session ρ σ)
  | [] => .ok session
  | call :: calls => do
    let session ← session.hear host call
    session.hearAll host calls

/-- Take over an engine's reaction and answer its calls. -/
def settle (session : Session ρ σ) (host : Host σ) (reaction : Reaction ρ) :
    Except Overflow (Session ρ σ) :=
  ({ session with engine := reaction.engine }.addNotes reaction.notes).hearAll host reaction.calls

/-- Give up after a refusal or for want of a timer. -/
def abort (session : Session ρ σ) (note : Note) : Session ρ σ :=
  { session with engine := session.engine.cancel }.addNotes [note]

/-- Set the agenda's clock to a reading of the host's. -/
def readClock (session : Session ρ σ) (host : Host σ) : Session ρ σ :=
  let (now, state) := host.readClock session.host
  { session with host := state, agenda := { session.agenda with now } }

/-- Wait for the assessment and pass its result to the engine. -/
def awaitAssessment (session : Session ρ σ) (host : Host σ) :
    Except Overflow (Session ρ σ × Option AccessEnding) := do
  let (answer, state) ← host.assess session.host
  let session := { session with host := state }
  match answer with
  | none => return (session, some .pending)
  | some status =>
    let session := (session.addNotes [.assessed status]).readClock host
    let session ← session.settle host (session.engine.confirm status)
    return (session, none)

/-- The longest single sleep, in microseconds. -/
def longestSleep : Nat := 4294967295

/-- Sleep until `due`, but no longer than one sleep can last. False if the host never wakes. -/
def sleepUntil (session : Session ρ σ) (host : Host σ) (due : Instant) :
    Except Overflow (Bool × Session ρ σ) := do
  let (now, state) := host.readClock session.host
  let wait ← due.since now
  if 0 < wait.us then
    let (woke, state) ← host.sleep (min wait.us.toNat longestSleep) state
    return (woke, { session with host := state })
  else
    return (true, { session with host := state })

variable [WordSource ρ]

/-- Wait for the earliest timer, look at clock and radio again, and hand it to the engine. -/
def awaitTimer (session : Session ρ σ) (host : Host σ) :
    Except Overflow (Session ρ σ × Option AccessEnding) :=
  match session.agenda.pop? with
  | none => .ok (session.abort .nothingToWaitFor, some (.refused .stalled))
  | some (entry, agenda) => do
    let (woke, session) ← { session with agenda }.sleepUntil host entry.due
    if woke then
      let session := session.readClock host
      let session := { session with radio := host.radio session.host }
      let asksAdvice := session.engine.asksAdvice entry.timer
      let reaction ← session.engine.fire entry.timer (session.surroundings host asksAdvice)
      let session ← session.settle host reaction
      match reaction.result with
      | .ok () => return (session, none)
      | .error error => return (session.abort (.aborted error), some (.refused error))
    else
      return (session, some .pending)

/-- One pass of the loop. -/
def pass (session : Session ρ σ) (host : Host σ) :
    Except Overflow (Session ρ σ × Option AccessEnding) :=
  match session.verdict with
  | some verdict => .ok ({ session with verdict := none }, some (.verdict verdict))
  | none =>
    if session.ccaRequested then
      { session with ccaRequested := false }.awaitAssessment host
    else
      session.awaitTimer host

/-- At most `bound` passes. No ending if they do not reach one. -/
def passes (host : Host σ) :
    Nat → Session ρ σ → Except Overflow (Session ρ σ × Option AccessEnding)
  | 0, session => .ok (session, none)
  | bound + 1, session => do
    match ← session.pass host with
    | (session, some ending) => return (session, some ending)
    | (session, none) => passes host bound session

/-- A number of passes that no access exceeds: six for each backoff that the policy allows, and
one to report the verdict. -/
def passBound (engine : Engine ρ) : Nat := 6 * (engine.policy.maxBackoffs.toNat + 1) + 1

/-- Begin an access: the engine starts an attempt at the host's clock. -/
def begin (engine : Engine ρ) (host : Host σ) (state : σ) :
    Except Overflow (Session ρ σ × Option AccessEnding) := do
  let (now, state) := host.readClock state
  let session : Session ρ σ :=
    { engine, host := state, agenda := { now }, radio := host.radio state }
  let reaction ← engine.start (session.surroundings host false)
  let session ← session.settle host reaction
  match reaction.result with
  | .ok () => return (session, none)
  | .error error => return (session, some (.refused error))

end Session

variable {ρ σ : Type} [WordSource ρ]

/-- Access the channel: start an attempt and wait until it ends. -/
def Engine.access (engine : Engine ρ) (host : Host σ) (state : σ) :
    Except Overflow (Session ρ σ × Option AccessEnding) := do
  match ← Session.begin engine host state with
  | (session, some ending) => return (session, some ending)
  | (session, none) => session.passes host (Session.passBound engine)

end ChannelAccess
