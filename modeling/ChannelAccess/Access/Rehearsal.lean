import ChannelAccess.Access.Host

/-!
A host whose answers are written down beforehand, for rehearsing an engine by hand or a whole
access. Its clock moves only as the scripts of assessments and sleeps say.
-/

namespace ChannelAccess

/-- A clock, a radio and a layer that answer from fixed facts and a list of advice. -/
structure Bench where
  clock : Instant := .zero
  radio : RadioFacts
  layer : LayerFacts
  /-- One answer for each time that advice is asked for, none once they are used up. -/
  advice : List (Option UInt32) := []
  /-- The layer gives no advice and hears no costs, and the radio has the standard turnaround. -/
  minimal : Bool := false
  deriving DecidableEq, Repr

namespace Bench

def radioFacts (bench : Bench) : RadioFacts :=
  if bench.minimal then { bench.radio with turnaround := standardTurnaround } else bench.radio

/-- The next advice and what is left of the list. -/
def advise (bench : Bench) : Option UInt32 × Bench :=
  if bench.minimal then (none, bench)
  else
    match bench.advice with
    | [] => (none, bench)
    | answer :: advice => (answer, { bench with advice })

def surroundings (bench : Bench) : Surroundings where
  now := bench.clock
  radio := bench.radioFacts
  layer := bench.layer
  advice := bench.advise.1

/-- The call reaches someone. -/
def audible (bench : Bench) : Call → Bool
  | .cost _ | .askAdvice _ _ _ => ! bench.minimal
  | .schedule _ _ | .requestCca | .verdict _ | .askSuperframe _ => true

/-- The bench after a call. Advice asked for is used up. -/
def hear (bench : Bench) : Call → Bench
  | .askAdvice _ _ _ => bench.advise.2
  | .schedule _ _ | .requestCca | .verdict _ | .cost _ | .askSuperframe _ => bench

end Bench

/-- What changes on the radio while the host waits. -/
structure Retuning where
  symbolsPerSecond : Option UInt32 := none
  turnaround : Option UInt32 := none
  deriving DecidableEq, Repr

def Retuning.apply (retuning : Retuning) (radio : RadioFacts) : RadioFacts where
  symbolsPerSecond := retuning.symbolsPerSecond.getD radio.symbolsPerSecond
  turnaround := retuning.turnaround.getD radio.turnaround

/-- How one assessment goes. -/
structure ScriptedAssessment where
  status : ChannelStatus := .idle
  takes : Int := 0
  retuning : Retuning := {}
  hangs : Bool := false
  deriving DecidableEq, Repr

/-- How one sleep goes. It lasts `extra` microseconds longer than asked. -/
structure ScriptedSleep where
  extra : Int := 0
  retuning : Retuning := {}
  hangs : Bool := false
  deriving DecidableEq, Repr

/-- What a rehearsed host saw. -/
inductive Sighting where
  | adviceAsked (exponent backoffs : Nat) (answer : Option UInt32)
  | cost (symbols : Nat)
  | verdict (verdict : Verdict)
  | slept (us : Nat)
  /-- No status if the assessment never ended. -/
  | assessed (status : Option ChannelStatus)
  deriving DecidableEq, Repr

structure Rehearsal where
  bench : Bench
  assessments : List ScriptedAssessment := []
  sleeps : List ScriptedSleep := []
  sightings : Array Sighting := #[]
  deriving DecidableEq, Repr

namespace Rehearsal

def see (rehearsal : Rehearsal) (sighting : Sighting) : Rehearsal :=
  { rehearsal with sightings := rehearsal.sightings.push sighting }

/-- Let time pass and the radio change. -/
def elapse (rehearsal : Rehearsal) (us : Int) (retuning : Retuning) :
    Except Overflow Rehearsal := do
  let clock ← rehearsal.bench.clock.plus ⟨us⟩
  let radio := retuning.apply rehearsal.bench.radio
  return { rehearsal with bench := { rehearsal.bench with clock, radio } }

def advise (exponent backoffs : Nat) (rehearsal : Rehearsal) : Option UInt32 × Rehearsal :=
  if rehearsal.bench.minimal then (none, rehearsal)
  else
    let (answer, bench) := rehearsal.bench.advise
    (answer, { rehearsal with bench }.see (.adviceAsked exponent backoffs answer))

def hearCost (symbols : Nat) (rehearsal : Rehearsal) : Rehearsal :=
  if rehearsal.bench.minimal then rehearsal else rehearsal.see (.cost symbols)

def sleep (us : Nat) (rehearsal : Rehearsal) : Except Overflow (Bool × Rehearsal) := do
  let script := rehearsal.sleeps.head?.getD {}
  let rehearsal := { rehearsal with sleeps := rehearsal.sleeps.tail }.see (.slept us)
  if script.hangs then
    return (false, rehearsal)
  else
    let onTime ← rehearsal.elapse us {}
    let late ← onTime.elapse script.extra script.retuning
    return (true, late)

def assess (rehearsal : Rehearsal) :
    Except Overflow (Option ChannelStatus × Rehearsal) := do
  let script := rehearsal.assessments.head?.getD {}
  let rehearsal := { rehearsal with assessments := rehearsal.assessments.tail }
  if script.hangs then
    return (none, rehearsal.see (.assessed none))
  else
    let rehearsal ← rehearsal.elapse script.takes script.retuning
    return (some script.status, rehearsal.see (.assessed (some script.status)))

/-- The host that follows its script. -/
def host : Host Rehearsal where
  readClock rehearsal := (rehearsal.bench.clock, rehearsal)
  radio rehearsal := rehearsal.bench.radioFacts
  layer rehearsal := rehearsal.bench.layer
  advise := advise
  hearCost := hearCost
  hearVerdict verdict rehearsal := rehearsal.see (.verdict verdict)
  sleep := sleep
  assess := assess

end Rehearsal

end ChannelAccess
