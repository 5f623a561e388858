import ChannelAccess.Access.Session
import ChannelAccess.Proofs.Engine.Verdicts

/-!
A host that is watched: besides its own state it keeps the verdicts that it was told and the number of
assessments that it was asked for. Watching changes nothing. Main statement: `Engine.access_unobserved`.
-/

namespace ChannelAccess

structure Observed (σ : Type) where
  state : σ
  verdicts : List Verdict := []
  assessments : Nat := 0

def Host.observed {σ : Type} (host : Host σ) : Host (Observed σ) where
  readClock seen :=
    let (now, state) := host.readClock seen.state
    (now,{ seen with state })
  radio seen := host.radio seen.state
  layer seen := host.layer seen.state
  advise exponent backoffs seen :=
    let (advice, state) := host.advise exponent backoffs seen.state
    (advice,{ seen with state })
  hearCost symbols seen := { seen with state := host.hearCost symbols seen.state }
  hearVerdict verdict seen :=
    { seen with
      state := host.hearVerdict verdict seen.state
      verdicts := seen.verdicts ++ [verdict] }
  sleep us seen := (host.sleep us seen.state).map fun (woke, state) => (woke,{ seen with state })
  assess seen := (host.assess seen.state).map fun (answer, state) =>
    (answer,{ seen with state, assessments := seen.assessments + 1 })

namespace Session

variable {ρ σ : Type} {host : Host σ}

theorem hearAll_snoc {session heard : Session ρ σ} {calls : List Call}
    (hears : session.hearAll host calls = .ok heard) (call : Call) :
    session.hearAll host (calls ++ [call]) = heard.hear host call := by
  induction calls generalizing session with
  | nil =>
    cases hears
    simp only [List.nil_append,hearAll]
    cases heard.hear host call with
    | error failure => rfl
    | ok later => rfl
  | cons other calls ih =>
    obtain ⟨later,first,rest⟩ := except_bind_eq_ok.mp hears
    simp only [List.cons_append,hearAll,first]
    rw [except_ok_bind,ih rest]

theorem hearAll_quiet (host : Host σ) (session : Session ρ σ) {calls : List Call}
    (quiet : ∀ call ∈ calls, call.isQuiet = true) :
    ∃ state, session.hearAll host calls = .ok { session with host := state } := by
  induction calls generalizing session with
  | nil => exact ⟨_,rfl⟩
  | cons call calls ih =>
    have rest := fun other member => quiet other (List.mem_cons_of_mem call member)
    have first := quiet call List.mem_cons_self
    cases call with
    | cost symbols =>
      exact ih { session with host := host.hearCost symbols session.host } rest
    | askAdvice exponent backoffs answer =>
      exact ih { session with host := (host.advise exponent backoffs session.host).2 } rest
    | askSuperframe direction => exact ih session rest
    | schedule | requestCca | verdict => simp [Call.isQuiet] at first

/-- What a watched host has been told. -/
theorem hearAll_seen {host : Host σ} {session later : Session ρ (Observed σ)} {calls : List Call}
    (hears : session.hearAll host.observed calls = .ok later) :
    later.host.verdicts = session.host.verdicts ++ calls.filterMap Call.verdict? ∧
      later.host.assessments = session.host.assessments := by
  induction calls generalizing session with
  | nil =>
    cases hears
    simp
  | cons call calls ih =>
    obtain ⟨heard,first,rest⟩ := except_bind_eq_ok.mp hears
    obtain ⟨told,assessed⟩ := ih rest
    rw [told,assessed]
    cases call with
    | schedule timer delay =>
      obtain ⟨⟨kept,agenda⟩,_,first⟩ := except_bind_eq_ok.mp first
      cases kept <;> cases first <;> exact ⟨rfl,rfl⟩
    | requestCca | cost symbols | askAdvice exponent backoffs answer | askSuperframe direction =>
      cases first
      exact ⟨rfl,rfl⟩
    | verdict verdict =>
      cases first
      simp [Host.observed,Call.verdict?]

def unobserved (session : Session ρ (Observed σ)) : Session ρ σ :=
  { session with host := session.host.state }

@[simp] theorem unobserved_agenda (session : Session ρ (Observed σ)) :
    session.unobserved.agenda = session.agenda := rfl

theorem hear_unobserved (session : Session ρ (Observed σ)) (call : Call) :
    session.unobserved.hear host call = (session.hear host.observed call).map unobserved := by
  cases call with
  | schedule timer delay =>
    simp only [hear,unobserved]
    cases session.agenda.schedule delay timer with
    | error failure => rfl
    | ok scheduled =>
      obtain ⟨kept,agenda⟩ := scheduled
      cases kept <;> rfl
  | requestCca | verdict verdict | cost symbols | askAdvice exponent backoffs answer
  | askSuperframe direction => rfl

theorem hearAll_unobserved (session : Session ρ (Observed σ)) (calls : List Call) :
    session.unobserved.hearAll host calls = (session.hearAll host.observed calls).map unobserved := by
  induction calls generalizing session with
  | nil => rfl
  | cons call calls ih =>
    simp only [hearAll,hear_unobserved]
    cases session.hear host.observed call with
    | error failure => rfl
    | ok later => exact ih later

theorem settle_unobserved (session : Session ρ (Observed σ)) (reaction : Reaction ρ) :
    session.unobserved.settle host reaction =
      (session.settle host.observed reaction).map unobserved :=
  hearAll_unobserved
    (({ session with engine := reaction.engine } : Session ρ (Observed σ)).addNotes reaction.notes)
    reaction.calls

def unobservedResult (result : Session ρ (Observed σ) × Option AccessEnding) :
    Session ρ σ × Option AccessEnding :=
  (result.1.unobserved,result.2)

theorem settle_bind_unobserved (session : Session ρ (Observed σ)) (reaction : Reaction ρ)
    {next : Session ρ σ → Except Overflow (Session ρ σ × Option AccessEnding)}
    {next' : Session ρ (Observed σ) →
      Except Overflow (Session ρ (Observed σ) × Option AccessEnding)}
    (goesOn : ∀ later, next later.unobserved = (next' later).map unobservedResult) :
    (session.unobserved.settle host reaction >>= next) =
      (session.settle host.observed reaction >>= next').map unobservedResult := by
  rw [settle_unobserved]
  cases session.settle host.observed reaction with
  | error failure => rfl
  | ok later => exact goesOn later

theorem awaitAssessment_unobserved (session : Session ρ (Observed σ)) :
    session.unobserved.awaitAssessment host =
      (session.awaitAssessment host.observed).map unobservedResult := by
  simp only [awaitAssessment,unobserved,Host.observed]
  cases host.assess session.host.state with
  | error failure => rfl
  | ok answered =>
    obtain ⟨answer | status,state⟩ := answered
    · rfl
    · let awake : Session ρ (Observed σ) :=
        { session with host := { session.host with state, assessments := session.host.assessments + 1 } }
      refine settle_bind_unobserved ((awake.addNotes [.assessed status]).readClock host.observed) _ ?_
      intro later
      rfl

theorem sleepUntil_unobserved (session : Session ρ (Observed σ)) (due : Instant) :
    session.unobserved.sleepUntil host due =
      (session.sleepUntil host.observed due).map fun (woke, later) => (woke,later.unobserved) := by
  simp only [sleepUntil,unobserved,Host.observed]
  cases due.since (host.readClock session.host.state).1 with
  | error failure => rfl
  | ok wait =>
    simp only [except_ok_bind]
    split
    · cases host.sleep (min wait.us.toNat longestSleep) (host.readClock session.host.state).2 with
      | error failure => rfl
      | ok slept => rfl
    · rfl

theorem surroundings_unobserved (session : Session ρ (Observed σ)) (asksAdvice : Bool) :
    session.unobserved.surroundings host asksAdvice =
      session.surroundings host.observed asksAdvice := by
  cases asksAdvice <;> rfl

theorem begin_unobserved (engine : Engine ρ) (seen : Observed σ) :
    begin engine host seen.state = (begin engine host.observed seen).map unobservedResult := by
  let session : Session ρ (Observed σ) := {
    engine
    host := (host.observed.readClock seen).2
    agenda := { now := (host.observed.readClock seen).1 }
    radio := host.observed.radio (host.observed.readClock seen).2 }
  change (engine.start (session.surroundings host.observed false) >>= _) =
    (engine.start (session.surroundings host.observed false) >>= _).map unobservedResult
  cases engine.start (session.surroundings host.observed false) with
  | error failure => rfl
  | ok reaction =>
    refine settle_bind_unobserved session reaction ?_
    intro later
    cases reaction.result <;> rfl

variable [WordSource ρ]

theorem awaitTimer_unobserved (session : Session ρ (Observed σ)) :
    session.unobserved.awaitTimer host =
      (session.awaitTimer host.observed).map unobservedResult := by
  simp only [awaitTimer,unobserved_agenda]
  cases session.agenda.pop? with
  | none => rfl
  | some taken =>
    obtain ⟨entry,agenda⟩ := taken
    have sleeps : ({ session.unobserved with agenda } : Session ρ σ).sleepUntil host entry.due = _ :=
      sleepUntil_unobserved { session with agenda } entry.due
    simp only [sleeps]
    cases ({ session with agenda } : Session ρ (Observed σ)).sleepUntil host.observed entry.due with
    | error failure => rfl
    | ok slept =>
      obtain ⟨_ | _,later⟩ := slept
      · rfl
      · let awake : Session ρ (Observed σ) := later.readClock host.observed
        let tuned : Session ρ (Observed σ) := { awake with radio := host.observed.radio awake.host }
        let around := tuned.surroundings host.observed (tuned.engine.asksAdvice entry.timer)
        have same : tuned.unobserved.surroundings host (tuned.engine.asksAdvice entry.timer) = around :=
          surroundings_unobserved tuned _
        change (tuned.engine.fire entry.timer
            (tuned.unobserved.surroundings host (tuned.engine.asksAdvice entry.timer)) >>= _) =
          (tuned.engine.fire entry.timer around >>= _).map unobservedResult
        rw [same]
        cases tuned.engine.fire entry.timer around with
        | error failure => rfl
        | ok reaction =>
          refine settle_bind_unobserved tuned reaction ?_
          intro last
          cases reaction.result <;> rfl

theorem pass_unobserved (session : Session ρ (Observed σ)) :
    session.unobserved.pass host = (session.pass host.observed).map unobservedResult := by
  rcases session with ⟨engine,seen,agenda,radio,request,verdict,notes⟩
  cases verdict with
  | some verdict => rfl
  | none =>
    cases request with
    | true => exact awaitAssessment_unobserved ⟨engine,seen,agenda,radio,false,none,notes⟩
    | false => exact awaitTimer_unobserved ⟨engine,seen,agenda,radio,false,none,notes⟩

theorem passes_unobserved (session : Session ρ (Observed σ)) (bound : Nat) :
    passes host bound session.unobserved =
      (passes host.observed bound session).map unobservedResult := by
  induction bound generalizing session with
  | zero => rfl
  | succ bound ih =>
    simp only [passes,pass_unobserved]
    cases session.pass host.observed with
    | error failure => rfl
    | ok passed =>
      obtain ⟨later,_ | ending⟩ := passed
      · exact ih later
      · rfl

end Session

/-- Watching the host changes neither what an access does nor how it ends. -/
theorem Engine.access_unobserved {ρ σ : Type} [WordSource ρ] (engine : Engine ρ) (host : Host σ)
    (seen : Observed σ) :
    engine.access host seen.state =
      (engine.access host.observed seen).map Session.unobservedResult := by
  simp only [access,Session.begin_unobserved]
  cases Session.begin engine host.observed seen with
  | error failure => rfl
  | ok begun =>
    obtain ⟨session,_ | ending⟩ := begun
    · exact Session.passes_unobserved session _
    · rfl

end ChannelAccess
