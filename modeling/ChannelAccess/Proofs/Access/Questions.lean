import Mathlib.Data.List.Basic
import ChannelAccess.Access.Session
import ChannelAccess.Proofs.Engine.Reactions

/-!
Questions to the layer. A layer may be another one once it has been asked for advice, and an engine
that asks for advice and then for a superframe sees the layer as the advice has left it. Main
statement: `Session.surroundings_asked`.
-/

namespace ChannelAccess

variable {ρ σ : Type} {direction : Direction} {earlier later : List Call}

namespace Engine

variable {engine : Engine ρ} {timer : Timer} {around : Surroundings} {reaction : Reaction ρ}

theorem beginBackoff_asks [WordSource ρ] (begins : engine.beginBackoff around = .ok reaction)
    (calls : reaction.calls = earlier ++ .askSuperframe direction :: later) :
    earlier = engine.advising around.advice := by
  have asks : .askSuperframe direction ∈ reaction.calls := by simp [calls]
  rcases SymbolRate.of_cases around.radio.symbolsPerSecond with refused | ⟨rate,rated⟩
  · rw [beginBackoff_refused refused] at begins
    cases begins
    exact absurd asks List.not_mem_nil
  rcases drawn : engine.takeBackoff around.advice with ⟨source,asked⟩
  have unasked : .askSuperframe direction ∉ asked := by
    intro member
    cases eq_of_mem_takeBackoff drawn member
  rw [← takeBackoff_asks drawn]
  cases mode : engine.policy.mode with
  | unslotted =>
    rw [beginBackoff_unslotted rated mode drawn] at begins
    cases begins
    simp [waitFor,unasked] at asks
  | slotted =>
    rw [beginBackoff_slotted rated mode drawn] at begins
    obtain ⟨left,_,rfl⟩ := except_map_eq_ok.mp begins
    -- The question is asked once, so what comes before it is known from where it stands.
    split at calls <;>
      (simp only [waitFor,List.append_assoc,List.singleton_append] at calls
       exact ((List.append_cons_inj_of_notMem unasked (by simp)).mp calls).1.symm)

theorem checkTransaction_asks (checks : engine.checkTransaction around = .ok reaction)
    (calls : reaction.calls = earlier ++ .askSuperframe direction :: later) : earlier = [] := by
  rcases SymbolRate.of_cases around.radio.symbolsPerSecond with refused | ⟨rate,rated⟩
  · rw [checkTransaction_refused refused] at checks
    cases checks
    simp at calls
  rw [checkTransaction_eq rated] at checks
  obtain ⟨left,_,checks⟩ := except_bind_eq_ok.mp checks
  obtain ⟨cost,_,checks⟩ := except_bind_eq_ok.mp checks
  have asked : ∃ rest, reaction.calls = [] ++ .askSuperframe engine.progress.direction :: rest ∧
      .askSuperframe direction ∉ rest := by
    split at checks <;>
      (cases checks
       exact ⟨_,rfl,by simp⟩)
  obtain ⟨rest,asked,once⟩ := asked
  rw [asked] at calls
  exact ((List.append_cons_inj_of_notMem List.not_mem_nil once).mp calls).1.symm

/-- Before an engine asks for a superframe it asks for advice or for nothing. -/
theorem fire_asks [WordSource ρ] (fired : engine.fire timer around = .ok reaction)
    (calls : reaction.calls = earlier ++ .askSuperframe direction :: later) :
    earlier = if engine.asksAdvice timer then
      [.askAdvice engine.progress.exponent engine.progress.backoffs around.advice] else [] := by
  have asks : .askSuperframe direction ∈ reaction.calls := by simp [calls]
  obtain ⟨kind,number⟩ := timer
  rcases taken : engine.timers.take ⟨kind,number⟩ with ⟨armed,timers⟩
  simp only [fire,taken] at fired
  cases armed with
  | false =>
    cases fired
    simp at asks
  | true =>
    cases kind with
    | backoffStart =>
      have chooses : engine.asksAdvice ⟨.backoffStart,number⟩ = decide engine.choosesBackoff := by
        simp [asksAdvice]
      have begins : { engine with timers }.beginBackoff around = .ok reaction := fired
      have asked := beginBackoff_asks begins calls
      rw [chooses]
      simp only [decide_eq_true_eq]
      exact asked
    | canProceed =>
      have checks : { engine with timers }.checkTransaction around = .ok reaction := fired
      exact checkTransaction_asks checks calls
    | ccaRequest =>
      cases fired
      simp [requestCca] at asks
    | capEnd =>
      cases fired
      unfold conclude at asks
      split at asks <;> simp at asks

end Engine

namespace Session

variable [WordSource ρ] {host : Host σ} {session : Session ρ σ} {timer : Timer} {reaction : Reaction ρ}

/-- An engine that asks for a superframe has been given the layer as the calls before the question
leave it, and the advice that it reports is the layer's answer. -/
theorem surroundings_asked
    (fired : session.engine.fire timer
      (session.surroundings host (session.engine.asksAdvice timer)) = .ok reaction)
    (calls : reaction.calls = earlier ++ .askSuperframe direction :: later) :
    ∃ asked, ({ session with engine := reaction.engine }.addNotes reaction.notes).hearAll host earlier =
        .ok asked ∧
      (session.surroundings host (session.engine.asksAdvice timer)).layer = host.layer asked.host ∧
      ∀ exponent backoffs answer, .askAdvice exponent backoffs answer ∈ earlier →
        answer = (host.advise exponent backoffs session.host).1 := by
  rw [Engine.fire_asks fired calls]
  cases asks : session.engine.asksAdvice timer with
  | true =>
    refine ⟨_,rfl,rfl,?_⟩
    intro exponent backoffs answer member
    cases List.mem_singleton.mp member
    rfl
  | false => exact ⟨_,rfl,rfl,by simp⟩

end Session

/-- The clock of a host, and how often its layer has been asked for advice. Asked once, the layer lets
a CAP of one slot last for the whole superframe. -/
def Host.yielding : Host (Instant × Nat) where
  readClock state := (state.1,state)
  radio _ := { symbolsPerSecond := 62500 }
  layer state :=
    { (Surroundings.plain 62500).layer with outgoing := ⟨.zero,0,if state.2 = 0 then 0 else 15⟩ }
  advise _ _ state := (some 7,state.1,state.2 + 1)
  hearCost _ state := state
  hearVerdict _ state := state
  sleep us state := (state.1.plus ⟨us⟩).map fun clock => (true,clock,state.2)
  assess state := (state.1.plus ⟨128⟩).map fun clock => (some .idle,clock,state.2)

/-- Seven periods of backoff end after the CAP that the layer had before it was asked. -/
example : ∃ engine, Engine.new { mode := .slotted } (WordScript.mk []) = .ok engine ∧
    (engine.access Host.yielding (.zero,0)).map Prod.snd = .ok (some (.verdict .channelIdle)) :=
  ⟨_,rfl,rfl⟩

end ChannelAccess
