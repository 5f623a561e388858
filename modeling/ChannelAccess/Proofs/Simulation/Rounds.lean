import ChannelAccess.Proofs.Simulation.Events

/-!
The rounds of an attempt, in step with the rounds of the sequential algorithm.
-/

namespace ChannelAccess

variable {ρ : Type} [WordSource ρ]

namespace Setting

def goOn (setting : Setting) (exponent backoffs : Nat) : RoundEnd ρ → Except Overflow (Conclusion ρ)
  | .clear ledger => .ok (ledger.conclude .channelIdle 0)
  | .cutShort periodsLeft ledger => .ok (ledger.conclude .deferred periodsLeft)
  | .busy ledger =>
    if setting.policy.maxBackoffs.toNat < backoffs + 1 then .ok (ledger.conclude .accessFailure 0)
    else
      setting.rounds (min (exponent + 1) setting.policy.maxExponent.toNat) (backoffs + 1) 0 ledger

theorem rounds_eq (setting : Setting) (exponent backoffs resumed : Nat) (ledger : Ledger ρ) :
    setting.rounds exponent backoffs resumed ledger =
      setting.round exponent backoffs resumed ledger >>= setting.goOn exponent backoffs := by
  rw [rounds]
  apply bind_congr
  intro ending
  cases ending with
  | clear ledger => rfl
  | busy ledger =>
    by_cases spent : setting.policy.maxBackoffs.toNat < backoffs + 1
    · rw [goOn,if_pos spent]
      exact dif_pos spent
    · rw [goOn,if_neg spent]
      exact dif_neg spent
  | cutShort periodsLeft ledger => rfl

theorem unslottedRound_bind {α : Type} (setting : Setting) (exponent backoffs : Nat)
    (ledger : Ledger ρ) (next : RoundEnd ρ → Except Overflow α) :
    setting.unslottedRound exponent backoffs ledger >>= next = (do
      let ledger ← (setting.choose exponent ledger).2.wait
        (setting.backoffSpan (setting.choose exponent ledger).1)
      let ledger ← setting.request exponent backoffs 0 ledger
      next ledger.roundEnd) := by
  simp only [unslottedRound,bind_assoc,pure_bind]

theorem slottedRound_bind {α : Type} (setting : Setting) (exponent backoffs resumed : Nat)
    (ledger : Ledger ρ) (next : RoundEnd ρ → Except Overflow α) :
    setting.slottedRound exponent backoffs resumed ledger >>= next = (do
      match ← setting.slottedBackoff exponent resumed ledger with
      | (some periodsLeft,ledger) => next (.cutShort periodsLeft ledger)
      | (none,ledger) =>
        match ← setting.slottedCheck ledger with
        | (false,ledger) => next (.cutShort 0 ledger)
        | (true,ledger) =>
          let ledger ← setting.request exponent backoffs 2 ledger
          if ledger.listen.1.isIdle then
            let ledger ← setting.request exponent backoffs 1 ledger.listen.2
            next ledger.roundEnd
          else next (.busy ledger.listen.2)) := by
  simp only [slottedRound,bind_assoc]
  apply bind_congr
  rintro ⟨left,ledger⟩
  cases left with
  | some periodsLeft => rfl
  | none =>
    simp only [bind_assoc]
    apply bind_congr
    rintro ⟨fits,ledger⟩
    cases fits with
    | false => rfl
    | true =>
      simp only [bind_assoc]
      apply bind_congr
      intro ledger
      cases idle : ledger.listen.1.isIdle with
      | true =>
        simp only [if_true,bind_assoc,pure_bind]
      | false => rfl

structure Begins (setting : Setting) (progress : Progress) (resumed : Nat) : Prop where
  low : progress.exponent ≤ 8
  window : progress.window = if setting.policy.isSlotted then 2 else 0
  direction : progress.direction = .ofDestination setting.layer.frame.toCoordinator
  resumes : setting.policy.isSlotted = true → progress.periodsLeft = resumed
  word : resumed < 4294967296
  exactly : InClockRange (setting.rate.microseconds (resumed * setting.policy.backoffPeriod.toNat))

theorem zero_exactly (setting : Setting) :
    InClockRange (setting.rate.microseconds (0 * setting.policy.backoffPeriod.toNat)) := by
  rw [Nat.zero_mul]
  exact SymbolRate.microseconds_inRange (Nat.zero_le _)

structure Assesses (setting : Setting) (progress : Progress) : Prop where
  window : setting.policy.isSlotted = false → progress.window = 0
  direction : progress.direction = .ofDestination setting.layer.frame.toCoordinator
  spent : setting.policy.isSlotted = true → progress.periodsLeft = 0

theorem Assesses.begins {setting : Setting} {progress : Progress} (assesses : setting.Assesses progress)
    (slow : setting.policy.maxExponent.toNat ≤ 8) :
    setting.Begins { progress with
      exponent := min (progress.exponent + 1) setting.policy.maxExponent.toNat
      backoffs := progress.backoffs + 1
      window := if setting.policy.isSlotted then 2 else progress.window } 0 where
  low := Nat.le_trans (Nat.min_le_right _ _) slow
  window := by
    cases slotted : setting.policy.isSlotted with
    | true => rfl
    | false => exact assesses.window slotted
  direction := assesses.direction
  resumes := assesses.spent
  word := by decide
  exactly := setting.zero_exactly

end Setting

namespace Simulation

variable {simulation : Simulation ρ} {setting : Setting} {seen bound : Nat} {progress : Progress}
  {ledger : Ledger ρ}

/-- Within `bound` events the rounds after so many backoffs are simulated. -/
def Simulates (ρ : Type) [WordSource ρ] (setting : Setting) (seen bound backoffs : Nat) : Prop :=
  ∀ {later : Simulation ρ} {progress : Progress} {resumed : Nat} {ledger : Ledger ρ},
    later.ExpectsTimer setting seen progress .backoffStart ledger → setting.Begins progress resumed →
    progress.backoffs = backoffs →
    Coupled Concludes (runUntil (verdictAfter seen) bound later)
      (setting.rounds progress.exponent progress.backoffs resumed ledger)

theorem capEnd_coupled (expected : simulation.ExpectsTimer setting seen progress .capEnd ledger)
    (exponent backoffs bound : Nat) :
    Coupled Concludes (runUntil (verdictAfter seen) (bound + 1) simulation)
      (setting.goOn exponent backoffs (.cutShort progress.periodsLeft ledger)) := by
  obtain ⟨number,armed,expects⟩ := expected
  change Coupled _ _ (Except.ok (ledger.conclude .deferred progress.periodsLeft) >>= Except.ok)
  refine runUntil_coupled expects (handles_capEnd expects.arrives armed) ?_
  intro later conclusion delivered
  exact runUntil_delivered delivered bound

theorem busy_coupled (expected : simulation.ExpectsStatus setting seen progress ledger)
    (busy : ledger.listen.1.isIdle = false) (slow : setting.policy.maxExponent.toNat ≤ 8)
    (assesses : setting.Assesses progress)
    (again : progress.backoffs + 1 ≤ setting.policy.maxBackoffs.toNat →
      Simulates ρ setting seen bound (progress.backoffs + 1)) :
    Coupled Concludes (runUntil (verdictAfter seen) (bound + 1) simulation)
      (setting.goOn progress.exponent progress.backoffs (.busy ledger.listen.2)) := by
  obtain ⟨outstanding,expects⟩ := expected
  by_cases exceeded : setting.policy.maxBackoffs.toNat < progress.backoffs + 1
  · rw [Setting.goOn,if_pos exceeded]
    change Coupled _ _ (Except.ok (ledger.listen.2.conclude .accessFailure 0) >>= Except.ok)
    refine runUntil_coupled expects (handles_spent expects.arrives outstanding busy exceeded) ?_
    intro later conclusion delivered
    exact runUntil_delivered delivered bound
  · rw [Setting.goOn,if_neg exceeded]
    change Coupled _ _ (Except.ok ledger.listen.2 >>= fun ledger => setting.rounds
      (min (progress.exponent + 1) setting.policy.maxExponent.toNat) (progress.backoffs + 1) 0 ledger)
    refine runUntil_coupled expects (handles_backsOff expects.arrives rfl outstanding busy exceeded) ?_
    intro later heard expected
    exact again (Nat.le_of_not_lt exceeded) expected (assesses.begins slow) rfl

theorem roundEnd_coupled (expected : simulation.ExpectsStatus setting seen progress ledger)
    (last : ¬ (setting.policy.isSlotted = true ∧ 0 < progress.window - 1))
    (slow : setting.policy.maxExponent.toNat ≤ 8) (assesses : setting.Assesses progress)
    (again : progress.backoffs + 1 ≤ setting.policy.maxBackoffs.toNat →
      Simulates ρ setting seen bound (progress.backoffs + 1)) :
    Coupled Concludes (runUntil (verdictAfter seen) (bound + 1) simulation)
      (setting.goOn progress.exponent progress.backoffs ledger.roundEnd) := by
  cases idle : ledger.listen.1.isIdle with
  | false =>
    have ending : ledger.roundEnd = .busy ledger.listen.2 := if_neg (ne_true_of_eq_false idle)
    rw [ending]
    exact busy_coupled expected idle slow assesses again
  | true =>
    have ending : ledger.roundEnd = .clear ledger.listen.2 := if_pos idle
    obtain ⟨outstanding,expects⟩ := expected
    rw [ending,Setting.goOn]
    change Coupled _ _ (Except.ok (ledger.listen.2.conclude .channelIdle 0) >>= Except.ok)
    refine runUntil_coupled expects (handles_granted expects.arrives outstanding idle last) ?_
    intro later conclusion delivered
    exact runUntil_delivered delivered bound

theorem unslottedRound_coupled {resumed : Nat}
    (expected : simulation.ExpectsTimer setting seen progress .backoffStart ledger)
    (unslotted : setting.policy.mode = .unslotted) (slow : setting.policy.maxExponent.toNat ≤ 8)
    (begins : setting.Begins progress resumed)
    (again : progress.backoffs + 1 ≤ setting.policy.maxBackoffs.toNat →
      Simulates ρ setting seen bound (progress.backoffs + 1)) :
    Coupled Concludes (runUntil (verdictAfter seen) (bound + 3) simulation)
      (setting.unslottedRound progress.exponent progress.backoffs ledger >>=
        setting.goOn progress.exponent progress.backoffs) := by
  have plain := Policy.isSlotted_eq_false.mpr unslotted
  have window : progress.window = 0 := by
    rw [begins.window,plain]
    rfl
  have assesses : ∀ periodsLeft, setting.Assesses { progress with window := 0, periodsLeft } := by
    intro periodsLeft
    exact ⟨fun _ => rfl,begins.direction,by simp [plain]⟩
  obtain ⟨number,armed,expects⟩ := expected
  rw [Setting.unslottedRound_bind]
  refine runUntil_coupled expects
    (handles_backoff_unslotted expects.arrives rfl armed unslotted begins.low begins.direction) ?_
  rintro chosen waited ⟨number,armed,expects⟩
  have requests := handles_ccaRequest expects.arrives rfl armed
  rw [window] at requests
  refine runUntil_coupled expects requests ?_
  intro asked requested expected
  have rest := roundEnd_coupled expected (by simp [plain]) slow (assesses _) again
  exact rest

theorem slottedRound_coupled {resumed : Nat}
    (expected : simulation.ExpectsTimer setting seen progress .backoffStart ledger)
    (slotted : setting.policy.mode = .slotted) (slow : setting.policy.maxExponent.toNat ≤ 8)
    (begins : setting.Begins progress resumed)
    (again : ∀ bound', bound ≤ bound' → progress.backoffs + 1 ≤ setting.policy.maxBackoffs.toNat →
      Simulates ρ setting seen bound' (progress.backoffs + 1)) :
    Coupled Concludes (runUntil (verdictAfter seen) (bound + 6) simulation)
      (setting.slottedRound progress.exponent progress.backoffs resumed ledger >>=
        setting.goOn progress.exponent progress.backoffs) := by
  have aligned := Policy.isSlotted_eq_true.mpr slotted
  have window : progress.window = 2 := by
    rw [begins.window,aligned]
    rfl
  have word := begins.word
  have exactly := begins.exactly
  rw [← begins.resumes aligned] at word exactly ⊢
  have assesses : ∀ window, setting.Assesses { progress with window, periodsLeft := 0 } := by
    intro window
    exact ⟨by simp [aligned],begins.direction,fun _ => rfl⟩
  obtain ⟨number,armed,expects⟩ := expected
  rw [Setting.slottedRound_bind]
  refine runUntil_coupled expects (handles_backoff_slotted expects.arrives rfl armed slotted begins.low
    word exactly begins.direction) ?_
  rintro begun ⟨left,waited⟩ ⟨periodsLeft,expected,same⟩
  cases left with
  | some rest =>
    obtain rfl := same rest rfl
    have ends := capEnd_coupled expected progress.exponent progress.backoffs (bound + 4)
    exact ends
  | none =>
    obtain ⟨number,armed,expects⟩ := expected
    refine runUntil_coupled expects
      (handles_canProceed expects.arrives rfl armed window begins.direction) ?_
    rintro checked ⟨fits,spent⟩ expected
    cases fits with
    | false =>
      have ends := capEnd_coupled expected progress.exponent progress.backoffs (bound + 3)
      exact ends
    | true =>
      obtain ⟨number,armed,expects⟩ := expected
      have requests := handles_ccaRequest expects.arrives rfl armed
      rw [window] at requests
      refine runUntil_coupled expects requests ?_
      intro asked requested expected
      cases idle : requested.listen.1.isIdle with
      | false =>
        have rest := busy_coupled expected idle slow (assesses 2) (again (bound + 2) (by omega))
        rw [if_neg Bool.false_ne_true]
        exact rest
      | true =>
        rw [if_pos rfl]
        obtain ⟨outstanding,expects⟩ := expected
        change Coupled _ _ (Except.ok requested.listen.2 >>= fun heard =>
          setting.request progress.exponent progress.backoffs 1 heard >>= fun ledger =>
            setting.goOn progress.exponent progress.backoffs ledger.roundEnd)
        refine runUntil_coupled expects
          (handles_stillIdle expects.arrives rfl outstanding idle aligned rfl) ?_
        rintro still heard ⟨number,armed,expects⟩
        refine runUntil_coupled expects (handles_ccaRequest expects.arrives rfl armed) ?_
        intro asked requested expected
        have rest := roundEnd_coupled expected (by simp) slow (assesses 1) (again bound (Nat.le_refl _))
        exact rest

/-- A round takes at most six events. -/
theorem round_coupled {resumed : Nat}
    (expected : simulation.ExpectsTimer setting seen progress .backoffStart ledger)
    (slow : setting.policy.maxExponent.toNat ≤ 8) (begins : setting.Begins progress resumed)
    (again : ∀ bound', bound ≤ bound' → progress.backoffs + 1 ≤ setting.policy.maxBackoffs.toNat →
      Simulates ρ setting seen bound' (progress.backoffs + 1)) :
    Coupled Concludes (runUntil (verdictAfter seen) (bound + 6) simulation)
      (setting.rounds progress.exponent progress.backoffs resumed ledger) := by
  rw [Setting.rounds_eq,Setting.round]
  cases mode : setting.policy.mode with
  | unslotted =>
    rw [if_neg (ne_true_of_eq_false (Policy.isSlotted_eq_false.mpr mode))]
    exact unslottedRound_coupled expected mode slow begins (again (bound + 3) (by omega))
  | slotted =>
    rw [if_pos (Policy.isSlotted_eq_true.mpr mode)]
    exact slottedRound_coupled expected mode slow begins again

/-- Six events for each round that is left are enough. -/
theorem simulates (setting : Setting) (slow : setting.policy.maxExponent.toNat ≤ 8) (left : Nat) :
    ∀ {bound backoffs : Nat}, backoffs + left = setting.policy.maxBackoffs.toNat →
      6 * (left + 1) ≤ bound → Simulates ρ setting seen bound backoffs := by
  -- On the backoffs that the policy still allows: a round goes on to the next only if one is left.
  induction left with
  | zero =>
    intro bound backoffs last enough later progress resumed ledger expected begins same
    obtain ⟨rest,rfl⟩ := Nat.exists_eq_add_of_le' enough
    apply round_coupled expected slow begins
    intro bound' _ more
    omega
  | succ left ih =>
    intro bound backoffs last enough later progress resumed ledger expected begins same
    obtain ⟨rest,rfl⟩ : ∃ rest, bound = rest + 6 := ⟨bound - 6,by omega⟩
    apply round_coupled expected slow begins
    intro bound' larger _
    exact ih (by omega) (by omega)

end Simulation

end ChannelAccess
