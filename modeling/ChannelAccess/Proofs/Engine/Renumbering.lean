import ChannelAccess.Proofs.Engine.Runs

/-!
The numbers of timers mean nothing: when all of them are moved on by the same distance, every
operation does what it did before, with its timers moved on alike. Numbers wrap, and so do moved
ones. Main statement: `perform_renumber`.
-/

namespace ChannelAccess

variable {ρ : Type}

def Timer.renumber (distance : UInt32) (timer : Timer) : Timer :=
  { timer with number := timer.number + distance }

namespace TimerTable

def renumber (distance : UInt32) (table : TimerTable) : TimerTable where
  nextNumber := table.nextNumber + distance
  backoffStart := table.backoffStart.map (· + distance)
  canProceed := table.canProceed.map (· + distance)
  ccaRequest := table.ccaRequest.map (· + distance)
  capEnd := table.capEnd.map (· + distance)

variable (distance : UInt32) (table : TimerTable)

theorem nextNumber_renumber :
    (table.renumber distance).nextNumber = table.nextNumber + distance := rfl

theorem armed_renumber (kind : TimerKind) :
    (table.renumber distance).armed kind = (table.armed kind).map (· + distance) := by
  cases kind <;> rfl

theorem put_renumber (kind : TimerKind) (number : Option UInt32) :
    (table.renumber distance).put kind (number.map (· + distance)) =
      (table.put kind number).renumber distance := by
  cases kind <;> rfl

theorem disarmAll_renumber :
    (table.renumber distance).disarmAll = table.disarmAll.renumber distance := rfl

theorem arm_renumber (kind : TimerKind) :
    (table.renumber distance).arm kind =
      ((table.arm kind).1.renumber distance,(table.arm kind).2.renumber distance) := by
  have next : table.nextNumber + distance + 1 = table.nextNumber + 1 + distance := by
    rw [UInt32.add_assoc,UInt32.add_comm distance,← UInt32.add_assoc]
  cases kind <;> simp [arm,renumber,put,Timer.renumber,next]

theorem take_renumber (timer : Timer) :
    (table.renumber distance).take (timer.renumber distance) =
      ((table.take timer).1,(table.take timer).2.renumber distance) := by
  have same : (table.renumber distance).armed timer.kind = some (timer.number + distance) ↔
      table.armed timer.kind = some timer.number := by
    rw [armed_renumber,Option.map_eq_some_iff]
    constructor
    · rintro ⟨number,armed,moved⟩
      rw [armed,(UInt32.add_left_inj distance).mp moved]
    · intro armed
      exact ⟨timer.number,armed,rfl⟩
  by_cases armed : table.armed timer.kind = some timer.number
  · have armed' : (table.renumber distance).armed (timer.renumber distance).kind =
        some (timer.renumber distance).number := same.mpr armed
    rw [take_armed armed,take_armed armed']
    exact congrArg (Prod.mk true) (table.put_renumber distance timer.kind none)
  · have stale : (table.renumber distance).armed (timer.renumber distance).kind ≠
        some (timer.renumber distance).number := (not_congr same).mpr armed
    rw [take_stale armed,take_stale stale]

end TimerTable

def Call.renumber (distance : UInt32) : Call → Call
  | .schedule timer delay => .schedule (timer.renumber distance) delay
  | .requestCca => .requestCca
  | .verdict given => .verdict given
  | .cost symbols => .cost symbols
  | .askAdvice exponent backoffs answer => .askAdvice exponent backoffs answer
  | .askSuperframe direction => .askSuperframe direction

def Engine.renumber (distance : UInt32) (engine : Engine ρ) : Engine ρ :=
  { engine with timers := engine.timers.renumber distance }

def Reaction.renumber (distance : UInt32) (reaction : Reaction ρ) : Reaction ρ :=
  { reaction with
    engine := reaction.engine.renumber distance
    calls := reaction.calls.map (Call.renumber distance) }

theorem Reaction.ite_renumber {distance : UInt32} {p : Prop} [Decidable p]
    {yes no yes' no' : Reaction ρ} (whenever : yes' = yes.renumber distance)
    (otherwise : no' = no.renumber distance) :
    (if p then yes' else no') = (if p then yes else no).renumber distance := by
  rw [whenever,otherwise]
  exact (apply_ite (Reaction.renumber distance) p yes no).symm

theorem Reaction.noted_renumber {distance : UInt32} {ending ending' : Reaction ρ} {note : Note}
    (same : ending' = ending.renumber distance) :
    { ending' with notes := note :: ending'.notes } =
      { ending with notes := note :: ending.notes }.renumber distance := by
  rw [same]
  rfl

def Operation.renumber (distance : UInt32) : Operation → Operation
  | .fire timer around => .fire (timer.renumber distance) around
  | .start around => .start around
  | .confirm status => .confirm status
  | .cancel => .cancel
  | .setPolicy policy => .setPolicy policy
  | .setMode mode => .setMode mode

namespace Engine

variable (distance : UInt32) (engine : Engine ρ)

theorem waitFor_renumber (calls : List Call) (kind : TimerKind) (delay : Span) (notes : List Note) :
    (engine.renumber distance).waitFor (calls.map (Call.renumber distance)) kind delay notes =
      (engine.waitFor calls kind delay notes).renumber distance := by
  simp [waitFor,renumber,Reaction.renumber,TimerTable.arm_renumber,TimerTable.nextNumber_renumber,
    Call.renumber,Timer.renumber]

theorem waitFor_asking_renumber {direction : Direction} (asked : List Call) (kind : TimerKind)
    (delay : Span) (notes : List Note) :
    (engine.renumber distance).waitFor
        (asked.map (Call.renumber distance) ++ [.askSuperframe direction]) kind delay notes =
      (engine.waitFor (asked ++ [.askSuperframe direction]) kind delay notes).renumber distance := by
  rw [← waitFor_renumber,List.map_append]
  rfl

theorem looks_renumber :
    (engine.renumber distance).looks = engine.looks.map (Call.renumber distance) := by
  change engine.looks = _
  unfold looks
  split <;> rfl

theorem waitFor_looks_renumber (kind : TimerKind) (delay : Span) (notes : List Note) :
    (engine.renumber distance).waitFor (engine.renumber distance).looks kind delay notes =
      (engine.waitFor engine.looks kind delay notes).renumber distance := by
  rw [looks_renumber,waitFor_renumber]

theorem conclude_renumber (verdict : Verdict) :
    (engine.renumber distance).conclude verdict = (engine.conclude verdict).renumber distance := by
  cases running : engine.running <;>
    simp [conclude,renumber,Reaction.renumber,TimerTable.disarmAll_renumber,Call.renumber,running]

theorem start_renumber (around : Surroundings) :
    (engine.renumber distance).start around =
      (engine.start around).map (Reaction.renumber distance) := by
  rcases SymbolRate.of_cases around.radio.symbolsPerSecond with refused | ⟨rate,rated⟩
  · rw [start_refused refused,start_refused refused]
    rfl
  · rw [start_eq rated,start_eq rated]
    change (engine.firstWait around rate).map _ = _
    cases engine.firstWait around rate with
    | error failure => rfl
    | ok wait =>
      refine congrArg Except.ok ?_
      exact waitFor_looks_renumber distance (engine.begun _) .backoffStart wait _

section

variable [WordSource ρ]

/-- Drawing a backoff makes no timer. -/
theorem takeBackoff_renumber {taken : Engine ρ} {advice : Option UInt32} {asked : List Call}
    (drawn : engine.takeBackoff advice = (taken,asked)) :
    (engine.renumber distance).takeBackoff advice =
      (taken.renumber distance,asked.map (Call.renumber distance)) := by
  unfold takeBackoff at drawn ⊢
  by_cases fresh : engine.choosesBackoff
  · rw [if_pos fresh] at drawn
    have fresh' : (engine.renumber distance).choosesBackoff := fresh
    rw [if_pos fresh']
    cases advice <;> cases drawn <;> rfl
  · rw [if_neg fresh] at drawn
    have resumes : ¬ (engine.renumber distance).choosesBackoff := fresh
    rw [if_neg resumes]
    cases drawn
    rfl

theorem beginBackoff_renumber (around : Surroundings) :
    (engine.renumber distance).beginBackoff around =
      (engine.beginBackoff around).map (Reaction.renumber distance) := by
  rcases SymbolRate.of_cases around.radio.symbolsPerSecond with refused | ⟨rate,rated⟩
  · rw [beginBackoff_refused refused,beginBackoff_refused refused]
    rfl
  · rcases drawn : engine.takeBackoff around.advice with ⟨source,asked⟩
    have drawn' := takeBackoff_renumber distance engine drawn
    cases mode : engine.policy.mode with
    | unslotted =>
      have plain : (engine.renumber distance).policy.mode = .unslotted := mode
      rw [beginBackoff_unslotted rated mode drawn,beginBackoff_unslotted rated plain drawn']
      exact congrArg Except.ok (waitFor_renumber distance source asked .ccaRequest _ _)
    | slotted =>
      have aligned : (engine.renumber distance).policy.mode = .slotted := mode
      rw [beginBackoff_slotted rated mode drawn,beginBackoff_slotted rated aligned drawn']
      change ((around.layer.superframe engine.progress.direction).timeLeftInCap around.now rate).map
        _ = _
      cases (around.layer.superframe engine.progress.direction).timeLeftInCap around.now rate with
      | error failure => rfl
      | ok left =>
        refine congrArg Except.ok ?_
        apply Reaction.ite_renumber
        · exact waitFor_asking_renumber distance (source.withPeriods _) asked .capEnd _ _
        · exact waitFor_asking_renumber distance source asked .canProceed _ _

end

theorem checkTransaction_renumber (around : Surroundings) :
    (engine.renumber distance).checkTransaction around =
      (engine.checkTransaction around).map (Reaction.renumber distance) := by
  rcases SymbolRate.of_cases around.radio.symbolsPerSecond with refused | ⟨rate,rated⟩
  · rw [checkTransaction_refused refused,checkTransaction_refused refused]
    rfl
  · rw [checkTransaction_eq rated,checkTransaction_eq rated]
    change (((around.layer.superframe engine.progress.direction).timeLeftInCap around.now rate) >>= _) =
      _
    cases (around.layer.superframe engine.progress.direction).timeLeftInCap around.now rate with
    | error failure => rfl
    | ok left =>
      change (Cost.estimate engine.progress.window around.layer.frame around.layer.ackWait
        around.radio.turnaround >>= _) = Except.map _ (Cost.estimate engine.progress.window _ _ _ >>= _)
      cases Cost.estimate engine.progress.window around.layer.frame around.layer.ackWait
        around.radio.turnaround with
      | error failure => rfl
      | ok cost =>
        refine congrArg Except.ok ?_
        apply Reaction.ite_renumber
        · exact waitFor_renumber distance (engine.withPeriods 0)
            [.askSuperframe engine.progress.direction,.cost cost.total] .capEnd _ _
        · exact waitFor_renumber distance (engine.withPeriods 0)
            [.askSuperframe engine.progress.direction,.cost cost.total] .ccaRequest _ _

theorem confirmIdle_renumber :
    (engine.renumber distance).confirmIdle = engine.confirmIdle.renumber distance := by
  cases slotted : engine.policy.isSlotted with
  | true =>
    have slotted' : (engine.renumber distance).policy.isSlotted = true := slotted
    simp only [confirmIdle,slotted,slotted',if_true]
    apply Reaction.ite_renumber
    · exact waitFor_renumber distance { engine with progress := { engine.progress with
        window := engine.progress.window - 1 } } [] .ccaRequest .zero _
    · apply Reaction.noted_renumber
      exact conclude_renumber distance { engine with progress := { engine.progress with
        window := engine.progress.window - 1 } } .channelIdle
  | false =>
    have plain : (engine.renumber distance).policy.isSlotted = false := slotted
    simp only [confirmIdle,slotted,plain,Bool.false_eq_true,if_false,Nat.lt_irrefl]
    apply Reaction.noted_renumber
    exact conclude_renumber distance engine .channelIdle

theorem confirmBusy_renumber :
    (engine.renumber distance).confirmBusy = engine.confirmBusy.renumber distance := by
  unfold confirmBusy
  apply Reaction.ite_renumber
  · apply Reaction.noted_renumber
    exact conclude_renumber distance { engine with progress := engine.afterBusy.progress } .accessFailure
  · exact waitFor_renumber distance { engine with progress := engine.afterBusy.progress } []
      .backoffStart .zero _

theorem confirm_renumber (status : ChannelStatus) :
    (engine.renumber distance).confirm status = (engine.confirm status).renumber distance := by
  unfold confirm
  apply Reaction.ite_renumber
  · apply Reaction.ite_renumber
    · exact confirmIdle_renumber distance { engine with ccaOutstanding := false }
    · exact confirmBusy_renumber distance { engine with ccaOutstanding := false }
  · rfl

theorem change_renumber {made made' : Except AccessError (Engine ρ)}
    (same : made' = made.map (renumber distance)) :
    (engine.renumber distance).change made' = (engine.change made).renumber distance := by
  rw [same]
  cases made <;> rfl

theorem setPolicy_renumber (policy : Policy) :
    (engine.renumber distance).setPolicy policy =
      (engine.setPolicy policy).map (renumber distance) := by
  cases running : engine.running with
  | true => simp [setPolicy,renumber,running,Except.map]
  | false =>
    cases valid : policy.validate <;>
      simp [setPolicy,renumber,running,valid,Except.map,bind,Except.bind,pure,Except.pure]

variable [WordSource ρ]

theorem fire_renumber (timer : Timer) (around : Surroundings) :
    (engine.renumber distance).fire (timer.renumber distance) around =
      (engine.fire timer around).map (Reaction.renumber distance) := by
  have takes : (engine.renumber distance).timers.take (timer.renumber distance) =
      ((engine.timers.take timer).1,(engine.timers.take timer).2.renumber distance) :=
    engine.timers.take_renumber distance timer
  rcases taken : engine.timers.take timer with ⟨armed,timers⟩
  rw [taken] at takes
  unfold fire
  rw [takes,taken]
  cases armed with
  | false => rfl
  | true =>
    obtain ⟨kind,number⟩ := timer
    cases kind with
    | backoffStart => exact beginBackoff_renumber distance { engine with timers } around
    | canProceed => exact checkTransaction_renumber distance { engine with timers } around
    | ccaRequest => rfl
    | capEnd =>
      refine congrArg Except.ok ?_
      apply Reaction.noted_renumber
      exact conclude_renumber distance { engine with timers } .deferred

/-- Every operation does the same with other numbers. -/
theorem perform_renumber (operation : Operation) :
    (engine.renumber distance).perform (operation.renumber distance) =
      (engine.perform operation).map (Reaction.renumber distance) := by
  cases operation with
  | start around => exact engine.start_renumber distance around
  | fire timer around => exact engine.fire_renumber distance timer around
  | confirm status => exact congrArg Except.ok (engine.confirm_renumber distance status)
  | cancel => rfl
  | setPolicy policy =>
    exact congrArg Except.ok (engine.change_renumber distance (engine.setPolicy_renumber distance policy))
  | setMode mode =>
    exact congrArg Except.ok
      (engine.change_renumber distance (engine.setPolicy_renumber distance { engine.policy with mode }))

end Engine

end ChannelAccess
