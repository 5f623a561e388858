import ChannelAccess.Proofs.Engine.Reactions

/-!
The stages of an attempt. An attempt waits for one delivery at a time; `Follows` is the fixed order
of the deliveries and `Engine.At` what an engine holds at each stage. Main statements:
`fire_advances` and `confirm_advances`, which follow an engine through one accepted delivery.
-/

namespace ChannelAccess

/-- A delivery that an engine acts on. -/
inductive Action where
  | expired (kind : TimerKind)
  | assessed (status : ChannelStatus)
  deriving DecidableEq, Repr

/-- What an attempt waits for. Idle assessments are counted since the last busy one. -/
inductive Stage where
  | backoffStart
  | canProceed
  | ccaRequest (idles : Nat)
  | assessment (idles : Nat)
  | capEnd
  /-- A verdict was given. -/
  | concluded
  /-- A timer was refused, and only a new attempt or a cancellation helps. -/
  | stuck
  deriving DecidableEq, Repr

/-- Idle assessments in a row that grant the channel. -/
def Mode.needed : Mode → Nat
  | .unslotted => 1
  | .slotted => 2

namespace Stage

/-- The kind of timer that moves an attempt on. -/
def awaited : Stage → Option TimerKind
  | backoffStart => some .backoffStart
  | canProceed => some .canProceed
  | ccaRequest _ => some .ccaRequest
  | capEnd => some .capEnd
  | assessment _ | concluded | stuck => none

def assessing : Stage → Bool
  | assessment _ => true
  | backoffStart | canProceed | ccaRequest _ | capEnd | concluded | stuck => false

def idles : Stage → Nat
  | ccaRequest idles | assessment idles => idles
  | backoffStart | canProceed | capEnd | concluded | stuck => 0

/-- The stages that attempts of a mode can reach. -/
def Allowed (mode : Mode) : Stage → Prop
  | canProceed | capEnd => mode = .slotted
  | ccaRequest idles | assessment idles => idles < mode.needed
  | backoffStart | concluded | stuck => True

end Stage

/-- The order in which an attempt goes from stage to stage. -/
inductive Follows (mode : Mode) : Stage → Action → Stage → Prop
  | drawn (unslotted : mode = .unslotted) :
      Follows mode .backoffStart (.expired .backoffStart) (.ccaRequest 0)
  | fits (slotted : mode = .slotted) :
      Follows mode .backoffStart (.expired .backoffStart) .canProceed
  | cutShort (slotted : mode = .slotted) :
      Follows mode .backoffStart (.expired .backoffStart) .capEnd
  | backoffRefused : Follows mode .backoffStart (.expired .backoffStart) .stuck
  | proceeds : Follows mode .canProceed (.expired .canProceed) (.ccaRequest 0)
  | tooLong : Follows mode .canProceed (.expired .canProceed) .capEnd
  | checkRefused : Follows mode .canProceed (.expired .canProceed) .stuck
  | requested (idles : Nat) :
      Follows mode (.ccaRequest idles) (.expired .ccaRequest) (.assessment idles)
  | stillIdle {status : ChannelStatus} (idles : Nat) (idle : status.isIdle = true)
      (more : idles + 1 < mode.needed) :
      Follows mode (.assessment idles) (.assessed status) (.ccaRequest (idles + 1))
  | granted {status : ChannelStatus} (idles : Nat) (idle : status.isIdle = true)
      (enough : idles + 1 = mode.needed) :
      Follows mode (.assessment idles) (.assessed status) .concluded
  | backsOff {status : ChannelStatus} (idles : Nat) (busy : status.isIdle = false) :
      Follows mode (.assessment idles) (.assessed status) .backoffStart
  | fails {status : ChannelStatus} (idles : Nat) (busy : status.isIdle = false) :
      Follows mode (.assessment idles) (.assessed status) .concluded
  | capEnds : Follows mode .capEnd (.expired .capEnd) .concluded

theorem Follows.going {mode : Mode} {stage next : Stage} {action : Action}
    (follows : Follows mode stage action next) : stage ≠ .concluded := by
  cases follows <;> simp

/-- The actions that lead an attempt from its start to a stage, oldest first. -/
inductive Path (mode : Mode) : List Action → Stage → Prop
  | start : Path mode [] .backoffStart
  | step {actions : List Action} {stage next : Stage} {action : Action}
      (before : Path mode actions stage) (follows : Follows mode stage action next) :
      Path mode (actions ++ [action]) next

/-- The verdict that an action gives when it ends the attempt. -/
def Action.verdict : Action → Verdict
  | .expired _ => .deferred
  | .assessed status => if status.isIdle then .channelIdle else .accessFailure

def Action.busy : Action → Bool
  | .expired _ => false
  | .assessed status => ! status.isIdle

/-- Calls that tell or ask the layer something before the engine decides what to wait for. -/
def Call.isQuiet : Call → Bool
  | .askAdvice _ _ _ | .askSuperframe _ | .cost _ => true
  | .schedule _ _ | .requestCca | .verdict _ => false

namespace Engine

variable {ρ : Type}

/-- The engine waits for what the stage waits for, and for nothing else. -/
structure Awaits (engine : Engine ρ) (stage : Stage) : Prop where
  armed : ∀ kind, (engine.timers.armed kind).isSome = true ↔ stage.awaited = some kind
  outstanding : engine.ccaOutstanding = stage.assessing

structure At (engine : Engine ρ) (stage : Stage) : Prop extends Awaits engine stage where
  running : engine.running = true ↔ stage ≠ .concluded
  allowed : stage.Allowed engine.policy.mode
  window : stage ≠ .concluded →
    engine.progress.window = if engine.policy.isSlotted then 2 - stage.idles else 0

/-- What the last call of a reaction is when the engine goes over to a stage. -/
def Closing (engine : Engine ρ) (action : Action) (next : Stage) (closing : List Call) : Prop :=
  match next.awaited with
  | some kind => ∃ number delay, engine.timers.armed kind = some number ∧ 0 ≤ delay.us ∧
      closing = [.schedule ⟨kind,number⟩ delay]
  | none => closing =
      if next.assessing then [.requestCca]
      else if next = .concluded then [.verdict action.verdict]
      else []

/-- An accepted delivery takes the engine from one stage to another. -/
structure Advances (engine : Engine ρ) (stage : Stage) (action : Action) (reaction : Reaction ρ)
    (next : Stage) : Prop where
  follows : Follows engine.policy.mode stage action next
  arrives : reaction.engine.At next
  policy : reaction.engine.policy = engine.policy
  backoffs : reaction.engine.progress.backoffs =
    engine.progress.backoffs + if action.busy then 1 else 0
  gaveUp : action.busy = true →
    (next = .concluded ↔ engine.policy.maxBackoffs.toNat < engine.progress.backoffs + 1)
  calls : ∃ quiet closing, reaction.calls = quiet ++ closing ∧
    (∀ call ∈ quiet, call.isQuiet = true) ∧ Closing reaction.engine action next closing
  result : reaction.result = if next = .stuck then .error .zeroSymbolRate else .ok ()

theorem Advances.able {engine : Engine ρ} {stage next : Stage} {action : Action}
    {reaction : Reaction ρ} (advances : Advances engine stage action reaction next)
    (accepted : reaction.result = .ok ()) : next ≠ .stuck := by
  intro stuck
  have result := advances.result
  rw [accepted,if_pos stuck] at result
  cases result

/-- An attempt that goes on has not used up its backoffs. -/
theorem Advances.backoffs_le {engine : Engine ρ} {stage next : Stage} {action : Action}
    {reaction : Reaction ρ} (advances : Advances engine stage action reaction next)
    (bound : engine.progress.backoffs ≤ engine.policy.maxBackoffs.toNat) (more : next ≠ .concluded) :
    reaction.engine.progress.backoffs ≤ engine.policy.maxBackoffs.toNat := by
  rw [advances.backoffs]
  cases busy : action.busy with
  | true => exact Nat.le_of_not_lt ((not_congr (advances.gaveUp busy)).mp more)
  | false => exact bound

theorem At.unarmed {engine : Engine ρ} {stage : Stage} (inside : engine.At stage) {kind : TimerKind}
    (other : stage.awaited ≠ some kind) : engine.timers.armed kind = none := by
  have unarmed := (not_congr (inside.armed kind)).mpr other
  rw [Bool.not_eq_true,Option.isSome_eq_false_iff] at unarmed
  exact Option.isNone_iff_eq_none.mp unarmed

theorem At.armed_none {engine : Engine ρ} {stage : Stage} (inside : engine.At stage)
    (waitless : stage.awaited = none) (kind : TimerKind) : engine.timers.armed kind = none :=
  inside.unarmed (by simp [waitless])

theorem At.concluded_of_idle {engine : Engine ρ} {stage : Stage} (inside : engine.At stage)
    (idle : engine.running = false) : stage = .concluded :=
  Decidable.of_not_not fun going => by simp [inside.running.mpr going] at idle

theorem At.awaited_of_armed {engine : Engine ρ} {stage : Stage} (inside : engine.At stage)
    {kind : TimerKind} {number : UInt32} (armed : engine.timers.armed kind = some number) :
    stage.awaited = some kind :=
  (inside.armed kind).mp (by rw [armed]; rfl)

/-- Stages that wait for the same kind of timer are the same, but for the requests of assessments. -/
theorem At.stage_of_armed {engine : Engine ρ} {stage other : Stage} {kind : TimerKind}
    {number : UInt32} (inside : engine.At stage) (armed : engine.timers.armed kind = some number)
    (awaits : other.awaited = some kind) (single : kind ≠ .ccaRequest) : stage = other := by
  have same : stage.awaited = other.awaited := (inside.awaited_of_armed armed).trans awaits.symm
  have single : other.awaited ≠ some .ccaRequest := by simpa [awaits] using single
  have waiting : other.awaited ≠ none := by simp [awaits]
  clear inside awaits
  cases stage <;> cases other <;> simp_all [Stage.awaited]

theorem At.window_canProceed {engine : Engine ρ} (inside : engine.At .canProceed) :
    engine.progress.window = 2 := by
  have window := inside.window (by simp)
  rwa [if_pos (Policy.isSlotted_eq_true.mpr inside.allowed)] at window

theorem At.taken_clear {engine : Engine ρ} {stage : Stage} (inside : engine.At stage)
    {kind : TimerKind} (awaits : stage.awaited = some kind) (other : TimerKind) :
    (engine.taken kind).timers.armed other = none := by
  have armed := inside.armed other
  rw [awaits] at armed
  by_cases same : other = kind
  · simp [taken,same]
  · cases number : engine.timers.armed other with
    | none => simp [taken,same,number]
    | some number' =>
      rw [number] at armed
      exact absurd (Option.some.inj (armed.mp rfl)).symm same

theorem waitFor_at {engine : Engine ρ} {next : Stage} {kind : TimerKind}
    (calls : List Call) (delay : Span) (notes : List Note)
    (clear : ∀ other, engine.timers.armed other = none)
    (settled : engine.ccaOutstanding = false) (running : engine.running = true)
    (awaits : next.awaited = some kind) (allowed : next.Allowed engine.policy.mode)
    (window : engine.progress.window = if engine.policy.isSlotted then 2 - next.idles else 0) :
    (engine.waitFor calls kind delay notes).engine.At next where
  armed other := by
    simp only [waitFor,TimerTable.armed_arm,clear,awaits,Option.some.injEq]
    by_cases same : other = kind
    · simp [same]
    · simp [same,Ne.symm same]
  outstanding := by
    cases next <;> simp_all [Stage.awaited,Stage.assessing,waitFor]
  running := by
    cases next <;> simp_all [Stage.awaited,waitFor]
  allowed := allowed
  window _ := window

theorem waitFor_closing {engine : Engine ρ} {action : Action} {next : Stage} {kind : TimerKind}
    (calls : List Call) (delay : Span) (notes : List Note) (awaits : next.awaited = some kind) :
    Closing (engine.waitFor calls kind delay notes).engine action next
      [.schedule ⟨kind,engine.timers.nextNumber⟩ delay.clampNonNegative] := by
  simp only [Closing,awaits]
  refine ⟨_,_,by simp [waitFor],?_,rfl⟩
  rw [Span.clampNonNegative_us]
  exact Int.le_max_right _ _

theorem ended_at (engine : Engine ρ) (verdict : Verdict) : (engine.ended verdict).At .concluded where
  armed kind := by simp [ended,Stage.awaited]
  outstanding := rfl
  running := by simp [ended]
  allowed := trivial
  window concluded := absurd rfl concluded

theorem taken_stuck {engine : Engine ρ} {stage : Stage} {kind : TimerKind}
    (inside : engine.At stage) (awaits : stage.awaited = some kind) (fresh : stage.idles = 0)
    (follows : Follows engine.policy.mode stage (.expired kind) .stuck) :
    Advances engine stage (.expired kind)
      { engine := engine.taken kind, result := .error .zeroSymbolRate } .stuck where
  follows := follows
  arrives := {
    armed := by simp [inside.taken_clear awaits,Stage.awaited]
    outstanding := by
      have outstanding := inside.outstanding
      cases stage <;> simp_all [Stage.awaited,Stage.assessing,taken]
    running := by
      have running := inside.running
      cases stage <;> simp_all [Stage.awaited,taken]
    allowed := trivial
    window _ := by
      have window := inside.window fun concluded => by simp [concluded,Stage.awaited] at awaits
      rw [fresh] at window
      exact window }
  policy := rfl
  backoffs := rfl
  gaveUp := nofun
  calls := ⟨[],[],rfl,by simp,rfl⟩
  result := rfl

theorem waitFor_advances {engine source : Engine ρ} {stage next : Stage} {kind : TimerKind}
    {action : Action} {quiet : List Call} {delay : Span} {notes : List Note}
    (follows : Follows engine.policy.mode stage action next) (awaits : next.awaited = some kind)
    (clear : ∀ other, source.timers.armed other = none) (settled : source.ccaOutstanding = false)
    (running : source.running = true) (policy : source.policy = engine.policy)
    (allowed : next.Allowed engine.policy.mode)
    (window : source.progress.window = if engine.policy.isSlotted then 2 - next.idles else 0)
    (backoffs : source.progress.backoffs = engine.progress.backoffs + if action.busy then 1 else 0)
    (kept : action.busy = true → engine.progress.backoffs + 1 ≤ engine.policy.maxBackoffs.toNat)
    (asked : ∀ call ∈ quiet, call.isQuiet = true) :
    Advances engine stage action (source.waitFor quiet kind delay notes) next where
  follows := follows
  arrives := waitFor_at quiet delay notes clear settled running awaits (policy ▸ allowed)
    (policy ▸ window)
  policy := policy
  backoffs := backoffs
  gaveUp busy := by
    have bound := kept busy
    have different : next ≠ .concluded := by
      intro concluded
      simp [concluded,Stage.awaited] at awaits
    simp only [different,false_iff,Nat.not_lt]
    exact bound
  calls := ⟨quiet,_,rfl,asked,waitFor_closing quiet delay notes awaits⟩
  result := by
    cases next <;> first | rfl | simp [Stage.awaited] at awaits

theorem ended_advances {engine source : Engine ρ} {stage : Stage} {action : Action}
    {verdict : Verdict} {notes : List Note} (follows : Follows engine.policy.mode stage action .concluded)
    (gives : action.verdict = verdict) (policy : source.policy = engine.policy)
    (backoffs : source.progress.backoffs = engine.progress.backoffs + if action.busy then 1 else 0)
    (spent : action.busy = true → engine.policy.maxBackoffs.toNat < engine.progress.backoffs + 1) :
    Advances engine stage action
      { engine := source.ended verdict, calls := [.verdict verdict], notes } .concluded where
  follows := follows
  arrives := ended_at source verdict
  policy := policy
  backoffs := backoffs
  gaveUp busy := iff_of_true rfl (spent busy)
  calls := ⟨[],_,rfl,by simp,by simp [Closing,Stage.awaited,Stage.assessing,gives]⟩
  result := rfl

theorem quiet_asking {calls : List Call} (quiet : ∀ call ∈ calls, call.isQuiet = true)
    {direction : Direction} : ∀ call ∈ calls ++ [.askSuperframe direction], call.isQuiet = true := by
  intro call member
  rcases List.mem_append.mp member with earlier | asks
  · exact quiet call earlier
  · rw [List.mem_singleton.mp asks,Call.isQuiet]

theorem looks_quiet (engine : Engine ρ) : ∀ call ∈ engine.looks, call.isQuiet = true := by
  intro call member
  rw [eq_of_mem_looks member,Call.isQuiet]

section

variable [WordSource ρ]

theorem takeBackoff_quiet {engine taken : Engine ρ} {advice : Option UInt32} {asked : List Call}
    (drawn : engine.takeBackoff advice = (taken,asked)) :
    ∀ call ∈ asked, call.isQuiet = true := by
  intro call member
  rw [eq_of_mem_takeBackoff drawn member,Call.isQuiet]

theorem backoffStart_advances {engine : Engine ρ} {around : Surroundings} {reaction : Reaction ρ}
    (inside : engine.At .backoffStart)
    (fired : (engine.taken .backoffStart).beginBackoff around = .ok reaction) :
    ∃ next, Advances engine .backoffStart (.expired .backoffStart) reaction next := by
  rcases SymbolRate.of_cases around.radio.symbolsPerSecond with refused | ⟨rate,rated⟩
  · rw [beginBackoff_refused refused] at fired
    cases fired
    exact ⟨.stuck,taken_stuck inside rfl rfl .backoffRefused⟩
  · rcases drawn : (engine.taken .backoffStart).takeBackoff around.advice with ⟨source,asked⟩
    have same := takeBackoff_eq drawn
    have quiet := takeBackoff_quiet drawn
    have clear : ∀ other, source.timers.armed other = none := by
      rw [same]
      exact inside.taken_clear rfl
    have settled : source.ccaOutstanding = false := by
      rw [same]
      exact inside.outstanding
    have running : source.running = true := by
      rw [same]
      exact inside.running.mpr (by simp)
    have policy : source.policy = engine.policy := by rw [same]; rfl
    have backoffs : source.progress.backoffs = engine.progress.backoffs := by rw [same]; rfl
    have window : source.progress.window = if engine.policy.isSlotted then 2 else 0 := by
      rw [same]
      exact inside.window (by simp)
    cases mode : engine.policy.mode with
    | unslotted =>
      have plain : (engine.taken .backoffStart).policy.mode = .unslotted := mode
      rw [beginBackoff_unslotted rated plain drawn] at fired
      cases fired
      exact ⟨.ccaRequest 0,waitFor_advances (mode ▸ .drawn rfl) rfl clear settled running policy
        (by simp [mode,Stage.Allowed,Mode.needed]) window backoffs nofun quiet⟩
    | slotted =>
      have aligned : (engine.taken .backoffStart).policy.mode = .slotted := mode
      rw [beginBackoff_slotted rated aligned drawn] at fired
      obtain ⟨left,_,fired⟩ := except_map_eq_ok.mp fired
      by_cases short : left < source.backoffSpan rate
      · rw [if_pos short] at fired
        cases fired
        exact ⟨.capEnd,waitFor_advances (mode ▸ .cutShort rfl) rfl clear settled running policy
          mode window backoffs nofun (quiet_asking quiet)⟩
      · rw [if_neg short] at fired
        cases fired
        exact ⟨.canProceed,waitFor_advances (mode ▸ .fits rfl) rfl clear settled running policy
          mode window backoffs nofun (quiet_asking quiet)⟩

end

theorem canProceed_advances {engine : Engine ρ} {around : Surroundings} {reaction : Reaction ρ}
    (inside : engine.At .canProceed)
    (fired : (engine.taken .canProceed).checkTransaction around = .ok reaction) :
    ∃ next, Advances engine .canProceed (.expired .canProceed) reaction next := by
  have slotted : engine.policy.mode = .slotted := inside.allowed
  have clear : ∀ other, (engine.taken .canProceed).timers.armed other = none :=
    inside.taken_clear rfl
  have settled : engine.ccaOutstanding = false := inside.outstanding
  have running : engine.running = true := inside.running.mpr (by simp)
  have window : engine.progress.window = if engine.policy.isSlotted then 2 else 0 :=
    inside.window (by simp)
  rcases SymbolRate.of_cases around.radio.symbolsPerSecond with refused | ⟨rate,rated⟩
  · rw [checkTransaction_refused refused] at fired
    cases fired
    exact ⟨.stuck,taken_stuck inside rfl rfl .checkRefused⟩
  · rw [checkTransaction_eq rated] at fired
    obtain ⟨left,_,fired⟩ := except_bind_eq_ok.mp fired
    obtain ⟨cost,_,fired⟩ := except_bind_eq_ok.mp fired
    have quiet : ∀ call ∈ [Call.askSuperframe engine.progress.direction,.cost cost.total],
        call.isQuiet = true := by simp [Call.isQuiet]
    by_cases long : left < rate.spanOf cost.total
    · rw [if_pos long] at fired
      cases fired
      exact ⟨.capEnd,waitFor_advances .tooLong rfl clear settled running rfl slotted window rfl
        nofun quiet⟩
    · rw [if_neg long] at fired
      cases fired
      exact ⟨.ccaRequest 0,waitFor_advances .proceeds rfl clear settled running rfl
        (by simp [slotted,Stage.Allowed,Mode.needed]) window rfl nofun quiet⟩

theorem ccaRequest_advances {engine : Engine ρ} {idles : Nat}
    (inside : engine.At (.ccaRequest idles)) :
    Advances engine (.ccaRequest idles) (.expired .ccaRequest) (engine.taken .ccaRequest).requestCca
      (.assessment idles) where
  follows := .requested idles
  arrives := {
    armed := by
      intro kind
      have clear := inside.taken_clear rfl kind
      simp [requestCca,clear,Stage.awaited]
    outstanding := rfl
    running := iff_of_true (inside.running.mpr (by simp)) (by simp)
    allowed := inside.allowed
    window _ := inside.window (by simp) }
  policy := rfl
  backoffs := rfl
  gaveUp := nofun
  calls := ⟨[],_,rfl,by simp,rfl⟩
  result := rfl

theorem fire_advances [WordSource ρ] {engine : Engine ρ} {stage : Stage} {timer : Timer}
    {around : Surroundings} {reaction : Reaction ρ} (inside : engine.At stage)
    (armed : engine.timers.armed timer.kind = some timer.number)
    (fired : engine.fire timer around = .ok reaction) :
    ∃ next, Advances engine stage (.expired timer.kind) reaction next := by
  have awaited := inside.awaited_of_armed armed
  have running : engine.running = true :=
    inside.running.mpr fun concluded => by simp [concluded,Stage.awaited] at awaited
  rw [fire_armed around running armed] at fired
  cases stage with
  | backoffStart =>
    obtain ⟨kind,number⟩ := timer
    cases awaited
    exact backoffStart_advances inside fired
  | canProceed =>
    obtain ⟨kind,number⟩ := timer
    cases awaited
    exact canProceed_advances inside fired
  | ccaRequest idles =>
    obtain ⟨kind,number⟩ := timer
    cases awaited
    cases fired
    exact ⟨_,ccaRequest_advances inside⟩
  | capEnd =>
    obtain ⟨kind,number⟩ := timer
    cases awaited
    cases fired
    exact ⟨.concluded,ended_advances .capEnds rfl rfl rfl nofun⟩
  | assessment idles => simp [Stage.awaited] at awaited
  | concluded => simp [Stage.awaited] at awaited
  | stuck => simp [Stage.awaited] at awaited

theorem confirm_idle_advances {engine : Engine ρ} {idles : Nat} {status : ChannelStatus}
    (inside : engine.At (.assessment idles)) (idle : status.isIdle = true) :
    ∃ next, Advances engine (.assessment idles) (.assessed status) (engine.confirm status) next := by
  have running : engine.running = true := inside.running.mpr (by simp)
  have clear := inside.armed_none rfl
  have allowed : idles < engine.policy.mode.needed := inside.allowed
  have window : engine.progress.window = if engine.policy.isSlotted then 2 - idles else 0 :=
    inside.window (by simp)
  have quiet : (Action.assessed status).busy = false := by simp [Action.busy,idle]
  rw [confirm_idle inside.outstanding running idle]
  split
  · rename_i more
    obtain ⟨slotted,open'⟩ := more
    have mode := Policy.isSlotted_eq_true.mp slotted
    rw [window,if_pos slotted] at open'
    have first : idles + 1 < engine.policy.mode.needed := by
      simp only [mode,Mode.needed]
      omega
    refine ⟨.ccaRequest (idles + 1),waitFor_advances (.stillIdle idles idle first) rfl clear rfl
      running rfl first ?_ (by simp [quiet,afterIdle]) (by simp [quiet]) (by simp)⟩
    simp only [afterIdle,slotted,if_true,window,Stage.idles]
    omega
  · rename_i closed
    have last : idles + 1 = engine.policy.mode.needed := by
      cases mode : engine.policy.mode with
      | unslotted =>
        simp only [mode,Mode.needed] at allowed ⊢
        omega
      | slotted =>
        have slotted := Policy.isSlotted_eq_true.mpr mode
        simp only [mode,Mode.needed] at allowed ⊢
        simp only [slotted,true_and,window,if_true] at closed
        omega
    exact ⟨.concluded,ended_advances (.granted idles idle last) (by simp [Action.verdict,idle]) rfl
      (by simp [quiet,afterIdle]) (by simp [quiet])⟩

theorem confirm_busy_advances {engine : Engine ρ} {idles : Nat} {status : ChannelStatus}
    (inside : engine.At (.assessment idles)) (busy : status.isIdle = false) :
    ∃ next, Advances engine (.assessment idles) (.assessed status) (engine.confirm status) next := by
  have running : engine.running = true := inside.running.mpr (by simp)
  have clear := inside.armed_none rfl
  have window : engine.progress.window = if engine.policy.isSlotted then 2 - idles else 0 :=
    inside.window (by simp)
  have counted : (Action.assessed status).busy = true := by simp [Action.busy,busy]
  rw [confirm_busy inside.outstanding running busy]
  split
  · rename_i spent
    exact ⟨.concluded,ended_advances (.fails idles busy) (by simp [Action.verdict,busy]) rfl
      (by simp [counted,afterBusy]) fun _ => spent⟩
  · rename_i allowed
    refine ⟨.backoffStart,waitFor_advances (.backsOff idles busy) rfl clear rfl running rfl
      trivial ?_ (by simp [counted,afterBusy]) (fun _ => Nat.le_of_not_lt allowed) (by simp)⟩
    cases slotted : engine.policy.isSlotted <;>
      simp_all [afterBusy,contentionWindow,Stage.idles]

/-- The result of the outstanding assessment takes an attempt to its next stage. -/
theorem confirm_advances {engine : Engine ρ} {stage : Stage} {status : ChannelStatus}
    (inside : engine.At stage) (outstanding : engine.ccaOutstanding = true) :
    ∃ next, Advances engine stage (.assessed status) (engine.confirm status) next := by
  have assessing : stage.assessing = true := inside.outstanding.symm.trans outstanding
  cases stage with
  | assessment idles =>
    cases idle : status.isIdle with
    | true => exact confirm_idle_advances inside idle
    | false => exact confirm_busy_advances inside idle
  | _ => simp [Stage.assessing] at assessing

/-- A successful start arms the first timer of a new attempt, after a look at the superframe. -/
theorem start_cases {engine : Engine ρ} {around : Surroundings} {reaction : Reaction ρ}
    (started : engine.start around = .ok reaction) :
    (reaction = { engine, result := .error .zeroSymbolRate }) ∨
      (reaction.result = .ok () ∧ reaction.engine.At .backoffStart ∧
        reaction.engine.policy = engine.policy ∧ reaction.engine.progress.backoffs = 0 ∧
        ∃ quiet closing, reaction.calls = quiet ++ closing ∧
          (∀ call ∈ quiet, call.isQuiet = true) ∧
          ∀ action, Closing reaction.engine action .backoffStart closing) := by
  rcases SymbolRate.of_cases around.radio.symbolsPerSecond with refused | ⟨rate,rated⟩
  · rw [start_refused refused] at started
    exact .inl (Except.ok.inj started).symm
  · rw [start_eq rated] at started
    obtain ⟨wait,_,rfl⟩ := except_map_eq_ok.mp started
    refine .inr ⟨rfl,?arrives,rfl,rfl,_,_,rfl,looks_quiet _,
      fun action => waitFor_closing _ wait _ rfl⟩
    case arrives => exact waitFor_at _ wait _ (by simp [begun,cancel]) rfl rfl rfl trivial rfl

theorem start_begun {engine : Engine ρ} {around : Surroundings} {reaction : Reaction ρ}
    (started : engine.start around = .ok reaction) (succeeds : reaction.result = .ok ()) :
    ∃ wait notes, reaction = (engine.begun (.ofDestination around.layer.frame.toCoordinator)).waitFor
      (engine.begun (.ofDestination around.layer.frame.toCoordinator)).looks .backoffStart wait
      notes := by
  rcases SymbolRate.of_cases around.radio.symbolsPerSecond with refused | ⟨rate,rated⟩
  · rw [start_refused refused] at started
    cases started
    cases succeeds
  · rw [start_eq rated] at started
    obtain ⟨wait,_,rfl⟩ := except_map_eq_ok.mp started
    exact ⟨wait,_,rfl⟩

end Engine

end ChannelAccess
