import ChannelAccess.Proofs.Engine.FreshStart

/-!
Late deliveries. Every timer that an engine hands out carries a number of its own until the numbers
come round, so a timer is armed exactly as long as nothing has used it up. Fires of spent timers and
confirmations that nobody waits for can be put in between the operations of a run at will, and all
else in it stays as it was. Main statement: `late_deliveries_inert`.
-/

namespace ChannelAccess

variable {ρ : Type}

/-- All timers that were handed out, oldest first. -/
def issued (deeds : List (Deed ρ)) : List Timer := deeds.flatMap fun deed => deed.reaction.issued

namespace Operation

def fires (operation : Operation) (timer : Timer) : Prop :=
  ∃ around, operation = .fire timer around

/-- A timer or the result of an assessment comes back. -/
def delivers : Operation → Bool
  | .fire _ _ | .confirm _ => true
  | .start _ | .cancel | .setPolicy _ | .setMode _ => false

end Operation

/-- The deed does not use the timer up: it neither fires it nor hands out another of its kind, and it
does not end the attempt that the timer belongs to. -/
structure Deed.Keeps (deed : Deed ρ) (timer : Timer) : Prop where
  unfired : ¬ deed.operation.fires timer
  unreplaced : ∀ other ∈ deed.reaction.issued, other.kind ≠ timer.kind
  uncancelled : deed.operation ≠ .cancel
  unbegun : deed.begins = false
  undecided : deed.reaction.verdicts = []

/-- The timer was handed out, and then it was fired, superseded or cancelled, or its attempt was given
up or came to its verdict. -/
def Spent (deeds : List (Deed ρ)) (timer : Timer) : Prop :=
  ∃ earlier deed later, deeds = earlier ++ deed :: later ∧ timer ∈ issued earlier ∧
    ¬ deed.Keeps timer

/-- Nothing comes of the deed. -/
structure Deed.Inert (deed : Deed ρ) : Prop where
  engine : deed.reaction.engine = deed.before
  calls : deed.reaction.calls = []
  result : deed.reaction.result = .ok ()

@[simp] theorem issued_append (deeds : List (Deed ρ)) (deed : Deed ρ) :
    issued (deeds ++ [deed]) = issued deeds ++ deed.reaction.issued := by
  simp [issued]

theorem Spent.issued {deeds : List (Deed ρ)} {timer : Timer} (spent : Spent deeds timer) :
    timer ∈ issued deeds := by
  obtain ⟨earlier,deed,later,rfl,handed,_⟩ := spent
  rw [ChannelAccess.issued,List.flatMap_append]
  exact List.mem_append_left _ handed

theorem spent_append {deeds : List (Deed ρ)} {deed : Deed ρ} {timer : Timer} :
    Spent (deeds ++ [deed]) timer ↔
      Spent deeds timer ∨ timer ∈ issued deeds ∧ ¬ deed.Keeps timer := by
  constructor
  · rintro ⟨earlier,spender,later,whole,handed,spends⟩
    rcases List.eq_nil_or_concat later with rfl | ⟨front,final,rfl⟩
    · obtain ⟨rfl,same⟩ := List.append_inj' whole rfl
      cases same
      exact .inr ⟨handed,spends⟩
    · rw [List.concat_eq_append,← List.cons_append,← List.append_assoc] at whole
      exact .inl ⟨earlier,spender,front,(List.append_inj' whole rfl).1,handed,spends⟩
  · rintro (⟨earlier,spender,later,rfl,handed,spends⟩ | ⟨handed,spends⟩)
    · exact ⟨earlier,spender,later ++ [deed],by simp,handed,spends⟩
    · exact ⟨deeds,deed,[],rfl,handed,spends⟩

namespace Engine

/-- All timers are disarmed, and at most the next one is handed out and armed. -/
inductive Renews (engine : Engine ρ) (reaction : Reaction ρ) : Prop
  | cleared (clear : ∀ kind, reaction.engine.timers.armed kind = none)
      (next : reaction.engine.timers.nextNumber = engine.timers.nextNumber)
      (unissued : reaction.issued = [])
  | handed (kind : TimerKind) (one : reaction.issued = [⟨kind,engine.timers.nextNumber⟩])
      (next : reaction.engine.timers.nextNumber = engine.timers.nextNumber + 1)
      (armed : ∀ other, reaction.engine.timers.armed other =
        if other = kind then some engine.timers.nextNumber else none)

theorem nextNumber_taken (engine : Engine ρ) (kind : TimerKind) :
    (engine.taken kind).timers.nextNumber = engine.timers.nextNumber := by
  cases kind <;> rfl

theorem waitFor_renews {engine source : Engine ρ} {calls : List Call} (kind : TimerKind)
    (delay : Span) (notes : List Note) (clear : ∀ other, source.timers.armed other = none)
    (next : source.timers.nextNumber = engine.timers.nextNumber)
    (quiet : ∀ call ∈ calls, call.isQuiet = true) :
    engine.Renews (source.waitFor calls kind delay notes) := by
  have untimed : calls.filterMap Call.timer? = [] := by
    rw [List.filterMap_eq_nil_iff]
    intro call member
    have unheard := quiet call member
    cases call <;> first | rfl | simp [Call.isQuiet] at unheard
  refine .handed kind ?one ?next ?armed
  case one => simp [Reaction.issued,waitFor,untimed,Call.timer?,next]
  case next => simp [waitFor,TimerTable.arm,next]
  case armed => simp [waitFor,clear,next]

theorem ended_renews {engine source : Engine ρ} {verdict : Verdict} {notes : List Note}
    (next : source.timers.nextNumber = engine.timers.nextNumber) :
    engine.Renews { engine := source.ended verdict, calls := [.verdict verdict], notes } :=
  .cleared (by simp [ended]) next rfl

/-- What is accepted while a timer is armed is the fire of that timer. -/
theorem At.fires_of_accepts {engine : Engine ρ} {stage : Stage} {operation : Operation}
    {action : Action} {timer : Timer} (inside : engine.At stage)
    (accepted : engine.accepts operation = some action)
    (armed : engine.timers.armed timer.kind = some timer.number) : operation.fires timer := by
  have awaited := inside.awaited_of_armed armed
  rcases accepts_of_eq_some accepted with ⟨⟨kind,number⟩,around,rfl,_,other⟩ | ⟨status,rfl,_,outstanding⟩
  · obtain rfl : timer.kind = kind := by
      simpa [awaited] using inside.awaited_of_armed other
    obtain rfl : timer.number = number := Option.some.inj (armed.symm.trans other)
    exact ⟨around,rfl⟩
  · rw [inside.outstanding] at outstanding
    cases stage <;> simp [Stage.awaited,Stage.assessing] at awaited outstanding

variable [WordSource ρ]

theorem At.drawn_renews {engine source : Engine ρ} {advice : Option UInt32} {asked : List Call}
    (inside : engine.At .backoffStart)
    (drawn : (engine.taken .backoffStart).takeBackoff advice = (source,asked)) (periods : Nat)
    {calls : List Call} (quiet : ∀ call ∈ calls, call.isQuiet = true)
    (kind : TimerKind) (delay : Span) (notes : List Note) :
    engine.Renews ((source.withPeriods periods).waitFor calls kind delay notes) := by
  have same : (source.withPeriods periods).timers = (engine.taken .backoffStart).timers := by
    rw [withPeriods,takeBackoff_eq drawn]
  refine waitFor_renews kind delay notes ?clear ?next quiet
  case clear =>
    rw [same]
    exact inside.taken_clear rfl
  case next =>
    rw [same]
    exact engine.nextNumber_taken .backoffStart

theorem Reacts.renews {engine : Engine ρ} {stage next : Stage} {operation : Operation}
    {reaction : Reaction ρ} (inside : engine.At stage)
    (reacts : engine.Reacts stage operation reaction next) : engine.Renews reaction := by
  cases reacts with
  | refused awaits => exact .cleared (inside.taken_clear awaits) (engine.nextNumber_taken _) rfl
  | @drawn _ _ _ source _ _ _ drawn =>
    exact inside.drawn_renews drawn source.progress.periodsLeft (takeBackoff_quiet drawn)
      .ccaRequest _ _
  | @fits _ _ _ source _ _ _ _ drawn =>
    exact inside.drawn_renews drawn source.progress.periodsLeft (quiet_asking (takeBackoff_quiet drawn))
      .canProceed _ _
  | cutShort slotted rated drawn =>
    exact inside.drawn_renews drawn _ (quiet_asking (takeBackoff_quiet drawn)) .capEnd _ _
  | proceeds =>
    exact waitFor_renews .ccaRequest .zero [] (inside.taken_clear rfl) (engine.nextNumber_taken _)
      (by simp [Call.isQuiet])
  | tooLong =>
    exact waitFor_renews .capEnd _ _ (inside.taken_clear rfl) (engine.nextNumber_taken _)
      (by simp [Call.isQuiet])
  | requested => exact .cleared (inside.taken_clear rfl) (engine.nextNumber_taken _) rfl
  | stillIdle => exact waitFor_renews .ccaRequest .zero _ (inside.armed_none rfl) rfl (by simp)
  | granted => exact ended_renews rfl
  | backsOff => exact waitFor_renews .backoffStart .zero _ (inside.armed_none rfl) rfl (by simp)
  | fails => exact ended_renews rfl
  | capEnds => exact ended_renews (engine.nextNumber_taken _)

/-- An operation leaves the timers alone or renews them, and it uses up the armed timer exactly if it
renews. -/
theorem perform_renews {engine : Engine ρ} {stage : Stage} {operation : Operation}
    {reaction : Reaction ρ} (inside : engine.At stage)
    (performed : engine.perform operation = .ok reaction) :
    (reaction.engine.timers = engine.timers ∧ reaction.issued = [] ∧ ∀ timer : Timer,
      engine.timers.armed timer.kind = some timer.number →
        (Deed.mk engine operation reaction).Keeps timer) ∨
    (engine.Renews reaction ∧ ∀ timer : Timer,
      engine.timers.armed timer.kind = some timer.number →
        ¬ (Deed.mk engine operation reaction).Keeps timer) := by
  cases perform_effect inside performed with
  | ignored unheard same silent fruitless =>
    have unissued : reaction.issued = [] := by simp [Reaction.issued,silent]
    refine .inl ⟨by rw [same],unissued,fun timer armed => ?_⟩
    refine ⟨?unfired,by simp [unissued],?uncancelled,fruitless,by simp [Reaction.verdicts,silent]⟩
    case unfired =>
      rintro ⟨around,rfl⟩
      simp [accepts,armed] at unheard
    case uncancelled =>
      rintro rfl
      cases performed
      rw [← same] at armed
      simp [cancel] at armed
  | advanced accepted advances =>
    refine .inr ⟨(advances.reacts inside accepted performed).renews inside,fun timer armed keeps => ?_⟩
    exact keeps.unfired (inside.fires_of_accepts accepted armed)
  | begun starts succeeds =>
    subst starts
    refine .inr ⟨?_,fun timer armed keeps => ?_⟩
    · obtain ⟨wait,notes,rfl⟩ := start_begun performed succeeds
      exact waitFor_renews .backoffStart wait notes (by simp [begun,cancel]) rfl (looks_quiet _)
    · have continues := keeps.unbegun
      simp [Deed.begins,succeeds] at continues
  | cancelled cancels abandoned =>
    subst cancels abandoned
    exact .inr ⟨.cleared (by simp [cancel]) rfl rfl,fun timer armed keeps => keeps.uncancelled rfl⟩
  | reconfigured configures idle valid changed =>
    subst changed
    obtain rfl := inside.concluded_of_idle idle
    refine .inl ⟨rfl,rfl,fun timer armed => ?_⟩
    simp [inside.armed_none rfl] at armed

omit [WordSource ρ] in
theorem Renews.number {engine : Engine ρ} {reaction : Reaction ρ} (renews : engine.Renews reaction) :
    ∀ timer ∈ reaction.issued, timer.number = engine.timers.nextNumber := by
  intro timer member
  cases renews with
  | cleared clear next unissued => simp [unissued] at member
  | handed kind one =>
    rw [one,List.mem_singleton] at member
    rw [member]

omit [WordSource ρ] in
theorem Renews.armed_iff {engine : Engine ρ} {reaction : Reaction ρ} (renews : engine.Renews reaction)
    (timer : Timer) :
    reaction.engine.timers.armed timer.kind = some timer.number ↔ timer ∈ reaction.issued := by
  cases renews with
  | cleared clear next unissued => simp [clear,unissued]
  | handed kind one next armed =>
    obtain ⟨other,number⟩ := timer
    rw [one,List.mem_singleton,armed]
    by_cases same : other = kind
    · simp [same,eq_comm]
    · simp [same]

omit [WordSource ρ] in
theorem Renews.nextNumber {engine : Engine ρ} {reaction : Reaction ρ} (renews : engine.Renews reaction) :
    reaction.engine.timers.nextNumber =
      engine.timers.nextNumber + UInt32.ofNat reaction.issued.length := by
  cases renews with
  | cleared clear next unissued => simp [next,unissued]
  | handed kind one next => simp [next,one]

/-- The numbers of the timers that were handed out count them, and those that are armed are those that
are not spent. -/
structure Accounted (engine : Engine ρ) (deeds : List (Deed ρ)) : Prop where
  next : engine.timers.nextNumber = UInt32.ofNat (issued deeds).length
  numbered : ∀ place timer, (issued deeds)[place]? = some timer → timer.number = UInt32.ofNat place
  armed : ∀ timer : Timer, engine.timers.armed timer.kind = some timer.number ↔
    timer ∈ issued deeds ∧ ¬ Spent deeds timer

omit [WordSource ρ] in
/-- As long as the numbers have not come round, the next one is new. -/
theorem Accounted.older {engine : Engine ρ} {deeds : List (Deed ρ)} {timer : Timer}
    (accounted : engine.Accounted deeds) (few : (issued deeds).length < 4294967296)
    (handed : timer ∈ issued deeds) : timer.number ≠ engine.timers.nextNumber := by
  obtain ⟨place,at_place⟩ := List.mem_iff_getElem?.mp handed
  have earlier : place < (issued deeds).length := (List.getElem?_eq_some_iff.mp at_place).1
  rw [accounted.next,accounted.numbered place timer at_place]
  intro same
  have numbers := congrArg UInt32.toNat same
  rw [UInt32.toNat_ofNat_of_lt' (Nat.lt_trans earlier few),UInt32.toNat_ofNat_of_lt' few] at numbers
  omega

theorem Accounted.perform {engine : Engine ρ} {deeds : List (Deed ρ)} {stage : Stage}
    {operation : Operation} {reaction : Reaction ρ} (accounted : engine.Accounted deeds)
    (few : (issued deeds).length < 4294967296) (inside : engine.At stage)
    (performed : engine.perform operation = .ok reaction) :
    reaction.engine.Accounted (deeds ++ [⟨engine,operation,reaction⟩]) := by
  rcases perform_renews inside performed with ⟨same,unissued,keeps⟩ | ⟨renews,spends⟩
  · refine ⟨?next,?numbered,?armed⟩
    case next => simp [same,unissued,accounted.next]
    case numbered => simpa [unissued] using accounted.numbered
    case armed =>
      intro timer
      rw [same,spent_append,issued_append,unissued,List.append_nil,accounted.armed]
      constructor
      · rintro ⟨handed,unspent⟩
        refine ⟨handed,not_or.mpr ⟨unspent,fun later => later.2 (keeps timer ?_)⟩⟩
        exact (accounted.armed timer).mpr ⟨handed,unspent⟩
      · rintro ⟨handed,unspent⟩
        exact ⟨handed,fun spent => unspent (.inl spent)⟩
  · refine ⟨?next',?numbered',?armed'⟩
    case next' =>
      rw [renews.nextNumber,accounted.next,issued_append,List.length_append,UInt32.ofNat_add]
    case numbered' =>
      intro place timer at_place
      rw [issued_append] at at_place
      by_cases earlier : place < (issued deeds).length
      · rw [List.getElem?_append_left earlier] at at_place
        exact accounted.numbered place timer at_place
      · have later := Nat.le_of_not_lt earlier
        rw [List.getElem?_append_right later] at at_place
        rw [renews.number timer (List.mem_of_getElem? at_place),accounted.next]
        cases renews with
        | cleared clear next unissued => simp [unissued] at at_place
        | handed kind one =>
          have bound := (List.getElem?_eq_some_iff.mp at_place).1
          rw [show reaction.issued.length = 1 from by rw [one]; rfl] at bound
          rw [show place = (issued deeds).length by omega]
    case armed' =>
      intro timer
      rw [renews.armed_iff,spent_append,issued_append,List.mem_append]
      constructor
      · intro handed
        have unheard : timer ∉ issued deeds := fun earlier =>
          accounted.older few earlier (renews.number timer handed)
        exact ⟨.inr handed,not_or.mpr ⟨fun spent => unheard spent.issued,fun later => unheard later.1⟩⟩
      · rintro ⟨earlier | handed,unspent⟩
        · have armed := (accounted.armed timer).mpr ⟨earlier,fun spent => unspent (.inl spent)⟩
          exact absurd (.inr ⟨earlier,spends timer armed⟩) unspent
        · exact handed

theorem Accounted.run {policy : Policy} {words : ρ} {first last : Engine ρ} {deeds : List (Deed ρ)}
    (made : Engine.new policy words = .ok first) (run : Run first deeds last)
    (few : (issued deeds).length < 4294967296) : last.Accounted deeds := by
  induction run with
  | start =>
    refine ⟨?next,nofun,?armed⟩
    case next =>
      obtain ⟨_,_,same⟩ := except_bind_eq_ok.mp made
      cases same
      rfl
    case armed =>
      intro timer
      simp [(new_at made).1.armed_none rfl,issued]
  | step before performed ih =>
    rw [issued_append,List.length_append] at few
    obtain ⟨_,counted⟩ := Counted.run made before
    exact (ih (by omega)).perform (by omega) counted.inside performed

theorem inert_of_unaccepted {engine : Engine ρ} {operation : Operation}
    (delivers : operation.delivers = true) (unaccepted : engine.accepts operation = none) :
    ∃ reaction, engine.perform operation = .ok reaction ∧
      (Deed.mk engine operation reaction).Inert := by
  cases operation with
  | fire timer around =>
    have stale : engine.timers.armed timer.kind ≠ some timer.number := by
      intro armed
      simp [accepts,armed] at unaccepted
    exact ⟨_,fire_stale around stale,rfl,rfl,rfl⟩
  | confirm status =>
    have unexpected : engine.ccaOutstanding = false := by
      simpa [accepts] using unaccepted
    exact ⟨_,congrArg Except.ok (confirm_unexpected status unexpected),rfl,rfl,rfl⟩
  | start around => cases delivers
  | cancel => cases delivers
  | setPolicy policy => cases delivers
  | setMode mode => cases delivers

omit [WordSource ρ] in
/-- An idle engine accepts nothing. -/
theorem At.unaccepted {engine : Engine ρ} (inside : engine.At .concluded) (operation : Operation) :
    engine.accepts operation = none := by
  cases accepted : engine.accepts operation with
  | none => rfl
  | some action =>
    rcases accepts_of_eq_some accepted with ⟨timer,_,_,_,armed⟩ | ⟨_,_,_,outstanding⟩
    · simp [inside.armed_none rfl] at armed
    · simp [inside.outstanding,Stage.assessing] at outstanding

/-- An operation that begins no attempt leaves an idle engine idle. -/
theorem At.perform_idle {engine : Engine ρ} {operation : Operation} {reaction : Reaction ρ}
    (inside : engine.At .concluded) (performed : engine.perform operation = .ok reaction)
    (continues : (Deed.mk engine operation reaction).begins = false) :
    reaction.engine.At .concluded ∧ reaction.verdicts = [] := by
  cases perform_effect inside performed with
  | ignored unheard same silent => exact ⟨same ▸ inside,by simp [Reaction.verdicts,silent]⟩
  | advanced accepted => simp [inside.unaccepted] at accepted
  | begun starts succeeds => simp [Deed.begins,starts,succeeds] at continues
  | cancelled cancels abandoned =>
    subst abandoned
    exact ⟨cancel_at engine,rfl⟩
  | @reconfigured policy configures idle valid changed =>
    subst changed
    exact ⟨inside.reconfigured policy,rfl⟩

/-- The delivery of a timer that is spent, or of an assessment that nobody waits for. -/
inductive TooLate (engine : Engine ρ) (deeds : List (Deed ρ)) : Operation → Prop
  | spent (timer : Timer) (around : Surroundings) (spent : Spent deeds timer) :
      TooLate engine deeds (.fire timer around)
  | unasked (status : ChannelStatus) (unasked : engine.ccaOutstanding = false) :
      TooLate engine deeds (.confirm status)

omit [WordSource ρ] in
theorem Accounted.unaccepted {engine : Engine ρ} {deeds : List (Deed ρ)} {operation : Operation}
    (accounted : engine.Accounted deeds) (late : engine.TooLate deeds operation) :
    operation.delivers = true ∧ engine.accepts operation = none := by
  cases late with
  | spent timer around spent =>
    have stale : engine.timers.armed timer.kind ≠ some timer.number := by
      intro armed
      exact ((accounted.armed timer).mp armed).2 spent
    exact ⟨rfl,if_neg stale⟩
  | unasked status unasked => exact ⟨rfl,if_neg (by simp [unasked])⟩

end Engine

variable [WordSource ρ]

/-- A run, and its operations with late deliveries put in between. These are marked. -/
inductive Interspersed (first : Engine ρ) :
    List (Deed ρ) → List (Operation × Bool) → Engine ρ → Prop
  | start : Interspersed first [] [] first
  | own {deeds : List (Deed ρ)} {plan : List (Operation × Bool)} {last : Engine ρ}
      {operation : Operation} {reaction : Reaction ρ} (before : Interspersed first deeds plan last)
      (performed : last.perform operation = .ok reaction) :
      Interspersed first (deeds ++ [⟨last,operation,reaction⟩]) (plan ++ [(operation,false)])
        reaction.engine
  | late {deeds : List (Deed ρ)} {plan : List (Operation × Bool)} {last : Engine ρ}
      {operation : Operation} (before : Interspersed first deeds plan last)
      (late : last.TooLate deeds operation) :
      Interspersed first deeds (plan ++ [(operation,true)]) last

theorem Interspersed.run {first last : Engine ρ} {deeds : List (Deed ρ)}
    {plan : List (Operation × Bool)} (interspersed : Interspersed first deeds plan last) :
    Run first deeds last := by
  induction interspersed with
  | start => exact .start
  | own before performed ih => exact ih.step performed
  | late before late ih => exact ih

/-- All of the plan can be performed. What is marked is inert, and the rest is the run itself. -/
theorem Interspersed.performs {policy : Policy} {words : ρ} {first last : Engine ρ}
    {deeds : List (Deed ρ)} {plan : List (Operation × Bool)}
    (made : Engine.new policy words = .ok first) (interspersed : Interspersed first deeds plan last)
    (few : (issued deeds).length < 4294967296) :
    ∃ all : List (Deed ρ × Bool), Run first (all.map Prod.fst) last ∧
      all.map (fun entry => (entry.1.operation,entry.2)) = plan ∧
      (all.filter fun entry => ! entry.2).map Prod.fst = deeds ∧
      ∀ entry ∈ all, entry.2 = true → entry.1.Inert := by
  induction interspersed with
  | start => exact ⟨[],.start,rfl,rfl,by simp⟩
  | @own deeds plan last operation reaction before performed ih =>
    rw [issued_append,List.length_append] at few
    obtain ⟨all,run,planned,own,inert⟩ := ih (by omega)
    refine ⟨all ++ [(⟨last,operation,reaction⟩,false)],?_,by simp [planned],by simp [own],?_⟩
    · rw [List.map_append]
      exact run.step performed
    · simpa [or_imp,forall_and] using inert
  | @late deeds plan last operation before late ih =>
    obtain ⟨all,run,planned,own,inert⟩ := ih few
    obtain ⟨delivers,unaccepted⟩ := (Engine.Accounted.run made before.run few).unaccepted late
    obtain ⟨reaction,performed,nothing⟩ := Engine.inert_of_unaccepted delivers unaccepted
    refine ⟨all ++ [(⟨last,operation,reaction⟩,true)],?_,by simp [planned],by simp [own],?_⟩
    · have stays : reaction.engine = last := nothing.engine
      have ends := run.step performed
      rw [stays] at ends
      rw [List.map_append]
      exact ends
    · intro entry member marked
      rcases List.mem_append.mp member with earlier | this
      · exact inert entry earlier marked
      · rw [List.mem_singleton.mp this]
        exact nothing

/-- Nothing is delivered to an idle engine before an attempt begins. -/
theorem Run.idle {first last : Engine ρ} {deeds : List (Deed ρ)} (run : Run first deeds last)
    (inside : first.At .concluded) (continues : ∀ deed ∈ deeds, deed.begins = false) :
    last.At .concluded ∧ verdicts deeds = [] ∧
      ∀ deed ∈ deeds, deed.operation.delivers = true → deed.Inert := by
  induction run with
  | start => exact ⟨inside,rfl,by simp⟩
  | @step deeds last operation reaction before performed ih =>
    obtain ⟨idle,undecided,inert⟩ := ih fun deed member =>
      continues deed (List.mem_append_left _ member)
    obtain ⟨stays,silent⟩ := idle.perform_idle performed (continues _ (by simp))
    refine ⟨stays,by simp [undecided,silent],fun deed member delivers => ?_⟩
    rcases List.mem_append.mp member with earlier | this
    · exact inert deed earlier delivers
    · rw [List.mem_singleton] at this
      subst this
      obtain ⟨other,performs,nothing⟩ :=
        Engine.inert_of_unaccepted delivers (idle.unaccepted operation)
      cases performed.symm.trans performs
      exact nothing

/-- While fewer timers are handed out than there are numbers, a timer that was handed out is spent
exactly if it is not armed. Fires of spent timers and confirmations of assessments that are not
outstanding, put in between the operations of a run at any places, come to nothing, and the run with
them goes through the same deeds and ends with the same engine. Between a cancellation and the next
attempt nothing comes of any delivery, and no verdict is given. -/
theorem late_deliveries_inert {policy : Policy} {words : ρ} {first last : Engine ρ}
    {deeds : List (Deed ρ)} {plan : List (Operation × Bool)}
    (made : Engine.new policy words = .ok first) (interspersed : Interspersed first deeds plan last)
    (few : (issued deeds).length < 4294967296) :
    (∀ timer ∈ issued deeds,
      Spent deeds timer ↔ last.timers.armed timer.kind ≠ some timer.number) ∧
    (∃ all : List (Deed ρ × Bool), Run first (all.map Prod.fst) last ∧
      all.map (fun entry => (entry.1.operation,entry.2)) = plan ∧
      (all.filter fun entry => ! entry.2).map Prod.fst = deeds ∧
      ∀ entry ∈ all, entry.2 = true → entry.1.Inert) ∧
    (∀ earlier cancelled later, deeds = earlier ++ cancelled :: later →
      cancelled.operation = .cancel → (∀ deed ∈ later, deed.begins = false) →
      verdicts later = [] ∧ (∀ deed ∈ later, deed.operation.delivers = true → deed.Inert) ∧
        ∀ operation, operation.delivers = true → ∃ reaction,
          last.perform operation = .ok reaction ∧ (Deed.mk last operation reaction).Inert) := by
  refine ⟨?spent,interspersed.performs made few,?cancelled⟩
  case spent =>
    intro timer handed
    rw [Ne,(Engine.Accounted.run made interspersed.run few).armed]
    simp [handed]
  case cancelled =>
    rintro earlier ⟨before,operation,reaction⟩ later rfl rfl continues
    obtain ⟨_,performed,after⟩ := interspersed.run.split
    obtain rfl : { engine := before.cancel } = reaction := Except.ok.inj performed
    obtain ⟨idle,undecided,inert⟩ := after.idle (Engine.cancel_at before) continues
    exact ⟨undecided,inert,fun operation delivers =>
      Engine.inert_of_unaccepted delivers (idle.unaccepted operation)⟩

/-- An attempt is started again and then cancelled, and its timers come back afterwards, one of them
for the second time. -/
theorem late_deliveries_inert_restarted :
    ∃ (first last : Engine WordScript) (deeds : List (Deed WordScript))
        (plan : List (Operation × Bool)) (all : List (Deed WordScript × Bool)),
      Engine.new {} ⟨[5]⟩ = .ok first ∧ Interspersed first deeds plan last ∧
        issued deeds = [⟨.backoffStart,0⟩,⟨.ccaRequest,1⟩,⟨.backoffStart,2⟩] ∧
        plan.map Prod.snd = [false,false,true,false,true,true,false,true] ∧
        Run first (all.map Prod.fst) last ∧ all.length = 8 ∧
        (all.filter fun entry => ! entry.2).map Prod.fst = deeds ∧
        (∀ entry ∈ all, entry.2 = true → entry.1.Inert) ∧ Spent deeds ⟨.backoffStart,2⟩ := by
  obtain ⟨first,made⟩ : ∃ first, Engine.new {} (⟨[5]⟩ : WordScript) = .ok first := ⟨_,rfl⟩
  obtain ⟨deeds,plan,last,interspersed,handed,marks,unarmed⟩ : ∃ deeds plan last,
      Interspersed first deeds plan last ∧
        issued deeds = [⟨.backoffStart,0⟩,⟨.ccaRequest,1⟩,⟨.backoffStart,2⟩] ∧
        plan.map Prod.snd = [false,false,true,false,true,true,false,true] ∧
        last.timers.armed .backoffStart = none := by
    cases made
    exact ⟨_,_,_,
      .late (.own (.late (.late (.own (.late (.own (.own .start
        (rfl : Engine.perform _ (.start (.plain 62500)) = _))
        (rfl : Engine.perform _ (.fire ⟨.backoffStart,0⟩ (.plain 62500)) = _))
        (.spent ⟨.backoffStart,0⟩ (.plain 62500)
          ⟨[_],_,[],rfl,.head _,fun keeps => keeps.unfired ⟨_,rfl⟩⟩))
        (rfl : Engine.perform _ (.start (.plain 62500)) = _))
        (.spent ⟨.ccaRequest,1⟩ (.plain 62500)
          ⟨[_,_],_,[],rfl,.tail _ (.head _),fun keeps => nomatch keeps.unbegun⟩))
        (.unasked .idle rfl))
        (rfl : Engine.perform _ .cancel = _))
        (.spent ⟨.backoffStart,2⟩ (.plain 62500)
          ⟨[_,_,_],_,[],rfl,.tail _ (.tail _ (.head _)),fun keeps => keeps.uncancelled rfl⟩),
      rfl,rfl,rfl⟩
  have few : (issued deeds).length < 4294967296 := by
    rw [handed]
    decide
  obtain ⟨spent,⟨all,run,planned,own,inert⟩,_⟩ := late_deliveries_inert made interspersed few
  have size : all.length = 8 := by
    simpa [← planned] using congrArg List.length marks
  refine ⟨first,last,deeds,plan,all,made,interspersed,handed,marks,run,size,own,inert,?_⟩
  exact (spent _ (by simp [handed])).mpr (by simp [unarmed])

end ChannelAccess
