import ChannelAccess.Proofs.ArmedTimers
import Mathlib.Data.List.Basic
import Mathlib.Data.List.Nodup

/-!
Any sequence of calls to a new timer table. A timer that was handed out is accepted exactly as long as
it is live: no other of its kind was handed out since, it was not accepted before, and the timers were
not all disarmed. This rests on the numbers, which do not repeat before they have come round. Main
statement: `live_timers_tracked`.
-/

namespace ChannelAccess

/-- A call to a timer table and its answer. -/
inductive TableCall where
  | armed (timer : Timer)
  | taken (timer : Timer) (accepted : Bool)
  | disarmedAll
  deriving DecidableEq, Repr

namespace TableCall

def handed? : TableCall → Option Timer
  | .armed timer => some timer
  | .taken _ _ | .disarmedAll => none

/-- A timer that was live before the call is live after it. -/
def Spares (call : TableCall) (timer : Timer) : Prop :=
  match call with
  | .armed other => other.kind ≠ timer.kind
  | .taken other accepted => ¬ (other = timer ∧ accepted = true)
  | .disarmedAll => False

instance (call : TableCall) (timer : Timer) : Decidable (call.Spares timer) :=
  match call with
  | .armed other => inferInstanceAs (Decidable (other.kind ≠ timer.kind))
  | .taken other accepted => inferInstanceAs (Decidable (¬ (other = timer ∧ accepted = true)))
  | .disarmedAll => inferInstanceAs (Decidable False)

end TableCall

/-- The timers that were handed out, oldest first. -/
def handedOut (calls : List TableCall) : List Timer := calls.filterMap TableCall.handed?

@[simp] theorem handedOut_append (calls : List TableCall) (call : TableCall) :
    handedOut (calls ++ [call]) = handedOut calls ++ call.handed?.toList := by
  cases call <;> simp [handedOut,TableCall.handed?]

theorem handedOut_split (earlier : List TableCall) (timer : Timer) (later : List TableCall) :
    handedOut (earlier ++ .armed timer :: later) = handedOut earlier ++ timer :: handedOut later := by
  simp [handedOut,TableCall.handed?]

theorem mem_handedOut {calls : List TableCall} {timer : Timer} :
    timer ∈ handedOut calls ↔ .armed timer ∈ calls := by
  constructor
  · intro member
    obtain ⟨call,called,hands⟩ := List.mem_filterMap.mp member
    cases call <;> cases hands
    exact called
  · exact fun called => List.mem_filterMap.mpr ⟨_,called,rfl⟩

/-- Where no timer is handed out twice, a timer tells which call handed it out. -/
theorem armed_split_unique {earlier later earlier' later' : List TableCall} {timer : Timer}
    (nodup : (handedOut (earlier ++ .armed timer :: later)).Nodup)
    (same : earlier ++ .armed timer :: later = earlier' ++ .armed timer :: later') :
    later = later' := by
  rw [handedOut_split,List.nodup_middle,List.nodup_cons,List.mem_append] at nodup
  obtain ⟨once,_⟩ := nodup
  have before : .armed timer ∉ earlier := fun member => once (.inl (mem_handedOut.mpr member))
  have after : .armed timer ∉ later := fun member => once (.inr (mem_handedOut.mpr member))
  exact ((List.append_cons_inj_of_notMem before after).mp same).2.2

namespace TimerTable

/-- The calls to a new table, oldest first, and the table after them. Any timer may be taken at any
time. -/
inductive Called : List TableCall → TimerTable → Prop
  | new : Called [] {}
  | arm {calls : List TableCall} {table : TimerTable} (before : Called calls table)
      (kind : TimerKind) : Called (calls ++ [.armed (table.arm kind).1]) (table.arm kind).2
  | take {calls : List TableCall} {table : TimerTable} (before : Called calls table)
      (timer : Timer) :
      Called (calls ++ [.taken timer (table.take timer).1]) (table.take timer).2
  | disarmAll {calls : List TableCall} {table : TimerTable} (before : Called calls table) :
      Called (calls ++ [.disarmedAll]) table.disarmAll

/-- The timer was handed out, and every call since then has spared it. -/
def Live (calls : List TableCall) (timer : Timer) : Prop :=
  ∃ earlier later, calls = earlier ++ .armed timer :: later ∧ ∀ call ∈ later, call.Spares timer

variable {calls earlier later : List TableCall} {table : TimerTable} {timer : Timer}

theorem live_append {call : TableCall} :
    Live (calls ++ [call]) timer ↔ call = .armed timer ∨ Live calls timer ∧ call.Spares timer := by
  constructor
  · rintro ⟨earlier,later,whole,spared⟩
    rcases List.eq_nil_or_concat later with rfl | ⟨front,final,rfl⟩
    · obtain ⟨_,same⟩ := List.append_inj' whole rfl
      cases same
      exact .inl rfl
    · rw [List.concat_eq_append,← List.cons_append,← List.append_assoc] at whole
      obtain ⟨split,same⟩ := List.append_inj' whole rfl
      cases same
      refine .inr ⟨⟨earlier,front,split,fun other member => ?_⟩,?_⟩
      · exact spared other (by simp [member])
      · exact spared call (by simp)
  · rintro (rfl | ⟨⟨earlier,later,rfl,spared⟩,spares⟩)
    · exact ⟨calls,[],rfl,by simp⟩
    · refine ⟨earlier,later ++ [call],by simp,fun other member => ?_⟩
      rcases List.mem_append.mp member with before | this
      · exact spared other before
      · exact List.mem_singleton.mp this ▸ spares

theorem take_accepts_iff :
    (table.take timer).1 = true ↔ table.armed timer.kind = some timer.number := by
  by_cases armed : table.armed timer.kind = some timer.number
  · simp [take_armed armed,armed]
  · simp [take_stale armed,armed]

theorem nextNumber_take (table : TimerTable) (timer : Timer) :
    (table.take timer).2.nextNumber = table.nextNumber := by
  by_cases armed : table.armed timer.kind = some timer.number
  · rw [take_armed armed,nextNumber_put]
  · rw [take_stale armed]

namespace Called

/-- By kind and number alone what is armed is what is live, also after the numbers have come round. -/
theorem armed_iff (called : Called calls table) (timer : Timer) :
    table.armed timer.kind = some timer.number ↔ Live calls timer := by
  induction called with
  | new =>
    have unarmed : ({} : TimerTable).armed timer.kind = none := by cases timer.kind <;> rfl
    simp [unarmed,Live]
  | @arm calls table before kind ih =>
    rw [armed_arm,live_append,← ih]
    obtain ⟨other,number⟩ := timer
    by_cases same : other = kind
    · simp [same,TableCall.Spares]
    · simp [same,TableCall.Spares,Ne.symm same]
  | @take calls table before other ih =>
    rw [live_append,← ih]
    by_cases armed : table.armed other.kind = some other.number
    · rw [take_armed armed,armed_put]
      by_cases same : timer.kind = other.kind
      · have spent : table.armed timer.kind = some timer.number → other = timer := by
          intro armed'
          obtain ⟨kind,number⟩ := timer
          obtain ⟨kind',number'⟩ := other
          cases same
          cases armed.symm.trans armed'
          rfl
        simpa [same,TableCall.Spares] using spent
      · have apart : other ≠ timer := fun equal => same (congrArg Timer.kind equal.symm)
        simp [same,apart,TableCall.Spares]
    · simp [take_stale armed,TableCall.Spares]
  | disarmAll before ih => simp [live_append,TableCall.Spares]

theorem nextNumber_eq (called : Called calls table) :
    table.nextNumber = UInt32.ofNat (handedOut calls).length := by
  induction called with
  | new => rfl
  | arm before kind ih =>
    rw [handedOut_append,List.length_append,UInt32.ofNat_add,← ih]
    rfl
  | take before timer ih => simpa [nextNumber_take,TableCall.handed?] using ih
  | disarmAll before ih => simpa [TableCall.handed?,TimerTable.disarmAll] using ih

/-- The numbers count the timers, and come round. -/
theorem numbers_eq (called : Called calls table) :
    (handedOut calls).map Timer.number =
      (List.range (handedOut calls).length).map UInt32.ofNat := by
  induction called with
  | new => rfl
  | arm before kind ih =>
    simp [TableCall.handed?,List.range_succ,ih,before.nextNumber_eq]
  | take before timer ih => simpa [TableCall.handed?] using ih
  | disarmAll before ih => simpa [TableCall.handed?] using ih

/-- As long as the numbers have not come round, no timer is handed out twice. -/
theorem nodup (called : Called calls table) (few : (handedOut calls).length ≤ 4294967296) :
    (handedOut calls).Nodup := by
  apply List.Nodup.of_map Timer.number
  rw [called.numbers_eq]
  apply List.Nodup.map_on ?_ List.nodup_range
  intro place member other member' same
  have numbers := congrArg UInt32.toNat same
  rw [List.mem_range] at member member'
  rwa [UInt32.toNat_ofNat_of_lt' (Nat.lt_of_lt_of_le member few),
    UInt32.toNat_ofNat_of_lt' (Nat.lt_of_lt_of_le member' few)] at numbers

/-- After as many timers as there are numbers the same timer is handed out again, so a spent timer can
be accepted from then on. -/
theorem comes_round (called : Called (earlier ++ .armed timer :: later) table)
    (round : (handedOut later).length + 1 = 4294967296) : (table.arm timer.kind).1 = timer := by
  have number : timer.number = UInt32.ofNat (handedOut earlier).length := by
    have numbers := congrArg (·[(handedOut earlier).length]?) called.numbers_eq
    simpa [handedOut_split] using numbers
  have next := called.nextNumber_eq
  rw [handedOut_split,List.length_append,List.length_cons,round,UInt32.ofNat_add,← number] at next
  obtain ⟨kind,_⟩ := timer
  rw [arm_timer,next]
  simp

end Called

/-- Up to as many timers as there are numbers, no timer is handed out twice, and one that was handed
out is accepted exactly if no other of its kind was handed out since, it was not accepted since, and
the timers were not disarmed. A timer that is not accepted changes nothing; one that is accepted, and
one that is handed out, change what is armed of their own kind and at most the next number. -/
theorem live_timers_tracked (called : Called calls table)
    (few : (handedOut calls).length ≤ 4294967296) :
    (handedOut calls).Nodup ∧
    (∀ earlier timer later, calls = earlier ++ .armed timer :: later →
      ((table.take timer).1 = true ↔ ∀ call ∈ later, call.Spares timer)) ∧
    (∀ timer, (table.take timer).1 = false → (table.take timer).2 = table) ∧
    (∀ timer, (table.take timer).1 = true →
      (table.take timer).2.armed timer.kind = none ∧
        (∀ kind, kind ≠ timer.kind → (table.take timer).2.armed kind = table.armed kind) ∧
        (table.take timer).2.nextNumber = table.nextNumber) ∧
    ∀ kind, (table.arm kind).1.kind = kind ∧
      (table.arm kind).2.armed kind = some (table.arm kind).1.number ∧
      (∀ other, other ≠ kind → (table.arm kind).2.armed other = table.armed other) ∧
      (table.arm kind).2.nextNumber = table.nextNumber + 1 := by
  have nodup := called.nodup few
  refine ⟨nodup,?accepted,?stale,?taken,?armed⟩
  case accepted =>
    rintro earlier timer later rfl
    rw [take_accepts_iff,called.armed_iff]
    constructor
    · rintro ⟨earlier',later',whole,spared⟩
      exact armed_split_unique nodup whole ▸ spared
    · exact fun spared => ⟨earlier,later,rfl,spared⟩
  case stale =>
    intro timer refused
    have stale : table.armed timer.kind ≠ some timer.number := fun armed => by
      simp [take_accepts_iff.mpr armed] at refused
    rw [take_stale stale]
  case taken =>
    intro timer accepted
    refine ⟨?_,?_,nextNumber_take table timer⟩
    · simp [take_armed (take_accepts_iff.mp accepted)]
    · intro kind other
      simp [take_armed (take_accepts_iff.mp accepted),other]
  case armed =>
    intro kind
    refine ⟨rfl,by simp,fun other apart => ?_,rfl⟩
    rw [armed_arm,if_neg apart]

/-- Of three timers the first was accepted, the second was superseded by the third, and the third is
live. -/
theorem live_timers_tracked_rearmed :
    let calls : List TableCall := [.armed ⟨.backoffStart,0⟩,.armed ⟨.canProceed,1⟩,
      .taken ⟨.backoffStart,0⟩ true,.armed ⟨.canProceed,2⟩]
    ∃ table, Called calls table ∧ (handedOut calls).length ≤ 4294967296 ∧
      (table.take ⟨.backoffStart,0⟩).1 = false ∧ (table.take ⟨.canProceed,1⟩).1 = false ∧
      (table.take ⟨.canProceed,1⟩).2 = table ∧ (table.take ⟨.canProceed,2⟩).1 = true ∧
      (table.take ⟨.canProceed,2⟩).2.armed .canProceed = none := by
  intro calls
  obtain ⟨table,called⟩ : ∃ table, Called calls table :=
    ⟨_,(Called.new.arm .backoffStart |>.arm .canProceed |>.take ⟨.backoffStart,0⟩).arm .canProceed⟩
  have few : (handedOut calls).length ≤ 4294967296 := by decide
  obtain ⟨_,accepted,stale,taken,_⟩ := live_timers_tracked called few
  have spent := mt (accepted [] ⟨.backoffStart,0⟩ _ rfl).mp (by decide)
  have superseded := mt (accepted [_] ⟨.canProceed,1⟩ _ rfl).mp (by decide)
  have live := (accepted [_,_,_] ⟨.canProceed,2⟩ _ rfl).mpr (by decide)
  rw [Bool.not_eq_true] at spent superseded
  exact ⟨table,called,few,spent,superseded,stale _ superseded,live,(taken _ live).1⟩

end TimerTable

end ChannelAccess
