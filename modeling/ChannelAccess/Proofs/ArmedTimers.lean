import ChannelAccess.Timer

/-!
What arming, taking and disarming do to the armed numbers of the four kinds.
-/

namespace ChannelAccess

def TimerKind.all : List TimerKind := [.backoffStart, .canProceed, .ccaRequest, .capEnd]

namespace TimerTable

/-- How many of the four kinds are armed. -/
def armedCount (table : TimerTable) : Nat :=
  TimerKind.all.countP fun kind => (table.armed kind).isSome

@[simp] theorem armed_put (table : TimerTable) (kind other : TimerKind) (number : Option UInt32) :
    (table.put kind number).armed other = if other = kind then number else table.armed other := by
  cases kind <;> cases other <;> rfl

@[simp] theorem nextNumber_put (table : TimerTable) (kind : TimerKind) (number : Option UInt32) :
    (table.put kind number).nextNumber = table.nextNumber := by
  cases kind <;> rfl

@[simp] theorem armed_disarmAll (table : TimerTable) (kind : TimerKind) :
    table.disarmAll.armed kind = none := by
  cases kind <;> rfl

@[simp] theorem arm_timer (table : TimerTable) (kind : TimerKind) :
    (table.arm kind).1 = ⟨kind,table.nextNumber⟩ := rfl

@[simp] theorem armed_arm (table : TimerTable) (kind other : TimerKind) :
    (table.arm kind).2.armed other =
      if other = kind then some table.nextNumber else table.armed other := by
  cases kind <;> cases other <;> rfl

theorem take_armed {table : TimerTable} {timer : Timer}
    (armed : table.armed timer.kind = some timer.number) :
    table.take timer = (true,table.put timer.kind none) :=
  if_pos armed

theorem take_stale {table : TimerTable} {timer : Timer}
    (stale : table.armed timer.kind ≠ some timer.number) : table.take timer = (false,table) :=
  if_neg stale

theorem armedCount_of_armed {table : TimerTable} {awaited : Option TimerKind}
    (armed : ∀ kind, (table.armed kind).isSome = true ↔ awaited = some kind) :
    table.armedCount = if awaited.isSome then 1 else 0 := by
  have decided : (fun kind => (table.armed kind).isSome) = fun kind => decide (awaited = some kind) := by
    funext kind
    exact Bool.eq_iff_iff.mpr ((armed kind).trans decide_eq_true_iff.symm)
  unfold armedCount
  rw [decided]
  cases awaited with
  | none => rfl
  | some kind => cases kind <;> rfl

end TimerTable

end ChannelAccess
