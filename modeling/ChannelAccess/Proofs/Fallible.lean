import ChannelAccess.Overflow

/-!
Computations that may fail: what a sequence of them that succeeds went through, and when two of them
run in step, so that they overflow alike or both give results that are related, or give such results
unless one of them overflows.
-/

namespace ChannelAccess

variable {α β γ δ : Type}

theorem except_map_eq_ok {ε : Type} {f : α → β} {computed : Except ε α} {result : β} :
    computed.map f = .ok result ↔ ∃ value, computed = .ok value ∧ f value = result := by
  cases computed <;> simp [Except.map]

theorem except_bind_eq_ok {ε : Type} {first : Except ε α} {next : α → Except ε β} {result : β} :
    (first >>= next) = .ok result ↔ ∃ value, first = .ok value ∧ next value = .ok result := by
  cases first <;> simp [bind,Except.bind]

theorem except_ok_bind {ε : Type} {value : α} {next : α → Except ε β} :
    (Except.ok value >>= next) = next value := rfl

theorem except_ok_map_bind {ε : Type} {value : α} {change : α → β} {next : β → Except ε γ} :
    ((Except.ok value).map change >>= next) = next (change value) := rfl

/-- The same overflow, or related results. -/
inductive Coupled (related : α → β → Prop) : Except Overflow α → Except Overflow β → Prop
  | overflow (failure : Overflow) : Coupled related (.error failure) (.error failure)
  | done {left : α} {right : β} (agree : related left right) : Coupled related (.ok left) (.ok right)

namespace Coupled

variable {related : α → β → Prop} {first : Except Overflow α} {second : Except Overflow β}

theorem mono {weaker : α → β → Prop} (coupled : Coupled related first second)
    (weaken : ∀ left right, related left right → weaker left right) :
    Coupled weaker first second := by
  cases coupled with
  | overflow failure => exact .overflow failure
  | done agree => exact .done (weaken _ _ agree)

theorem bind {after : γ → δ → Prop} {next : α → Except Overflow γ} {next' : β → Except Overflow δ}
    (coupled : Coupled related first second)
    (goesOn : ∀ left right, related left right → Coupled after (next left) (next' right)) :
    Coupled after (first >>= next) (second >>= next') := by
  cases coupled with
  | overflow failure => exact .overflow failure
  | done agree => exact goesOn _ _ agree

theorem same_bind {computed : Except Overflow α} {after : γ → δ → Prop}
    {next : α → Except Overflow γ} {next' : α → Except Overflow δ}
    (goesOn : ∀ value, computed = .ok value → Coupled after (next value) (next' value)) :
    Coupled after (computed >>= next) (computed >>= next') := by
  cases computed with
  | error failure => exact .overflow failure
  | ok value => exact goesOn value rfl

theorem map_left {after : γ → β → Prop} {change : α → γ}
    (coupled : Coupled (fun left right => after (change left) right) first second) :
    Coupled after (first.map change) second := by
  cases coupled with
  | overflow failure => exact .overflow failure
  | done agree => exact .done agree

theorem bind_right {after : α → δ → Prop} {change : β → δ}
    (coupled : Coupled (fun left right => after left (change right)) first second) :
    Coupled after first (second >>= fun right => .ok (change right)) := by
  cases coupled with
  | overflow failure => exact .overflow failure
  | done agree => exact .done agree

theorem bind_left {after : γ → β → Prop} {change : α → γ}
    (coupled : Coupled (fun left right => after (change left) right) first second) :
    Coupled after (first >>= fun left => .ok (change left)) second := by
  cases coupled with
  | overflow failure => exact .overflow failure
  | done agree => exact .done agree

theorem both {stronger : α → β → Prop} (coupled : Coupled related first second)
    (gain : ∀ left right, first = .ok left → related left right → stronger left right) :
    Coupled stronger first second := by
  cases coupled with
  | overflow failure => exact .overflow failure
  | done agree => exact .done (gain _ _ rfl agree)

theorem of_ok {left : α} (coupled : Coupled related (.ok left) second) :
    ∃ right, second = .ok right ∧ related left right := by
  cases coupled with
  | done agree => exact ⟨_,rfl,agree⟩

theorem eq_map {read : β → α} (coupled : Coupled (fun left right => left = read right) first second) :
    first = second.map read := by
  cases coupled with
  | overflow failure => rfl
  | done agree => exact congrArg Except.ok agree

end Coupled

/-- If neither overflows, the results are related. -/
def Alike (related : α → β → Prop) (first : Except Overflow α) (second : Except Overflow β) : Prop :=
  ∀ left right, first = .ok left → second = .ok right → related left right

namespace Alike

variable {related : α → β → Prop} {first : Except Overflow α} {second : Except Overflow β}

theorem done {left : α} {right : β} (agree : related left right) :
    Alike related (.ok left) (.ok right) := by
  intro left right same same'
  cases same
  cases same'
  exact agree

theorem refl (computed : Except Overflow α) : Alike Eq computed computed := by
  intro left right same same'
  cases same.symm.trans same'
  rfl

theorem bind {after : γ → δ → Prop} {next : α → Except Overflow γ} {next' : β → Except Overflow δ}
    (alike : Alike related first second)
    (goesOn : ∀ left right, related left right → Alike after (next left) (next' right)) :
    Alike after (first >>= next) (second >>= next') := by
  intro left right reaches reaches'
  obtain ⟨value,done,later⟩ := except_bind_eq_ok.mp reaches
  obtain ⟨value',done',later'⟩ := except_bind_eq_ok.mp reaches'
  exact goesOn value value' (alike value value' done done') left right later later'

/-- What follows is the same function of equal results. -/
theorem map_eq {computed other : Except Overflow α} (alike : Alike Eq computed other) (f : α → γ) :
    Alike Eq (computed.map f) (other.map f) := by
  intro left right reaches reaches'
  obtain ⟨value,done,rfl⟩ := except_map_eq_ok.mp reaches
  obtain ⟨value',done',rfl⟩ := except_map_eq_ok.mp reaches'
  rw [alike value value' done done']

theorem bind_eq {computed other : Except Overflow α} (alike : Alike Eq computed other)
    (next : α → Except Overflow γ) : Alike Eq (computed >>= next) (other >>= next) := by
  refine alike.bind fun left right same => ?_
  rw [same]
  exact refl (next right)

end Alike

end ChannelAccess
