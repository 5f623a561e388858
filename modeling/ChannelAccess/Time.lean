import ChannelAccess.Overflow

/-!
Points in time and spans between them, in whole microseconds since an arbitrary epoch. A span may
be negative. Sums and differences are exact or they overflow.
-/

namespace ChannelAccess

structure Instant where
  us : Int
  deriving DecidableEq, Repr, Inhabited, Ord

structure Span where
  us : Int
  deriving DecidableEq, Repr, Inhabited, Ord

namespace Instant

def zero : Instant := ⟨0⟩

instance : LE Instant := ⟨fun a b => a.us ≤ b.us⟩
instance : LT Instant := ⟨fun a b => a.us < b.us⟩
instance (a b : Instant) : Decidable (a ≤ b) := inferInstanceAs (Decidable (a.us ≤ b.us))
instance (a b : Instant) : Decidable (a < b) := inferInstanceAs (Decidable (a.us < b.us))

theorem le_def {a b : Instant} : a ≤ b ↔ a.us ≤ b.us := Iff.rfl

theorem lt_def {a b : Instant} : a < b ↔ a.us < b.us := Iff.rfl

theorem us_inj {a b : Instant} : a.us = b.us ↔ a = b := ⟨congrArg mk, congrArg us⟩

/-- The later of two instants. -/
def later (a b : Instant) : Instant := if a ≤ b then b else a

/-- The earlier of two instants. -/
def earlier (a b : Instant) : Instant := if a ≤ b then a else b

/-- Time from `start` until `t`, negative when `start` lies in the future. -/
def since (t start : Instant) : Except Overflow Span :=
  (clockValue .subtraction (t.us - start.us)).map Span.mk

def plus (t : Instant) (d : Span) : Except Overflow Instant :=
  (clockValue .addition (t.us + d.us)).map Instant.mk

def minus (t : Instant) (d : Span) : Except Overflow Instant :=
  (clockValue .subtraction (t.us - d.us)).map Instant.mk

theorem since_eq_ok {t start : Instant} {d : Span} :
    t.since start = .ok d ↔ InClockRange (t.us - start.us) ∧ t.us - start.us = d.us := by
  obtain ⟨d⟩ := d
  unfold since clockValue
  split <;> simp_all [Except.map]

theorem plus_eq_ok {t u : Instant} {d : Span} :
    t.plus d = .ok u ↔ InClockRange (t.us + d.us) ∧ t.us + d.us = u.us := by
  obtain ⟨u⟩ := u
  unfold plus clockValue
  split <;> simp_all [Except.map]

end Instant

namespace Span

def zero : Span := ⟨0⟩

instance : LE Span := ⟨fun a b => a.us ≤ b.us⟩
instance : LT Span := ⟨fun a b => a.us < b.us⟩
instance (a b : Span) : Decidable (a ≤ b) := inferInstanceAs (Decidable (a.us ≤ b.us))
instance (a b : Span) : Decidable (a < b) := inferInstanceAs (Decidable (a.us < b.us))

theorem le_def {a b : Span} : a ≤ b ↔ a.us ≤ b.us := Iff.rfl

theorem lt_def {a b : Span} : a < b ↔ a.us < b.us := Iff.rfl

def isZero (d : Span) : Bool := d.us == 0

def isNegative (d : Span) : Bool := d.us < 0

/-- Negative spans collapse to zero. -/
def clampNonNegative (d : Span) : Span := if d.isNegative then zero else d

def plus (a b : Span) : Except Overflow Span :=
  (clockValue .addition (a.us + b.us)).map Span.mk

def minus (a b : Span) : Except Overflow Span :=
  (clockValue .subtraction (a.us - b.us)).map Span.mk

theorem clampNonNegative_us (d : Span) : d.clampNonNegative.us = max d.us 0 := by
  by_cases negative : d.us < 0
  · simp only [clampNonNegative, isNegative, negative, decide_true, if_true, zero]
    omega
  · simp only [clampNonNegative, isNegative, negative, decide_false, Bool.false_eq_true, if_false]
    omega

theorem minus_eq_ok {a b d : Span} :
    a.minus b = .ok d ↔ InClockRange (a.us - b.us) ∧ a.us - b.us = d.us := by
  obtain ⟨d⟩ := d
  unfold minus clockValue
  split <;> simp_all [Except.map]

end Span

end ChannelAccess
