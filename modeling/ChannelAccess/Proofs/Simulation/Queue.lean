import ChannelAccess.Simulation.Queue

/-!
The event queue stays in order: entries come out by due time, and among those due together by
insertion, and every entry has a smaller number than the next one to come. Assessments that last
equally long also complete in the order in which they began.
-/

namespace ChannelAccess

namespace QueueEntry

theorem precedes_iff {a b : QueueEntry} :
    a.precedes b = true ↔ a.due < b.due ∨ a.due = b.due ∧ a.order < b.order := by
  simp [precedes]

theorem precedes_trans {a b c : QueueEntry} (first : a.precedes b = true)
    (second : b.precedes c = true) : a.precedes c = true := by
  rw [precedes_iff,Instant.lt_def] at first second ⊢
  rcases first with earlier | ⟨together,first⟩
  · rcases second with earlier' | ⟨together',_⟩
    · exact .inl (Int.lt_trans earlier earlier')
    · exact .inl (together' ▸ earlier)
  · rcases second with earlier' | ⟨together',second⟩
    · exact .inl (together ▸ earlier')
    · exact .inr ⟨together.trans together',Nat.lt_trans first second⟩

theorem precedes_total {a b : QueueEntry} (apart : a.order < b.order)
    (unordered : ¬ b.precedes a = true) : a.precedes b = true := by
  rw [precedes_iff,Instant.lt_def] at unordered ⊢
  rcases Int.lt_trichotomy a.due.us b.due.us with earlier | together | later
  · exact .inl earlier
  · exact .inr ⟨Instant.us_inj.mp together,apart⟩
  · exact absurd (.inl later) unordered

theorem not_precedes_iff {a b : QueueEntry} :
    ¬ a.precedes b = true ↔ b.due.us ≤ a.due.us ∧ (a.due.us = b.due.us → b.order ≤ a.order) := by
  rw [precedes_iff,Instant.lt_def,← Instant.us_inj]
  omega

theorem precedes_asymm {a b : QueueEntry} (first : a.precedes b = true) :
    ¬ b.precedes a = true := by
  have unordered : ¬ a.precedes a = true → ¬ b.precedes a = true :=
    mt (precedes_trans first)
  exact unordered (not_precedes_iff.mpr (by omega))

end QueueEntry

namespace EventQueue

theorem mem_insert {entry other : QueueEntry} {entries : List QueueEntry} :
    other ∈ insert entry entries ↔ other = entry ∨ other ∈ entries := by
  induction entries with
  | nil => simp [insert]
  | cons head entries ih =>
    unfold insert
    split
    · exact List.mem_cons
    · rw [List.mem_cons,ih,List.mem_cons]
      exact or_left_comm

/-- An entry with the largest number so far is inserted in order. -/
theorem insert_sorted {entry : QueueEntry} {entries : List QueueEntry}
    (sorted : entries.Pairwise fun a b => a.precedes b = true)
    (fresh : ∀ other ∈ entries, other.order < entry.order) :
    (insert entry entries).Pairwise fun a b => a.precedes b = true := by
  induction entries with
  | nil => simp [insert]
  | cons head entries ih =>
    obtain ⟨leads,rest⟩ := List.pairwise_cons.mp sorted
    unfold insert
    split
    · rename_i precedes
      refine List.pairwise_cons.mpr ⟨?_,sorted⟩
      intro other member
      rcases List.mem_cons.mp member with rfl | member
      · exact precedes
      · exact QueueEntry.precedes_trans precedes (leads other member)
    · rename_i unordered
      have newer := fresh head List.mem_cons_self
      refine List.pairwise_cons.mpr ⟨?_,ih rest fun other member =>
        fresh other (List.mem_cons_of_mem _ member)⟩
      intro other member
      rcases mem_insert.mp member with rfl | member
      · exact QueueEntry.precedes_total newer unordered
      · exact leads other member

/-- The entries come out in order and are older than the next one to come. -/
structure Ordered (queue : EventQueue) : Prop where
  sorted : queue.entries.Pairwise fun a b => a.precedes b = true
  numbered : ∀ entry ∈ queue.entries, entry.order < queue.nextOrder

/-- What comes out of a queue once an event was pushed: what was in it before, and the event if there
was room. -/
theorem mem_push {queue : EventQueue} {due : Instant} {event : Event} {other : QueueEntry} :
    other ∈ (queue.push due event).2.entries ↔
      other ∈ queue.entries ∨ queue.size < capacity ∧ other = ⟨due,queue.nextOrder,event⟩ := by
  unfold push
  split
  · rename_i room
    simp only [mem_insert,room,true_and]
    exact or_comm
  · rename_i full
    simp [full]

theorem insert_perm (entry : QueueEntry) (entries : List QueueEntry) :
    (insert entry entries).Perm (entry :: entries) := by
  induction entries with
  | nil => exact .refl _
  | cons head entries ih =>
    unfold insert
    split
    · exact .refl _
    · exact (ih.cons head).trans (.swap entry head entries)

theorem push_perm {queue : EventQueue} (room : queue.size < capacity) (due : Instant)
    (event : Event) : (queue.push due event).2.entries.Perm
      (⟨due,queue.nextOrder,event⟩ :: queue.entries) := by
  rw [push,if_pos room]
  exact insert_perm _ _

theorem size_push_le (queue : EventQueue) (due : Instant) (event : Event) :
    (queue.push due event).2.size ≤ queue.size + 1 := by
  unfold push
  split
  · exact Nat.le_of_eq (insert_perm _ _).length_eq
  · exact Nat.le_succ _

theorem push_nextOrder (queue : EventQueue) (due : Instant) (event : Event) :
    (queue.push due event).2.nextOrder = queue.nextOrder + 1 := by
  unfold push
  split <;> rfl

theorem Ordered.push {queue : EventQueue} (ordered : queue.Ordered) (due : Instant) (event : Event) :
    (queue.push due event).2.Ordered where
  sorted := by
    unfold EventQueue.push
    split
    · exact insert_sorted ordered.sorted ordered.numbered
    · exact ordered.sorted
  numbered := by
    intro entry member
    rw [push_nextOrder]
    rcases mem_push.mp member with member | ⟨_,rfl⟩
    · exact Nat.lt_succ_of_lt (ordered.numbered entry member)
    · exact Nat.lt_succ_self _

theorem Ordered.tail {queue : EventQueue} {entry : QueueEntry} {rest : List QueueEntry}
    (ordered : queue.Ordered) (queued : queue.entries = entry :: rest) :
    { queue with entries := rest }.Ordered where
  sorted := by
    have sorted := ordered.sorted
    rw [queued] at sorted
    exact (List.pairwise_cons.mp sorted).2
  numbered := by
    intro other member
    exact ordered.numbered other (queued ▸ List.mem_cons_of_mem _ member)

def completions (queue : EventQueue) : List QueueEntry :=
  queue.entries.filter fun entry => entry.event = .assessmentDone

theorem mem_completions {queue : EventQueue} {entry : QueueEntry} :
    entry ∈ queue.completions ↔ entry ∈ queue.entries ∧ entry.event = .assessmentDone := by
  simp [completions]

theorem completions_tail {queue : EventQueue} {entry : QueueEntry} {rest : List QueueEntry}
    (queued : queue.entries = entry :: rest) (goesOn : entry.event ≠ .assessmentDone) :
    completions { queue with entries := rest } = queue.completions := by
  simp [completions,queued,goesOn]

theorem mem_completions_push_timer {queue : EventQueue} {due : Instant} {timer : Timer}
    {entry : QueueEntry} :
    entry ∈ (queue.push due (.timer timer)).2.completions ↔ entry ∈ queue.completions := by
  rw [mem_completions,mem_completions,mem_push]
  constructor
  · rintro ⟨member | ⟨_,rfl⟩,completes⟩
    · exact ⟨member,completes⟩
    · cases completes
  · rintro ⟨member,completes⟩
    exact ⟨.inl member,completes⟩

theorem mem_completions_push {queue : EventQueue} {due : Instant} {entry : QueueEntry} :
    entry ∈ (queue.push due .assessmentDone).2.completions ↔
      entry ∈ queue.completions ∨
        queue.size < capacity ∧ entry = ⟨due,queue.nextOrder,.assessmentDone⟩ := by
  rw [mem_completions,mem_completions,mem_push]
  constructor
  · rintro ⟨member | new,completes⟩
    · exact .inl ⟨member,completes⟩
    · exact .inr new
  · rintro (⟨member,completes⟩ | ⟨room,rfl⟩)
    · exact ⟨.inl member,completes⟩
    · exact ⟨.inr ⟨room,rfl⟩,rfl⟩

/-- The assessments that are queued at an instant began before it, one after the other, and take the
same time. -/
structure Timely (queue : EventQueue) (now : Instant) (span : Span) : Prop where
  ordered : queue.Ordered
  soon : ∀ entry ∈ queue.completions, entry.due.us ≤ now.us + span.us
  inTurn : ∀ entry ∈ queue.completions, ∀ other ∈ queue.completions,
    entry.order ≤ other.order → entry.due ≤ other.due

namespace Timely

variable {queue : EventQueue} {now later : Instant} {span : Span}

theorem wait (timely : queue.Timely now span) (goesOn : now ≤ later) : queue.Timely later span where
  ordered := timely.ordered
  soon := by
    intro entry member
    have soon := timely.soon entry member
    rw [Instant.le_def] at goesOn
    omega
  inTurn := timely.inTurn

theorem tail {entry : QueueEntry} {rest : List QueueEntry} (timely : queue.Timely now span)
    (queued : queue.entries = entry :: rest) : { queue with entries := rest }.Timely now span := by
  have kept : ∀ other ∈ EventQueue.completions { queue with entries := rest },
      other ∈ queue.completions := by
    intro other member
    obtain ⟨member,completes⟩ := mem_completions.mp member
    exact mem_completions.mpr ⟨queued ▸ List.mem_cons_of_mem _ member,completes⟩
  refine ⟨timely.ordered.tail queued,?_,?_⟩
  · intro other member
    exact timely.soon other (kept other member)
  · intro other member another member'
    exact timely.inTurn other (kept other member) another (kept another member')

theorem push_timer (timely : queue.Timely now span) (due : Instant) (timer : Timer) :
    (queue.push due (.timer timer)).2.Timely now span where
  ordered := timely.ordered.push due _
  soon := by
    intro entry member
    exact timely.soon entry (mem_completions_push_timer.mp member)
  inTurn := by
    intro entry member other member'
    exact timely.inTurn entry (mem_completions_push_timer.mp member) other
      (mem_completions_push_timer.mp member')

theorem push (timely : queue.Timely now span) {due : Instant} (lasts : now.us + span.us = due.us) :
    (queue.push due .assessmentDone).2.Timely now span where
  ordered := timely.ordered.push due _
  soon := by
    intro entry member
    rcases mem_completions_push.mp member with member | ⟨_,rfl⟩
    · exact timely.soon entry member
    · exact Int.le_of_eq lasts.symm
  inTurn := by
    intro entry member other member' order
    rcases mem_completions_push.mp member with member | ⟨_,rfl⟩
    · rcases mem_completions_push.mp member' with member' | ⟨_,rfl⟩
      · exact timely.inTurn entry member other member' order
      · exact Int.le_trans (timely.soon entry member) (Int.le_of_eq lasts)
    · rcases mem_completions_push.mp member' with member' | ⟨_,rfl⟩
      · have older := timely.ordered.numbered other (mem_completions.mp member').1
        exact absurd order (Nat.not_le_of_lt older)
      · exact Int.le_refl _

/-- The first entry is the oldest completion if it is one. -/
theorem oldest {entry other : QueueEntry} {rest : List QueueEntry} (timely : queue.Timely now span)
    (queued : queue.entries = entry :: rest) (completes : entry.event = .assessmentDone)
    (member : other ∈ queue.completions) : entry.order ≤ other.order := by
  have first : entry ∈ queue.completions :=
    mem_completions.mpr ⟨queued ▸ List.mem_cons_self,completes⟩
  have sorted := timely.ordered.sorted
  rw [queued] at sorted
  have present := (mem_completions.mp member).1
  rw [queued] at present
  rcases List.mem_cons.mp present with rfl | present
  · exact Nat.le_refl _
  · rcases QueueEntry.precedes_iff.mp ((List.pairwise_cons.mp sorted).1 other present) with
      earlier | ⟨_,order⟩
    · apply Nat.le_of_not_lt
      intro younger
      have late := timely.inTurn other member entry first (Nat.le_of_lt younger)
      rw [Instant.le_def] at late
      rw [Instant.lt_def] at earlier
      omega
    · exact Nat.le_of_lt order

end Timely

end EventQueue

end ChannelAccess
