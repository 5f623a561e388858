import ChannelAccess.Proofs.Simulation.Queue

/-!
The event queue and heaps. No two entries of a queue are alike in due time and number, so whatever
gives out an entry that no other comes out before gives out the same one, however it keeps them. Main
statement: `Heap.serves_alike`.
-/

namespace ChannelAccess

/-- A heap of entries, with what is known of it: nothing but that it gives out one that no other
precedes. -/
structure Heap (η : Type) where
  contents : η → List QueueEntry
  push : QueueEntry → η → η
  pop? : η → Option (QueueEntry × η)
  pushed (entry : QueueEntry) (heap : η) : (contents (push entry heap)).Perm (entry :: contents heap)
  empty (heap : η) : pop? heap = none → contents heap = []
  least (heap rest : η) (entry : QueueEntry) : pop? heap = some (entry,rest) →
    (contents heap).Perm (entry :: contents rest) ∧
      ∀ other ∈ contents rest, ¬ other.precedes entry = true

namespace EventQueue

theorem insert_in_order {entry : QueueEntry} {entries : List QueueEntry}
    (sorted : entries.Pairwise fun a b => ¬ b.precedes a = true) :
    (insert entry entries).Pairwise fun a b => ¬ b.precedes a = true := by
  induction entries with
  | nil => simp [insert]
  | cons head entries ih =>
    obtain ⟨leads,rest⟩ := List.pairwise_cons.mp sorted
    unfold insert
    split
    case isTrue first =>
      refine List.pairwise_cons.mpr ⟨?_,sorted⟩
      intro other member before
      rcases List.mem_cons.mp member with rfl | member
      · exact QueueEntry.precedes_asymm first before
      · exact leads other member (QueueEntry.precedes_trans before first)
    case isFalse later =>
      refine List.pairwise_cons.mpr ⟨?_,ih rest⟩
      intro other member
      rcases mem_insert.mp member with rfl | member
      · exact later
      · exact leads other member

end EventQueue

/-- Lists that are kept in order are a heap. -/
def Heap.inOrder :
    Heap { entries : List QueueEntry // entries.Pairwise fun a b => ¬ b.precedes a = true } where
  contents entries := entries.1
  push entry entries := ⟨EventQueue.insert entry entries.1,EventQueue.insert_in_order entries.2⟩
  pop? entries :=
    match entries with
    | ⟨[],_⟩ => none
    | ⟨entry :: rest,sorted⟩ => some (entry,⟨rest,(List.pairwise_cons.mp sorted).2⟩)
  pushed entry entries := EventQueue.insert_perm entry entries.1
  empty entries popped := by
    obtain ⟨_ | ⟨entry,rest⟩,sorted⟩ := entries
    · rfl
    · cases popped
  least entries rest entry popped := by
    obtain ⟨_ | ⟨first,others⟩,sorted⟩ := entries
    · cases popped
    · cases popped
      exact ⟨.refl _,(List.pairwise_cons.mp sorted).1⟩

inductive QueueCommand where
  | push (due : Instant) (event : Event)
  | pop

namespace EventQueue

variable {queue : EventQueue} {entry : QueueEntry}

/-- The entry that comes out is the least. -/
theorem pop_least {rest : EventQueue} (ordered : queue.Ordered)
    (popped : queue.pop? = some (entry,rest)) :
    entry ∈ queue.entries ∧ ∀ other ∈ queue.entries, other ≠ entry → entry.precedes other = true := by
  unfold pop? at popped
  split at popped
  case h_1 => cases popped
  case h_2 first others queued =>
    cases popped
    have sorted := ordered.sorted
    rw [queued] at sorted ⊢
    refine ⟨List.mem_cons_self,?_⟩
    intro other member apart
    rcases List.mem_cons.mp member with same | member
    · exact absurd same apart
    · exact (List.pairwise_cons.mp sorted).1 other member

/-- What comes out, command after command. -/
def serve (queue : EventQueue) : List QueueCommand → List (Option QueueEntry)
  | [] => []
  | .push due event :: commands => serve (queue.push due event).2 commands
  | .pop :: commands =>
    match queue.pop? with
    | none => none :: serve queue commands
    | some (entry,rest) => some entry :: serve rest commands

end EventQueue

namespace Heap

variable {η : Type} (heaps : Heap η)

/-- What comes out of a heap that takes no more than the queue, under the same numbers. -/
def serve (number : Nat) (heap : η) : List QueueCommand → List (Option QueueEntry)
  | [] => []
  | .push due event :: commands =>
    serve (number + 1)
      (if (heaps.contents heap).length < EventQueue.capacity then
        heaps.push ⟨due,number,event⟩ heap
      else heap) commands
  | .pop :: commands =>
    match heaps.pop? heap with
    | none => none :: serve number heap commands
    | some (entry,rest) => some entry :: serve number rest commands

variable {heaps} {queue : EventQueue} {heap : η}

theorem pops_alike (ordered : queue.Ordered) (same : (heaps.contents heap).Perm queue.entries) :
    (queue.pop? = none ∧ heaps.pop? heap = none) ∨
      ∃ entry rest rest', queue.pop? = some (entry,rest) ∧ heaps.pop? heap = some (entry,rest') ∧
        rest.Ordered ∧ rest.nextOrder = queue.nextOrder ∧
        (heaps.contents rest').Perm rest.entries := by
  cases popped : heaps.pop? heap with
  | none =>
    have none_left := heaps.empty heap popped
    rw [none_left] at same
    have drained : queue.entries = [] := same.nil_eq.symm
    exact .inl ⟨by simp [EventQueue.pop?,drained],rfl⟩
  | some out =>
    obtain ⟨entry,rest'⟩ := out
    obtain ⟨taken,least⟩ := heaps.least heap rest' entry popped
    have member : entry ∈ queue.entries := (taken.symm.trans same).mem_iff.mp List.mem_cons_self
    cases queued : queue.entries with
    | nil => simp [queued] at member
    | cons first others =>
      have first_out : queue.pop? = some (first,{ queue with entries := others }) := by
        simp [EventQueue.pop?,queued]
      -- The two entries are each not preceded by the other, and the queue's precedes all others.
      have alike : entry = first := by
        apply Decidable.of_not_not
        intro apart
        have leads := (EventQueue.pop_least ordered first_out).2 entry member apart
        have among : first ∈ heaps.contents rest' := by
          have present : first ∈ entry :: heaps.contents rest' :=
            (taken.symm.trans same).mem_iff.mpr (queued ▸ List.mem_cons_self)
          exact (List.mem_cons.mp present).resolve_left fun equal => apart equal.symm
        exact least first among leads
      subst alike
      have left : (heaps.contents rest').Perm others := by
        have swapped := taken.symm.trans same
        rw [queued] at swapped
        exact swapped.cons_inv
      exact .inr ⟨entry,_,rest',first_out,rfl,ordered.tail queued,rfl,left⟩

/-- A heap and the queue give out the same entries under any commands. -/
theorem serves_alike (commands : List QueueCommand) (ordered : queue.Ordered)
    (same : (heaps.contents heap).Perm queue.entries) :
    heaps.serve queue.nextOrder heap commands = queue.serve commands := by
  induction commands generalizing queue heap with
  | nil => rfl
  | cons command commands ih =>
    cases command with
    | push due event =>
      have size : (heaps.contents heap).length = queue.size := same.length_eq
      rw [serve,EventQueue.serve,size,← EventQueue.push_nextOrder queue due event]
      apply ih (ordered.push due event)
      by_cases room : queue.size < EventQueue.capacity
      · rw [if_pos room]
        exact ((heaps.pushed _ heap).trans (same.cons _)).trans
          (EventQueue.push_perm room due event).symm
      · rw [if_neg room,EventQueue.push,if_neg room]
        exact same
    | pop =>
      rw [serve,EventQueue.serve]
      rcases pops_alike ordered same with ⟨none_out,none_out'⟩ |
        ⟨entry,rest,rest',out,out',ordered',number,same'⟩
      · rw [none_out,none_out']
        exact congrArg (none :: ·) (ih ordered same)
      · rw [out,out']
        dsimp only
        rw [← number,ih ordered' same']

end Heap

end ChannelAccess
