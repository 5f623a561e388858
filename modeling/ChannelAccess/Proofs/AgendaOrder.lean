import ChannelAccess.Agenda

/-!
What the agenda gives out next. It looks for the entry that precedes all others, wherever that stands,
and the last entry takes its place, so the entries stay the same but for their order. Main statements:
`Agenda.pop?_eq_some`, `Agenda.pop?_eq_none`.
-/

namespace ChannelAccess

namespace AgendaEntry

theorem precedes_iff {a b : AgendaEntry} :
    a.precedes b = true ↔
      a.due.us < b.due.us ∨ a.due.us = b.due.us ∧ a.order.toNat < b.order.toNat := by
  simp [precedes,Instant.lt_def,Instant.us_inj,UInt32.lt_iff_toNat_lt]

theorem precedes_asymm {a b : AgendaEntry} (first : a.precedes b = true) :
    ¬ b.precedes a = true := by
  rw [precedes_iff] at first ⊢
  omega

/-- What precedes an entry precedes all that do not. -/
theorem precedes_of_not {a b c : AgendaEntry} (first : a.precedes b = true)
    (unordered : ¬ c.precedes b = true) : a.precedes c = true := by
  rw [precedes_iff] at first unordered ⊢
  omega

end AgendaEntry

namespace Agenda

variable {agenda later : Agenda} {entries : List AgendaEntry} {entry : AgendaEntry}
  {position : Nat}

theorem first_eq_none : first entries = none ↔ entries = [] := by
  cases entries with
  | nil => simp [first]
  | cons entry entries =>
    rw [first]
    split
    · simp
    · split <;> simp

theorem first_eq_some (chosen : first entries = some (position,entry)) :
    entries[position]? = some entry ∧ ∀ other ∈ entries, ¬ other.precedes entry = true := by
  induction entries generalizing position entry with
  | nil => cases chosen
  | cons head entries ih =>
    rw [first] at chosen
    have alone : ¬ head.precedes head = true := fun before => AgendaEntry.precedes_asymm before before
    cases others : first entries with
    | none =>
      rw [others] at chosen
      cases chosen
      simp [first_eq_none.mp others,alone]
    | some found =>
      obtain ⟨place,best⟩ := found
      obtain ⟨at_place,leads⟩ := ih others
      simp only [others] at chosen
      by_cases before : best.precedes head = true
      · rw [if_pos before] at chosen
        cases chosen
        refine ⟨by simpa using at_place,fun other member => ?_⟩
        rcases List.mem_cons.mp member with rfl | member
        · exact AgendaEntry.precedes_asymm before
        · exact leads other member
      · rw [if_neg before] at chosen
        cases chosen
        refine ⟨rfl,fun other member sooner => ?_⟩
        rcases List.mem_cons.mp member with rfl | member
        · exact alone sooner
        · exact leads other member (AgendaEntry.precedes_of_not sooner before)

theorem removeAt_last (front : List AgendaEntry) (last : AgendaEntry) :
    removeAt (front ++ [last]) front.length = front := by
  simp [removeAt]

theorem removeAt_inner (front middle : List AgendaEntry) (entry last : AgendaEntry) :
    removeAt (front ++ entry :: (middle ++ [last])) front.length = front ++ last :: middle := by
  have moved : (front ++ entry :: (middle ++ [last])).set front.length last =
      front ++ last :: middle ++ [last] := by simp
  have final : (front ++ entry :: (middle ++ [last])).getLast? = some last := by
    simp [List.getLast?_append,List.getLast?_cons]
  simp only [removeAt,final]
  rw [moved,List.dropLast_concat]

/-- Only the order of the other entries changes. -/
theorem removeAt_perm (at_position : entries[position]? = some entry) :
    entries.Perm (entry :: removeAt entries position) := by
  obtain ⟨front,back,rfl,rfl⟩ : ∃ front back, entries = front ++ entry :: back ∧
      front.length = position := by
    obtain ⟨inside,rfl⟩ := List.getElem?_eq_some_iff.mp at_position
    exact ⟨entries.take position,entries.drop (position + 1),by simp,by simp; omega⟩
  rcases List.eq_nil_or_concat back with rfl | ⟨middle,last,rfl⟩
  · rw [removeAt_last]
    exact List.perm_append_singleton entry front
  · rw [List.concat_eq_append,removeAt_inner]
    have moved := (List.perm_append_singleton last middle).append_left front
    exact List.perm_middle.trans (moved.cons entry)

theorem pop?_eq_none : agenda.pop? = none ↔ agenda.entries = [] := by
  rw [← first_eq_none,pop?]
  split <;> simp_all

/-- The entry that comes out is one of those that were in, with all others left, and none of them
precedes it. -/
theorem pop?_eq_some (popped : agenda.pop? = some (entry,later)) :
    agenda.entries.Perm (entry :: later.entries) ∧
      (∀ other ∈ later.entries, ¬ other.precedes entry = true) ∧
      later = { agenda with entries := later.entries } := by
  rw [pop?] at popped
  split at popped
  · cases popped
  · rename_i position best chosen
    cases popped
    obtain ⟨at_position,leads⟩ := first_eq_some chosen
    have same := removeAt_perm at_position
    refine ⟨same,fun other member => ?_,rfl⟩
    exact leads other (same.mem_iff.mpr (List.mem_cons_of_mem _ member))

end Agenda

end ChannelAccess
